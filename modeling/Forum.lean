import Forum.Database.Local
import Forum.Database.Migration
import Forum.Database.Sql
import Forum.Main
import Forum.Proofs.Engagement.Places
import Forum.Proofs.Engagement.Uninterrupted
import Forum.Proofs.Http.Authorization
import Forum.Proofs.Http.HotListing
import Forum.Proofs.Http.Lifetime
import Forum.Proofs.Http.Secrecy
import Forum.Proofs.Http.Submission
import Forum.Proofs.Identifier.Dense
import Forum.Proofs.Identifier.Instants
import Forum.Proofs.Posts.Overtaken
import Forum.Proofs.Redis.Agreement
import Forum.Proofs.Redis.AllOrNothing
import Forum.Proofs.Redis.Members
import Forum.Proofs.Redis.Separation
import Forum.Proofs.Redis.Window
import Forum.Proofs.Service.RequestedOrder
import Forum.Proofs.Service.UniqueNames
import Forum.Proofs.Settings.Masking
import Forum.Proofs.Voting.AnyOrder
import Forum.Proofs.Voting.Interleaved
import Forum.Proofs.Voting.Retries
import Forum.World.Disruption
