import Forum.Startup
import Std.Time.DateTime.Timestamp

/-!
# The program

Starts the server with the variables of the process, the files of the working directory and the
system's clock. A failure is printed on standard error and gives the exit code 1.
-/

namespace Forum

/-- The text of a file, if there is one that can be read. -/
def readText? (path : String) : IO (Option String) := do
  try
    return some (← IO.FS.readFile path)
  catch _ =>
    return none

/-- The files with the given paths, as far as they exist. -/
def readFiles (paths : List String) : IO Settings.Files :=
  paths.filterMapM fun path => return (← readText? path).map (path, ·)

/-- The variables of the process. -/
def processEnvironment : IO Settings.Environment :=
  return Settings.Environment.ofBlock ((← readText? "/proc/self/environ").getD "")

/-- The time in milliseconds since the start of 1970. -/
def systemTime : IO Int :=
  return (← Std.Time.Timestamp.now).toMillisecondsSinceUnixEpoch.val

end Forum

open Forum in
/-- Starts the server up to the point where it reaches the database. -/
def main : IO UInt32 := do
  let env ← processEnvironment
  let envFile ← readFiles [Settings.envFileName]
  let files ← readFiles (Settings.fileNames (Settings.fullEnvironment env envFile))
  match start env (envFile ++ files) (.ticking (← systemTime)) with
  | .ok _ => return 0
  | .error failure =>
    IO.eprintln s!"Error: {failure.text}"
    return 1
