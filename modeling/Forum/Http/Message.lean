import Forum.Fault
import Forum.Json
import Forum.Text.Scan
import Forum.Text.Utf8

/-!
# Messages

Requests, with their targets and the types of their bodies, and responses.
-/

/-! ## Request targets

The target of a request: usually a path with an optional query, but also a full address, of which
only the path and the query matter, a star, or a bare host. A fragment is dropped. The path is
kept as it was written, before any decoding. -/

namespace Forum.Http

/-- What of a target matters for finding and reading a resource. -/
structure Target where
  /-- The path as it was written. -/
  path : List Char
  /-- The query as it was written, if there is one. -/
  query : Option (List Char)
  deriving DecidableEq, Repr

namespace Target

/-- The greatest length of a target in bytes. -/
def maxLength : Nat := 65534

/-- Whether a character may stand in a path. -/
def inPath (c : Char) : Bool :=
  let n := c.toNat
  n = 0x21 || n = 0x22 || (0x24 ≤ n && n ≤ 0x3B) || n = 0x3D || (0x40 ≤ n && n ≤ 0x5F) || 0x61 ≤ n

/-- Whether a character may stand in a query. -/
def inQuery (c : Char) : Bool :=
  let n := c.toNat
  n = 0x21 || (0x24 ≤ n && n ≤ 0x3B) || n = 0x3D || 0x3F ≤ n

/-- Whether a character may stand in the name of a scheme. -/
def inScheme (c : Char) : Bool :=
  c.isAlphanum || c = '+' || c = '-' || c = '.' || c = '~'

/-- Whether a character may stand in a host and what belongs to it. -/
def inAuthority (c : Char) : Bool :=
  c.isAlphanum || "!$&'()*+,-.:;=@[]_~%".contains c

/-- Reads a path with an optional query. An empty path is the root. -/
def ofPathAndQuery? (cs : List Char) : Option Target :=
  let cs := cs.takeWhile (· ≠ '#')
  let path := cs.takeWhile (· ≠ '?')
  let query := (cs.dropWhile (· ≠ '?')).tail?
  if path.all inPath && (query.getD []).all inQuery then
    some ⟨if path.isEmpty then ['/'] else path, query⟩
  else none

/-- What has been seen of a host so far. -/
structure HostScan where
  /-- The number of colons. -/
  colons : Nat := 0
  /-- Whether a bracket has been opened. -/
  opened : Bool := false
  /-- Whether it has been closed. -/
  closed : Bool := false
  /-- Whether there is a percent sign. -/
  percent : Bool := false
  /-- Whether the last character is the sign that ends the user's name. -/
  endsUser : Bool := false

/-- Goes on by one character. What stood before the end of the user's name, or inside brackets,
does not count. -/
def HostScan.step? (s : HostScan) (c : Char) : Option HostScan :=
  let s := { s with endsUser := c = '@' }
  if !inAuthority c then none
  else if c = ':' then if 8 ≤ s.colons then none else some { s with colons := s.colons + 1 }
  else if c = '[' then if s.percent || s.opened then none else some { s with opened := true }
  else if c = ']' then
    if !s.opened || s.closed then none
    else some { s with closed := true, colons := 0, percent := false }
  else if c = '@' then some { s with colons := 0, percent := false }
  else if c = '%' then some { s with percent := true }
  else some s

/-- Whether the characters scanned make up a host. -/
def HostScan.isHost (s : HostScan) : Bool :=
  s.opened = s.closed && s.colons ≤ 1 && !s.endsUser && !s.percent

/-- Splits off the host at the front of a text, which ends before a slash, a question mark or a
number sign. The host may be empty. -/
def host? (cs : List Char) : Option (List Char × List Char) :=
  let ends (c : Char) : Bool := c = '/' || c = '?' || c = '#'
  let host := cs.takeWhile (!ends ·)
  match host.foldlM HostScan.step? {} with
  | some scan => if scan.isHost then some (host, cs.dropWhile (!ends ·)) else none
  | none => none

/-- Splits off a scheme with the colon and the two slashes after it, if there is one. -/
def scheme? (cs : List Char) : Option (List Char × List Char) :=
  match cs.dropWhile inScheme with
  | ':' :: '/' :: '/' :: rest => some (cs.takeWhile inScheme, rest)
  | _ => none

/-- Reads a target with a scheme, or a bare host. -/
def ofAddress? (cs : List Char) : Option Target :=
  match scheme? cs with
  | some (scheme, rest) =>
    if 64 < scheme.length then none
    else match host? rest with
      | some (host, rest) => if host.isEmpty then none else ofPathAndQuery? rest
      | none => none
  | none =>
    match host? cs with
    | some (_, rest) => if rest.isEmpty then some ⟨[], none⟩ else none
    | none => none

/-- Reads a target. -/
def parse? (text : String) : Option Target :=
  if maxLength < text.utf8ByteSize then none
  else match text.toList with
    | [] => none
    | ['*'] => some ⟨['*'], none⟩
    | '/' :: rest => ofPathAndQuery? ('/' :: rest)
    | cs => ofAddress? cs

/-- The segments of the path after its leading slash; none if there is no leading slash. -/
def segments? (t : Target) : Option (List (List Char)) :=
  match t.path with
  | '/' :: rest => some (Split.parts '/' rest)
  | _ => none

end Target

end Forum.Http

/-! ## Media types

Whether the type of a request body is JSON: `application/json`, or a type of `application` with
the suffix `+json`, in any mixture of capitals. Parameters may follow; they have to be well-formed
and are ignored. -/

namespace Forum.Http.MediaType

/-- Whether a character may stand in a name. -/
def isToken (c : Char) : Bool :=
  c.isAlphanum || "!#$%&'*+-.^_`|~".toList.contains c

/-- Whether a character may stand inside a quoted value. -/
def isQuotable (c : Char) : Bool :=
  31 < c.toNat && c.toNat < 127

/-- What is being read of the parameters. -/
inductive Place where
  /-- The start of a parameter, where spaces may stand. -/
  | start
  /-- A name that has begun. -/
  | name
  /-- The start of a value. -/
  | value
  /-- A value that has begun. -/
  | inValue
  /-- The start of a quoted value. -/
  | quoted
  /-- A quoted value that has begun. -/
  | inQuoted
  /-- After a quoted value. -/
  | afterQuoted
  deriving DecidableEq, Repr

/-- Goes on by one character. -/
def Place.step? (p : Place) (c : Char) : Option Place :=
  match p with
  | .start => if c = ' ' then some .start else if isToken c then some .name else none
  | .name => if c = '=' then some .value else if isToken c then some .name else none
  | .value => if c = '"' then some .quoted else if isToken c then some .inValue else none
  | .inValue => if c = ';' then some .start else if isToken c then some .inValue else none
  | .quoted => if isQuotable c then some .inQuoted else none
  | .inQuoted =>
    if c = '"' then some .afterQuoted else if isQuotable c then some .inQuoted else none
  | .afterQuoted =>
    if c = ';' then some .start else if c = ' ' then some .afterQuoted else none

/-- Whether the text may end here. -/
def Place.mayEnd : Place → Bool
  | .start | .value | .inValue | .afterQuoted => true
  | _ => false

/-- Whether a text is a list of parameters. -/
def areParameters (cs : List Char) : Bool :=
  (cs.foldlM Place.step? .start).any Place.mayEnd

/-- A subtype split at its last plus sign, which may not be its first character. -/
def splitSuffix (subtype : List Char) : List Char × Option (List Char) :=
  let suffix := (subtype.reverse.takeWhile (· ≠ '+')).reverse
  let base := subtype.take (subtype.length - suffix.length - 1)
  if base.isEmpty then (subtype, none) else (base, some suffix)

/-- Whether a subtype is JSON, or ends in the suffix for it. -/
def isJsonSubtype (subtype : List Char) : Bool :=
  let json := ['j', 's', 'o', 'n']
  let (base, suffix) := splitSuffix (subtype.map Char.toLower)
  base = json || suffix = some json

/-- Whether a text names a JSON type. -/
def isJson (text : String) : Bool :=
  let cs := text.toList
  let type := cs.takeWhile isToken
  match cs.dropWhile isToken with
  | '/' :: rest =>
    let subtype := rest.takeWhile isToken
    let parametersOk := match rest.dropWhile isToken with
      | [] => true
      | ';' :: parameters => areParameters parameters
      | _ => false
    (type.map Char.toLower = "application".toList) && isJsonSubtype subtype && parametersOk
  | _ => false

end Forum.Http.MediaType

/-! ## Requests and responses

What comes in and what goes out. Names of header fields are kept in lower case, and the body of a
request may be any bytes. A response has no body, a JSON value, or a short text. -/

namespace Forum.Http

/-- What is to be done with a resource. -/
inductive Method where
  | get
  | head
  | post
  | delete
  | options
  /-- Any other method. -/
  | other (name : String)
  deriving DecidableEq, Repr

/-- The method with a name. -/
def Method.ofName (name : String) : Method :=
  if name = "GET" then .get
  else if name = "HEAD" then .head
  else if name = "POST" then .post
  else if name = "DELETE" then .delete
  else if name = "OPTIONS" then .options
  else .other name

/-- A header field: its name in lower case, and its value. -/
abbrev Header := String × String

/-- A request. -/
structure Request where
  /-- The method. -/
  method : Method
  /-- The target. -/
  target : Target
  /-- The header fields, in order. -/
  headers : List Header
  /-- The bytes of the body. -/
  body : List UInt8
  deriving DecidableEq, Repr

/-- The first value of a header field. -/
def Request.header? (r : Request) (name : String) : Option String :=
  (r.headers.find? (·.1 = name)).map (·.2)

/-- Whether a text may be the name of a method or of a header field. -/
def isName (name : String) : Bool :=
  !name.isEmpty && name.toList.all MediaType.isToken

/-- Whether a text may be the value of a header field: no control characters but the tab. -/
def isHeaderValue (value : String) : Bool :=
  value.toList.all fun c => c = '\t' || (32 ≤ c.toNat && c.toNat ≠ 127)

/-- The request with the given parts, if they are well-formed, and with the bytes of a text as its
body. -/
def Request.of? (method target : String) (headers : List Header) (body : String) :
    Option Request :=
  if isName method && headers.all fun (name, value) => isName name && isHeaderValue value then
    (Target.parse? target).map fun target =>
      ⟨.ofName method, target, headers.map fun (name, value) => (name.toLower, value),
        Utf8.encode body⟩
  else none

/-- What the text of a refusal goes on with. -/
inductive Detail where
  /-- Words that are always the same. -/
  | fixed (words : String)
  /-- The report on a body that was to have some fields. -/
  | body (fields : List String) (bytes : List UInt8)
  /-- The report on a segment of the path that was to be a number. -/
  | segment (segment : List Char)
  /-- The report on a query. -/
  | query (query : List Char)
  deriving DecidableEq, Repr

/-- The text of a response. Some texts go on with the report of a library on what it was given. The
wording is the library's own, so that of a report only what it is about is kept. -/
structure Notice where
  /-- The text up to its first colon. -/
  headline : String
  /-- What follows the colon, if there is one. -/
  detail : Option Detail
  deriving DecidableEq, Repr

/-- A notice is known by what it begins with. -/
instance Notice.coeHeadline : Coe Notice String := ⟨Notice.headline⟩

/-- The body of a response. -/
inductive Body where
  | empty
  | json (value : Json)
  | text (notice : Notice)
  deriving Repr

/-- A response. -/
structure Response where
  /-- The status. -/
  status : Nat
  /-- The header fields; each name occurs once. -/
  headers : List Header
  /-- The body. -/
  body : Body
  deriving Repr

namespace Response

/-- A response without a body. -/
def empty (status : Nat) : Response :=
  ⟨status, [], .empty⟩

/-- A response with a JSON body. -/
def json (status : Nat) (value : Json) : Response :=
  ⟨status, [("content-type", "application/json")], .json value⟩

/-- A response with a text body. -/
def text (status : Nat) (headline : String) (detail : Option Detail) : Response :=
  ⟨status, [("content-type", "text/plain; charset=utf-8")], .text ⟨headline, detail⟩⟩

@[simp] theorem status_text (status : Nat) (headline : String) (detail : Option Detail) :
    (text status headline detail).status = status := rfl

/-- The response that carries a result. -/
def data (value : Json) : Response :=
  json 200 (.object [("data", value)])

/-- The response that reports a fault. If the fault may pass, the caller is told to try again after
a second. -/
def ofFault (f : Fault) : Response :=
  let r := json f.status (.object
    [("error", .object [("code", .string f.code), ("message", .string f.message)])])
  if f.isRetryable then { r with headers := r.headers ++ [("retry-after", "1")] } else r

/-- The response without its body. -/
def withoutBody (r : Response) : Response :=
  { r with body := .empty }

end Response

end Forum.Http
