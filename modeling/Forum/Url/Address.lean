import Forum.Text.Scan
import Forum.Text.Utf8

/-!
# URLs

Whether a text is a URL, of which scheme, and with which kind of host.
-/

/-! ## Hosts

Which texts name a host in a URL: addresses of version 4 and 6, and names. A name in a URL of the
web may be percent-encoded, and if its last label is a number it has to be an address of version 4.
Names in other URLs are looked at less closely. -/

namespace Forum.Url

-- Powers of numbers are the built-in ones, whatever else is in scope.
attribute [local instance (high)] instPowNat

/-- Whether a text is a group of an address of version 6. -/
def isGroup (cs : List Char) : Bool :=
  !cs.isEmpty && cs.length ≤ 4 && (Numeral.inBase? 16 cs).isSome

/-- Whether a text is a number of eight bits without leading zeros. -/
def isOctet (cs : List Char) : Bool :=
  ((Numeral.natural? cs).any (· ≤ 255)) && (cs.length = 1 || cs.head? ≠ some '0')

/-- Whether a text is four numbers of eight bits with points between them. -/
def isDotted (cs : List Char) : Bool :=
  let parts := Split.parts '.' cs
  parts.length = 4 && parts.all isOctet

/-- The number of groups that colons separate. The last two may be written as a dotted address if
that is allowed. -/
def countGroups? (dotted : Bool) : List (List Char) → Option Nat
  | [] => some 0
  | [last] => if isGroup last then some 1 else if dotted && isDotted last then some 2 else none
  | group :: rest => if isGroup group then (countGroups? dotted rest).map (· + 1) else none

/-- Splits a text at its first pair of colons. -/
def splitGap : List Char → Option (List Char × List Char)
  | ':' :: ':' :: rest => some ([], rest)
  | c :: rest => (splitGap rest).map fun (before, after) => (c :: before, after)
  | [] => none

/-- The groups in a text; an empty text has none. -/
def groups (cs : List Char) : List (List Char) :=
  if cs.isEmpty then [] else Split.parts ':' cs

/-- Whether a text is an address of version 6: eight groups, or fewer with a pair of colons for at
least one that is left out. -/
def isVersion6 (cs : List Char) : Bool :=
  match splitGap cs with
  | none => countGroups? true (groups cs) = some 8
  | some (before, after) =>
    match countGroups? false (groups before), countGroups? true (groups after) with
    | some m, some n => m + n ≤ 7
    | _, _ => false

/-- The number that a label of an address of version 4 writes, in the base that its first digits
announce. -/
def label? : List Char → Option Nat
  | [] => none
  | '0' :: c :: rest =>
    if c = 'x' || c = 'X' then Numeral.inBase? 16 rest else Numeral.inBase? 8 (c :: rest)
  | cs => Numeral.inBase? 10 cs

/-- Whether the last of the labels of a name is a number. A point at the very end does not
count. -/
def endsInNumber (labels : List (List Char)) : Bool :=
  match labels.reverse with
  | [] :: last :: _ | last :: _ => (Numeral.natural? last).isSome || (label? last).isSome
  | [] => false

/-- Whether labels make up an address of version 4. The last one stands for all the bytes that are
left. -/
def isVersion4 (labels : List (List Char)) : Bool :=
  match (if labels.getLast? = some [] then labels.dropLast else labels).mapM label? with
  | none => false
  | some ns =>
    ns.length ≤ 4 && ns.dropLast.all (· ≤ 255) && ns.getLastD 0 < 256 ^ (5 - ns.length)

/-- The characters that no name of a host contains. -/
def forbidden : List Char :=
  ['\x00', '\t', '\n', '\r', ' ', '#', '/', ':', '<', '>', '?', '@', '[', '\\', ']', '^', '|']

/-- Whether a text in brackets is an address of version 6. The opening bracket has been taken
off. -/
def isBracketed (cs : List Char) : Bool :=
  cs.getLast? = some ']' && isVersion6 cs.dropLast

/-- Whether a text names a host of the web. -/
def isWebHost : List Char → Bool
  | '[' :: rest => isBracketed rest
  | cs =>
    match Http.decodePathPart? cs with
    | none => false
    | some name =>
      let labels := Split.parts '.' name
      !name.isEmpty
        && name.all (fun c => 0x20 ≤ c.toNat && c.toNat ≠ 0x7F && c ≠ '%' && c ∉ forbidden)
        && (!endsInNumber labels || isVersion4 labels)

/-- Whether a text names a host of another kind, or none. -/
def isPlainHost : List Char → Bool
  | '[' :: rest => isBracketed rest
  | cs => cs.all (· ∉ forbidden)

end Forum.Url

/-! ## Addresses

Whether a text is a URL, and of which scheme. Blanks and controls around it do not count, nor do
tabs and line ends anywhere. The schemes of the web and those of files have rules of their own for
what follows the colon; under any other scheme two slashes begin a host, and anything else is a
path that may be of any form. -/

namespace Forum.Url

-- Powers of numbers are the built-in ones, whatever else is in scope.
attribute [local instance (high)] instPowNat

/-- The kinds of schemes. -/
inductive Kind where
  /-- Files. -/
  | file
  /-- The schemes of the web, which always have a host. -/
  | web
  /-- Any other scheme. -/
  | other
  deriving DecidableEq, Repr

/-- The kind of a scheme. -/
def Kind.ofScheme (scheme : String) : Kind :=
  if scheme = "file" then .file
  else if scheme ∈ ["http", "https", "ws", "wss", "ftp"] then .web
  else .other

/-- Whether a character is a slash. Backslashes count in all but the other schemes. -/
def Kind.isSlash (kind : Kind) (c : Char) : Bool :=
  c = '/' || (kind ≠ .other && c = '\\')

/-- Whether a character ends what comes before the path. -/
def Kind.isEnd (kind : Kind) (c : Char) : Bool :=
  kind.isSlash c || c = '?' || c = '#'

/-- Splits the port from a host, at the first colon that is not in brackets. The flag says whether
a bracket is open. -/
def splitPort : Bool → List Char → List Char × Option (List Char)
  | _, [] => ([], none)
  | opened, c :: rest =>
    if c = ':' && !opened then ([], some rest)
    else
      let (host, port) := splitPort (c = '[' || (opened && c ≠ ']')) rest
      (c :: host, port)

/-- Whether a text is a port: a number of 16 bits, or nothing. -/
def isPort (cs : List Char) : Bool :=
  cs.isEmpty || (Numeral.natural? cs).any (· < 2 ^ (16 : Nat))

/-- Splits a user's name from the host after it, at the last such sign. -/
def splitUser (cs : List Char) : Option (List Char) × List Char :=
  let rest := cs.reverse.takeWhile (· ≠ '@')
  if rest.length = cs.length then (none, cs)
  else (some (cs.take (cs.length - rest.length - 1)), rest.reverse)

/-- Whether a text is a host with a port, if the host may be missing. -/
def isPlainAuthority (user : Option (List Char)) (cs : List Char) : Bool :=
  let (host, port) := splitPort false cs
  let named := user.any fun u => !u.isEmpty && u ≠ [':']
  isPlainHost host && (!host.isEmpty || (port.isNone && !named))
    && port.all fun p => isPort (p.takeWhile (· ≠ '\\'))

/-- Whether a text is a host of the web with a port. -/
def isWebAuthority (cs : List Char) : Bool :=
  let (host, port) := splitPort false cs
  isWebHost host && port.all isPort

/-- Whether what follows two slashes begins with a host, and perhaps a user's name and a port. An
empty name must not be followed by nothing but a path. -/
def isAuthority (kind : Kind) (cs : List Char) : Bool :=
  let authority := cs.takeWhile (!kind.isEnd ·)
  let (user, rest) := splitUser authority
  !(user = some [] && rest.isEmpty && authority.length < cs.length)
    && (if kind = .web then isWebAuthority rest else isPlainAuthority user rest)

/-- Whether a text is a letter of a drive, with the colon after it. -/
def isDrive : List Char → Bool
  | [c, mark] => c.isAlpha && (mark = ':' || mark = '|')
  | _ => false

/-- Whether what follows the colon is right for the scheme. -/
def isRest (kind : Kind) (cs : List Char) : Bool :=
  match kind, cs with
  | .web, cs => isAuthority .web (cs.dropWhile Kind.web.isSlash)
  | .file, a :: b :: rest =>
    let host := rest.takeWhile (!Kind.file.isEnd ·)
    !(Kind.file.isSlash a && Kind.file.isSlash b) || host.isEmpty || isDrive host || isWebHost host
  | .other, '/' :: '/' :: rest => isAuthority .other rest
  | _, _ => true

/-- A text without the blanks and controls around it, and without tabs and line ends. -/
def strip (cs : List Char) : List Char :=
  let isOutside (c : Char) : Bool := c.toNat ≤ 0x20
  ((cs.dropWhile isOutside).reverse.dropWhile isOutside).reverse.filter
    fun c => c ≠ '\t' && c ≠ '\n' && c ≠ '\r'

/-- The scheme of a text, in lower case, if it is a URL. -/
def scheme? (text : String) : Option String :=
  let cs := strip text.toList
  let inScheme (c : Char) : Bool := c.isAlphanum || c = '+' || c = '-' || c = '.'
  let scheme := String.ofList ((cs.takeWhile inScheme).map Char.toLower)
  match cs.head?.any Char.isAlpha, cs.dropWhile inScheme with
  | true, ':' :: rest => if isRest (.ofScheme scheme) rest then some scheme else none
  | _, _ => none

end Forum.Url
