import PeerTrust.Url.Host

/-!
# Reading URLs

What a text says of the scheme, the host and the port of a URL. Characters around it that cannot be
seen are dropped, line ends and tabs also inside. In the schemes for the network any slashes may
come before the host and a backslash counts as a slash; in other schemes exactly two slashes
announce a host; in the scheme for files there is neither user nor port, and a drive is no host.
-/

namespace PeerTrust

/-- What a URL says of where to connect. -/
structure Url where
  /-- In lower case. -/
  scheme : List Char
  host : Option Url.Host
  /-- The port, if the URL states one. -/
  port : Option Nat
  deriving DecidableEq, Repr

namespace Url

/-- The ways of reading what follows a scheme. -/
inductive SchemeKind where
  | network
  | file
  | other
  deriving DecidableEq, Repr

/-- The kind of a scheme. -/
def SchemeKind.ofScheme (scheme : List Char) : SchemeKind :=
  let name := String.ofList scheme
  if name = "file" then file
  else if ["http", "https", "ws", "wss", "ftp"].contains name then network
  else other

/-- A text without the invisible ASCII characters around it, and without tabs and line ends. -/
def clean (text : List Char) : List Char :=
  let trimmed := Text.dropEndWhile (· ≤ ' ') (text.dropWhile (· ≤ ' '))
  trimmed.filter fun c => !(['\t', '\n', '\r'].contains c)

/-- Whether a character may be in a scheme after its first. -/
def isSchemeChar (c : Char) : Bool :=
  c.isAlphanum || c = '+' || c = '-' || c = '.'

/-- The scheme of a text, in lower case, and what follows its colon. -/
def splitScheme? (text : List Char) : Option (List Char × List Char) :=
  match Text.splitOnce? ':' text with
  | none => none
  | some (scheme, rest) =>
    if scheme.head?.any Char.isAlpha ∧ scheme.all isSchemeChar then
      some (Text.lowerAscii scheme, rest)
    else none

/-- Whether a character is a slash to a scheme of the network. -/
def isSlash (c : Char) : Bool :=
  c = '/' || c = '\\'

/-- Whether a character ends the part of a URL that names user, host and port. -/
def endsAuthority (kind : SchemeKind) (c : Char) : Bool :=
  ['/', '?', '#'].contains c || (kind != .other && c = '\\')

/-- What names user, host and port at the start of a text. -/
def authority (kind : SchemeKind) (text : List Char) : List Char :=
  text.takeWhile (!endsAuthority kind ·)

/-- The user before the last `@`, if there is one, and what follows. -/
def splitUser : List Char → Option (List Char) × List Char
  | [] => (none, [])
  | c :: rest =>
    match splitUser rest with
    | (some user, after) => (some (c :: user), after)
    | (none, after) => if c = '@' then (some [], after) else (none, c :: after)

/-- Whether a user has a name or a password. -/
def isStated (user : Option (List Char)) : Bool :=
  user.any fun u => !u.isEmpty && u != [':']

/-- The host at the start of a text, up to a colon outside of brackets. -/
def takeHost (inside : Bool) : List Char → List Char
  | [] => []
  | c :: rest =>
    if c = ':' ∧ ¬inside then []
    else c :: takeHost (c = '[' || (inside && c != ']')) rest

/-- The greatest port. -/
def maxPort : Nat := 65535

/-- The port after a host, given with the colon before it. -/
def readPort (text : List Char) : Except Fault (Option Nat) :=
  let digits := (text.drop 1).takeWhile (· ≠ '\\')
  if digits.isEmpty then .ok none
  else
    match Host.digits? Address.decimal? 10 digits with
    | some n => if n ≤ maxPort then .ok (some n) else .error .invalidPort
    | none => .error .invalidPort

/-- The host by the rules of a kind of scheme. -/
def readHost (kind : SchemeKind) (text : List Char) : Except Fault (Option Host) :=
  match kind with
  | .network => if text.isEmpty then .error .emptyHost else (Host.ofText text).map some
  | _ => Host.ofOtherText text

/-- User, host and port. `closed` tells that something follows them. -/
def readAuthority (kind : SchemeKind) (text : List Char) (closed : Bool) :
    Except Fault (Option Host × Option Nat) :=
  let (user, place) := splitUser text
  if user = some [] ∧ place.isEmpty ∧ closed then .error .emptyHost
  else
    let name := takeHost false place
    let after := place.drop name.length
    match readHost kind name with
    | .error fault => .error fault
    | .ok host =>
      if host.isNone ∧ ¬after.isEmpty then .error .emptyHost
      else
        match readPort after with
        | .error fault => .error fault
        | .ok port =>
          if host.isNone ∧ isStated user then .error .emptyHost else .ok (host, port)

/-- Whether a text names a drive. -/
def isDrive : List Char → Bool
  | [letter, mark] => letter.isAlpha && (mark = ':' || mark = '|')
  | _ => false

/-- The host in front of the path of a file. -/
def readFileHost (text : List Char) : Except Fault (Option Host) :=
  match text with
  | a :: b :: rest =>
    let name := authority .file rest
    if !(isSlash a && isSlash b) || name.isEmpty || isDrive name then .ok none
    else (Host.ofText name).map some
  | _ => .ok none

/-- Host and port by what follows the scheme. -/
def readPlace (kind : SchemeKind) (text : List Char) : Except Fault (Option Host × Option Nat) :=
  match kind with
  | .network =>
    let rest := text.dropWhile isSlash
    let named := authority kind rest
    readAuthority kind named (named.length < rest.length)
  | .file => (readFileHost text).map fun host => (host, none)
  | .other =>
    match text with
    | '/' :: '/' :: rest =>
      let named := authority kind rest
      readAuthority kind named (named.length < rest.length)
    | _ => .ok (none, none)

/-- What a text says as a URL. -/
def ofText (text : List Char) : Except Fault Url :=
  match splitScheme? (clean text) with
  | none => .error .relativeWithoutBase
  | some (scheme, rest) =>
    (readPlace (.ofScheme scheme) rest).map fun (host, port) => ⟨scheme, host, port⟩

end Url

end PeerTrust
