import PeerTrust.Text.Blank
import PeerTrust.Text.Hex

/-!
# Host patterns

A pattern is a host name, or a suffix under which hosts may lie: `*.S` covers hosts exactly one
label below `S`, and `**.S` covers `S` itself and hosts at any depth below it. Pattern and host are
compared in one normal form: without blanks around them, without dots at the end, ASCII letters in
lower case.
-/

namespace PeerTrust

/-- The form in which host names are compared. -/
def normalHost (host : List Char) : List Char :=
  Text.lowerAscii (Text.dropEndWhile (· = '.') (Text.trim host))

/-- What a text is when a given end is taken away. -/
def dropEnding? (text ending : List Char) : Option (List Char) :=
  if ending.isSuffixOf text then some (text.take (text.length - ending.length)) else none

/-- What stands in a host in front of a suffix and the dot before it. -/
def labelsBefore? (host suffix : List Char) : Option (List Char) :=
  dropEnding? host ('.' :: suffix)

/-- The hosts that a pattern stands for, in normal form. -/
inductive HostRule where
  /-- One host. -/
  | exact (host : List Char)
  /-- Hosts one label below the suffix. -/
  | oneLabel (suffix : List Char)
  /-- The suffix itself and hosts at any depth below it. -/
  | anyDepth (suffix : List Char)
  deriving DecidableEq, Repr

/-- Whether a host in normal form is one that the rule stands for. -/
def HostRule.covers (host : List Char) : HostRule → Bool
  | exact h => host == h
  | oneLabel suffix =>
    match labelsBefore? host suffix with
    | some labels => !labels.isEmpty && !labels.contains '.'
    | none => false
  | anyDepth suffix =>
    host == suffix ||
      match labelsBefore? host suffix with
      | some labels => !labels.isEmpty
      | none => false

/-- A host pattern: its text without blanks around it, and the rule that the text spells. -/
structure HostPattern where
  text : String
  rule : HostRule
  deriving DecidableEq, Repr

/-- Why a text is no host pattern. -/
inductive HostPattern.Fault where
  | empty
  /-- An asterisk where no wildcard may stand. -/
  | unexpectedWildcard (text : String)
  /-- A wildcard over a suffix that is empty or holds a wildcard itself. -/
  | invalidWildcard (text : String)
  deriving DecidableEq, Repr

/-- What a pattern fault says. -/
def HostPattern.Fault.message : HostPattern.Fault → String
  | empty => "pin hostname is empty"
  | unexpectedWildcard text => "unexpected wildcard in pin hostname: " ++ text
  | invalidWildcard text => "invalid wildcard pin hostname: " ++ text

namespace HostPattern

/-- A text that is not empty and holds no asterisk. -/
def isPlainSuffix (suffix : List Char) : Bool :=
  !suffix.isEmpty && !suffix.contains '*'

/-- Reads a pattern. -/
def ofString (s : String) : Except Fault HostPattern :=
  let raw := Text.trim s.toList
  let text := String.ofList raw
  match normalHost raw with
  | [] => .error .empty
  | '*' :: '*' :: '.' :: suffix =>
    if isPlainSuffix suffix then .ok ⟨text, .anyDepth suffix⟩ else .error (.invalidWildcard text)
  | '*' :: '.' :: suffix =>
    if isPlainSuffix suffix then .ok ⟨text, .oneLabel suffix⟩ else .error (.invalidWildcard text)
  | host =>
    if host.contains '*' then .error (.unexpectedWildcard text) else .ok ⟨text, .exact host⟩

/-- Whether the pattern stands for a host. -/
def covers (p : HostPattern) (host : String) : Bool :=
  p.rule.covers (normalHost host.toList)

end HostPattern

end PeerTrust
