import PeerTrust.Config.Basic
import PeerTrust.Json.Reader

/-!
# Reading policy configurations

A configuration is read from a JSON object member by member: known members once each in any order,
others passed over. It may also be written as a list of the values alone, in the order of the
members. Absent members take their defaults; only the kind of policy must be there.
-/

namespace PeerTrust.PolicyConfig

open PeerTrust.Json

/-- The members of a configuration. -/
inductive Member where
  | variant
  | authority
  | hostname
  | expected
  | trustedKeys
  | anchors
  | buildMode
  deriving DecidableEq, Repr

/-- The name of a member. -/
def Member.name : Member → String
  | variant => "variant"
  | authority => "authority"
  | hostname => "hostname"
  | expected => "expected"
  | trustedKeys => "trustedKeys"
  | anchors => "anchors"
  | buildMode => "buildMode"

/-- The members in the order in which a list of values takes them. -/
def Member.all : List Member :=
  [variant, authority, hostname, expected, trustedKeys, anchors, buildMode]

/-- The member with a name. -/
def Member.ofName? (name : String) : Option Member :=
  all.find? (·.name = name)

/-- What has been read of a configuration. A text member that was read may have been null. -/
structure Draft where
  variant : Option PolicyVariant
  authority : Option (Option String)
  hostname : Option (Option String)
  expected : Option (Option String)
  trustedKeys : Option (List String)
  anchors : Option (Option String)
  buildMode : Option BuildMode
  deriving DecidableEq, Repr

/-- Nothing has been read. -/
def Draft.empty : Draft :=
  ⟨none, none, none, none, none, none, none⟩

/-- Whether a member has been read. -/
def Draft.has (d : Draft) : Member → Bool
  | .variant => d.variant.isSome
  | .authority => d.authority.isSome
  | .hostname => d.hostname.isSome
  | .expected => d.expected.isSome
  | .trustedKeys => d.trustedKeys.isSome
  | .anchors => d.anchors.isSome
  | .buildMode => d.buildMode.isSome

/-- The configuration with defaults for what has not been read, but for the kind of policy. -/
def Draft.finish? (d : Draft) : Option PolicyConfig :=
  d.variant.map fun variant =>
    ⟨variant, d.authority.getD none, d.hostname.getD none, d.expected.getD none,
      d.trustedKeys.getD [], d.anchors.getD none, d.buildMode.getD .release⟩

/-- The value that a word names among those with words. -/
def named {α : Type} (word : α → String) (all : List α) (name : String) (rest : List Char) :
    Except Stop α :=
  match all.find? (word · = name) with
  | some a => .ok a
  | none => stopAt (.unknownVariant name (all.map word)) rest

/-- Reads the name of a value. -/
def readName {α : Type} (word : α → String) (all : List α) (text : List Char) :
    Except Stop (α × List Char) :=
  match skipSpace text with
  | [] => stopAfter .endInValue []
  | '"' :: rest => do
    let (name, rest) ← readString rest
    return (← named word all name rest, rest)
  | rest => wrongType "variant identifier" rest

/-- Reads a value among those with words: its word, or an object with its word as the only key and
null as the value. -/
def readNamed {α : Type} (word : α → String) (all : List α) (text : List Char) :
    Except Stop (α × List Char) :=
  match skipSpace text with
  | [] => stopAfter .endInValue []
  | '"' :: rest => readName word all ('"' :: rest)
  | '\x7b' :: rest => do
    let (a, rest) ← readName word all rest
    let rest ← readUnit (← readColon rest)
    match skipSpace rest with
    | [] => stopAt .endInObject []
    | '\x7d' :: rest => return (a, rest)
    | rest => stopAt .expectedValue rest
  | rest => stopAfter .expectedValue rest

/-- Reads the value of a member. -/
def readMember (d : Draft) (member : Member) (text : List Char) :
    Except Stop (Draft × List Char) := do
  match member with
  | .variant =>
    let (v, rest) ← readNamed PolicyVariant.word PolicyVariant.all text
    return ({ d with variant := some v }, rest)
  | .authority =>
    let (v, rest) ← readOptionalText text
    return ({ d with authority := some v }, rest)
  | .hostname =>
    let (v, rest) ← readOptionalText text
    return ({ d with hostname := some v }, rest)
  | .expected =>
    let (v, rest) ← readOptionalText text
    return ({ d with expected := some v }, rest)
  | .trustedKeys =>
    let (v, rest) ← readTextList text
    return ({ d with trustedKeys := some v }, rest)
  | .anchors =>
    let (v, rest) ← readOptionalText text
    return ({ d with anchors := some v }, rest)
  | .buildMode =>
    let (v, rest) ← readNamed BuildMode.word BuildMode.all text
    return ({ d with buildMode := some v }, rest)

/-- Reads the member with a key. A known member may come only once, which is found out before its
value is read; an unknown one is passed over. -/
def readEntry (d : Draft) (key : String) (text : List Char) : Except Stop (Draft × List Char) :=
  match Member.ofName? key with
  | some member =>
    if d.has member then .error ⟨.duplicateField key, text, 0, true⟩
    else (readColon text).bind (readMember d member)
  | none => (readColon text).bind fun rest => (skipValue rest).map (d, ·)

/-- Reads the members of an object up to its closing brace. -/
def readEntries : (fuel : Nat) → (first : Bool) → Draft → List Char →
    Except Stop (Draft × List Char)
  | 0, _, _, text => stopAt .endInObject text
  | fuel + 1, first, d, text => do
    match ← nextKey first text with
    | (none, rest) => return (d, rest)
    | (some key, rest) =>
      let (d, rest) ← readEntry d key rest
      readEntries fuel false d rest

/-- What a fault calls a configuration. -/
def structName : String := "struct TrustPolicyConfig"

/-- Reads the values of a list in the order of the members. -/
def readValues (first : Bool) (d : Draft) : List Member → List Char →
    Except Stop (Draft × List Char)
  | [], text => .ok (d, text)
  | member :: members, text => do
    let (more, rest) ← nextElement first text
    if more then
      let (d, rest) ← readMember d member rest
      readValues false d members rest
    else if member = .variant then
      .error ⟨.invalidLength 0 (structName ++ " with 7 elements"), rest, 0, true⟩
    else readValues first d members rest

/-- The configuration that a draft amounts to. -/
def complete (d : Draft) (rest : List Char) : Except Stop (PolicyConfig × List Char) :=
  match d.finish? with
  | some c => .ok (c, rest)
  | none => .error ⟨.missingField Member.variant.name, rest, 0, true⟩

/-- Reads a configuration. -/
def read (text : List Char) : Except Stop (PolicyConfig × List Char) :=
  match skipSpace text with
  | [] => stopAfter .endInValue []
  | '\x7b' :: rest =>
    closing closeObject do
      let (d, rest) ← readEntries (text.length + 1) true .empty rest
      complete d rest
  | '[' :: rest =>
    closing closeList do
      let (d, rest) ← readValues true .empty Member.all rest
      complete d rest
  | rest => wrongType structName rest

/-- The configuration that a JSON text holds. -/
def ofJson (s : String) : Except Json.Fault PolicyConfig :=
  readDocument read s

end PeerTrust.PolicyConfig
