import PeerTrust.Domain.Label

/-!
# Domain names in ASCII

A domain name in any characters becomes one in ASCII: its characters are mapped, the whole is put
into normal form and cut at its dots, and each label is spelled in ASCII. If one of the labels is
written from right to left, all of them must be such that their letters cannot mix when shown.
-/

namespace PeerTrust.Domain

/-- Whether a label has anything written from right to left. -/
def Label.runsRight (l : Label) : Bool :=
  l.text.any fun c => direction c = .right || direction c = .arabicNumber

/-- Whether the directions of a label that begins with a letter written from left to right keep
together; `ending` is the last direction that is not a mark's. -/
def leftKeeps (ds : List Direction) (ending : Direction) : Bool :=
  [.left, .europeanNumber].contains ending
    && ds.all [.left, .europeanNumber, .neutral, .nonspacing].contains

/-- Whether the directions of a label that begins with a letter written from right to left keep
together. -/
def rightKeeps (ds : List Direction) (ending : Direction) : Bool :=
  [.right, .europeanNumber, .arabicNumber].contains ending
    && ds.all [.right, .arabicNumber, .europeanNumber, .neutral, .nonspacing].contains
    && !(ds.contains .europeanNumber && ds.contains .arabicNumber)

/-- Whether a label may stand in a domain name in which something is written from right to left. -/
def Label.keepsTogether (l : Label) : Bool :=
  let ds := l.text.map direction
  let ending := (Text.dropEndWhile (· = .nonspacing) ds).getLast?.getD .nonspacing
  match ds with
  | [] => true
  | .left :: _ => leftKeeps ds ending
  | .right :: _ => rightKeeps ds ending
  | _ => false

/-- Whether the labels of a domain name may stand together. -/
def standTogether (labels : List Label) : Bool :=
  !labels.any Label.runsRight || labels.all Label.keepsTogether

/-- The labels of a domain name. -/
def labels? (name : List Char) : Option (List Label) := do
  let mapped ← map? name
  let labels ← (Text.splitAll '.' (normalForm mapped)).mapM Label.ofText?
  if standTogether labels then return labels else none

/-- A domain name in ASCII. -/
def toAscii? (name : List Char) : Option (List Char) :=
  (labels? name).map fun labels => List.intercalate ['.'] (labels.map (·.ascii))

end PeerTrust.Domain
