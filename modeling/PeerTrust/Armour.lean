import PeerTrust.Base64
import PeerTrust.Text.Utf8

/-!
# Textual armour

Octets in base64 between a line that begins and a line that ends a block, both with the block's
label. Text outside blocks is skipped. Inside a block a header may stand before the body, with a
blank line between them; without a colon in the lines before it, a blank line may still stand once.

A line is read up to its line feed, and a longer one in pieces of 254 octets. Blanks, controls and
octets from 0x80 on are dropped from its end.
-/

namespace PeerTrust

/-- A block of armoured octets. -/
structure ArmourBlock where
  label : Bytes
  /-- The header lines, each with its line feed. -/
  header : Bytes
  contents : Bytes
  deriving DecidableEq, Repr

namespace Armour

/-- The most octets that are read as one line. -/
def lineLimit : Nat := 254

/-- At most `limit` octets up to a line feed, with it, and what follows. -/
def cutLine : (limit : Nat) → Bytes → Bytes × Bytes
  | 0, bs => ([], bs)
  | _, [] => ([], [])
  | limit + 1, b :: rest =>
    if b = 0x0A then ([b], rest)
    else
      let (line, rest) := cutLine limit rest
      (b :: line, rest)

/-- A line: its octets as they stand, and what follows. -/
def nextLine? (bs : Bytes) : Option (Bytes × Bytes) :=
  if bs.isEmpty then none else some (cutLine lineLimit bs)

/-- Whether an octet is dropped from the end of a line. -/
def isLineEnd (b : UInt8) : Bool :=
  b ≤ 0x20 || b ≥ 0x80

/-- A line without what is dropped from its end, up to the first NUL that stays. -/
def trimLine (line : Bytes) : Bytes :=
  Text.dropEndWhile isLineEnd line

/-- The octets of a line up to a NUL. -/
def visible (line : Bytes) : Bytes :=
  line.takeWhile (· ≠ 0)

/-- A line without the byte order mark in front of it. -/
def dropMark (line : Bytes) : Bytes :=
  match line with
  | 0xEF :: 0xBB :: 0xBF :: b :: rest => b :: rest
  | _ => line

/-- What stands after the beginning of a text, if it begins so. -/
def afterStart? (start text : Bytes) : Option Bytes :=
  if start.isPrefixOf text then some (text.drop start.length) else none

/-- The beginning of a line that begins a block. -/
def beginMark : Bytes := Bytes.ofLatin "-----BEGIN "

/-- The beginning of a line that ends a block. -/
def endMark : Bytes := Bytes.ofLatin "-----END "

/-- The end of a line that begins or ends a block. -/
def dashes : Bytes := Bytes.ofLatin "-----"

/-- The label of a line that begins a block. -/
def labelOf? (line : Bytes) : Option Bytes :=
  match afterStart? beginMark line with
  | none => none
  | some rest =>
    if dashes.isSuffixOf rest then some (visible (rest.take (rest.length - dashes.length)))
    else none

/-- Where the reading of a block stands. -/
inductive Stage where
  /-- Lines so far may be header or body. -/
  | undecided
  /-- A colon was seen. -/
  | inHeader
  /-- A blank line was seen. -/
  | inBody
  deriving DecidableEq, Repr

/-- The lines of a block as they come in. -/
structure Lines where
  stage : Stage
  /-- The lines before a blank line. -/
  before : Bytes
  /-- The lines after it. -/
  after : Bytes
  /-- Whether a short line of the body was read, after which no other line may come. -/
  closed : Bool
  /-- Whether the last line was a piece of a longer one. -/
  piece : Bool
  deriving DecidableEq

/-- What a line does to a block. -/
inductive LineEffect where
  | goesOn (state : Lines)
  /-- The line ends the block with the header and the body read so far. -/
  | ended (header body : Bytes)
  | broken
  deriving DecidableEq

/-- Takes the next line of a block. -/
def takeLine (label : Bytes) (state : Lines) (line : Bytes) : LineEffect :=
  let piece := line.length == lineLimit && line.getLast? != some 0x0A
  let stage := if state.stage = .undecided ∧ line.contains 0x3A then .inHeader else state.stage
  let shown := trimLine line
  if shown.isEmpty then
    if state.piece then .goesOn { state with stage, piece }
    else if stage = .inBody then .broken
    else .goesOn { state with stage := .inBody, piece }
  else
    match afterStart? endMark (visible shown) with
    | some name =>
      if name = label ++ dashes ∧ ¬shown.contains 0 then
        if stage = .undecided then .ended [] state.before else .ended state.before state.after
      else .broken
    | none =>
      let text := visible shown ++ if shown.contains 0 then [] else [0x0A]
      if state.closed then .broken
      else if stage = .inBody then
        if shown.length + 1 > 65 then .broken
        else
          let closed := shown.length + 1 < 65
          .goesOn { state with stage, after := state.after ++ text, closed, piece }
      else .goesOn { state with stage, before := state.before ++ text, piece }

/-- What the lines of a block come to. -/
inductive Outcome where
  | block (b : ArmourBlock) (rest : Bytes)
  /-- The block is malformed; reading stopped before `rest`. -/
  | malformed (rest : Bytes)

/-- What follows the block. -/
def Outcome.rest : Outcome → Bytes
  | block _ rest => rest
  | malformed rest => rest

/-- The block that header and body make. -/
def finish (label header body rest : Bytes) : Outcome :=
  match Base64.decodeStream (body.map fun b => Char.ofNat b.toNat) with
  | some (b :: bs) => .block ⟨label, header, b :: bs⟩ rest
  | _ => .malformed rest

theorem cutLine_length (limit : Nat) (bs : Bytes) : (cutLine limit bs).2.length ≤ bs.length := by
  induction limit generalizing bs with
  | zero => simp [cutLine]
  | succ limit ih =>
    cases bs with
    | nil => simp [cutLine]
    | cons b bs =>
      simp only [cutLine]
      split
      · simp
      · exact Nat.le_trans (ih bs) (by simp)

theorem nextLine?_length {bs line rest : Bytes} (h : nextLine? bs = some (line, rest)) :
    rest.length < bs.length := by
  cases bs with
  | nil => simp [nextLine?] at h
  | cons b bs =>
    have : rest = (cutLine lineLimit (b :: bs)).2 := by
      simp only [nextLine?, List.isEmpty_cons, Bool.false_eq_true, if_false, Option.some.injEq] at h
      rw [h]
    rw [this]
    simp only [lineLimit, cutLine]
    split
    · simp
    · exact Nat.lt_of_le_of_lt (cutLine_length _ bs) (by simp)

/-- Reads the lines of a block to its end. -/
def readBlock (label : Bytes) (state : Lines) (bs : Bytes) : Outcome :=
  match _h : nextLine? bs with
  | none => .malformed []
  | some (line, rest) =>
    match takeLine label state line with
    | .goesOn state => readBlock label state rest
    | .ended header body => finish label header body rest
    | .broken => .malformed rest
  termination_by bs.length
  decreasing_by exact nextLine?_length _h

/-- The label of the next block and what follows the line that begins it. A byte order mark is
dropped from the first line only. -/
def findBegin (first : Bool) (bs : Bytes) : Option (Bytes × Bytes) :=
  match _h : nextLine? bs with
  | none => none
  | some (line, rest) =>
    match labelOf? (trimLine (if first then dropMark line else line)) with
    | some label => some (label, rest)
    | none => findBegin false rest
  termination_by bs.length
  decreasing_by exact nextLine?_length _h

/-- The next block of a text, well formed or not; `none` when no line begins one. -/
def next? (bs : Bytes) : Option Outcome :=
  (findBegin true bs).map fun (label, rest) =>
    readBlock label ⟨.undecided, [], [], false, false⟩ rest

theorem finish_rest (label header body rest : Bytes) :
    (finish label header body rest).rest = rest := by
  unfold finish
  split <;> rfl

theorem readBlock_length (label : Bytes) (state : Lines) (bs : Bytes) :
    (readBlock label state bs).rest.length ≤ bs.length := by
  fun_induction readBlock label state bs with
  | case1 => simp [Outcome.rest]
  | case2 state bs line rest next _ _ ih => exact Nat.le_trans ih (Nat.le_of_lt (nextLine?_length next))
  | case3 state bs line rest next =>
    rw [finish_rest]
    exact Nat.le_of_lt (nextLine?_length next)
  | case4 state bs line rest next => exact Nat.le_of_lt (nextLine?_length next)

theorem findBegin_length {first : Bool} {bs label rest : Bytes}
    (h : findBegin first bs = some (label, rest)) : rest.length < bs.length := by
  fun_induction findBegin first bs with
  | case1 => simp at h
  | case2 first bs line after next found =>
    simp only [Option.some.injEq, Prod.mk.injEq] at h
    exact h.2 ▸ nextLine?_length next
  | case3 first bs line after next _ ih => exact Nat.lt_trans (ih h) (nextLine?_length next)

theorem next?_length {bs : Bytes} {o : Outcome} (h : next? bs = some o) :
    o.rest.length < bs.length := by
  simp only [next?, Option.map_eq_some_iff, Prod.exists] at h
  obtain ⟨label, rest, found, rfl⟩ := h
  exact Nat.lt_of_le_of_lt (readBlock_length _ _ _) (findBegin_length found)

/-- The blocks of a text in order; `none` stands for a malformed one. -/
def blocks (bs : Bytes) : List (Option ArmourBlock) :=
  match _h : next? bs with
  | none => []
  | some (.malformed rest) => none :: blocks rest
  | some (.block b rest) => some b :: blocks rest
  termination_by bs.length
  decreasing_by all_goals exact next?_length _h

/-- Text cut into lines of at most `width` characters. -/
def columns (width : Nat) (text : List Char) : List (List Char) :=
  (List.range ((text.length + width - 1) / width)).map fun i => (text.drop (i * width)).take width

/-- The armoured text of octets, in lines of 64 characters. -/
def write (label : String) (contents : Bytes) : List Char :=
  let body := (columns 64 (Base64.encode contents)).flatMap fun line => line ++ ['\n']
  "-----BEGIN ".toList ++ label.toList ++ "-----\n".toList ++ body
    ++ "-----END ".toList ++ label.toList ++ "-----\n".toList

end Armour

end PeerTrust
