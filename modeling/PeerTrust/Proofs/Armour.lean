import Mathlib.Data.List.Basic
import PeerTrust.Armour
import PeerTrust.Proofs.Base64

/-!
# Armour that is written and read again

Octets that are put in armour stand in lines of 64 digits, none of which looks like the end of the
block or like a header. So the reader finds one block with just these octets, and goes on where the
writer stopped.
-/

namespace PeerTrust

namespace Armour

section Lines

/-! ### Lines -/

variable {line rest : Bytes}

theorem cutLine_line {limit : Nat} (hfeed : 0x0A ∉ line) (hlength : line.length < limit) :
    cutLine limit (line ++ 0x0A :: rest) = (line ++ [0x0A], rest) := by
  induction line generalizing limit with
  | nil =>
    obtain ⟨limit, rfl⟩ := Nat.exists_eq_add_one.mpr hlength
    rfl
  | cons b line ih =>
    obtain ⟨limit, rfl⟩ := Nat.exists_eq_add_one.mpr (Nat.zero_lt_of_lt hlength)
    obtain ⟨hb, hline⟩ := not_or.mp (mt List.mem_cons.mpr hfeed)
    rw [List.cons_append, cutLine, if_neg (Ne.symm hb), ih hline (Nat.lt_of_succ_lt_succ hlength)]
    rfl

theorem nextLine?_line (hfeed : 0x0A ∉ line) (hlength : line.length < lineLimit) :
    nextLine? (line ++ 0x0A :: rest) = some (line ++ [0x0A], rest) := by
  have hne : (line ++ 0x0A :: rest).isEmpty = false := by simp
  rw [nextLine?, hne, cutLine_line hfeed hlength]
  rfl

/-- Only the line feed is dropped from the end of a line that ends in a visible octet. -/
theorem trimLine_line {b : UInt8} (hlast : isLineEnd b = false) :
    trimLine (line ++ [b] ++ [0x0A]) = line ++ [b] := by
  simp [trimLine, Text.dropEndWhile, hlast, show isLineEnd 0x0A = true by decide]

theorem visible_eq (hzero : 0 ∉ line) : visible line = line := by
  rw [visible, List.takeWhile_eq_self_iff]
  intro b hb
  simpa using ne_of_mem_of_not_mem hb hzero

theorem afterStart?_append (start text : Bytes) : afterStart? start (start ++ text) = some text := by
  simp [afterStart?]

end Lines

section Blocks

/-! ### Blocks -/

variable {label line rest : Bytes}

/-- A label that can be written: it fits a line, and holds nothing that ends a line or a text, and no
colon. -/
structure IsLabel (label : Bytes) : Prop where
  short : label.length < 200
  zero : 0 ∉ label
  feed : 0x0A ∉ label
  colon : 0x3A ∉ label

/-- A line of a body that no other kind of line is taken for. -/
structure IsBodyLine (line : Bytes) : Prop where
  short : line.length < lineLimit
  ne_nil : line ≠ []
  visible : ∀ b ∈ line, isLineEnd b = false ∧ b ≠ 0x2D ∧ b ≠ 0x3A

/-- The line that begins or ends a block. -/
def boundary (mark label : Bytes) : Bytes :=
  mark ++ label ++ dashes

theorem trimLine_boundary (mark label : Bytes) :
    trimLine (boundary mark label ++ [0x0A]) = boundary mark label := by
  have hdashes : dashes = [0x2D, 0x2D, 0x2D, 0x2D] ++ [0x2D] := by decide
  rw [boundary, hdashes, ← List.append_assoc]
  exact trimLine_line (by decide)

theorem nextLine?_boundary {mark : Bytes} (hmark : mark = beginMark ∨ mark = endMark)
    (hlabel : IsLabel label) :
    nextLine? (boundary mark label ++ 0x0A :: rest)
      = some (boundary mark label ++ [0x0A], rest) := by
  have hshort := hlabel.short
  apply nextLine?_line
  · simp only [boundary, List.mem_append, not_or]
    refine ⟨⟨?_, hlabel.feed⟩, by decide⟩
    rcases hmark with rfl | rfl <;> decide
  · have hmarks : mark.length ≤ 11 := by
      rcases hmark with rfl | rfl <;> decide
    have hdashes : dashes.length = 5 := by decide
    simp only [boundary, List.length_append, lineLimit]
    omega

theorem labelOf?_boundary (hlabel : IsLabel label) :
    labelOf? (boundary beginMark label) = some label := by
  have hsuffix : dashes.isSuffixOf (label ++ dashes) = true :=
    List.isSuffixOf_iff_suffix.mpr (List.suffix_append _ _)
  rw [labelOf?, boundary, List.append_assoc, afterStart?_append]
  dsimp only
  rw [if_pos hsuffix, List.length_append, Nat.add_sub_cancel, List.take_left,
    visible_eq hlabel.zero]

/-- A line that begins a block is found where it is the first. -/
theorem findBegin_boundary (first : Bool) (hlabel : IsLabel label) :
    findBegin first (boundary beginMark label ++ 0x0A :: rest) = some (label, rest) := by
  have hmark : dropMark (boundary beginMark label ++ [0x0A])
      = boundary beginMark label ++ [0x0A] := by
    have hdash : beginMark = 0x2D :: beginMark.tail := by decide
    rw [boundary, hdash]
    rfl
  rw [findBegin]
  split
  · rename_i hnone
    rw [nextLine?_boundary (.inl rfl) hlabel] at hnone
    cases hnone
  · rename_i found after hline
    rw [nextLine?_boundary (.inl rfl) hlabel] at hline
    cases hline
    rw [hmark, ite_self, trimLine_boundary, labelOf?_boundary hlabel]

/-- The state of a block after lines of its body. -/
def within (body : Bytes) : Lines :=
  ⟨.undecided, body, [], false, false⟩

theorem IsBodyLine.not_mem (hline : IsBodyLine line) {b : UInt8}
    (hb : isLineEnd b = true ∨ b = 0x3A) : b ∉ line := by
  intro hmem
  obtain ⟨hend, -, hcolon⟩ := hline.visible b hmem
  rcases hb with hb | hb
  · rw [hb] at hend
    cases hend
  · exact hcolon hb

theorem trimLine_body (hline : IsBodyLine line) : trimLine (line ++ [0x0A]) = line := by
  rcases List.eq_nil_or_concat line with hnil | ⟨front, b, rfl⟩
  · exact absurd hnil hline.ne_nil
  · rw [List.concat_eq_append] at hline ⊢
    exact trimLine_line (hline.visible b (by simp)).1

theorem afterStart?_body (hline : IsBodyLine line) : afterStart? endMark line = none := by
  have hdash : endMark = 0x2D :: endMark.tail := by decide
  have hnotEnd : endMark.isPrefixOf line = false := by
    cases line with
    | nil => exact absurd rfl hline.ne_nil
    | cons b line =>
      have hb := (hline.visible b List.mem_cons_self).2.1
      rw [hdash, List.isPrefixOf_cons_cons, beq_eq_false_iff_ne.mpr hb.symm, Bool.false_and]
  rw [afterStart?, if_neg (by simp [hnotEnd])]

/-- A line of the body is added to it. -/
theorem takeLine_body (hline : IsBodyLine line) (body : Bytes) :
    takeLine label (within body) (line ++ [0x0A])
      = .goesOn (within (body ++ (line ++ [0x0A]))) := by
  have hcolon : (line ++ [0x0A]).contains 0x3A = false := by
    simp [hline.not_mem (.inr rfl)]
  have hzero : 0 ∉ line := hline.not_mem (.inl (by decide))
  have hempty : line.isEmpty = false := by
    simpa using hline.ne_nil
  rw [takeLine, trimLine_body hline, visible_eq hzero, afterStart?_body hline, hcolon]
  simp [within, hempty, hzero]

/-- The line that ends the block hands over the body. -/
theorem takeLine_end (hlabel : IsLabel label) (body : Bytes) :
    takeLine label (within body) (boundary endMark label ++ [0x0A]) = .ended [] body := by
  have hnot {b : UInt8} (hends : b ∉ endMark ∧ b ∉ dashes) (hb : b ∉ label) :
      b ∉ boundary endMark label := by
    simp only [boundary, List.mem_append, not_or]
    exact ⟨⟨hends.1, hb⟩, hends.2⟩
  have hcolon : (boundary endMark label ++ [0x0A]).contains 0x3A = false := by
    simp [hnot (by decide) hlabel.colon]
  have hzero : 0 ∉ boundary endMark label := hnot (by decide) hlabel.zero
  have hempty : (boundary endMark label).isEmpty = false := by
    have hdash : endMark = 0x2D :: endMark.tail := by decide
    rw [boundary, hdash]
    rfl
  have hname : afterStart? endMark (boundary endMark label) = some (label ++ dashes) := by
    rw [boundary, List.append_assoc, afterStart?_append]
  rw [takeLine, trimLine_boundary, visible_eq hzero, hcolon]
  simp [within, hempty, hname, hzero]

theorem readBlock_goesOn {state state' : Lines} {bs : Bytes}
    (hline : nextLine? bs = some (line, rest)) (htake : takeLine label state line = .goesOn state') :
    readBlock label state bs = readBlock label state' rest := by
  rw [readBlock]
  split
  · rename_i hnone
    rw [hline] at hnone
    cases hnone
  · rename_i hsome
    rw [hline] at hsome
    cases hsome
    rw [htake]

theorem readBlock_ended {state : Lines} {header body bs : Bytes}
    (hline : nextLine? bs = some (line, rest))
    (htake : takeLine label state line = .ended header body) :
    readBlock label state bs = finish label header body rest := by
  rw [readBlock]
  split
  · rename_i hnone
    rw [hline] at hnone
    cases hnone
  · rename_i hsome
    rw [hline] at hsome
    cases hsome
    rw [htake]

/-- The lines of a body are read up to the line that ends the block. -/
theorem readBlock_lines (hlabel : IsLabel label) {lines : List Bytes}
    (hlines : ∀ line ∈ lines, IsBodyLine line) (body : Bytes) :
    readBlock label (within body)
        (lines.flatMap (· ++ [0x0A]) ++ (boundary endMark label ++ 0x0A :: rest))
      = finish label [] (body ++ lines.flatMap (· ++ [0x0A])) rest := by
  induction lines generalizing body with
  | nil =>
    rw [List.flatMap_nil, List.nil_append, List.append_nil]
    exact readBlock_ended (nextLine?_boundary (.inr rfl) hlabel) (takeLine_end hlabel body)
  | cons line lines ih =>
    obtain ⟨hline, hlines⟩ := List.forall_mem_cons.mp hlines
    have hnext := @nextLine?_line line (lines.flatMap (· ++ [0x0A])
      ++ (boundary endMark label ++ 0x0A :: rest)) (hline.not_mem (.inl (by decide))) hline.short
    rw [List.flatMap_cons, List.append_assoc, List.append_assoc, List.singleton_append,
      readBlock_goesOn hnext (takeLine_body hline body), ih hlines, List.append_assoc]

end Blocks

section Writing

/-! ### What is written -/

/-- Columns are pieces of the text, none empty or longer than the width. -/
theorem mem_columns {text line : List Char} (h : line ∈ columns 64 text) :
    line ≠ [] ∧ line.length ≤ 64 ∧ ∀ c ∈ line, c ∈ text := by
  obtain ⟨i, hi, rfl⟩ := List.mem_map.mp h
  have hbegins : i * 64 < text.length := by
    have := List.mem_range.mp hi
    omega
  refine ⟨?_, List.length_take_le _ _, fun c hc => ?_⟩
  · rw [← List.length_pos_iff, List.length_take, List.length_drop]
    omega
  · exact List.mem_of_mem_drop (List.mem_of_mem_take hc)

theorem flatMap_range (width count : Nat) (text : List Char) :
    (List.range count).flatMap (fun i => (text.drop (i * width)).take width)
      = text.take (count * width) := by
  induction count with
  | zero => simp
  | succ count ih =>
    rw [List.range_succ, List.flatMap_append, ih, List.flatMap_singleton, Nat.succ_mul,
      List.take_add]

/-- The columns of a text are all of it. -/
theorem flatten_columns (text : List Char) : (columns 64 text).flatten = text := by
  rw [columns, ← List.flatMap_def, flatMap_range]
  exact List.take_of_length_le (by omega)

/-- The octet of an ASCII character. -/
def octet (c : Char) : UInt8 :=
  UInt8.ofNat c.toNat

theorem toNat_octet {c : Char} (h : c.toNat < 0x80) : (octet c).toNat = c.toNat :=
  UInt8.toNat_ofNat_of_lt' (Nat.lt_trans h (by decide))

/-- ASCII text is written an octet a character. -/
theorem encode_of_ascii {text : List Char} (h : ∀ c ∈ text, c.toNat < 0x80) :
    Utf8.encode text = text.map octet := by
  induction text with
  | nil => rfl
  | cons c text ih =>
    obtain ⟨hc, hrest⟩ := List.forall_mem_cons.mp h
    have hone : String.utf8EncodeChar c = [octet c] := by
      simp [String.utf8EncodeChar, Nat.le_of_lt_succ hc, octet]
    rw [Utf8.encode, List.flatMap_cons, hone, List.map_cons, ← ih hrest]
    rfl

theorem encode_append (s t : List Char) : Utf8.encode (s ++ t) = Utf8.encode s ++ Utf8.encode t :=
  List.flatMap_append

variable {label : String} {contents rest : Bytes}

/-- The lines of the body of a block. -/
def bodyLines (contents : Bytes) : List (List Char) :=
  columns 64 (Base64.encode contents)

theorem inert_of_mem_bodyLines {line : List Char} (hline : line ∈ bodyLines contents) {c : Char}
    (hc : c ∈ line) : Base64.Inert c :=
  Base64.inert_of_mem_encode ((mem_columns hline).2.2 c hc)

theorem isBodyLine_map_octet {line : List Char} (hline : line ∈ bodyLines contents) :
    IsBodyLine (line.map octet) := by
  obtain ⟨hne, hlength, -⟩ := mem_columns hline
  refine ⟨?_, by simpa using hne, ?_⟩
  · rw [List.length_map, lineLimit]
    omega
  · intro b hb
    obtain ⟨c, hc, rfl⟩ := List.mem_map.mp hb
    have hinert := inert_of_mem_bodyLines hline hc
    obtain ⟨hlow, hhigh⟩ := hinert.graphic
    have hvalue := toNat_octet (Nat.lt_trans hhigh (by decide))
    have hne {d : Char} (hd : d.toNat < 0x80) (hcd : c ≠ d) : octet c ≠ octet d := by
      intro heq
      have hnat := congrArg UInt8.toNat heq
      rw [hvalue, toNat_octet hd] at hnat
      exact hcd (Char.toNat_inj.mp hnat)
    refine ⟨?_, hne (d := '-') (by decide) hinert.ne_dash,
      hne (d := ':') (by decide) hinert.ne_colon⟩
    simp only [isLineEnd, Bool.or_eq_false_iff, decide_eq_false_iff_not, UInt8.not_le, ge_iff_le,
      UInt8.lt_iff_toNat_lt, hvalue]
    exact ⟨hlow, Nat.lt_trans hhigh (by decide)⟩

/-- The octets of a block: its first line, the lines of its body and its last line. -/
theorem encode_write (hascii : ∀ c ∈ label.toList, c.toNat < 0x80) :
    Utf8.encode (write label contents)
      = boundary beginMark (Bytes.ofLatin label) ++ 0x0A ::
        (((bodyLines contents).map (·.map octet)).flatMap (· ++ [0x0A])
          ++ (boundary endMark (Bytes.ofLatin label) ++ [0x0A])) := by
  have hlabel : Utf8.encode label.toList = Bytes.ofLatin label := encode_of_ascii hascii
  have hbegin : Utf8.encode "-----BEGIN ".toList = beginMark := by decide
  have hend : Utf8.encode "-----END ".toList = endMark := by decide
  have hdashes : Utf8.encode "-----\n".toList = dashes ++ [0x0A] := by decide
  have hbody : Utf8.encode ((bodyLines contents).flatMap (· ++ ['\n']))
      = ((bodyLines contents).map (·.map octet)).flatMap (· ++ [0x0A]) := by
    rw [encode_of_ascii, List.map_flatMap, List.flatMap_map]
    · simp only [List.map_append]
      rfl
    · intro c hc
      obtain ⟨line, hline, hc⟩ := List.mem_flatMap.mp hc
      rcases List.mem_append.mp hc with hc | hc
      · exact Nat.lt_trans (inert_of_mem_bodyLines hline hc).graphic.2 (by decide)
      · rw [List.mem_singleton.mp hc]
        decide
  have hwrite : write label contents = "-----BEGIN ".toList ++ label.toList ++ "-----\n".toList
      ++ (bodyLines contents).flatMap (· ++ ['\n']) ++ "-----END ".toList ++ label.toList
      ++ "-----\n".toList := rfl
  rw [hwrite]
  simp only [encode_append]
  rw [hbegin, hend, hlabel, hdashes, hbody, boundary, boundary]
  simp only [List.append_assoc, List.cons_append, List.nil_append]

/-- The digits of a body are read again. -/
theorem decodeStream_bodyLines :
    Base64.decodeStream ((((bodyLines contents).map (·.map octet)).flatMap (· ++ [0x0A])).map
      fun b => Char.ofNat b.toNat) = some contents := by
  have hchars : (((bodyLines contents).map (·.map octet)).flatMap (· ++ [0x0A])).map
      (fun b => Char.ofNat b.toNat) = (bodyLines contents).flatMap (· ++ ['\n']) := by
    rw [List.map_flatMap, List.flatMap_map]
    refine List.flatMap_congr fun line hline => ?_
    rw [List.map_append, List.map_map]
    have hsame : line.map ((fun b => Char.ofNat b.toNat) ∘ octet) = line := by
      refine (List.map_congr_left fun c hc => ?_).trans (List.map_id line)
      have hhigh := (inert_of_mem_bodyLines hline hc).graphic.2
      rw [Function.comp_apply, toNat_octet (Nat.lt_trans hhigh (by decide)), Char.ofNat_toNat]
      rfl
    rw [hsame]
    rfl
  rw [hchars]
  refine Base64.decodeStream_of_filter contents ?_ ?_
  · intro hdash
    obtain ⟨line, hline, hdash⟩ := List.mem_flatMap.mp hdash
    rcases List.mem_append.mp hdash with hdash | hdash
    · exact (inert_of_mem_bodyLines hline hdash).ne_dash rfl
    · cases List.mem_singleton.mp hdash
  · rw [List.filter_flatMap]
    have hline : ∀ line ∈ bodyLines contents,
        (line ++ ['\n']).filter (fun c => !Base64.isGap c) = line := by
      intro line hline
      rw [List.filter_append, List.filter_eq_self.mpr]
      · simp [Base64.isGap]
      · intro c hc
        simp [(inert_of_mem_bodyLines hline hc).notGap]
    rw [List.flatMap_congr hline, List.flatMap_id']
    exact flatten_columns _

end Writing

section Runs

/-! ### The blocks of a text -/

theorem blocks_of_none {bs : Bytes} (h : next? bs = none) : blocks bs = [] := by
  rw [blocks]
  split
  · rfl
  · rename_i hsome
    rw [h] at hsome
    cases hsome
  · rename_i hsome
    rw [h] at hsome
    cases hsome

theorem blocks_of_malformed {bs rest : Bytes} (h : next? bs = some (.malformed rest)) :
    blocks bs = none :: blocks rest := by
  rw [blocks]
  split
  · rename_i hnone
    rw [h] at hnone
    cases hnone
  · rename_i hsome
    rw [h] at hsome
    cases hsome
    rfl
  · rename_i hsome
    rw [h] at hsome
    cases hsome

theorem blocks_of_block {bs rest : Bytes} {b : ArmourBlock} (h : next? bs = some (.block b rest)) :
    blocks bs = some b :: blocks rest := by
  rw [blocks]
  split
  · rename_i hnone
    rw [h] at hnone
    cases hnone
  · rename_i hsome
    rw [h] at hsome
    cases hsome
  · rename_i hsome
    rw [h] at hsome
    cases hsome
    rfl

@[simp] theorem blocks_nil : blocks [] = [] := by
  have hnext : next? [] = none := by
    rw [next?, findBegin]
    rfl
  exact blocks_of_none hnext

/-- The next block of a text from a line on that may be the first of all. -/
def begun (first : Bool) (bs : Bytes) : Option Outcome :=
  (findBegin first bs).map fun (label, rest) => readBlock label (within []) rest

/-- Octets that are put in armour are found again. A block without octets is none. -/
theorem begun_write (first : Bool) {label : String} (contents : Bytes)
    (hlabel : IsLabel (Bytes.ofLatin label)) (hascii : ∀ c ∈ label.toList, c.toNat < 0x80)
    (rest : Bytes) :
    begun first (Utf8.encode (write label contents) ++ rest)
      = some (if contents = [] then .malformed rest
          else .block ⟨Bytes.ofLatin label, [], contents⟩ rest) := by
  have hfinish (body : Bytes) (h : Base64.decodeStream (body.map fun b => Char.ofNat b.toNat)
      = some contents) : finish (Bytes.ofLatin label) [] body rest
        = if contents = [] then .malformed rest
          else .block ⟨Bytes.ofLatin label, [], contents⟩ rest := by
    rw [finish, h]
    cases contents <;> rfl
  have hlines : ∀ line ∈ (bodyLines contents).map (·.map octet), IsBodyLine line := by
    intro line hline
    obtain ⟨text, htext, rfl⟩ := List.mem_map.mp hline
    exact isBodyLine_map_octet htext
  rw [encode_write hascii, List.append_assoc, List.cons_append, List.append_assoc,
    List.append_assoc, List.singleton_append, begun, findBegin_boundary first hlabel,
    Option.map_some]
  dsimp only
  rw [readBlock_lines hlabel hlines, List.nil_append, hfinish _ decodeStream_bodyLines]

/-- Octets that are put in armour are read, and reading goes on behind them. -/
theorem blocks_write {label : String} {contents : Bytes} (hne : contents ≠ [])
    (hlabel : IsLabel (Bytes.ofLatin label)) (hascii : ∀ c ∈ label.toList, c.toNat < 0x80)
    (rest : Bytes) :
    blocks (Utf8.encode (write label contents) ++ rest)
      = some ⟨Bytes.ofLatin label, [], contents⟩ :: blocks rest := by
  have hnext := begun_write true contents hlabel hascii rest
  rw [if_neg hne] at hnext
  exact blocks_of_block hnext

end Runs

end Armour

end PeerTrust
