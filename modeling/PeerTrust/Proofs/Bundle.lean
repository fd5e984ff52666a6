import Mathlib.Data.List.DropRight
import PeerTrust.Proofs.Rereading

/-!
# Bundles of certificates among other text

A text may hold any number of certificates, with lines of other text before, between and behind
their blocks. Lines in which no block begins are skipped, also where they are so long that they are
read in pieces. So every block is found, in the order of the text, and either all of them are read
or the text is refused.
-/

namespace PeerTrust

namespace Armour

section Foreign

/-! ### Text outside blocks -/

variable {line rest : Bytes} {first : Bool}

/-- A line in which no block begins. -/
structure IsForeign (line : Bytes) : Prop where
  feed : 0x0A ∉ line
  mark : ¬beginMark <:+: line

theorem IsForeign.drop (h : IsForeign line) (n : Nat) : IsForeign (line.drop n) :=
  ⟨fun hmem => h.feed (List.mem_of_mem_drop hmem),
    fun hpart => h.mark (hpart.trans (List.drop_suffix n line).isInfix)⟩

theorem IsForeign.no_mark_take (h : IsForeign line) (n : Nat) : ¬beginMark <:+: line.take n :=
  fun hpart => h.mark (hpart.trans (List.take_prefix n line).isInfix)

theorem length_drop_lineLimit (hne : line ≠ []) : (line.drop lineLimit).length < line.length := by
  rw [List.length_drop]
  exact Nat.sub_lt (List.length_pos_of_ne_nil hne) (by decide)

/-- A piece of a line is what fits the limit; a shorter one is taken only where the text ends. -/
theorem cutLine_piece {limit : Nat} (hfeed : 0x0A ∉ line)
    (hlength : limit ≤ line.length ∨ rest = []) :
    cutLine limit (line ++ rest) = (line.take limit, line.drop limit ++ rest) := by
  induction line generalizing limit with
  | nil =>
    cases limit with
    | zero => simp [cutLine]
    | succ limit =>
      obtain rfl : rest = [] := hlength.resolve_left (Nat.not_succ_le_zero limit)
      rfl
  | cons b line ih =>
    cases limit with
    | zero => simp [cutLine]
    | succ limit =>
      obtain ⟨hb, hline⟩ := not_or.mp (mt List.mem_cons.mpr hfeed)
      rw [List.cons_append, cutLine, if_neg (Ne.symm hb),
        ih hline (hlength.imp_left Nat.le_of_succ_le_succ)]
      rfl

theorem dropMark_suffix (line : Bytes) : dropMark line <:+ line := by
  unfold dropMark
  split
  · exact ⟨[0xEF, 0xBB, 0xBF], rfl⟩
  · exact List.suffix_rfl

/-- A line without the mark of a block begins none, whatever is dropped from its ends. -/
theorem labelOf?_of_no_mark (h : ¬beginMark <:+: line) :
    labelOf? (trimLine (if first then dropMark line else line)) = none := by
  have hpart : trimLine (if first then dropMark line else line) <:+: line := by
    have htrim : trimLine (if first then dropMark line else line)
        <+: (if first then dropMark line else line) := List.rdropWhile_prefix isLineEnd _
    refine htrim.isInfix.trans ?_
    split
    · exact (dropMark_suffix line).isInfix
    · exact List.infix_rfl
  have hstart : beginMark.isPrefixOf (trimLine (if first then dropMark line else line)) = false := by
    rw [← Bool.not_eq_true, List.isPrefixOf_iff_prefix]
    exact fun hstarts => h (hstarts.isInfix.trans hpart)
  rw [labelOf?, afterStart?, hstart]
  rfl

/-- A line that begins no block is passed. -/
theorem findBegin_of_nextLine? {bs : Bytes} (hnext : nextLine? bs = some (line, rest))
    (h : ¬beginMark <:+: line) : findBegin first bs = findBegin false rest := by
  rw [findBegin]
  split
  · rename_i hnone
    rw [hnext] at hnone
    cases hnone
  · rename_i hsome
    rw [hnext] at hsome
    cases hsome
    rw [labelOf?_of_no_mark h]

/-- The line feed behind a line is no part of a mark. -/
theorem IsForeign.no_mark_feed (h : IsForeign line) : ¬beginMark <:+: line ++ [0x0A] := by
  have hfeed : 0x0A ∉ beginMark := by decide
  rw [List.infix_concat_iff, List.suffix_concat_iff]
  rintro ((hnil | ⟨front, hfront, -⟩) | hpart)
  · exact absurd hnil (by decide)
  · exact hfeed (hfront ▸ List.mem_append_right _ (List.mem_singleton_self _))
  · exact h.mark hpart

/-- The induction is on how long the line is, as one that is too long is read in pieces. -/
theorem findBegin_foreign (first : Bool) (h : IsForeign line) (rest : Bytes) :
    findBegin first (line ++ 0x0A :: rest) = findBegin false rest := by
  induction hn : line.length using Nat.strong_induction_on generalizing line first with
  | h n ih =>
    by_cases hshort : line.length < lineLimit
    · exact findBegin_of_nextLine? (nextLine?_line h.feed hshort) h.no_mark_feed
    · have hlong : lineLimit ≤ line.length := Nat.le_of_not_lt hshort
      have hpiece : nextLine? (line ++ 0x0A :: rest)
          = some (line.take lineLimit, line.drop lineLimit ++ 0x0A :: rest) := by
        have hne : (line ++ 0x0A :: rest).isEmpty = false := by simp
        rw [nextLine?, hne, cutLine_piece h.feed (.inl hlong)]
        rfl
      have hnil : line ≠ [] := by
        rintro rfl
        exact absurd hlong (by decide)
      rw [findBegin_of_nextLine? hpiece (h.no_mark_take _)]
      exact ih _ (hn ▸ length_drop_lineLimit hnil) false (h.drop _) rfl

/-- No block begins in the rest of a text that has no line feed. -/
theorem findBegin_last (first : Bool) (h : IsForeign line) : findBegin first line = none := by
  induction hn : line.length using Nat.strong_induction_on generalizing line first with
  | h n ih =>
    cases line with
    | nil =>
      rw [findBegin]
      rfl
    | cons b line =>
      have hpiece : nextLine? (b :: line)
          = some ((b :: line).take lineLimit, (b :: line).drop lineLimit) := by
        have hcut := @cutLine_piece (b :: line) [] lineLimit h.feed (.inr rfl)
        rw [List.append_nil, List.append_nil] at hcut
        rw [nextLine?, hcut]
        rfl
      rw [findBegin_of_nextLine? hpiece (h.no_mark_take _)]
      exact ih _ (hn ▸ length_drop_lineLimit (List.cons_ne_nil _ _)) false (h.drop _) rfl

/-- Lines in which no block begins are skipped. -/
theorem exists_findBegin_lines {lines : List Bytes} (h : ∀ line ∈ lines, IsForeign line)
    (first : Bool) (rest : Bytes) : ∃ first',
      findBegin first (lines.flatMap (· ++ [0x0A]) ++ rest) = findBegin first' rest := by
  induction lines generalizing first with
  | nil => exact ⟨first, rfl⟩
  | cons line lines ih =>
    obtain ⟨hline, hlines⟩ := List.forall_mem_cons.mp h
    obtain ⟨first', hfound⟩ := ih hlines false
    refine ⟨first', ?_⟩
    rw [List.flatMap_cons, List.append_assoc, List.append_assoc, List.singleton_append,
      findBegin_foreign first hline, hfound]

end Foreign

section Documents

/-! ### Texts with blocks -/

/-- The character of an octet. -/
def character (b : UInt8) : Char :=
  Char.ofNat b.toNat

theorem map_character_octet {text : List Char} (h : ∀ c ∈ text, c.toNat < 0x80) :
    (text.map octet).map character = text := by
  rw [List.map_map]
  refine (List.map_congr_left fun c hc => ?_).trans text.map_id
  rw [Function.comp_apply, character, toNat_octet (h c hc), Char.ofNat_toNat]
  rfl

/-- A line of printable text in which no block begins. -/
structure ProseLine where
  text : List Char
  printable : ∀ c ∈ text, 0x20 ≤ c.toNat ∧ c.toNat < 0x7F
  plain : ¬"-----BEGIN".toList <:+: text

theorem ProseLine.ascii (line : ProseLine) : ∀ c ∈ line.text, c.toNat < 0x80 :=
  fun c hc => Nat.lt_trans (line.printable c hc).2 (by decide)

/-- The mark of a block is made of its characters. -/
theorem ProseLine.isForeign (line : ProseLine) : IsForeign (line.text.map octet) := by
  refine ⟨fun hmem => ?_, fun hpart => ?_⟩
  · obtain ⟨c, hc, hfeed⟩ := List.mem_map.mp hmem
    have hvalue := congrArg UInt8.toNat hfeed
    rw [toNat_octet (line.ascii c hc)] at hvalue
    exact absurd (line.printable c hc).1 (by rw [hvalue]; decide)
  · have hmark : "-----BEGIN".toList <+: beginMark.map character := ⟨[' '], by decide⟩
    have hchars := hpart.map character
    rw [map_character_octet line.ascii] at hchars
    exact line.plain (hmark.isInfix.trans hchars)

/-- Lines of text, each with its line feed. -/
def prose (lines : List ProseLine) : List Char :=
  lines.flatMap fun line => line.text ++ ['\n']

theorem encode_prose (lines : List ProseLine) :
    Utf8.encode (prose lines)
      = (lines.map fun line => line.text.map octet).flatMap (· ++ [0x0A]) := by
  induction lines with
  | nil => rfl
  | cons line lines ih =>
    have hfeed : Utf8.encode ['\n'] = [0x0A] := by decide
    rw [prose, List.flatMap_cons, encode_append, encode_append, encode_of_ascii line.ascii, hfeed]
    exact congrArg _ ih

/-- Lines of text do not hide what begins behind them. -/
theorem exists_begun_prose (lines : List ProseLine) (first : Bool) (rest : Bytes) :
    ∃ first', begun first (Utf8.encode (prose lines) ++ rest) = begun first' rest := by
  have hforeign : ∀ line ∈ lines.map fun line => line.text.map octet, IsForeign line := by
    intro line hline
    obtain ⟨source, -, rfl⟩ := List.mem_map.mp hline
    exact source.isForeign
  obtain ⟨first', hfound⟩ := exists_findBegin_lines hforeign first rest
  exact ⟨first', by rw [encode_prose, begun, hfound, begun]⟩

/-- A text with blocks that hold certificates. -/
structure Document where
  /-- The octets of each block, with the lines of text in front of it. -/
  blocks : List (List ProseLine × Bytes)
  /-- The lines behind the last block. -/
  behind : List ProseLine
  /-- What stands behind the last line feed. -/
  last : ProseLine

namespace Document

/-- The label of certificates. -/
def label : String := "CERTIFICATE"

/-- The octets of the blocks in order. -/
def contents (doc : Document) : List Bytes :=
  doc.blocks.map (·.2)

/-- The text itself. -/
def text (doc : Document) : String :=
  String.ofList ((doc.blocks.flatMap fun (lines, contents) => prose lines ++ write label contents)
    ++ prose doc.behind ++ doc.last.text)

/-- A block as it is found; one without octets is malformed. -/
def found (contents : Bytes) : Option ArmourBlock :=
  if contents = [] then none else some ⟨Bytes.ofLatin label, [], contents⟩

/-- One block is found behind the lines in front of it. -/
theorem blocks_prose_write (lines : List ProseLine) (contents rest : Bytes) :
    Armour.blocks (Utf8.encode (prose lines ++ write label contents) ++ rest)
      = found contents :: Armour.blocks rest := by
  have hlabel : IsLabel (Bytes.ofLatin label) := ⟨by decide, by decide, by decide, by decide⟩
  have hascii : label.toList.all (·.toNat < 0x80) = true := by decide
  obtain ⟨first, hprose⟩ :=
    exists_begun_prose lines true (Utf8.encode (write label contents) ++ rest)
  have hnext : next? (Utf8.encode (prose lines ++ write label contents) ++ rest)
      = some (if contents = [] then .malformed rest
          else .block ⟨Bytes.ofLatin label, [], contents⟩ rest) := by
    rw [encode_append, List.append_assoc]
    exact hprose.trans (begun_write first contents hlabel
      (fun c hc => of_decide_eq_true (List.all_eq_true.mp hascii c hc)) rest)
  rw [found]
  split
  · rename_i hnil
    rw [if_pos hnil] at hnext
    exact blocks_of_malformed hnext
  · rename_i hne
    rw [if_neg hne] at hnext
    exact blocks_of_block hnext

/-- Text without blocks has none. -/
theorem blocks_prose (lines : List ProseLine) (last : ProseLine) :
    Armour.blocks (Utf8.encode (prose lines ++ last.text)) = [] := by
  obtain ⟨first, hprose⟩ := exists_begun_prose lines true (Utf8.encode last.text)
  refine blocks_of_none ?_
  rw [encode_append]
  refine hprose.trans ?_
  rw [encode_of_ascii last.ascii, begun, findBegin_last first last.isForeign, Option.map_none]

/-- The blocks of a document are found in order, and nothing else is. -/
theorem blocks_text (doc : Document) :
    Armour.blocks (Utf8.encodeString doc.text) = doc.contents.map found := by
  obtain ⟨blocks, behind, last⟩ := doc
  rw [Utf8.encodeString, text, String.toList_ofList, contents]
  induction blocks with
  | nil => exact blocks_prose behind last
  | cons block blocks ih =>
    obtain ⟨lines, contents⟩ := block
    rw [List.append_assoc, List.flatMap_cons, List.append_assoc, encode_append,
      blocks_prose_write lines contents, ← List.append_assoc, ih]
    rfl

end Document

end Documents

end Armour

namespace PeerCertificate

open Armour

variable {doc : Document} {c : PeerCertificate} {der : Bytes}

/-- The blocks of a document are read one after the other as certificates. -/
theorem certificates?_document (doc : Document) :
    certificates? (blocks (Utf8.encodeString doc.text))
      = doc.contents.mapM X509.Certificate.ofDer? := by
  rw [doc.blocks_text]
  induction doc.contents with
  | nil => rfl
  | cons contents rest ih =>
    have hlabel : labels.contains (Bytes.ofLatin Document.label) = true := by decide
    rw [List.map_cons, List.mapM_cons, Document.found]
    split
    · rename_i hnil
      rw [hnil]
      rfl
    · rw [certificates?, if_pos hlabel, ih]
      rfl

/-- Octets that the certificate they are read as is written as. -/
def IsOwnEncoding (der : Bytes) : Prop :=
  ∃ x, X509.Certificate.ofDer? der = some x ∧ x.write = der ∧ der.length < Bytes.writtenLimit

/-- Such octets are read alike whether they come as they stand or in armour. -/
theorem IsOwnEncoding.exists_ofWritten (h : IsOwnEncoding der) (hc : ofDer der = .ok c) :
    ∃ x, X509.Certificate.ofDer? der = some x ∧ ofWritten x = .ok c := by
  obtain ⟨x, hx, hwrite, hsize⟩ := h
  obtain ⟨y, hy, htaken⟩ := ofDer_eq_ok_iff.mp hc
  obtain rfl : x = y := Option.some.inj (hx.symm.trans hy)
  refine ⟨x, hx, ofWritten_eq_ok_iff.mpr ?_⟩
  rw [hwrite]
  exact ⟨hsize, htaken⟩

/-- The certificates of octets that are their own encodings, one for each. -/
theorem exists_certificates {ders : List Bytes}
    (h : ∀ der ∈ ders, (∃ c, ofDer der = .ok c) ∧ IsOwnEncoding der) :
    ∃ xs cs, ders.mapM X509.Certificate.ofDer? = some xs
      ∧ List.Forall₂ (fun x c => ofWritten x = .ok c) xs cs
      ∧ ders.map ofDer = cs.map .ok ∧ cs.map PeerCertificate.der = ders := by
  induction ders with
  | nil => exact ⟨[], [], rfl, .nil, rfl, rfl⟩
  | cons der ders ih =>
    obtain ⟨⟨⟨c, hc⟩, hown⟩, hrest⟩ := List.forall_mem_cons.mp h
    obtain ⟨x, hx, hwritten⟩ := hown.exists_ofWritten hc
    obtain ⟨xs, cs, hxs, hall, hread, hders⟩ := ih hrest
    have hder : c.der = der := by
      obtain ⟨y, -, htaken⟩ := ofDer_eq_ok_iff.mp hc
      exact der_of_ofX509 htaken
    refine ⟨x :: xs, c :: cs, mapM_cons_eq_some.mpr ⟨x, xs, hx, hxs, rfl⟩, .cons hwritten hall, ?_, ?_⟩
    · rw [List.map_cons, List.map_cons, hc, hread]
    · rw [List.map_cons, hder, hders]

/-- A certificate that can be taken over from armour can be taken over as it stands: what refuses it
is its key, not its octets. -/
theorem exists_ofDer_of_ofWritten {x : X509.Certificate}
    (hx : X509.Certificate.ofDer? der = some x) (hc : ofWritten x = .ok c) :
    ∃ c', ofDer der = .ok c' := by
  obtain ⟨-, htaken⟩ := ofWritten_eq_ok_iff.mp hc
  unfold ofX509 at htaken
  split at htaken
  · rename_i key hkey
    -- Neither the key nor the names come from the octets that are kept.
    refine ⟨⟨der, ⟨key⟩, x.body.subject.shown, x.body.issuer.shown, x.serialText⟩, ?_⟩
    rw [ofDer, hx]
    dsimp only
    rw [ofX509, hkey]
  · cases htaken

/-- A document that is read has blocks that are. -/
theorem exists_ofDer_of_bundle {cs : List PeerCertificate}
    (h : bundle (Utf8.encodeString doc.text) = .ok cs) (hder : der ∈ doc.contents) :
    ∃ c, ofDer der = .ok c := by
  obtain ⟨-, xs, hxs, hread⟩ := bundle_eq_ok_iff.mp h
  rw [certificates?_document] at hxs
  obtain ⟨x, hmem, hx⟩ := exists_item_of_mapM hxs hder
  obtain ⟨c, -, hc⟩ := exists_image_of_forall₂ hread hmem
  exact exists_ofDer_of_ofWritten hx hc

/-- The blocks of a document are found in order whatever printable text stands around them. If each
holds a certificate in its own encoding, the certificates of the bundle are those of the blocks, in
the same order and with the same octets, and the first of them is the certificate of the text. If
some block holds octets that are no certificate, there is a fault and no certificate at all,
whatever the other blocks hold. -/
theorem bundle_document (doc : Document) :
    (doc.contents ≠ [] →
      (∀ der ∈ doc.contents, (∃ c, ofDer der = .ok c) ∧ IsOwnEncoding der) →
      ∃ c cs, bundle (Utf8.encodeString doc.text) = .ok (c :: cs)
        ∧ doc.contents.map ofDer = (c :: cs).map .ok
        ∧ (c :: cs).map PeerCertificate.der = doc.contents
        ∧ ofArmour (Utf8.encodeString doc.text) = .ok c)
    ∧ ((∃ der ∈ doc.contents, ∃ fault, ofDer der = .error fault) →
      ∃ fault, bundle (Utf8.encodeString doc.text) = .error fault
        ∧ ofArmour (Utf8.encodeString doc.text) = .error fault) := by
  refine ⟨fun hne hall => ?_, ?_⟩
  · obtain ⟨xs, cs, hxs, hwritten, hread, hders⟩ := exists_certificates hall
    obtain ⟨c, cs, rfl⟩ : ∃ c rest, cs = c :: rest := by
      refine List.exists_cons_of_ne_nil ?_
      rintro rfl
      exact hne hders.symm
    have hbundle : bundle (Utf8.encodeString doc.text) = .ok (c :: cs) :=
      bundle_eq_ok_iff.mpr ⟨List.cons_ne_nil _ _, xs, (certificates?_document doc).trans hxs, hwritten⟩
    exact ⟨c, cs, hbundle, hread, hders, ofArmour_of_bundle hbundle⟩
  · rintro ⟨der, hder, fault, hfault⟩
    cases hbundle : bundle (Utf8.encodeString doc.text) with
    | error fault =>
      refine ⟨fault, rfl, ?_⟩
      rw [ofArmour, hbundle]
      rfl
    | ok cs =>
      obtain ⟨c, hc⟩ := exists_ofDer_of_bundle hbundle hder
      rw [hfault] at hc
      cases hc

/-- Two certificates behind a line that is read in pieces, and a certificate in front of a block that
holds none. -/
theorem bundle_document_specimen :
    ∃ (doc bad : Document) (a b : PeerCertificate),
      doc.contents = [Specimen.certificate [Utf8.encodeString "a"],
        Specimen.certificate [Utf8.encodeString "b"]]
      ∧ (∃ block ∈ doc.blocks, ∃ line ∈ block.1, lineLimit < line.text.length)
      ∧ bundle (Utf8.encodeString doc.text) = .ok [a, b]
      ∧ [a.der, b.der] = doc.contents
      ∧ ofArmour (Utf8.encodeString doc.text) = .ok a
      ∧ bad.contents
        = [Specimen.certificate [Utf8.encodeString "a"], Asn1.writePrimitive Asn1.tagNull []]
      ∧ ∃ fault, bundle (Utf8.encodeString bad.text) = .error fault := by
  let first := Specimen.certificate [Utf8.encodeString "a"]
  let second := Specimen.certificate [Utf8.encodeString "b"]
  let long : ProseLine := by
    refine ⟨List.replicate 300 '-', ?_, ?_⟩
    · intro c hc
      rw [List.eq_of_mem_replicate hc]
      decide
    · intro hpart
      have hmem : 'B' ∈ List.replicate 300 '-' := hpart.subset (by decide)
      exact absurd (List.eq_of_mem_replicate hmem) (by decide)
  let empty : ProseLine := ⟨[], nofun, by decide⟩
  let doc : Document := ⟨[([long], first), ([], second)], [long, empty], empty⟩
  let bad : Document :=
    ⟨[([], first), ([empty], Asn1.writePrimitive Asn1.tagNull [])], [], long⟩
  have hrun : ∀ der ∈ [first, second], (∃ c ∈ (ofDer der).toOption, c.der = der)
      ∧ ∃ x ∈ X509.Certificate.ofDer? der, x.write = der ∧ der.length < Bytes.writtenLimit := by
    decide +kernel
  have hall : ∀ der ∈ doc.contents, (∃ c, ofDer der = .ok c) ∧ IsOwnEncoding der := by
    intro der hder
    obtain ⟨⟨c, hc, -⟩, hown⟩ := hrun der hder
    exact ⟨⟨c, eq_ok_of_mem_toOption hc⟩, hown⟩
  obtain ⟨a, cs, hbundle, -, hders, hfirst⟩ :=
    (bundle_document doc).1 (List.cons_ne_nil _ _) hall
  obtain ⟨b, rfl⟩ : ∃ b, cs = [b] := by
    have hlength := congrArg List.length hders
    simp only [List.map_cons, List.length_cons, List.length_map, Document.contents, doc,
      List.length_nil, Nat.zero_add, Nat.add_right_cancel_iff] at hlength
    exact List.length_eq_one_iff.mp hlength
  obtain ⟨fault, hfault, -⟩ := (bundle_document bad).2
    ⟨Asn1.writePrimitive Asn1.tagNull [], by simp [Document.contents, bad], _,
      ofDer_null⟩
  have hlong : lineLimit < long.text.length := by
    change lineLimit < (List.replicate 300 '-').length
    rw [List.length_replicate]
    decide
  exact ⟨doc, bad, a, b, rfl, ⟨_, List.mem_cons_self, long, List.mem_cons_self, hlong⟩, hbundle,
    hders, hfirst, rfl, fault, hfault⟩

end PeerCertificate

end PeerTrust
