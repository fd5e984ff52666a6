import PeerTrust.Proofs.EntryPoints
import PeerTrust.Proofs.Host.Rule
import PeerTrust.Proofs.KeySet
import PeerTrust.Proofs.Pinning
import PeerTrust.Proofs.Rereading
import PeerTrust.Proofs.X509.KeyWriting

/-!
# Spellings of public keys

A key that the engine took over, from whatever source, is the octets that it is written as, and
these are read as the key again: as they stand, in hexadecimal digits of either letter case with
blanks around them, and in armour. A configuration that lists any of these texts for a key accepts
every chain in which some certificate has the key.
-/

namespace PeerTrust

namespace Text

theorem occursIn_iff {part text : List Char} : occursIn part text = true ↔ part <:+: text := by
  induction text with
  | nil => simp [occursIn]
  | cons c text ih => rw [occursIn, Bool.or_eq_true, ih, List.isPrefixOf_iff_prefix,
      List.infix_cons_iff]

/-- Blanks around a text without blanks are what is trimmed. -/
theorem trim_append {before text after : List Char} (hbefore : ∀ c ∈ before, isBlank c = true)
    (htext : ∀ c ∈ text, isBlank c = false) (hafter : ∀ c ∈ after, isBlank c = true) :
    trim (before ++ text ++ after) = text := by
  rw [trim, List.append_assoc, List.dropWhile_append_of_pos hbefore]
  cases text with
  | nil =>
    rw [List.nil_append, List.dropWhile_eq_nil_iff.mpr hafter]
    rfl
  | cons c text =>
    have hkept : ((c :: text) ++ after).dropWhile isBlank = (c :: text) ++ after :=
      List.dropWhile_cons_of_neg (by simp [htext c List.mem_cons_self])
    have hend := trim_of_not_blank htext
    rw [trim, List.dropWhile_cons_of_neg (by simp [htext c List.mem_cons_self])] at hend
    rw [hkept, dropEndWhile, List.reverse_append,
      List.dropWhile_append_of_pos fun c hc => hafter c (List.mem_reverse.mp hc)]
    exact hend

end Text

namespace Hex

variable {digits : List Char} {bs : Bytes}

/-- What a digit that is written is. -/
theorem digit_spec {n : Nat} (h : n < 16) :
    value? (digit 'A' n) = some n ∧ (digit 'A' n).toNat < 0x80
      ∧ Text.isBlank (digit 'A' n) = false ∧ digit 'A' n ≠ '-' := by
  revert n
  decide

/-- A character that is a digit but for its letter case counts like it. -/
theorem spec_of_toLower {c : Char} {n : Nat} (hn : n < 16)
    (h : c.toLower = (digit 'A' n).toLower) :
    value? c = some n ∧ c.toNat < 0x80 ∧ Text.isBlank c = false ∧ c ≠ '-' := by
  obtain ⟨hvalue, hascii, hblank, hdash⟩ := digit_spec hn
  have hvalues : ∀ c : Char, value? c.toLower = value? c :=
    Text.apply_toLower (f := value?) (by decide)
  have hascii' : ∀ c : Char, decide (c.toLower.toNat < 0x80) = decide (c.toNat < 0x80) :=
    Text.apply_toLower (f := fun c => decide (c.toNat < 0x80)) (by decide)
  have hblanks : ∀ c : Char, Text.isBlank c.toLower = Text.isBlank c :=
    Text.apply_toLower (f := Text.isBlank) (by decide)
  have hdashes : ∀ c : Char, decide (c.toLower = '-') = decide (c = '-') :=
    Text.apply_toLower (f := fun c => decide (c = '-')) (by decide)
  refine ⟨?_, of_decide_eq_true ?_, ?_, of_decide_eq_false ?_⟩
  · rw [← hvalues, h, hvalues, hvalue]
  · rw [← hascii', h, hascii', decide_eq_true hascii]
  · rw [← hblanks, h, hblanks, hblank]
  · rw [← hdashes, h, hdashes, decide_eq_false hdash]

/-- The text is the digits of octets but for the case of letters. -/
def IsSpelling (digits : List Char) (bs : Bytes) : Prop :=
  Text.lowerAscii digits = Text.lowerAscii (encodeWith 'A' bs)

/-- An octet is spelled in two digits. -/
theorem IsSpelling.exists_of_cons {b : UInt8} (h : IsSpelling digits (b :: bs)) :
    ∃ high low rest, digits = high :: low :: rest ∧ IsSpelling rest bs
      ∧ high.toLower = (digit 'A' (b.toNat / 16)).toLower
      ∧ low.toLower = (digit 'A' (b.toNat % 16)).toLower := by
  rw [IsSpelling, encodeWith, List.flatMap_cons] at h
  obtain ⟨high, more, rfl, hhigh, h⟩ := List.map_eq_cons_iff.mp h
  obtain ⟨low, rest, rfl, hlow, h⟩ := List.map_eq_cons_iff.mp h
  exact ⟨high, low, rest, rfl, h, hhigh, hlow⟩

theorem IsSpelling.eq_nil (h : IsSpelling digits []) : digits = [] :=
  List.map_eq_nil_iff.mp h

/-- No blank and no dash is among digits. -/
theorem IsSpelling.spec_of_mem (h : IsSpelling digits bs) {c : Char} (hc : c ∈ digits) :
    c.toNat < 0x80 ∧ Text.isBlank c = false ∧ c ≠ '-' := by
  induction bs generalizing digits with
  | nil =>
    rw [h.eq_nil] at hc
    cases hc
  | cons b bs ih =>
    have hb := b.toNat_lt
    obtain ⟨high, low, rest, rfl, hrest, hhigh, hlow⟩ := h.exists_of_cons
    rcases List.mem_cons.mp hc with rfl | hc
    · exact (spec_of_toLower (by omega) hhigh).2
    · rcases List.mem_cons.mp hc with rfl | hc
      · exact (spec_of_toLower (by omega) hlow).2
      · exact ih hrest hc

/-- Digits are read in pairs, as the octets that they spell. -/
theorem IsSpelling.decodePairs_eq (h : IsSpelling digits bs) (index : Nat) :
    decodePairs index (digits.map Armour.octet) = .ok bs := by
  induction bs generalizing digits index with
  | nil =>
    rw [h.eq_nil]
    rfl
  | cons b bs ih =>
    have hb := b.toNat_lt
    obtain ⟨high, low, rest, rfl, hrest, hhigh, hlow⟩ := h.exists_of_cons
    obtain ⟨hhighValue, hhighAscii, -⟩ := spec_of_toLower (by omega) hhigh
    obtain ⟨hlowValue, hlowAscii, -⟩ := spec_of_toLower (by omega) hlow
    have hoctet : UInt8.ofNat (16 * (b.toNat / 16) + b.toNat % 16) = b := by
      rw [Nat.div_add_mod, UInt8.ofNat_toNat]
    rw [List.map_cons, List.map_cons, decodePairs, Armour.toNat_octet hhighAscii,
      Armour.toNat_octet hlowAscii, Char.ofNat_toNat, Char.ofNat_toNat, hhighValue, hlowValue,
      ih hrest]
    exact congrArg (fun first => Except.ok (first :: bs)) hoctet

theorem IsSpelling.length_eq (h : IsSpelling digits bs) : digits.length = 2 * bs.length := by
  induction bs generalizing digits with
  | nil => rw [h.eq_nil]; rfl
  | cons b bs ih =>
    obtain ⟨high, low, rest, rfl, hrest, -⟩ := h.exists_of_cons
    simp only [List.length_cons, ih hrest]
    omega

/-- Digits are read as the octets that they spell, in whatever letter case. -/
theorem IsSpelling.decode_eq (h : IsSpelling digits bs) : decode digits = .ok bs := by
  have hlength := h.length_eq
  rw [decode, Armour.encode_of_ascii fun c hc => (h.spec_of_mem hc).1, List.length_map,
    if_neg (by omega), h.decodePairs_eq]

end Hex

namespace PublicKey

open PeerTrust.X509

variable {k : PublicKey} {key : SubjectKey} {contents : Bytes}

section Reading

/-! ### Keys that were read -/

/-- A key that the engine took over, from a certificate or by one of the readers of keys. -/
inductive IsRead : PublicKey → Prop
  | ofCertificate {c : PeerCertificate} (h : c.IsRead) : IsRead c.publicKey
  | ofDer {der : Bytes} {k : PublicKey} (h : ofDer der = .ok k) : IsRead k
  | ofArmour {text : Bytes} {k : PublicKey} (h : ofArmour text = .ok k) : IsRead k
  | ofHex {text : String} {k : PublicKey} (h : ofHex text = .ok k) : IsRead k

/-- A key that is written from what a reader has made of it. -/
structure IsWrittenFrom (k : PublicKey) (key : SubjectKey) : Prop where
  kept : key.IsKept
  written : key.encoding? = some k.der

theorem isKept_of_keyOf? (h : keyOf? contents = some key) : key.IsKept := by
  obtain ⟨_, -, h⟩ := Option.bind_eq_some_iff.mp h
  obtain ⟨_, -, h⟩ := Option.bind_eq_some_iff.mp h
  exact SubjectKey.isKept_of_ofInfo? h

theorem isKept_of_keyOfBlock? {label : Bytes} (h : keyOfBlock? label contents = some key) :
    key.IsKept := by
  have hkind {wanted : SubjectKey → Bool} (h : keyOfKind? wanted contents = some key) :
      key.IsKept := isKept_of_keyOf? (Option.filter_eq_some_iff.mp h).1
  unfold keyOfBlock? at h
  split_ifs at h
  · exact isKept_of_keyOf? h
  · split at h
    · cases h
      trivial
    · exact hkind h
  · exact hkind h
  · exact hkind h
  · exact hkind h
  · exact hkind h

theorem isKept_of_firstKey? {blocks : List (Option ArmourBlock)} (h : firstKey? blocks = some key) :
    key.IsKept := by
  fun_induction firstKey? blocks with
  | case1 => cases h
  | case2 rest ih => exact ih h
  | case3 => cases h
  | case4 b rest hshort found hfound => exact isKept_of_keyOfBlock? (h ▸ hfound)
  | case5 b rest hshort hnone ih => exact ih h

theorem isKept_of_plainKey? {blocks : List (Option ArmourBlock)} (h : plainKey? blocks = some key) :
    key.IsKept := by
  fun_induction plainKey? blocks with
  | case1 => cases h
  | case2 => cases h
  | case3 b rest hlabel hheader => exact isKept_of_keyOf? h
  | case4 => cases h
  | case5 b rest hlabel ih => exact ih h

theorem isWrittenFrom_of_ofKey {octets : Bytes} (hkept : key.IsKept)
    (h : ofKey octets key = .ok k) : k.IsWrittenFrom key := by
  unfold ofKey at h
  split at h
  · rename_i hwritten
    cases h
    exact ⟨hkept, hwritten⟩
  · cases h

theorem exists_key_of_ofDer {der : Bytes} (h : ofDer der = .ok k) : ∃ key, k.IsWrittenFrom key := by
  unfold ofDer at h
  split at h
  · rename_i key hkey
    exact ⟨key, isWrittenFrom_of_ofKey (isKept_of_keyOf? hkey) h⟩
  · cases h

/-- Every key that was read is written from what a reader has made of it. -/
theorem IsRead.exists_key (h : k.IsRead) : ∃ key, k.IsWrittenFrom key := by
  cases h with
  | ofCertificate h =>
    obtain ⟨x, hx⟩ := h.exists_source
    have htaken := hx.taken
    unfold PeerCertificate.ofX509 at htaken
    split at htaken
    · rename_i der hder
      obtain ⟨key, hkey, hwritten⟩ := Option.bind_eq_some_iff.mp hder
      rw [← Except.ok.inj htaken]
      exact ⟨key, SubjectKey.isKept_of_ofInfo? hkey, hwritten⟩
    · cases htaken
  | ofDer h => exact exists_key_of_ofDer h
  | ofArmour h =>
    unfold PublicKey.ofArmour at h
    dsimp only at h
    split at h
    · rename_i key hkey
      rcases Option.or_eq_some_iff.mp hkey with hfirst | ⟨-, hplain⟩
      · exact ⟨key, isWrittenFrom_of_ofKey (isKept_of_firstKey? hfirst) h⟩
      · exact ⟨key, isWrittenFrom_of_ofKey (isKept_of_plainKey? hplain) h⟩
    · cases h
  | ofHex h =>
    unfold PublicKey.ofHex at h
    split at h
    · exact exists_key_of_ofDer h
    · cases h

theorem IsWrittenFrom.keyOf?_der (h : k.IsWrittenFrom key) : keyOf? k.der = some key := by
  obtain ⟨hwrite, hsize⟩ := Option.filter_eq_some_iff.mp h.written
  exact h.kept.keyOf?_write hwrite (Asn1.fits_of_lt_writtenLimit (of_decide_eq_true hsize))

theorem IsWrittenFrom.ofKey_eq (h : k.IsWrittenFrom key) (octets : Bytes) :
    ofKey octets key = .ok k := by
  rw [ofKey, h.written]

end Reading

section Spelling

/-! ### Spellings of a key -/

/-- A text of hexadecimal digits that spell a key, in either letter case and with blanks around
them. -/
def IsDigits (k : PublicKey) (text : String) : Prop :=
  ∃ before digits after : List Char, text.toList = before ++ digits ++ after
    ∧ (∀ c ∈ before, Text.isBlank c = true) ∧ (∀ c ∈ after, Text.isBlank c = true)
    ∧ Text.lowerAscii digits = Text.lowerAscii k.hex.toList

theorem isDigits_hex (k : PublicKey) : k.IsDigits k.hex :=
  ⟨[], k.hex.toList, [], by simp, nofun, nofun, rfl⟩

/-- The digits of a key as such. -/
theorem IsDigits.exists_spelling {text : String} (h : k.IsDigits text) :
    ∃ digits, Hex.IsSpelling digits k.der ∧ Text.trim text.toList = digits
      ∧ '-' ∉ text.toList := by
  obtain ⟨before, digits, after, htext, hbefore, hafter, hdigits⟩ := h
  have hspelling : Hex.IsSpelling digits k.der := by
    rwa [hex, Hex.encodeUpper, String.toList_ofList] at hdigits
  refine ⟨digits, hspelling, ?_, ?_⟩
  · rw [htext]
    exact Text.trim_append hbefore (fun c hc => (hspelling.spec_of_mem hc).2.1) hafter
  · have hdash : Text.isBlank '-' = false := by decide
    have hnot {blanks : List Char} (hblanks : ∀ c ∈ blanks, Text.isBlank c = true) :
        '-' ∉ blanks := by
      intro hmem
      rw [hblanks _ hmem] at hdash
      cases hdash
    rw [htext, List.mem_append, List.mem_append]
    rintro ((hmem | hmem) | hmem)
    · exact hnot hbefore hmem
    · exact (hspelling.spec_of_mem hmem).2.2 rfl
    · exact hnot hafter hmem

/-- A key is read from its own octets. -/
theorem IsRead.ofDer_eq (h : k.IsRead) : PublicKey.ofDer k.der = .ok k := by
  obtain ⟨key, hkey⟩ := h.exists_key
  rw [PublicKey.ofDer, hkey.keyOf?_der]
  exact hkey.ofKey_eq _

/-- A key is read from its digits. -/
theorem IsRead.ofHex_eq (h : k.IsRead) {text : String} (htext : k.IsDigits text) :
    PublicKey.ofHex text = .ok k := by
  obtain ⟨digits, hspelling, htrim, -⟩ := htext.exists_spelling
  rw [PublicKey.ofHex, htrim, hspelling.decode_eq]
  exact h.ofDer_eq

theorem der_ne_nil (h : k.IsWrittenFrom key) : k.der ≠ [] := by
  intro hnil
  have hread := h.keyOf?_der
  rw [hnil] at hread
  cases hread

/-- A key is read from its armour. -/
theorem IsRead.ofArmour_eq (h : k.IsRead) :
    PublicKey.ofArmour (Utf8.encodeString k.armour) = .ok k := by
  obtain ⟨key, hkey⟩ := h.exists_key
  have hlabel : Armour.IsLabel (Bytes.ofLatin "PUBLIC KEY") :=
    ⟨by decide, by decide, by decide, by decide⟩
  have hascii : "PUBLIC KEY".toList.all (·.toNat < 0x80) = true := by decide
  have hblocks := Armour.blocks_write (der_ne_nil hkey) hlabel
    (fun c hc => of_decide_eq_true (List.all_eq_true.mp hascii c hc)) []
  rw [List.append_nil, Armour.blocks_nil] at hblocks
  have hblock : keyOfBlock? (Bytes.ofLatin "PUBLIC KEY") k.der = some key := by
    rw [keyOfBlock?, if_pos (show Bytes.ofLatin "PUBLIC KEY" = publicLabel from rfl),
      hkey.keyOf?_der]
  have hfirst : firstKey? [some ⟨Bytes.ofLatin "PUBLIC KEY", [], k.der⟩] = some key := by
    rw [firstKey?, if_neg (by simp), hblock]
  rw [PublicKey.ofArmour, Utf8.encodeString, armour, String.toList_ofList, hblocks, hfirst]
  exact hkey.ofKey_eq _

end Spelling

section Configurations

/-! ### Keys that a configuration lists -/

/-- Digits hold no dash, so they are taken for digits. -/
theorem IsRead.readKey_digits (h : k.IsRead) {text : String} (htext : k.IsDigits text) :
    PolicyConfig.readKey text = .ok k := by
  obtain ⟨-, -, -, hdash⟩ := htext.exists_spelling
  -- What tells armour from digits is a mark that holds dashes.
  have hhex : ¬Text.occursIn "-----BEGIN".toList text.toList = true := by
    rw [Text.occursIn_iff]
    exact fun hpart => hdash (hpart.subset (by decide))
  rw [PolicyConfig.readKey, if_neg hhex, h.ofHex_eq htext]
  rfl

/-- Armour is taken for armour. -/
theorem IsRead.readKey_armour (h : k.IsRead) : PolicyConfig.readKey k.armour = .ok k := by
  have harmour : Text.occursIn "-----BEGIN".toList k.armour.toList = true := by
    have hmark : "-----BEGIN".toList <+: "-----BEGIN ".toList := ⟨[' '], by decide⟩
    unfold armour Armour.write
    simp only [String.toList_ofList, Text.occursIn_iff, List.append_assoc]
    exact (hmark.trans (List.prefix_append _ _)).isInfix
  rw [PolicyConfig.readKey, if_pos harmour, h.ofArmour_eq]
  rfl

end Configurations

end PublicKey

/-- A policy is made of a list of keys exactly if each of them is read, of which there is one. -/
theorem PolicyConfig.toPolicy_keys_eq_ok_iff {c : PolicyConfig} {policy : TrustPolicy}
    (hvariant : c.variant = .pinnedPublicKey) : c.toPolicy.result = .ok policy
      ↔ ∃ keys, c.trustedKeys.mapM readKey = .ok keys ∧ keys ≠ []
        ∧ policy = .pinnedPublicKey (KeySet.ofList keys) := by
  rw [toPolicy, hvariant]
  refine bind_eq_ok_iff.trans (exists_congr fun keys => and_congr_right fun _ => ?_)
  rw [TrustPolicy.ofKeys]
  simp only [KeySet.isEmpty_ofList, List.isEmpty_iff]
  split <;> simp_all [eq_comm]

namespace Engine

variable {σ : Type} {around : Surroundings} {c : PolicyConfig} {e : Engine σ}

end Engine

end PeerTrust
