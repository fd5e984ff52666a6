import PeerTrust.Proofs.Base64Language
import PeerTrust.Proofs.Host.Language

/-!
# The texts that pins are read from

A pin is written as the word of its algorithm, a slash and the digest in base64, blanks around the
text and around the base64 ignored. Every such text is read as the pin, and a text that is no pin
makes the policy misconfigured. A text that is only taken for base64 is overlooked: it is read as a
pin too if the octets happen to be as many as a digest has.
-/

namespace PeerTrust

/-- A text is cut where the separator stands first. -/
theorem Text.splitOnce?_eq_some_iff {sep : Char} {text before after : List Char} :
    splitOnce? sep text = some (before, after)
      ↔ sep ∉ before ∧ text = before ++ sep :: after := by
  constructor
  · intro h
    induction text generalizing before with
    | nil => cases h
    | cons c rest ih =>
      rw [splitOnce?] at h
      split at h
      · next hc =>
        cases h
        exact ⟨List.not_mem_nil, by rw [hc]; rfl⟩
      · next hc =>
        obtain ⟨⟨front, after⟩, hrest, heq⟩ := Option.map_eq_some_iff.mp h
        cases heq
        obtain ⟨hfront, rfl⟩ := ih hrest
        exact ⟨mt List.mem_cons.mp (not_or.mpr ⟨Ne.symm hc, hfront⟩), rfl⟩
  · rintro ⟨hsep, rfl⟩
    induction before with
    | nil => exact if_pos rfl
    | cons c before ih =>
      obtain ⟨hc, hrest⟩ := not_or.mp (mt List.mem_cons.mpr hsep)
      rw [List.cons_append, splitOnce?, if_neg (Ne.symm hc), ih hrest]
      rfl

namespace DigestAlgorithm

theorem slash_not_mem_word (algorithm : DigestAlgorithm) : '/' ∉ algorithm.word.toList := by
  cases algorithm <;> decide

/-- A word names the algorithm that it is the word of. -/
theorem ofWord?_eq_some_iff {word : String} {algorithm : DigestAlgorithm} :
    ofWord? word = some algorithm ↔ word = algorithm.word := by
  constructor
  · intro h
    rw [ofWord?] at h
    have hword := List.find?_some h
    exact (of_decide_eq_true hword).symm
  · rintro rfl
    exact ofWord?_word algorithm

end DigestAlgorithm

namespace Pin

variable {s : String} {p q : Pin} {algorithm : DigestAlgorithm} {payload : List Char}

/-- A text is the word of an algorithm, a slash and a payload, the blanks around it left out. -/
def IsSpelled (s : String) (algorithm : DigestAlgorithm) (payload : List Char) : Prop :=
  Text.trim s.toList = algorithm.word.toList ++ '/' :: payload

/-- A pin as it is to be written: what follows the first slash is base64 for its digest. -/
def IsWritten (s : String) (p : Pin) : Prop :=
  ∃ payload, IsSpelled s p.algorithm payload ∧ Base64.IsText (Text.trim payload) p.hash

/-- A text that is no base64 for the digest behind the slash, but is taken for it: it has padding
elsewhere than once or twice at the end, or gaps and dashes that are passed over. -/
def IsOverlooked (s : String) (p : Pin) : Prop :=
  ∃ payload, IsSpelled s p.algorithm payload ∧ Base64.IsLooseText (Text.trim payload) p.hash
    ∧ ¬Base64.IsTidy (Text.trim payload)

theorem IsSpelled.unique {algorithm' : DigestAlgorithm} {payload' : List Char}
    (h : IsSpelled s algorithm payload) (h' : IsSpelled s algorithm' payload') :
    payload = payload' := by
  have hcut := Text.splitOnce?_eq_some_iff.mpr ⟨algorithm.slash_not_mem_word, h⟩
  have hcut' := Text.splitOnce?_eq_some_iff.mpr ⟨algorithm'.slash_not_mem_word, h'⟩
  exact (Prod.mk.inj (Option.some.inj (hcut.symm.trans hcut'))).2

theorem ofHash_hash (p : Pin) : ofHash p.algorithm p.hash = .ok p := by
  rw [ofHash, dif_pos p.length_hash]

theorem ofHash_eq_ok_iff {hash : Bytes} :
    ofHash algorithm hash = .ok p ↔ p.algorithm = algorithm ∧ p.hash = hash := by
  constructor
  · intro h
    rw [ofHash] at h
    split at h
    · cases h
      exact ⟨rfl, rfl⟩
    · cases h
  · rintro ⟨rfl, rfl⟩
    exact p.ofHash_hash

/-- A pin is read where its algorithm is named and its digest is taken from what follows. -/
theorem ofString_eq_ok_iff : ofString s = .ok p
    ↔ ∃ payload, IsSpelled s p.algorithm payload
      ∧ Base64.IsLooseText (Text.trim payload) p.hash := by
  unfold ofString IsSpelled
  dsimp only
  constructor
  · intro h
    split at h
    · cases h
    · next word payload hcut =>
      split at h
      · cases h
      · next algorithm hword =>
        split at h
        · cases h
        · next hash hread =>
          obtain ⟨rfl, rfl⟩ := ofHash_eq_ok_iff.mp h
          refine ⟨payload, ?_, Base64.decodeBlock_eq_some_iff.mp hread⟩
          rw [(Text.splitOnce?_eq_some_iff.mp hcut).2,
            ← DigestAlgorithm.ofWord?_eq_some_iff.mp hword, String.toList_ofList]
  · rintro ⟨payload, hspelled, hread⟩
    rw [hspelled, Text.splitOnce?_eq_some_iff.mpr ⟨p.algorithm.slash_not_mem_word, rfl⟩]
    dsimp only
    rw [String.ofList_toList, DigestAlgorithm.ofWord?_word]
    dsimp only
    rw [Base64.decodeBlock_eq_some_iff.mpr hread]
    exact p.ofHash_hash

/-- Whatever is read as a pin is written as one or overlooked. -/
theorem ofString_eq_ok_iff_or : ofString s = .ok p ↔ IsWritten s p ∨ IsOverlooked s p := by
  rw [ofString_eq_ok_iff, IsWritten, IsOverlooked, ← exists_or]
  refine exists_congr fun payload => ?_
  rw [Base64.isText_iff]
  tauto

/-- A text is not both written as a pin and overlooked. -/
theorem IsOverlooked.not_isWritten (h : IsOverlooked s p) : ¬IsWritten s q := by
  rintro ⟨payload, hspelled, htext⟩
  obtain ⟨payload', hspelled', -, htidy⟩ := h
  rw [hspelled'.unique hspelled] at htidy
  exact htidy (Base64.isText_iff.mp htext).2

theorem toList_text (p : Pin) :
    p.text.toList = p.algorithm.word.toList ++ '/' :: Base64.encode p.hash := by
  simp [text]

theorem not_blank_of_mem_text {p : Pin} {c : Char} (h : c ∈ p.text.toList) :
    Text.isBlank c = false := by
  rw [toList_text, List.mem_append, List.mem_cons] at h
  rcases h with h | rfl | h
  · have hword : p.algorithm.word.toList.any Text.isBlank = false := by
      cases p.algorithm <;> decide
    exact Bool.eq_false_iff.mpr (List.any_eq_false.mp hword c h)
  · decide
  · exact (Base64.inert_of_mem_encode h).notBlank

/-- The text of a pin is how it is to be written. -/
theorem isWritten_text (p : Pin) : IsWritten p.text p := by
  refine ⟨Base64.encode p.hash, ?_, ?_⟩
  · rw [IsSpelled, Text.trim_of_not_blank fun c => not_blank_of_mem_text, toList_text]
  · rw [Text.trim_of_not_blank fun c hc => (Base64.inert_of_mem_encode hc).notBlank]
    exact Base64.isText_encode p.hash

/-- The text of a pin is read as the pin. -/
theorem ofString_text (p : Pin) : ofString p.text = .ok p :=
  ofString_eq_ok_iff_or.mpr (.inl p.isWritten_text)

/-- Only before digests that fill whole groups anything but base64 is passed over. -/
theorem symbols_of_ofString (h : ofString s = .ok p) (halgorithm : p.algorithm ≠ .sha384) :
    ∃ payload, IsSpelled s p.algorithm payload
      ∧ ∀ c ∈ Text.trim payload, Base64.IsSymbol c := by
  obtain ⟨payload, hspelled, hread⟩ := ofString_eq_ok_iff.mp h
  have hrest : p.algorithm.size % 3 ≠ 0 := by
    revert halgorithm
    cases p.algorithm <;> decide
  exact ⟨payload, hspelled, hread.symbols (p.length_hash ▸ hrest)⟩

end Pin

/-- A fault of a pin is a fault of the policy that was to have it. -/
theorem Engine.ofConfig_of_pin_error {σ : Type} {s : String} {fault : Pin.Fault}
    (h : Pin.ofString s = .error fault) (around : Surroundings) {c : PolicyConfig}
    (hvariant : c.variant = .pinnedDigest) (hexpected : c.expected = some s) :
    ∃ cause, c.toPolicy.result = .error cause
      ∧ (ofConfig (σ := σ) around c).result = .error (.misconfigured cause) := by
  refine ofConfig_of_toPolicy_ne_ok (fun policy hpolicy => ?_) around
  obtain ⟨_, expected, _, p, -, hexpected', -, hp⟩ :=
    PolicyConfig.exists_of_toPolicy_pinnedDigest hvariant hpolicy
  cases hexpected.symm.trans hexpected'
  cases h.symm.trans hp

/-- A text is read as a pin exactly if it is written as that pin or overlooked, never both; so the
texts that are read are those that are written, unless one is overlooked. Before all digests but
those of whole groups only digits and padding can be overlooked. A text that is not read makes the
policy misconfigured. -/
theorem Pin.ofString_language {σ : Type} (s : String) :
    (∀ p, ofString s = .ok p ↔ IsWritten s p ∨ IsOverlooked s p)
    ∧ (∀ p q, IsOverlooked s p → ¬IsWritten s q)
    ∧ ((∀ p, ofString s = .ok p ↔ IsWritten s p) ↔ ¬∃ p, IsOverlooked s p)
    ∧ (∀ p, ofString s = .ok p → p.algorithm ≠ .sha384 →
      ∃ payload, IsSpelled s p.algorithm payload
        ∧ ∀ c ∈ Text.trim payload, Base64.IsSymbol c)
    ∧ ∀ fault, ofString s = .error fault →
      (∀ pattern q, HostPattern.ofString pattern = .ok q →
        TrustPolicy.ofDigestText pattern s = .error (.pin fault))
      ∧ ∀ around (c : PolicyConfig), c.variant = .pinnedDigest → c.expected = some s →
        ∃ cause, c.toPolicy.result = .error cause
          ∧ (Engine.ofConfig (σ := σ) around c).result = .error (.misconfigured cause) := by
  refine ⟨fun p => ofString_eq_ok_iff_or, fun p q => IsOverlooked.not_isWritten, ⟨?_, ?_⟩,
    fun p => symbols_of_ofString, fun fault hfault => ⟨fun pattern q hpattern => ?_,
      fun around c => Engine.ofConfig_of_pin_error hfault around⟩⟩
  · rintro h ⟨p, hp⟩
    exact hp.not_isWritten ((h p).mp (ofString_eq_ok_iff_or.mpr (.inr hp)))
  · intro hnone p
    rw [ofString_eq_ok_iff_or]
    exact or_iff_left fun hp => hnone ⟨p, hp⟩
  · rw [TrustPolicy.ofDigestText, hpattern, hfault]
    rfl

section Stray

/-! ### A text with padding in its middle -/

/-- A text with padding before its last two places is not how a pin is to be written. -/
theorem Pin.not_isWritten_of_stray {s : String} {algorithm : DigestAlgorithm} {payload : List Char}
    (hspelled : IsSpelled s algorithm payload)
    (hstray : '=' ∈ (Text.trim payload).take ((Text.trim payload).length - 2)) (p : Pin) :
    ¬IsWritten s p := by
  rintro ⟨payload', hspelled', htext⟩
  rw [← hspelled.unique hspelled'] at htext
  exact (Base64.isText_iff.mp htext).2.padding_not_mem_take hstray

/-- The pin that such a text is read as: the padding counts as four digits that are zero. -/
def Pin.stray : Pin :=
  ⟨.sha1, [0xD1, 0x45, 0xA2, 0x00, 0x00, 0x00, 0x39, 0xAE, 0xFA, 0xF2, 0x76, 0x22, 0xD8, 0xA0,
    0x08, 0x65, 0x1C, 0x4F, 0x7B, 0x84], rfl⟩

theorem Pin.ofString_stray : ofString "sha1/0UWi====Oa768nYi2KAIZRxPe4Q=" = .ok stray :=
  rfl

theorem Pin.isSpelled_stray : IsSpelled "sha1/0UWi====Oa768nYi2KAIZRxPe4Q=" .sha1
    "0UWi====Oa768nYi2KAIZRxPe4Q=".toList :=
  rfl

theorem HostPattern.ofString_subdomains : HostPattern.ofString "*.example.com"
    = .ok ⟨"*.example.com", .oneLabel "example.com".toList⟩ :=
  rfl

/-- The text of a pin is read and not overlooked, one with padding in its middle is overlooked, and
one with other characters is a fault of the policy. -/
theorem Pin.ofString_language_specimen :
    ∃ (written overlooked : Pin) (s : String) (around : Surroundings) (c : PolicyConfig)
      (cause : PolicyFault),
      ofString written.text = .ok written
      ∧ (∀ p, ¬IsOverlooked written.text p)
      ∧ ofString s = .ok overlooked ∧ IsOverlooked s overlooked ∧ ¬IsWritten s overlooked
      ∧ ¬(∀ p, ofString s = .ok p ↔ IsWritten s p)
      ∧ (∃ payload, IsSpelled s overlooked.algorithm payload
        ∧ ∀ c ∈ Text.trim payload, Base64.IsSymbol c)
      ∧ TrustPolicy.ofDigestText "*.example.com" "sha256/!!!"
        = .error (.pin (.notBase64 "sha256/!!!"))
      ∧ c.expected = some "sha256/!!!"
      ∧ (Engine.ofConfig (σ := Unit) around c).result = .error (.misconfigured cause) := by
  let around : Surroundings := ⟨.error "no store", fun _ _ => "no structure"⟩
  let c : PolicyConfig := ⟨.pinnedDigest, none, some "*.example.com", some "sha256/!!!", [], none,
    .release⟩
  have hfault : ofString "sha256/!!!" = .error (.notBase64 "sha256/!!!") := rfl
  have hstray (p : Pin) : ¬IsWritten "sha1/0UWi====Oa768nYi2KAIZRxPe4Q=" p :=
    not_isWritten_of_stray isSpelled_stray (by decide) p
  obtain ⟨hread, hapart, -, -, -⟩ := ofString_language (σ := Unit) stray.text
  obtain ⟨hreadStray, hapartStray, hexact, hsymbols, -⟩ :=
    ofString_language (σ := Unit) "sha1/0UWi====Oa768nYi2KAIZRxPe4Q="
  obtain ⟨-, -, -, -, hfaults⟩ := ofString_language (σ := Unit) "sha256/!!!"
  have hoverlooked := ((hreadStray stray).mp ofString_stray).resolve_left (hstray stray)
  obtain ⟨hpolicy, hengine⟩ := hfaults _ hfault
  obtain ⟨cause, -, hcause⟩ := hengine around c rfl rfl
  exact ⟨stray, stray, _, around, c, cause, (hread stray).mpr (.inl (isWritten_text stray)),
    fun p hp => hapart p stray hp (isWritten_text stray), ofString_stray, hoverlooked,
    hapartStray _ _ hoverlooked, fun h => hexact.mp h ⟨stray, hoverlooked⟩,
    hsymbols stray ofString_stray nofun, hpolicy _ _ HostPattern.ofString_subdomains, rfl, hcause⟩

/-- A text with padding in its middle makes a policy, though no pin is written so. -/
theorem Pin.ofString_padding_in_middle :
    ∃ p policy, ofString "sha1/0UWi====Oa768nYi2KAIZRxPe4Q=" = .ok p
      ∧ TrustPolicy.ofDigestText "*.example.com" "sha1/0UWi====Oa768nYi2KAIZRxPe4Q=" = .ok policy
      ∧ ∀ q, ¬IsWritten "sha1/0UWi====Oa768nYi2KAIZRxPe4Q=" q := by
  refine ⟨stray, .pinnedDigest ⟨"*.example.com", .oneLabel "example.com".toList⟩ stray,
    ofString_stray, ?_,
    not_isWritten_of_stray isSpelled_stray (by decide)⟩
  rw [TrustPolicy.ofDigestText, HostPattern.ofString_subdomains, ofString_stray]
  rfl

end Stray

end PeerTrust
