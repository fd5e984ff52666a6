import PeerTrust.Proofs.EntryPoints
import PeerTrust.Proofs.Host.Rule

/-!
# The language of host patterns

Which texts are host patterns and which hosts each of them covers, said of the normal forms of both
alone. A suffix with one asterisk in front covers less than with two, and so does the suffix itself.

Only ASCII letters have a lower case here, and blanks are taken off before dots are, once each: a
blank behind which dots stood is part of the normal form.
-/

namespace PeerTrust

/-- What is not dropped at the end of a text is not dropped at the end of a longer one. -/
theorem Text.dropEndWhile_append {α : Type} {p : α → Bool} (front : List α) {text : List α}
    (hne : text ≠ []) (hkept : dropEndWhile p text = text) :
    dropEndWhile p (front ++ text) = front ++ text := by
  refine List.rdropWhile_eq_self_iff.mpr fun hwhole => ?_
  rw [List.getLast_append_of_ne_nil hwhole hne]
  exact List.rdropWhile_eq_self_iff.mp hkept hne

/-- A text that is its own normal form has no blanks around it, no dots at its end and no capitals. -/
theorem normalHost_eq_self {text : List Char} (h : normalHost text = text) :
    Text.dropEndWhile Text.isBlank text = text ∧ Text.dropEndWhile (· = '.') text = text
      ∧ Text.lowerAscii text = text := by
  -- Each step to the normal form takes something off or nothing, and here the lengths agree.
  have hblanks : Text.trim text <:+: text :=
    (List.rdropWhile_prefix _ _).isInfix.trans (List.dropWhile_suffix _).isInfix
  have hdots : Text.dropEndWhile (· = '.') (Text.trim text) <+: Text.trim text :=
    List.rdropWhile_prefix _ _
  have hlength : (Text.dropEndWhile (· = '.') (Text.trim text)).length = text.length := by
    conv_rhs => rw [← h]
    rw [normalHost, Text.lowerAscii, List.length_map]
  have htrim : Text.trim text = text :=
    hblanks.eq_of_length_le (hlength.symm.trans_le hdots.length_le)
  rw [htrim] at hdots hlength
  have hdrop : Text.dropEndWhile (· = '.') text = text := hdots.eq_of_length hlength
  refine ⟨?_, hdrop, ?_⟩
  · have hagain := List.rdropWhile_idempotent Text.isBlank (text.dropWhile Text.isBlank)
    change Text.dropEndWhile Text.isBlank (Text.trim text) = Text.trim text at hagain
    rwa [htrim] at hagain
  · rw [normalHost, htrim, hdrop] at h
    exact h

/-- Characters in lower case put in front of a normal form, with no blank first, make another. -/
theorem normalHost_append {front text : List Char} (h : normalHost text = text) (hne : text ≠ [])
    (hfront : front ≠ []) (hhead : Text.isBlank (front.head hfront) = false)
    (hlower : Text.lowerAscii front = front) : normalHost (front ++ text) = front ++ text := by
  obtain ⟨hblanks, hdots, hletters⟩ := normalHost_eq_self h
  have hstart : (front ++ text).dropWhile Text.isBlank = front ++ text := by
    cases front with
    | nil => exact absurd rfl hfront
    | cons c front => exact List.dropWhile_cons_of_neg (by simpa using hhead)
  rw [normalHost, Text.trim, hstart, Text.dropEndWhile_append front hne hblanks,
    Text.dropEndWhile_append front hne hdots, Text.lowerAscii, List.map_append]
  exact congrArg₂ (· ++ ·) hlower hletters

namespace HostRule

variable {form : List Char} {rule : HostRule}

/-- A normal form spells a rule if it is not empty and its asterisks, where it has any, make one of
the two wildcards over a suffix. -/
theorem exists_spelled_iff : (∃ rule, Spelled form rule) ↔ form ≠ [] ∧ ('*' ∉ form
    ∨ ∃ suffix, suffix ≠ [] ∧ '*' ∉ suffix
      ∧ (form = '*' :: '.' :: suffix ∨ form = '*' :: '*' :: '.' :: suffix)) := by
  have hplain {suffix : List Char} :
      HostPattern.isPlainSuffix suffix = true ↔ suffix ≠ [] ∧ '*' ∉ suffix := by
    simp [HostPattern.isPlainSuffix]
  constructor
  · rintro ⟨rule, hspelled⟩
    cases hspelled with
    | exact hne hstar => exact ⟨hne, .inl hstar⟩
    | oneLabel h =>
      obtain ⟨hne, hstar⟩ := hplain.mp h
      exact ⟨List.cons_ne_nil _ _, .inr ⟨_, hne, hstar, .inl rfl⟩⟩
    | anyDepth h =>
      obtain ⟨hne, hstar⟩ := hplain.mp h
      exact ⟨List.cons_ne_nil _ _, .inr ⟨_, hne, hstar, .inr rfl⟩⟩
  · rintro ⟨hne, hstar | ⟨suffix, hsuffix, hstar, rfl | rfl⟩⟩
    · exact ⟨_, .exact hne hstar⟩
    · exact ⟨_, .oneLabel (hplain.mpr ⟨hsuffix, hstar⟩)⟩
    · exact ⟨_, .anyDepth (hplain.mpr ⟨hsuffix, hstar⟩)⟩

/-- A form without an asterisk spells the one host that it is. -/
theorem Spelled.eq_exact (h : Spelled form rule) (hstar : '*' ∉ form) : rule = .exact form := by
  cases h with
  | exact => rfl
  | oneLabel | anyDepth => exact absurd List.mem_cons_self hstar

theorem Spelled.eq_oneLabel {suffix : List Char} (h : Spelled ('*' :: '.' :: suffix) rule) :
    rule = .oneLabel suffix := by
  cases h with
  | exact _ hstar => exact absurd List.mem_cons_self hstar
  | oneLabel => rfl

theorem Spelled.eq_anyDepth {suffix : List Char} (h : Spelled ('*' :: '*' :: '.' :: suffix) rule) :
    rule = .anyDepth suffix := by
  cases h with
  | exact _ hstar => exact absurd List.mem_cons_self hstar
  | anyDepth => rfl

theorem Spelled.ne_nil (h : Spelled form rule) : form ≠ [] :=
  (exists_spelled_iff.mp ⟨rule, h⟩).1

/-- A suffix behind one asterisk holds no other. -/
theorem Spelled.plain_of_oneLabel {suffix : List Char} (h : Spelled ('*' :: '.' :: suffix) rule) :
    '*' ∉ suffix := by
  cases h with
  | exact _ hstar => exact absurd List.mem_cons_self hstar
  | oneLabel hplain =>
    simp only [HostPattern.isPlainSuffix, Bool.and_eq_true, Bool.not_eq_true',
      List.contains_eq_mem, decide_eq_false_iff_not] at hplain
    exact hplain.2

/-- A form spells one rule only. -/
theorem Spelled.unique {other : HostRule} (h : Spelled form rule) (h' : Spelled form other) :
    rule = other := by
  cases h with
  | exact _ hstar => exact (h'.eq_exact hstar).symm
  | oneLabel => exact h'.eq_oneLabel.symm
  | anyDepth => exact h'.eq_anyDepth.symm

/-- Two asterisks cover what one covers. -/
theorem covers_anyDepth_of_oneLabel {suffix host : List Char}
    (h : (oneLabel suffix).covers host = true) : (anyDepth suffix).covers host = true := by
  obtain ⟨label, hne, -, hhost⟩ := covers_oneLabel_iff.mp h
  exact covers_anyDepth_iff.mpr (.inr ⟨label, hne, hhost⟩)

/-- One asterisk does not cover the suffix behind it, which is shorter than what it covers. -/
theorem covers_oneLabel_self (suffix : List Char) : (oneLabel suffix).covers suffix = false := by
  refine Bool.eq_false_iff.mpr fun h => ?_
  obtain ⟨label, -, -, hhost⟩ := covers_oneLabel_iff.mp h
  have hlength := congrArg List.length hhost
  rw [List.length_append, List.length_cons] at hlength
  omega

end HostRule

namespace HostPattern

open HostRule

variable {s t : String} {p : HostPattern} {host : String}

/-- A text is a pattern when its normal form spells a rule. -/
theorem exists_ofString_iff :
    (∃ p, ofString s = .ok p) ↔ ∃ rule, Spelled (normalHost s.toList) rule := by
  constructor
  · rintro ⟨p, hp⟩
    exact ⟨p.rule, (ofString_eq_ok_iff.mp hp).2⟩
  · rintro ⟨rule, hspelled⟩
    exact ⟨⟨_, rule⟩, ofString_eq_ok_iff.mpr ⟨rfl, hspelled⟩⟩

/-- Texts with one normal form are patterns with one rule. -/
theorem rule_eq_of_normalHost {q : HostPattern} (h : normalHost s.toList = normalHost t.toList)
    (hp : ofString s = .ok p) (hq : ofString t = .ok q) : p.rule = q.rule := by
  have hspelled := (ofString_eq_ok_iff.mp hp).2
  rw [h] at hspelled
  exact hspelled.unique (ofString_eq_ok_iff.mp hq).2

/-- A wildcard in front of a text in normal form is in normal form, if the two are a pattern. -/
theorem spelled_wildcard {wild : String} (h : normalHost s.toList = s.toList)
    (hwild : wild = "*." ∨ wild = "**.") (hp : ofString (wild ++ s) = .ok p) :
    s.toList ≠ [] ∧ Spelled (wild.toList ++ s.toList) p.rule := by
  have hspelled := (ofString_eq_ok_iff.mp hp).2
  rw [String.toList_append] at hspelled
  have hne : s.toList ≠ [] := by
    intro hnil
    rw [hnil] at hspelled
    -- The dot of the wildcard is dropped, and asterisks are left that are no wildcard.
    have hbare (rule : HostRule) : ¬Spelled ['*'] rule ∧ ¬Spelled ['*', '*'] rule := by
      constructor <;> rintro ⟨_, hstar⟩ <;> exact hstar List.mem_cons_self
    rcases hwild with rfl | rfl
    · exact (hbare _).1 hspelled
    · exact (hbare _).2 hspelled
  refine ⟨hne, ?_⟩
  rcases hwild with rfl | rfl
  · rwa [normalHost_append h hne (by decide) (by decide) (by decide)] at hspelled
  · rwa [normalHost_append h hne (by decide) (by decide) (by decide)] at hspelled

/-- Two asterisks make a pattern of every plain text in normal form. -/
theorem exists_anyDepth (h : normalHost s.toList = s.toList) (hne : s.toList ≠ [])
    (hstar : '*' ∉ s.toList) :
    ∃ q, ofString ("**." ++ s) = .ok q ∧ q.rule = .anyDepth s.toList := by
  have hform : normalHost ("**." ++ s).toList = '*' :: '*' :: '.' :: s.toList := by
    rw [String.toList_append]
    exact normalHost_append h hne (by decide) (by decide) (by decide)
  have hplain : isPlainSuffix s.toList = true := by
    simpa [isPlainSuffix] using And.intro hne hstar
  exact ⟨⟨_, .anyDepth s.toList⟩, ofString_eq_ok_iff.mpr ⟨rfl, hform ▸ .anyDepth hplain⟩, rfl⟩

/-- What one asterisk before a text in normal form covers, two cover, and the text is not among it. -/
theorem oneLabel_below_anyDepth (h : normalHost s.toList = s.toList)
    (hp : ofString ("*." ++ s) = .ok p) : p.covers s = false
      ∧ ∃ q, ofString ("**." ++ s) = .ok q
        ∧ ∀ host, p.covers host = true → q.covers host = true := by
  obtain ⟨hne, hspelled⟩ := spelled_wildcard h (.inl rfl) hp
  have hrule : p.rule = .oneLabel s.toList := hspelled.eq_oneLabel
  obtain ⟨q, hq, hdeep⟩ := exists_anyDepth h hne hspelled.plain_of_oneLabel
  refine ⟨?_, q, hq, fun host hcovers => ?_⟩
  · rw [covers, hrule, h]
    exact covers_oneLabel_self _
  · rw [covers, hrule] at hcovers
    rw [covers, hdeep]
    exact covers_anyDepth_of_oneLabel hcovers

/-- What a plain text in normal form covers, two asterisks before it cover as well. -/
theorem exact_below_anyDepth (h : normalHost s.toList = s.toList) (hstar : '*' ∉ s.toList)
    (hp : ofString s = .ok p) : ∃ q, ofString ("**." ++ s) = .ok q
      ∧ ∀ host, p.covers host = true → q.covers host = true := by
  have hspelled := (ofString_eq_ok_iff.mp hp).2
  rw [h] at hspelled
  have hrule := hspelled.eq_exact hstar
  obtain ⟨q, hq, hdeep⟩ := exists_anyDepth h hspelled.ne_nil hstar
  refine ⟨q, hq, fun host hcovers => ?_⟩
  rw [covers, hrule] at hcovers
  rw [covers, hdeep]
  exact covers_anyDepth_iff.mpr (.inl (eq_of_beq hcovers))

end HostPattern

/-- A member that must be there is, and is not blank. -/
theorem PolicyConfig.required_eq_ok_iff {member s : String} {text : Option String} :
    required member text = .ok s ↔ text = some s ∧ Text.trim s.toList ≠ [] := by
  cases text with
  | none => simp [required]
  | some t =>
    simp only [required, List.isEmpty_iff]
    split
    · next hblank =>
      refine iff_of_false nofun ?_
      rintro ⟨⟨⟩, hne⟩
      exact hne hblank
    · next hne =>
      constructor
      · rintro ⟨⟩
        exact ⟨rfl, hne⟩
      · rintro ⟨⟨⟩, -⟩
        rfl

/-- A policy with a pin on a digest is built from a pattern and a pin that can be read. -/
theorem PolicyConfig.exists_of_toPolicy_pinnedDigest {c : PolicyConfig} {policy : TrustPolicy}
    (hvariant : c.variant = .pinnedDigest) (h : c.toPolicy.result = .ok policy) :
    ∃ hostname expected pattern pin, c.hostname = some hostname ∧ c.expected = some expected
      ∧ HostPattern.ofString hostname = .ok pattern ∧ Pin.ofString expected = .ok pin := by
  rw [toPolicy, hvariant] at h
  obtain ⟨hostname, hhostname, h⟩ := bind_eq_ok_iff.mp h
  obtain ⟨expected, hexpected, h⟩ := bind_eq_ok_iff.mp h
  obtain ⟨pattern, hpattern, h⟩ := bind_eq_ok_iff.mp h
  obtain ⟨pin, hpin, -⟩ := bind_eq_ok_iff.mp h
  exact ⟨hostname, expected, pattern, pin, (required_eq_ok_iff.mp hhostname).1,
    (required_eq_ok_iff.mp hexpected).1, mapError_eq_ok_iff.mp hpattern, mapError_eq_ok_iff.mp hpin⟩

/-- Where no policy can be built, an engine is not either, and the configuration is at fault. -/
theorem Engine.ofConfig_of_toPolicy_ne_ok {σ : Type} {c : PolicyConfig}
    (h : ∀ policy, c.toPolicy.result ≠ .ok policy) (around : Surroundings) :
    ∃ cause, c.toPolicy.result = .error cause
      ∧ (ofConfig (σ := σ) around c).result = .error (.misconfigured cause) := by
  cases hread : c.toPolicy.result with
  | ok policy => exact absurd hread (h policy)
  | error cause => exact ⟨cause, rfl, ofConfig_of_error hread⟩

/-- A fault of a pattern is a fault of the policy that was to have it. -/
theorem Engine.ofConfig_of_host_error {σ : Type} {s : String} {fault : HostPattern.Fault}
    (h : HostPattern.ofString s = .error fault) (around : Surroundings) {c : PolicyConfig}
    (hvariant : c.variant = .pinnedDigest) (hhost : c.hostname = some s) :
    ∃ cause, c.toPolicy.result = .error cause
      ∧ (ofConfig (σ := σ) around c).result = .error (.misconfigured cause) := by
  refine ofConfig_of_toPolicy_ne_ok (fun policy hpolicy => ?_) around
  obtain ⟨hostname, _, p, _, hhostname, -, hp, -⟩ :=
    PolicyConfig.exists_of_toPolicy_pinnedDigest hvariant hpolicy
  cases hhost.symm.trans hhostname
  cases h.symm.trans hp

/-- A text is a host pattern exactly if its normal form is not empty and holds no asterisk, or is one
or two asterisks and a dot before a suffix that is not empty and holds none; any other text makes
the policy misconfigured. A form without asterisk covers the hosts of that form, one asterisk those
with one label before the suffix, two the suffix and those with anything before it. So the normal
forms of pattern and host are all that counts. Before a text in normal form two asterisks cover what
one covers and what the text covers, and one does not cover the text. -/
theorem HostPattern.covers_language {σ : Type} (s : String) :
    ((∃ p, ofString s = .ok p) ↔ normalHost s.toList ≠ [] ∧ ('*' ∉ normalHost s.toList
      ∨ ∃ suffix, suffix ≠ [] ∧ '*' ∉ suffix
        ∧ (normalHost s.toList = '*' :: '.' :: suffix
          ∨ normalHost s.toList = '*' :: '*' :: '.' :: suffix)))
    ∧ (∀ fault, ofString s = .error fault →
      (∀ algorithm hash, TrustPolicy.ofDigest s algorithm hash = .error (.host fault))
      ∧ (∀ pin, TrustPolicy.ofDigestText s pin = .error (.host fault))
      ∧ ∀ around (c : PolicyConfig), c.variant = .pinnedDigest → c.hostname = some s →
        ∃ cause, c.toPolicy.result = .error cause
          ∧ (Engine.ofConfig (σ := σ) around c).result = .error (.misconfigured cause))
    ∧ (∀ p, ofString s = .ok p → ∀ host : String,
      ('*' ∉ normalHost s.toList →
        (p.covers host = true ↔ normalHost host.toList = normalHost s.toList))
      ∧ ∀ suffix,
        (normalHost s.toList = '*' :: '.' :: suffix →
          (p.covers host = true ↔ ∃ label, label ≠ [] ∧ '.' ∉ label
            ∧ normalHost host.toList = label ++ '.' :: suffix))
        ∧ (normalHost s.toList = '*' :: '*' :: '.' :: suffix →
          (p.covers host = true ↔ normalHost host.toList = suffix
            ∨ ∃ labels, labels ≠ [] ∧ normalHost host.toList = labels ++ '.' :: suffix)))
    ∧ (∀ t : String, normalHost s.toList = normalHost t.toList →
      ((∃ p, ofString s = .ok p) ↔ ∃ q, ofString t = .ok q)
      ∧ ∀ p q, ofString s = .ok p → ofString t = .ok q →
        ∀ a b : String, normalHost a.toList = normalHost b.toList → p.covers a = q.covers b)
    ∧ (normalHost s.toList = s.toList → ∀ p,
      (ofString ("*." ++ s) = .ok p → p.covers s = false)
      ∧ (ofString ("*." ++ s) = .ok p ∨ '*' ∉ s.toList ∧ ofString s = .ok p →
        ∃ q, ofString ("**." ++ s) = .ok q
          ∧ ∀ host, p.covers host = true → q.covers host = true)) := by
  refine ⟨exists_ofString_iff.trans HostRule.exists_spelled_iff, fun fault hfault => ?_,
    fun p hp host => ?_, fun t hform => ⟨?_, fun p q hp hq a b hhosts => ?_⟩,
    fun hnormal p => ⟨fun hp => (oneLabel_below_anyDepth hnormal hp).1, ?_⟩⟩
  · refine ⟨fun algorithm hash => ?_, fun pin => ?_,
      fun around c => Engine.ofConfig_of_host_error hfault around⟩
    · rw [TrustPolicy.ofDigest, hfault]
      rfl
    · rw [TrustPolicy.ofDigestText, hfault]
      rfl
  · have hspelled := (ofString_eq_ok_iff.mp hp).2
    refine ⟨fun hstar => ?_, fun suffix => ⟨fun hform => ?_, fun hform => ?_⟩⟩
    · rw [covers, hspelled.eq_exact hstar]
      exact beq_iff_eq
    · rw [hform] at hspelled
      rw [covers, hspelled.eq_oneLabel]
      exact HostRule.covers_oneLabel_iff
    · rw [hform] at hspelled
      rw [covers, hspelled.eq_anyDepth]
      exact HostRule.covers_anyDepth_iff
  · rw [exists_ofString_iff, exists_ofString_iff, hform]
  · rw [covers, covers, rule_eq_of_normalHost hform hp hq, hhosts]
  · rintro (hp | ⟨hstar, hp⟩)
    · exact (oneLabel_below_anyDepth hnormal hp).2
    · exact exact_below_anyDepth hnormal hstar hp

/-- A suffix with repeated parts: one asterisk before it covers a host one label below, however that
is spelled, two cover the suffix as well, and a host whose name only ends like the suffix is covered
by neither. -/
theorem HostPattern.covers_language_specimen :
    ∃ one two : HostPattern,
      ofString "*.co.co" = .ok one ∧ ofString "**.co.co" = .ok two
      ∧ one.covers " A.co.CO.. " = true ∧ one.covers "co.co" = false
      ∧ one.covers "co.co.co.co" = false
      ∧ two.covers " A.co.CO.. " = true ∧ two.covers "co.co" = true
      ∧ two.covers "bco.co" = false
      ∧ (∀ pin, TrustPolicy.ofDigestText "*.*.co" pin
        = .error (.host (.invalidWildcard "*.*.co"))) := by
  have hone : ofString "*.co.co" = .ok ⟨"*.co.co", .oneLabel "co.co".toList⟩ := rfl
  have htwo : ofString "**.co.co" = .ok ⟨"**.co.co", .anyDepth "co.co".toList⟩ := rfl
  have hnone : ofString "*.*.co" = .error (.invalidWildcard "*.*.co") := rfl
  have hforms : normalHost " A.co.CO.. ".toList = "a".toList ++ '.' :: "co.co".toList := by decide
  obtain ⟨-, -, hcoversOne, -, -⟩ := covers_language (σ := Unit) "*.co.co"
  obtain ⟨-, -, hcoversTwo, -, -⟩ := covers_language (σ := Unit) "**.co.co"
  obtain ⟨-, hfaults, -, -, -⟩ := covers_language (σ := Unit) "*.*.co"
  obtain ⟨-, -, -, -, hbelow⟩ := covers_language (σ := Unit) "co.co"
  have hlabel := ((hcoversOne _ hone " A.co.CO.. ").2 "co.co".toList).1 (by decide)
  have hdepth (host : String) := ((hcoversTwo _ htwo host).2 "co.co".toList).2 (by decide)
  refine ⟨_, _, hone, htwo, hlabel.mpr ⟨"a".toList, by decide, by decide, hforms⟩,
    (hbelow (by decide) _).1 hone, rfl,
    (hdepth _).mpr (.inr ⟨"a".toList, by decide, hforms⟩), (hdepth _).mpr (.inl (by decide)),
    rfl, (hfaults _ hnone).2.1⟩

end PeerTrust
