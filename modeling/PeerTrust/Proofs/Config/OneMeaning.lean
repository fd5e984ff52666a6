import PeerTrust.Engine
import PeerTrust.Proofs.Config.Meaning

/-!
# An object has one meaning as a configuration

What an object says of a configuration is settled by its members, not by how the text spells them.
The order of the members makes no difference, nor do members with other names, whatever their
values, nor whether a text that is not there is left out or given as null. A member that comes twice
spoils the object, so none can override another.

Texts that are no JSON objects are not considered.
-/

namespace PeerTrust.PolicyConfig

open PeerTrust.Json

/-- The members that are texts that may be missing. -/
def Member.optional : List Member :=
  [authority, hostname, expected, anchors]

/-- Objects that say the same of a configuration: their members differ by order only, by members
with other names, or by texts that are null in one and not there in the other. -/
inductive Same : List (List Piece × Value) → List (List Piece × Value) → Prop
  | perm {members others : List (List Piece × Value)} (h : members.Perm others) :
    Same members others
  | other {members : List (List Piece × Value)} {x : List Piece × Value} {name : String}
    (hname : nameOf? x = some name) (hother : name ∉ Member.all.map Member.name) :
    Same members (x :: members)
  | null {members : List (List Piece × Value)} {x : List Piece × Value} {m : Member}
    (hm : m ∈ Member.optional) (hname : nameOf? x = some m.name) (hvalue : x.2 = .null)
    (habsent : ∀ y ∈ members, nameOf? y ≠ some m.name) : Same members (x :: members)
  | symm {members others : List (List Piece × Value)} (h : Same members others) :
    Same others members
  | trans {members others more : List (List Piece × Value)} (h : Same members others)
    (h' : Same others more) : Same members more

variable {d d' : Draft} {m m' : Member} {x y : List Piece × Value} {v v' : Value}
  {members others : List (List Piece × Value)}

section Names

/-! ### Names of members -/

theorem Member.ofName?_eq_some_iff {name : String} :
    Member.ofName? name = some m ↔ name = m.name := by
  constructor
  · intro h
    have hname := List.find?_some h
    exact (of_decide_eq_true hname).symm
  · rintro rfl
    cases m <;> decide

/-- What a member of an object adds, by its name: nothing, the value of the member that the name is
for, or a fault. -/
theorem take?_cases (x : List Piece × Value) :
    (∀ d : Draft, d.take? x = none) ∨ (∀ d : Draft, d.take? x = some d) ∨
      ∃ m : Member, nameOf? x = some m.name ∧
        ∀ d : Draft, d.take? x = if d.has m then none else (m.update? x.2).map (· d) := by
  unfold Draft.take?
  cases hname : nameOf? x with
  | none => exact .inl fun _ => rfl
  | some name =>
    cases hmember : Member.ofName? name with
    | none => exact .inr (.inl fun d => by rw [Option.bind_some, hmember])
    | some m =>
      refine .inr (.inr ⟨m, ?_, fun d => by rw [Option.bind_some, hmember]⟩)
      rw [Member.ofName?_eq_some_iff.mp hmember]

theorem Draft.take?_of_name (h : nameOf? x = some m.name) (d : Draft) :
    d.take? x = if d.has m then none else (m.update? x.2).map (· d) := by
  rw [take?, h, Option.bind_some, Member.ofName?_eq_some_iff.mpr rfl]

/-- A member with another name than the known ones leaves a draft as it is. -/
theorem Draft.take?_of_other {name : String} (h : nameOf? x = some name)
    (hother : name ∉ Member.all.map Member.name) (d : Draft) : d.take? x = some d := by
  have hnone : Member.ofName? name = none := by
    rw [Option.eq_none_iff_forall_ne_some]
    intro m hm
    refine hother (List.mem_map.mpr ⟨m, ?_, (Member.ofName?_eq_some_iff.mp hm).symm⟩)
    cases m <;> decide
  rw [take?, h, Option.bind_some, hnone]

end Names

section Order

/-! ### The order of members -/

/-- What a value says for a member is what the draft has then, beside what it had. -/
theorem Member.has_update {f : Draft → Draft} (h : m.update? v = some f) (d : Draft) :
    (f d).has m = true ∧ ∀ m' ≠ m, (f d).has m' = d.has m' := by
  constructor
  · cases m <;> obtain ⟨_, -, rfl⟩ := Option.map_eq_some_iff.mp h <;> rfl
  · intro m' hne
    cases m <;> obtain ⟨_, -, rfl⟩ := Option.map_eq_some_iff.mp h <;> cases m' <;>
      first
      | rfl
      | exact absurd rfl hne

/-- What values say for different members may be added in either order. -/
theorem Member.update_comm {f g : Draft → Draft} (hne : m ≠ m') (hf : m.update? v = some f)
    (hg : m'.update? v' = some g) (d : Draft) : g (f d) = f (g d) := by
  cases m <;> obtain ⟨_, -, rfl⟩ := Option.map_eq_some_iff.mp hf <;>
    cases m' <;> obtain ⟨_, -, rfl⟩ := Option.map_eq_some_iff.mp hg <;>
      first
      | rfl
      | exact absurd rfl hne

/-- Members may come in either order. Two with one name are a fault in both. -/
theorem add_comm (d : Option Draft) (x y : List Piece × Value) :
    add (add d x) y = add (add d y) x := by
  cases d with
  | none => rfl
  | some d =>
    change (d.take? x).bind (·.take? y) = (d.take? y).bind (·.take? x)
    rcases take?_cases x with hx | hx | ⟨m, -, hx⟩ <;>
      rcases take?_cases y with hy | hy | ⟨m', -, hy⟩
    case inr.inr.inr.inr =>
      simp only [hx, hy]
      cases hf : m.update? x.2 with
      | none => by_cases h : d.has m <;> by_cases h' : d.has m' <;> simp [h, h']
      | some f =>
        cases hg : m'.update? y.2 with
        | none => by_cases h : d.has m <;> by_cases h' : d.has m' <;> simp [h, h']
        | some g =>
          obtain ⟨hfm, hfother⟩ := m.has_update hf d
          obtain ⟨hgm, hgother⟩ := m'.has_update hg d
          by_cases hsame : m = m'
          · subst hsame
            by_cases h : d.has m <;> simp [h, hfm, hgm]
          · have hcomm := Member.update_comm hsame hf hg d
            have hf' := hfother m' (Ne.symm hsame)
            have hg' := hgother m hsame
            by_cases h : d.has m <;> by_cases h' : d.has m' <;> simp [h, h', hf', hg', hcomm]
    all_goals simp [hx, hy]

/-- The order of the members makes no difference. -/
theorem meaning?_perm (h : members.Perm others) : meaning? members = meaning? others := by
  rw [meaning?, meaning?, h.foldl_eq' fun x _ y _ d => add_comm d x y]

end Order

section Members

/-! ### Members that make no difference -/

/-- Members with other names make no difference. -/
theorem meaning?_other {name : String} (hname : nameOf? x = some name)
    (hother : name ∉ Member.all.map Member.name) (members : List (List Piece × Value)) :
    meaning? (x :: members) = meaning? members := by
  rw [meaning?, List.foldl_cons, add, Option.bind_some, Draft.take?_of_other hname hother]
  rfl

/-- What has been read lacks the members that no name is for. -/
theorem has_of_foldl_add (habsent : ∀ y ∈ members, nameOf? y ≠ some m.name)
    (h : members.foldl add (some d) = some d') : d'.has m = d.has m := by
  induction members generalizing d with
  | nil =>
    cases h
    rfl
  | cons x members ih =>
    obtain ⟨hx, habsent⟩ := List.forall_mem_cons.mp habsent
    rw [List.foldl_cons, add, Option.bind_some] at h
    cases htake : d.take? x with
    | none =>
      rw [htake, foldl_add_none] at h
      cases h
    | some middle =>
      rw [htake] at h
      rw [ih habsent h]
      rcases take?_cases x with hnone | hsame | ⟨m', hname, hput⟩
      · rw [hnone] at htake
        cases htake
      · rw [hsame] at htake
        cases htake
        rfl
      · rw [hput] at htake
        split at htake
        · cases htake
        · obtain ⟨f, hf, rfl⟩ := Option.map_eq_some_iff.mp htake
          refine (m'.has_update hf d).2 m ?_
          rintro rfl
          exact hx hname

/-- A text that is null is as good as none. -/
theorem finish?_update_null {f : Draft → Draft} (hm : m ∈ Member.optional)
    (hf : m.update? .null = some f) (habsent : d.has m = false) : (f d).finish? = d.finish? := by
  simp only [Member.optional, List.mem_cons, List.not_mem_nil, or_false] at hm
  rcases hm with rfl | rfl | rfl | rfl <;> cases hf <;>
    simp only [Draft.has, Option.isSome_eq_false_iff, Option.isNone_iff_eq_none] at habsent <;>
      simp [Draft.finish?, habsent]

/-- A text that is not there may be given as null. -/
theorem meaning?_null (hm : m ∈ Member.optional) (hname : nameOf? x = some m.name)
    (hvalue : x.2 = .null) (habsent : ∀ y ∈ members, nameOf? y ≠ some m.name) :
    meaning? (x :: members) = meaning? members := by
  rw [meaning?_perm (List.perm_append_singleton x members).symm, meaning?, meaning?,
    List.foldl_append]
  cases hfold : members.foldl add (some Draft.empty) with
  | none => rfl
  | some d =>
    have hnew : d.has m = false := by
      rw [has_of_foldl_add habsent hfold]
      cases m <;> rfl
    obtain ⟨f, hf⟩ : ∃ f, m.update? .null = some f := by
      simp only [Member.optional, List.mem_cons, List.not_mem_nil, or_false] at hm
      rcases hm with rfl | rfl | rfl | rfl <;> exact ⟨_, rfl⟩
    change (d.take? x).bind _ = _
    rw [Draft.take?_of_name hname, hnew, hvalue, hf]
    exact finish?_update_null hm hf hnew

end Members

section Repetition

/-! ### Members that come twice -/

/-- A member that has been added is refused. -/
theorem add_add_of_name (hx : nameOf? x = some m.name) (hy : nameOf? y = some m.name)
    (d : Option Draft) : add (add d x) y = none := by
  cases d with
  | none => rfl
  | some d =>
    change (d.take? x).bind (·.take? y) = none
    simp only [Draft.take?_of_name hx, Draft.take?_of_name hy]
    by_cases h : d.has m
    · simp [h]
    · cases hf : m.update? x.2 with
      | none => simp [h]
      | some f => simp [h, (m.has_update hf d).1]

/-- An object in which a known member comes twice is no configuration. -/
theorem meaning?_of_twice (h : 2 ≤ (members.filter (nameOf? · = some m.name)).length) :
    meaning? members = none := by
  have hperm := List.filter_append_perm (fun x => decide (nameOf? x = some m.name)) members
  generalize hfound : members.filter (nameOf? · = some m.name) = found at h hperm
  match found, h with
  | x :: y :: more, _ =>
    have hname : ∀ z ∈ x :: y :: more, nameOf? z = some m.name := by
      rw [← hfound]
      intro z hz
      exact of_decide_eq_true (List.mem_filter.mp hz).2
    rw [← meaning?_perm hperm, meaning?, List.cons_append, List.cons_append, List.foldl_cons,
      List.foldl_cons, add_add_of_name (hname x (by simp)) (hname y (by simp)), foldl_add_none]
    rfl

end Repetition

theorem Same.meaning?_eq (h : Same members others) : meaning? members = meaning? others := by
  induction h with
  | perm h => exact meaning?_perm h
  | other hname hother => exact (meaning?_other hname hother _).symm
  | null hm hname hvalue habsent => exact (meaning?_null hm hname hvalue habsent).symm
  | symm _ ih => exact ih.symm
  | trans _ _ ih ih' => exact ih.trans ih'

/-- A text of an object is read as the configuration that the members make, however it is laid out
and spelled. Objects that say the same are read as the same configuration, or both as none. An
object in which a known member comes twice is a fault, whatever its values. -/
theorem ofJson_one_meaning {σ : Type} :
    (∀ members s, SpellsObject members s → ∀ c, ofJson s = .ok c ↔ meaning? members = some c) ∧
    (∀ members others s s', SpellsObject members s → SpellsObject others s' → Same members others →
      ∀ c, ofJson s = .ok c ↔ ofJson s' = .ok c) ∧
    ∀ members s (m : Member), SpellsObject members s →
      2 ≤ (members.filter (nameOf? · = some m.name)).length →
        ∃ fault, ofJson s = .error fault ∧
          ∀ around, Engine.ofJson (σ := σ) around s = ⟨.error (.json fault), []⟩ := by
  have hread (members s) (h : SpellsObject members s) (c) :
      ofJson s = .ok c ↔ meaning? members = some c := by
    rw [← toOption_eq_some_iff, toOption_ofJson h]
  refine ⟨hread, ?_, ?_⟩
  · intro members others s s' hs hs' hsame c
    rw [hread members s hs, hread others s' hs', hsame.meaning?_eq]
  · intro members s m hs htwice
    have hnone := toOption_ofJson hs
    rw [meaning?_of_twice htwice, toOption_eq_none_iff] at hnone
    obtain ⟨fault, hfault⟩ := hnone
    refine ⟨fault, hfault, fun around => ?_⟩
    rw [Engine.ofJson, hfault]

/-- A member of an object whose key is plain, with the same blanks around all its parts. -/
def entryOf (blank : List Char) (key : String) (value : Value) (text : List Char) : Entry :=
  ⟨blank, key.toList.map .char, key.toList, blank, ⟨blank, value, text, blank⟩⟩

/-- A member whose value is a plain string. -/
def wordEntry (blank : List Char) (key word : String) : Entry :=
  entryOf blank key (.string (word.toList.map .char)) ('"' :: (word.toList ++ ['"']))

theorem entryOf_spells {blank text : List Char} {key : String} {value : Value}
    (hblank : IsBlank blank) (hkey : isPlain key.toList = true) (hvalue : Spells value text) :
    (entryOf blank key value text).IsSpaced ∧ Spells value text :=
  ⟨⟨hblank, spellsPieces_plain hkey, hblank, hblank, hblank⟩, hvalue⟩

theorem wordEntry_spells {blank : List Char} {key word : String} (hblank : IsBlank blank)
    (hkey : isPlain key.toList = true) (hword : isPlain word.toList = true) :
    (wordEntry blank key word).IsSpaced ∧
      Spells (wordEntry blank key word).item.value (wordEntry blank key word).item.text :=
  entryOf_spells hblank hkey (.string (spellsPieces_plain hword))

/-- Members between braces are an object. -/
theorem spellsObject_of_entries (entries : List Entry) {s : String}
    (hentries : ∀ e ∈ entries, e.IsSpaced ∧ Spells e.item.value e.item.text)
    (hs : s.toList = '\x7b' :: (row ',' Entry.written true entries ++ ['\x7d'])) :
    SpellsObject (entries.map (·.member)) s := by
  refine ⟨⟨[], .object (entries.map (·.member)), s.toList, []⟩, rfl, ⟨nofun, nofun⟩, ?_, ?_⟩
  · rw [hs]
    exact .object (nofun : IsBlank []) (fun e he => (hentries e he).1) fun e he => (hentries e he).2
  · simp [Placed.written]

theorem ofJson_one_meaning_specimen :
    ofJson "\x7b\"variant\":\"TrustAll\",\"buildMode\":\"debug\"\x7d"
      = .ok ⟨.trustAll, none, none, none, [], none, .debug⟩ ∧
    ofJson "\x7b \"note\" : [ ] , \"buildMode\" : \"debug\" , \"anchors\" : null , \"variant\" : \"TrustAll\" \x7d"
      = .ok ⟨.trustAll, none, none, none, [], none, .debug⟩ ∧
    ∃ fault,
      ofJson "\x7b\"buildMode\":\"release\",\"variant\":\"TrustAll\",\"buildMode\":\"debug\"\x7d"
        = .error fault ∧
      ∀ around,
        Engine.ofJson (σ := Unit) around
            "\x7b\"buildMode\":\"release\",\"variant\":\"TrustAll\",\"buildMode\":\"debug\"\x7d"
          = ⟨.error (.json fault), []⟩ := by
  have hnone : IsBlank [] := List.forall_mem_nil _
  have hspace : IsBlank [' '] := by
    intro c hc
    cases List.mem_singleton.mp hc
    decide
  have hplain : ["variant", "TrustAll", "buildMode", "debug", "release", "note", "anchors"].all
      (isPlain ·.toList) = true := by decide
  simp only [List.all_cons, List.all_nil, Bool.and_eq_true] at hplain
  obtain ⟨hvariant, htrust, hmode, hdebug, hrelease, hnote, hanchors, -⟩ := hplain
  have hbrief : ∀ e ∈ [wordEntry [] "variant" "TrustAll", wordEntry [] "buildMode" "debug"],
      e.IsSpaced ∧ Spells e.item.value e.item.text := by
    simp only [List.forall_mem_cons]
    exact ⟨wordEntry_spells hnone hvariant htrust, wordEntry_spells hnone hmode hdebug,
      List.forall_mem_nil _⟩
  have hlist : Spells (.list []) ['[', ' ', ']'] :=
    @Spells.list [] [' '] hspace (List.forall_mem_nil _) (List.forall_mem_nil _)
  have hlong : ∀ e ∈ [entryOf [' '] "note" (.list []) ['[', ' ', ']'],
      wordEntry [' '] "buildMode" "debug", entryOf [' '] "anchors" .null ['n', 'u', 'l', 'l'],
      wordEntry [' '] "variant" "TrustAll"], e.IsSpaced ∧ Spells e.item.value e.item.text := by
    simp only [List.forall_mem_cons]
    exact ⟨entryOf_spells hspace hnote hlist, wordEntry_spells hspace hmode hdebug,
      entryOf_spells hspace hanchors .null, wordEntry_spells hspace hvariant htrust,
      List.forall_mem_nil _⟩
  have htwice : ∀ e ∈ [wordEntry [] "buildMode" "release", wordEntry [] "variant" "TrustAll",
      wordEntry [] "buildMode" "debug"], e.IsSpaced ∧ Spells e.item.value e.item.text := by
    simp only [List.forall_mem_cons]
    exact ⟨wordEntry_spells hnone hmode hrelease, wordEntry_spells hnone hvariant htrust,
      wordEntry_spells hnone hmode hdebug, List.forall_mem_nil _⟩
  have hnull : Same _ [(entryOf [' '] "anchors" .null ['n', 'u', 'l', 'l']).member,
      (wordEntry [] "variant" "TrustAll").member, (wordEntry [] "buildMode" "debug").member] :=
    @Same.null _ _ .anchors (by decide) (by decide) rfl (by decide)
  have hother : Same _ ((entryOf [' '] "note" (.list []) ['[', ' ', ']']).member :: _) :=
    hnull.trans (@Same.other _ _ "note" (by decide) (by decide))
  have hsame := hother.trans (.perm ((List.perm_append_singleton _ [_, _]).cons _))
  have hread : ofJson "\x7b\"variant\":\"TrustAll\",\"buildMode\":\"debug\"\x7d"
      = .ok ⟨.trustAll, none, none, none, [], none, .debug⟩ := rfl
  refine ⟨hread, ?_, ?_⟩
  · exact ((ofJson_one_meaning (σ := Unit)).2.1 _ _ _ _ (spellsObject_of_entries _ hbrief (by decide))
      (spellsObject_of_entries _ hlong (by decide)) hsame _).mp hread
  · exact (ofJson_one_meaning (σ := Unit)).2.2 _ _ .buildMode (spellsObject_of_entries _ htwice (by decide))
      (by decide)

end PeerTrust.PolicyConfig
