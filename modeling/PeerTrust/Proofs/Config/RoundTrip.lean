import PeerTrust.Engine
import PeerTrust.Proofs.Json.Writing

/-!
# Configurations that are written are read again

A configuration is written as an object whose members come in a fixed order, without those that say
nothing. Read again, the members that are there fill a draft one after the other, and the defaults
of the others are what the configuration says of them. So nothing is lost, whatever the texts hold.

Other texts for the same configuration are not considered: members in another order, blanks, or a
list of values.
-/

namespace PeerTrust.PolicyConfig

open PeerTrust.Json

section Values

/-! ### Values of members -/

/-- A word that is written names the value again. -/
theorem readNamed_writeString {α : Type} {word : α → String} {all : List α} {a : α}
    (hword : all.find? (word · = word a) = some a) (rest : List Char) :
    readNamed word all (writeString (word a) ++ rest) = .ok (a, rest) := by
  obtain ⟨start, hstart, hread⟩ := exists_writeString (word a) rest
  rw [hstart]
  change (readString start >>= _) = _
  rw [hread]
  change (named word all (word a) rest >>= _) = _
  rw [named, hword]
  rfl

theorem Member.ofName?_name (member : Member) : Member.ofName? member.name = some member := by
  cases member <;> decide

end Values

section Drafts

/-! ### Drafts that members fill -/

/-- What is written as members takes one draft to another: each member is new when its turn comes,
and its value is read whatever follows it. -/
inductive Fills : Draft → List (String × List Char) → Draft → Prop
  | nil (d : Draft) : Fills d [] d
  | cons {d d' d'' : Draft} {value : List Char} {members : List (String × List Char)}
      (member : Member) (new : d.has member = false)
      (read : ∀ rest, readMember d member (value ++ rest) = .ok (d', rest))
      (more : Fills d' members d'') : Fills d ((member.name, value) :: members) d''

variable {d d' d'' : Draft} {member : Member} {value rest : List Char}
  {members others : List (String × List Char)}

theorem Fills.append (h : Fills d members d') (h' : Fills d' others d'') :
    Fills d (members ++ others) d'' := by
  induction h with
  | nil _ => exact h'
  | cons member new read _ ih => exact .cons member new read (ih h')

theorem Fills.single (member : Member) (hnew : d.has member = false)
    (hread : ∀ rest, readMember d member (value ++ rest) = .ok (d', rest)) :
    Fills d [(member.name, value)] d' :=
  .cons member hnew hread (.nil d')

/-- The member for a text that may be absent fills its place in a draft, or leaves it open. -/
theorem fills_optionalMember (set : Option (Option String) → Draft) (member : Member)
    (text : Option String) (hopen : (set none).has member = false)
    (hread : ∀ text, readMember (set none) member text =
      readOptionalText text >>= fun v => .ok (set (some v.1), v.2)) :
    Fills (set none) (optionalMember member.name text) (set (text.map some)) := by
  cases text with
  | none => exact .nil _
  | some s =>
    refine .single member hopen fun rest => ?_
    rw [hread, readOptionalText_writeString]
    rfl

/-- The draft that holds what is written of a configuration. -/
def draft (c : PolicyConfig) : Draft :=
  ⟨some c.variant, c.authority.map some, c.hostname.map some, c.expected.map some,
    if c.trustedKeys.isEmpty then none else some c.trustedKeys, c.anchors.map some,
    some c.buildMode⟩

/-- The trusted keys fill their place in a draft, or leave it open. -/
theorem fills_trustedKeys (hopen : d.trustedKeys = none) (keys : List String) :
    Fills d (if keys.isEmpty then [] else [("trustedKeys", writeStrings keys)])
      { d with trustedKeys := if keys.isEmpty then none else some keys } := by
  cases keys with
  | nil =>
    change Fills d [] { d with trustedKeys := none }
    rw [← hopen]
    exact .nil d
  | cons key keys =>
    refine .single .trustedKeys (by rw [Draft.has, hopen]; rfl) fun rest => ?_
    rw [readMember, readTextList_writeStrings]
    rfl

/-- The members that are written fill the draft of the configuration. -/
theorem fills_members (c : PolicyConfig) : Fills .empty c.members c.draft := by
  have hvariant : Fills .empty [("variant", writeString c.variant.word)]
      ⟨some c.variant, none, none, none, none, none, none⟩ := by
    refine .single .variant rfl fun rest => ?_
    rw [readMember, readNamed_writeString (by cases c.variant <;> decide)]
    rfl
  have hauthority := fills_optionalMember
    (fun v => ⟨some c.variant, v, none, none, none, none, none⟩)
    .authority c.authority rfl fun _ => rfl
  have hhostname := fills_optionalMember
    (fun v => ⟨some c.variant, c.authority.map some, v, none, none, none, none⟩)
    .hostname c.hostname rfl fun _ => rfl
  have hexpected := fills_optionalMember
    (fun v => ⟨some c.variant, c.authority.map some, c.hostname.map some, v, none, none, none⟩)
    .expected c.expected rfl fun _ => rfl
  have htrustedKeys : Fills { c.draft with trustedKeys := none, anchors := none, buildMode := none }
      _ { c.draft with anchors := none, buildMode := none } :=
    fills_trustedKeys rfl c.trustedKeys
  have hanchors := fills_optionalMember
    (fun v => { c.draft with anchors := v, buildMode := none }) .anchors c.anchors rfl fun _ => rfl
  have hbuildMode : Fills { c.draft with buildMode := none }
      [("buildMode", writeString c.buildMode.word)] c.draft := by
    refine .single .buildMode rfl fun rest => ?_
    rw [readMember, readNamed_writeString (by cases c.buildMode <;> decide)]
    rfl
  exact (((((hvariant.append hauthority).append hhostname).append hexpected).append
    htrustedKeys).append hanchors).append hbuildMode

/-- A member that is left out says what its default says. -/
theorem finish?_draft (c : PolicyConfig) : c.draft.finish? = some c := by
  have htext (text : Option String) : (text.map some).getD none = text := by
    cases text <;> rfl
  have hkeys : (if c.trustedKeys.isEmpty then none else some c.trustedKeys).getD [] =
      c.trustedKeys := by
    cases c.trustedKeys <;> rfl
  rw [draft, Draft.finish?]
  dsimp only [Option.map_some]
  rw [htext, htext, htext, htext, hkeys]
  rfl

/-! ### Objects -/

/-- One step over a member. -/
theorem readEntries_of_key {fuel : Nat} {first : Bool} {text start after : List Char}
    (hkey : nextKey first text = .ok (some member.name, ':' :: (value ++ start)))
    (hnew : d.has member = false)
    (hread : ∀ rest, readMember d member (value ++ rest) = .ok (d', rest))
    (hmore : readEntries fuel false d' start = .ok (d'', after)) :
    readEntries (fuel + 1) first d text = .ok (d'', after) := by
  have hentry : readEntry d member.name (':' :: (value ++ start)) = .ok (d', start) := by
    rw [readEntry, member.ofName?_name]
    dsimp only
    rw [hnew]
    exact hread start
  rw [readEntries, hkey]
  change (readEntry d member.name _ >>= _) = _
  rw [hentry]
  exact hmore

/-- Members that each follow a comma are read up to the closing brace. -/
theorem Fills.readEntries {fuel : Nat} (h : Fills d members d') (hfuel : members.length < fuel) :
    readEntries fuel false d (members.flatMap (',' :: writeMember ·) ++ '\x7d' :: rest) =
      .ok (d', '\x7d' :: rest) := by
  induction h generalizing fuel with
  | nil _ =>
    obtain ⟨room, rfl⟩ : ∃ room, fuel = room + 1 := ⟨fuel - 1, by omega⟩
    rfl
  | cons member new read _ ih =>
    rw [List.length_cons] at hfuel
    obtain ⟨room, rfl⟩ : ∃ room, fuel = room + 1 := ⟨fuel - 1, by omega⟩
    rw [List.flatMap_cons, List.append_assoc]
    refine readEntries_of_key ?_ new read (ih (by omega))
    rw [writeMember, List.cons_append, List.append_assoc]
    exact nextKey_comma_writeString _ _

/-- All members are read, the first of which follows no comma. -/
theorem Fills.readEntries_intercalate {fuel : Nat} (h : Fills d members d')
    (hfuel : members.length < fuel) :
    PolicyConfig.readEntries fuel true d
        (List.intercalate [','] (members.map writeMember) ++ '\x7d' :: rest) =
      .ok (d', '\x7d' :: rest) := by
  obtain ⟨room, rfl⟩ : ∃ room, fuel = room + 1 := ⟨fuel - 1, by omega⟩
  cases h with
  | nil _ => rfl
  | cons member new read more =>
    rw [List.length_cons] at hfuel
    rw [List.map_cons, intercalate_cons, List.flatMap_map, List.append_assoc]
    refine readEntries_of_key ?_ new read (more.readEntries (by omega))
    rw [writeMember, List.append_assoc]
    exact nextKey_writeString _ _

/-- An object whose members fill a draft is read as the configuration that the draft amounts to. -/
theorem Fills.read_writeObject {c : PolicyConfig} (h : Fills .empty members d)
    (hfinish : d.finish? = some c) (rest : List Char) :
    PolicyConfig.read (writeObject members ++ rest) = .ok (c, rest) := by
  have hlength := length_le_length_intercalate writeMember members fun _ => Nat.succ_pos _
  have hcomplete : complete d ('\x7d' :: rest) = .ok (c, '\x7d' :: rest) := by
    rw [complete, hfinish]
  rw [writeObject_append]
  change closing closeObject (PolicyConfig.readEntries _ true .empty _ >>= _) = _
  rw [h.readEntries_intercalate (by rw [List.length_cons, List.length_append]; omega)]
  change closing closeObject (complete d _) = _
  rw [hcomplete]
  rfl

end Drafts

/-- A configuration that is written as JSON is read again as it was, be its texts absent, empty or
of any characters; so a policy or an engine is made of the text as it is made of the
configuration. -/
theorem ofJson_toJson {σ : Type} (c : PolicyConfig) :
    PolicyConfig.ofJson c.toJson = .ok c ∧
      (PolicyConfig.ofJson c.toJson).map toPolicy = .ok c.toPolicy ∧
      ∀ around, Engine.ofJson (σ := σ) around c.toJson = Engine.ofConfig around c := by
  have hread : PolicyConfig.ofJson c.toJson = .ok c := by
    have hobject := (fills_members c).read_writeObject (finish?_draft c) []
    rw [List.append_nil] at hobject
    rw [PolicyConfig.ofJson, readDocument, toJson, String.toList_ofList, hobject]
    rfl
  refine ⟨hread, ?_, fun around => ?_⟩
  · rw [hread]
    rfl
  · rw [Engine.ofJson, hread]

end PeerTrust.PolicyConfig
