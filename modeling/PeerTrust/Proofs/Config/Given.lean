import PeerTrust.Config.Reader
import PeerTrust.Proofs.Json.Passing

/-!
# The members that a configuration gives

Which members a text gives can be told by its syntax alone: the keys of an object, or as many
members in order as a list has elements. A text that is read gives exactly the members that the
draft ends up with; all others take their defaults.

Nothing is said of texts that cannot be read.
-/

namespace PeerTrust.Json

/-- The keys of an object, told by passing over their values. They stop where the syntax breaks. -/
def keys : (fuel : Nat) → (first : Bool) → List Char → List String
  | 0, _, _ => []
  | fuel + 1, first, text =>
    match nextKey first text with
    | .ok (some key, rest) =>
      match (readColon rest).bind skipValue with
      | .ok rest => key :: keys fuel false rest
      | .error _ => [key]
    | _ => []

/-- How many elements a list has, up to a limit, told by passing over them. -/
def countElements : (limit : Nat) → (first : Bool) → List Char → Nat
  | 0, _, _ => 0
  | limit + 1, first, text =>
    match nextElement first text with
    | .ok (true, rest) =>
      match skipValue rest with
      | .ok rest => countElements limit false rest + 1
      | .error _ => 1
    | _ => 0

theorem keys_of_key {fuel : Nat} {first : Bool} {key : String} {text start rest : List Char}
    (hkey : nextKey first text = .ok (some key, start))
    (hskip : (readColon start).bind skipValue = .ok rest) :
    keys (fuel + 1) first text = key :: keys fuel false rest := by
  rw [keys, hkey]
  dsimp only
  rw [hskip]

theorem keys_of_end {fuel : Nat} {first : Bool} {text rest : List Char}
    (h : nextKey first text = .ok (none, rest)) : keys (fuel + 1) first text = [] := by
  rw [keys, h]

theorem countElements_of_more {limit : Nat} {first : Bool} {text start rest : List Char}
    (hmore : nextElement first text = .ok (true, start)) (hskip : skipValue start = .ok rest) :
    countElements (limit + 1) first text = countElements limit false rest + 1 := by
  rw [countElements, hmore]
  dsimp only
  rw [hskip]

/-- A list that has ended has no further elements. -/
theorem countElements_of_end (limit : Nat) {first : Bool} {text rest : List Char}
    (h : nextElement first text = .ok (false, rest)) :
    countElements limit first text = 0 ∧ nextElement first rest = .ok (false, rest) := by
  constructor
  · cases limit with
    | zero => rfl
    | succ limit => rw [countElements, h]
  · obtain ⟨after, rfl, -⟩ := skipElements_of_end 0 h
    rfl

end PeerTrust.Json

namespace PeerTrust.PolicyConfig

open PeerTrust.Json

/-- The members that a text gives, known by the keys of an object or by the places of a list. -/
def given (text : List Char) : List Member :=
  match skipSpace text with
  | '\x7b' :: rest => (keys (text.length + 1) true rest).filterMap Member.ofName?
  | '[' :: rest => Member.all.take (countElements Member.all.length true rest)
  | _ => []

variable {text rest : List Char} {d d' : Draft} {member : Member}

section Passing

/-! ### Values of members are passed over -/

variable {α : Type} {word : α → String} {all : List α} {a : α}

theorem skipString_of_readName (h : readName word all text = .ok (a, rest)) :
    ∃ start, skipSpace text = '"' :: start ∧ skipString start = .ok rest := by
  unfold readName at h
  split at h
  · cases h
  · rename_i start hquote
    obtain ⟨⟨name, after⟩, hread, h⟩ := bind_eq_ok_iff.mp h
    obtain ⟨_, -, h⟩ := bind_eq_ok_iff.mp h
    cases h
    exact ⟨start, hquote, skipString_of_readString hread⟩
  · exact absurd h wrongType_ne_ok

/-- A value among those with words is passed over, be it written as a word or as an object. -/
theorem skipValue_of_readNamed (h : readNamed word all text = .ok (a, rest)) :
    skipValue text = .ok rest := by
  have hspace := skipSpace_length_le text
  unfold readNamed at h
  rw [skipValue, skipValueBody]
  split at h
  · cases h
  · rename_i start hquote
    obtain ⟨_, hstart, hskip⟩ := skipString_of_readName h
    cases hstart
    rw [hquote]
    exact hskip
  · rename_i start hbrace
    obtain ⟨⟨b, before⟩, hname, h⟩ := bind_eq_ok_iff.mp h
    obtain ⟨value, hcolon, h⟩ := bind_eq_ok_iff.mp h
    obtain ⟨after, hunit, h⟩ := bind_eq_ok_iff.mp h
    obtain ⟨inside, hquote, hskip⟩ := skipString_of_readName hname
    split at h
    · cases h
    · rename_i hend
      cases h
      have hspace' := skipSpace_length_le start
      rw [hbrace, List.length_cons] at hspace
      rw [hquote, List.length_cons] at hspace'
      -- a brace and a quote are two characters, enough for the four steps down to the null
      obtain ⟨room, hroom⟩ : ∃ room, 2 * text.length + 1 = room + 4 :=
        ⟨2 * text.length - 3, by omega⟩
      have hmember : (skipString inside).bind readColon = .ok value :=
        bind_eq_ok_iff.mpr ⟨before, hskip, hcolon⟩
      rw [hbrace, hroom]
      change skipMembers (room + 4) true start = .ok rest
      rw [skipMembers, hquote]
      change skipMember (room + 3) ('"' :: inside) = .ok rest
      rw [skipMember_of_value rfl hmember (skipValueBody_of_readUnit hunit), skipMembers, hend]
      rfl
    · cases h
  · cases h

/-- The value of a member that is read is passed over just so. -/
theorem skipValue_of_readMember (h : readMember d member text = .ok (d', rest)) :
    skipValue text = .ok rest := by
  cases member with
  | variant | buildMode =>
    obtain ⟨_, hread, h⟩ := bind_eq_ok_iff.mp h
    cases h
    exact skipValue_of_readNamed hread
  | trustedKeys =>
    obtain ⟨_, hread, h⟩ := bind_eq_ok_iff.mp h
    cases h
    exact skipValueBody_of_readTextList hread (by omega)
  | authority | hostname | expected | anchors =>
    obtain ⟨_, hread, h⟩ := bind_eq_ok_iff.mp h
    cases h
    exact skipValueBody_of_readOptionalText hread

end Passing

section Drafts

/-! ### What a draft has -/

/-- Reading a member gives the draft that member and leaves the others. -/
theorem has_of_readMember (h : readMember d member text = .ok (d', rest)) (m : Member) :
    d'.has m ↔ d.has m ∨ m = member := by
  cases member <;> obtain ⟨_, -, h⟩ := bind_eq_ok_iff.mp h <;> cases h <;>
    cases m <;> simp [Draft.has]

/-- Reading the member with a key passes over its colon and its value, and gives the draft the
member if there is one. -/
theorem has_of_readEntry {key : String} (h : readEntry d key text = .ok (d', rest)) :
    (readColon text).bind skipValue = .ok rest
      ∧ ∀ m, d'.has m ↔ d.has m ∨ Member.ofName? key = some m := by
  unfold readEntry at h
  split at h
  · rename_i member hmember
    split at h
    · cases h
    · obtain ⟨value, hcolon, hread⟩ := bind_eq_ok_iff.mp h
      refine ⟨bind_eq_ok_iff.mpr ⟨value, hcolon, skipValue_of_readMember hread⟩, fun m => ?_⟩
      rw [has_of_readMember hread m, hmember, Option.some.injEq, eq_comm (a := m)]
  · rename_i hunknown
    obtain ⟨value, hcolon, h⟩ := bind_eq_ok_iff.mp h
    obtain ⟨_, hskip, h⟩ := map_eq_ok_iff.mp h
    cases h
    refine ⟨bind_eq_ok_iff.mpr ⟨value, hcolon, hskip⟩, fun m => ?_⟩
    simp only [hunknown, reduceCtorEq, or_false]

/-- An object gives a draft the members that its keys name. -/
theorem has_of_readEntries {fuel : Nat} {first : Bool}
    (h : readEntries fuel first d text = .ok (d', rest)) (m : Member) :
    d'.has m ↔ d.has m ∨ m ∈ (keys fuel first text).filterMap Member.ofName? := by
  induction fuel generalizing first d text with
  | zero => cases h
  | succ fuel ih =>
    rw [readEntries] at h
    obtain ⟨⟨key, start⟩, hkey, h⟩ := bind_eq_ok_iff.mp h
    cases key with
    | none =>
      cases h
      rw [keys_of_end hkey, List.filterMap_nil]
      simp only [List.not_mem_nil, or_false]
    | some key =>
      obtain ⟨⟨middle, after⟩, hentry, h⟩ := bind_eq_ok_iff.mp h
      obtain ⟨hskip, hhas⟩ := has_of_readEntry hentry
      rw [ih h, hhas m, keys_of_key hkey hskip]
      simp only [List.mem_filterMap, List.mem_cons, exists_eq_or_imp]
      exact or_assoc

/-- A list gives a draft as many of the members as it has elements. -/
theorem has_of_readValues {first : Bool} {members : List Member}
    (h : readValues first d members text = .ok (d', rest)) (m : Member) :
    d'.has m ↔ d.has m ∨ m ∈ members.take (countElements members.length first text) := by
  induction members generalizing first d text with
  | nil =>
    cases h
    simp only [List.take_nil, List.not_mem_nil, or_false]
  | cons member members ih =>
    rw [readValues] at h
    obtain ⟨⟨more, start⟩, hnext, h⟩ := bind_eq_ok_iff.mp h
    cases more with
    | true =>
      obtain ⟨⟨middle, after⟩, hmember, h⟩ := bind_eq_ok_iff.mp h
      rw [ih h, has_of_readMember hmember m, List.length_cons,
        countElements_of_more hnext (skipValue_of_readMember hmember), List.take_succ_cons,
        List.mem_cons]
      exact or_assoc
    | false =>
      obtain ⟨hnone, hend⟩ := countElements_of_end (member :: members).length hnext
      rw [hnone, List.take_zero]
      change (if member = .variant then _ else readValues first d members start) = _ at h
      split at h
      · cases h
      · rw [ih h, (countElements_of_end _ hend).1, List.take_zero]

theorem Draft.empty_has (m : Member) : Draft.empty.has m = false := by
  cases m <;> rfl

theorem finish?_of_complete {c : PolicyConfig} (h : complete d text = .ok (c, rest)) :
    d.finish? = some c := by
  unfold complete at h
  split at h
  · rename_i hfinish
    cases h
    exact hfinish
  · cases h

/-- A text that is read gives exactly the members of the draft that its configuration is made
from. -/
theorem draft_of_read {c : PolicyConfig} (h : read text = .ok (c, rest)) :
    ∃ d : Draft, d.finish? = some c ∧ ∀ m, d.has m ↔ m ∈ given text := by
  unfold read at h
  unfold given
  split at h
  · cases h
  · rename_i start hbrace
    obtain ⟨before, hinside, -⟩ := inside_of_closing h
    obtain ⟨⟨d, middle⟩, hread, hfinish⟩ := bind_eq_ok_iff.mp hinside
    refine ⟨d, finish?_of_complete hfinish, fun m => ?_⟩
    rw [has_of_readEntries hread m, hbrace, Draft.empty_has]
    simp only [Bool.false_eq_true, false_or]
  · rename_i start hbracket
    obtain ⟨before, hinside, -⟩ := inside_of_closing h
    obtain ⟨⟨d, middle⟩, hread, hfinish⟩ := bind_eq_ok_iff.mp hinside
    refine ⟨d, finish?_of_complete hfinish, fun m => ?_⟩
    rw [has_of_readValues hread m, hbracket, Draft.empty_has]
    simp only [Bool.false_eq_true, false_or]
  · exact absurd h wrongType_ne_ok

end Drafts

/-- Members that a text does not give have their defaults; the kind of policy has none and is always
given. -/
theorem default_of_not_given {c : PolicyConfig} {json : String} (h : ofJson json = .ok c) :
    .variant ∈ given json.toList
      ∧ (.authority ∉ given json.toList → c.authority = none)
      ∧ (.hostname ∉ given json.toList → c.hostname = none)
      ∧ (.expected ∉ given json.toList → c.expected = none)
      ∧ (.trustedKeys ∉ given json.toList → c.trustedKeys = [])
      ∧ (.anchors ∉ given json.toList → c.anchors = none)
      ∧ (.buildMode ∉ given json.toList → c.buildMode = .release) := by
  obtain ⟨⟨_, rest⟩, hread, h⟩ := bind_eq_ok_iff.mp (mapError_eq_ok_iff.mp h)
  obtain rfl : _ = c := by
    dsimp only at h
    split at h
    · exact Except.ok.inj h
    · cases h
  obtain ⟨d, hfinish, hhas⟩ := draft_of_read hread
  obtain ⟨variant, hvariant, rfl⟩ := Option.map_eq_some_iff.mp hfinish
  simp only [← hhas, Draft.has, hvariant, Option.isSome_some, Option.not_isSome_iff_eq_none,
    true_and]
  refine ⟨?_, ?_, ?_, ?_, ?_, ?_⟩ <;>
    (intro habsent; rw [habsent]; rfl)

/-- A word inside a value is no key. -/
example :
    given "\x7b\"a\": [1, \"buildMode\"], \"variant\": \"TrustAll\"\x7d".toList = [.variant] := by
  decide +kernel

end PeerTrust.PolicyConfig
