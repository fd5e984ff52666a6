import PeerTrust.Config.Reader
import PeerTrust.Proofs.Json.Reading

/-!
# What the members of an object say of a configuration

A configuration is read from an object member by member. What is read depends on the values of the
members only: each known member adds what its value says to a draft that does not have the member
yet, and all others leave the draft as it is. So any text of an object is read as the configuration
that its members make when they are taken one after the other.

Configurations that are written as lists of values are not considered.
-/

namespace PeerTrust.PolicyConfig

open PeerTrust.Json

variable {text rest blank : List Char} {v : Value}

section Words

/-! ### Words -/

variable {α : Type} (word : α → String) (all : List α)

/-- The value whose word a string is. -/
def namedBy? (pieces : List Piece) : Option α :=
  (textOf? pieces).bind fun cs => all.find? fun a => word a = String.ofList cs

/-- What a value says where one among those with words is wanted: a word, or an object in which the
word is the only key and null the value. -/
def named? : Value → Option α
  | .string pieces => namedBy? word all pieces
  | .object [(key, value)] => (namedBy? word all key).bind fun a => value.unit?.map fun _ => a
  | _ => none

theorem toOption_readName {pieces : List Piece} (h : SpellsPieces pieces text)
    (hblank : IsBlank blank) (rest : List Char) :
    (readName word all (blank ++ '"' :: (text ++ '"' :: rest))).toOption
      = (namedBy? word all pieces).map fun a => (a, rest) := by
  rw [readName, skipSpace_blank hblank, skipSpace_cons (by decide)]
  change (readString _ >>= fun x => named word all x.1 x.2 >>= fun a => .ok (a, x.2)).toOption = _
  rw [toOption_bind, toOption_readString h, namedBy?]
  cases textOf? pieces with
  | none => rfl
  | some cs =>
    simp only [Option.map_some, Option.bind_some, toOption_bind, named]
    cases all.find? fun a => word a = String.ofList cs <;> rfl

/-- What is left behind the mark that closes an object, if a text begins with it. -/
def closed? : List Char → Option (List Char)
  | '\x7d' :: rest => some rest
  | _ => none

/-- A member is read as the word that its key is, if its value is null and the object ends. -/
theorem toOption_readNamed_entry {e : Entry} (hspaced : e.IsSpaced)
    (hvalue : Spells e.item.value e.item.text) (tail : List Char) :
    (readNamed word all ('\x7b' :: (e.written ++ tail))).toOption
      = (named? word all (.object [e.member])).bind fun a =>
        (closed? (skipSpace tail)).map fun rest => (a, rest) := by
  obtain ⟨hbefore, hkey, hafter, hitem⟩ := hspaced
  have htext : e.written ++ tail = e.before ++ '"' :: (e.keyText ++ '"' :: (e.after ++ ':' ::
      (e.item.before ++ (e.item.text ++ (e.item.after ++ tail))))) := by
    simp only [Entry.written, Placed.written, List.append_assoc, List.cons_append]
  rw [readNamed, skipSpace_cons (by decide), htext]
  change (readName word all _ >>= _).toOption = _
  rw [toOption_bind, toOption_readName word all hkey hbefore]
  change _ = ((namedBy? word all e.key).bind _).bind _
  cases namedBy? word all e.key with
  | none => rfl
  | some a =>
    rw [Option.map_some, Option.bind_some, Option.bind_some]
    change (readColon (e.after ++ ':' :: _) >>= _).toOption = _
    rw [readColon_blank hafter]
    change (readUnit _ >>= _).toOption = _
    rw [toOption_bind, hvalue.toOption_readUnit hitem.1]
    cases e.item.value.unit? with
    | none => rfl
    | some _ =>
      rw [Option.map_some, Option.bind_some, Option.map_some, Option.bind_some,
        skipSpace_blank hitem.2]
      split
      · rename_i hend
        rw [hend]
        rfl
      · rename_i hclose
        rw [hclose]
        rfl
      · rename_i hopen
        rw [closed?]
        · rfl
        · exact hopen

/-- An object is read as a word when it has one member, and this is the word with null. -/
theorem toOption_readNamed_object {entries : List Entry} (hblank : IsBlank blank)
    (hspaced : ∀ e ∈ entries, e.IsSpaced)
    (hitems : ∀ e ∈ entries, Spells e.item.value e.item.text) (rest : List Char) :
    (readNamed word all
        ('\x7b' :: (row ',' Entry.written true entries ++ (blank ++ '\x7d' :: rest)))).toOption
      = (named? word all (.object (entries.map (·.member)))).map fun a => (a, rest) := by
  cases entries with
  | nil =>
    have hnone : (readName word all (blank ++ '\x7d' :: rest)).toOption = none := by
      rw [readName, skipSpace_blank hblank, skipSpace_cons (by decide)]
      exact toOption_wrongType _ _
    rw [readNamed, skipSpace_cons (by decide), row, List.nil_append]
    change (readName word all _ >>= _).toOption = _
    rw [toOption_bind, hnone]
    rfl
  | cons e entries =>
    have hentry := toOption_readNamed_entry word all (hspaced e List.mem_cons_self)
      (hitems e List.mem_cons_self)
      (row ',' Entry.written false entries ++ (blank ++ '\x7d' :: rest))
    rw [row, if_pos rfl, List.nil_append, List.append_assoc, hentry]
    cases entries with
    | nil =>
      rw [row, List.nil_append, skipSpace_blank hblank, skipSpace_cons (by decide)]
      exact Option.map_eq_bind.symm
    | cons e' entries =>
      rw [row, if_neg (by decide), List.append_assoc, List.singleton_append,
        skipSpace_cons (by decide)]
      -- Another member follows, so the first is not all there is, whatever it says.
      cases named? word all (.object [e.member]) <;> rfl

/-- A value is read as the one among those with words that it names. -/
theorem toOption_readNamed (h : Spells v text) (hblank : IsBlank blank) (rest : List Char) :
    (readNamed word all (blank ++ (text ++ rest))).toOption
      = (named? word all v).map fun a => (a, rest) := by
  obtain ⟨c, more, htext, hopen, hstart⟩ := h.exists_start hblank rest
  by_cases hquote : c = '"'
  · subst hquote
    obtain ⟨pieces, rfl⟩ := hopen.exists_string
    cases h with
    | string hpieces =>
      cases htext
      have hname := toOption_readName word all hpieces (nofun : IsBlank []) rest
      rw [readNamed, hstart]
      simpa [named?] using hname
  · by_cases hbrace : c = '\x7b'
    · subst hbrace
      obtain ⟨members, rfl⟩ := hopen.exists_object
      cases h with
      | object hblank' hspaced hitems =>
        cases htext
        have hobject := toOption_readNamed_object word all hblank' hspaced hitems rest
        rw [readNamed, skipSpace_cons (by decide)] at hobject
        rw [readNamed, hstart]
        simpa using hobject
    · have hnone : named? word all v = none := by
        cases v with
        | string => exact absurd hopen hquote
        | object => exact absurd hopen hbrace
        | _ => rfl
      rw [readNamed, hstart, hnone]
      split
      · rename_i heq
        cases heq
      · rename_i heq
        cases heq
        exact absurd rfl hquote
      · rename_i heq
        cases heq
        exact absurd rfl hbrace
      · rfl

end Words

section Drafts

/-! ### Drafts that members fill -/

/-- How a draft changes by what a value says for a member. -/
def Member.update? (m : Member) (v : Value) : Option (Draft → Draft) :=
  match m with
  | variant =>
    (named? PolicyVariant.word PolicyVariant.all v).map fun x d => { d with variant := some x }
  | authority => v.optionalText?.map fun x d => { d with authority := some x }
  | hostname => v.optionalText?.map fun x d => { d with hostname := some x }
  | expected => v.optionalText?.map fun x d => { d with expected := some x }
  | trustedKeys => v.texts?.map fun x d => { d with trustedKeys := some x }
  | anchors => v.optionalText?.map fun x d => { d with anchors := some x }
  | buildMode => (named? BuildMode.word BuildMode.all v).map fun x d => { d with buildMode := some x }

theorem toOption_readMember (d : Draft) (m : Member) (h : Spells v text) (hblank : IsBlank blank)
    (rest : List Char) :
    (readMember d m (blank ++ (text ++ rest))).toOption
      = (m.update? v).map fun f => (f d, rest) := by
  cases m with
  | variant | buildMode =>
    rw [readMember, toOption_bind, toOption_readNamed _ _ h hblank, Member.update?]
    cases named? _ _ v <;> rfl
  | trustedKeys =>
    rw [readMember, toOption_bind, h.toOption_readTextList hblank, Member.update?]
    cases v.texts? <;> rfl
  | authority | hostname | expected | anchors =>
    rw [readMember, toOption_bind, h.toOption_readOptionalText hblank, Member.update?]
    cases v.optionalText? <;> rfl

/-- The name of a member of an object, if its key stands for a text. -/
def nameOf? (member : List Piece × Value) : Option String :=
  (textOf? member.1).map String.ofList

/-- The draft with what a member of an object says. A key that is no text spoils the object, and so
does a member that the draft has already. -/
def Draft.take? (d : Draft) (member : List Piece × Value) : Option Draft :=
  (nameOf? member).bind fun name =>
    match Member.ofName? name with
    | some m => if d.has m then none else (m.update? member.2).map (· d)
    | none => some d

/-- One member more for what has been read so far, if anything. -/
def add (d : Option Draft) (member : List Piece × Value) : Option Draft :=
  d.bind (·.take? member)

/-- The configuration that the members of an object make. -/
def meaning? (members : List (List Piece × Value)) : Option PolicyConfig :=
  (members.foldl add (some Draft.empty)).bind Draft.finish?

theorem foldl_add_none (members : List (List Piece × Value)) : members.foldl add none = none := by
  induction members with
  | nil => rfl
  | cons member members ih => exact ih

theorem toOption_readEntry (d : Draft) {e : Entry} (hspaced : e.IsSpaced)
    (hvalue : Spells e.item.value e.item.text) {name : String}
    (hname : nameOf? e.member = some name) (hrest : Follows rest) :
    (readEntry d name (e.after ++ ':' :: (e.item.written ++ rest))).toOption
      = (d.take? e.member).map fun d => (d, e.item.after ++ rest) := by
  obtain ⟨-, -, hafter, hitem⟩ := hspaced
  rw [readEntry, readColon_blank hafter, Draft.take?, hname, Option.bind_some]
  cases Member.ofName? name with
  | none =>
    change ((skipValue _).map _).toOption = _
    rw [hvalue.skipValue_written hitem hrest]
    rfl
  | some m =>
    dsimp only
    split
    · rfl
    · change (readMember d m _).toOption = _
      rw [Placed.written, List.append_assoc, List.append_assoc,
        toOption_readMember d m hvalue hitem.1, Option.map_map]
      rfl

theorem readEntries_blank (h : IsBlank blank) (fuel : Nat) (first : Bool) (d : Draft)
    (text : List Char) :
    readEntries (fuel + 1) first d (blank ++ text) = readEntries (fuel + 1) first d text := by
  rw [readEntries, readEntries, nextKey_blank h]

/-- The members of an object are read one after the other. -/
theorem toOption_readEntries (d : Draft) {entries : List Entry}
    (hspaced : ∀ e ∈ entries, e.IsSpaced)
    (hitems : ∀ e ∈ entries, Spells e.item.value e.item.text) (hblank : IsBlank blank) (first : Bool)
    {fuel : Nat} (hfuel : (row ',' Entry.written first entries).length < fuel) (rest : List Char) :
    (readEntries fuel first d
        (row ',' Entry.written first entries ++ (blank ++ '\x7d' :: rest))).toOption
      = ((entries.map (·.member)).foldl add (some d)).map fun d => (d, '\x7d' :: rest) := by
  obtain ⟨room, rfl⟩ : ∃ room, fuel = room + 1 := ⟨fuel - 1, by omega⟩
  induction entries generalizing d first room with
  | nil =>
    rw [row, List.nil_append, readEntries, nextKey_end hblank]
    rfl
  | cons e entries ih =>
    obtain ⟨hspaced, hspacedMore⟩ := List.forall_mem_cons.mp hspaced
    obtain ⟨hvalue, hitems⟩ := List.forall_mem_cons.mp hitems
    simp only [row, Entry.written, List.length_append, List.length_cons] at hfuel
    obtain ⟨room, rfl⟩ : ∃ left, room = left + 1 := ⟨room - 1, by omega⟩
    have hfollows : Follows (row ',' Entry.written false entries ++ (blank ++ '\x7d' :: rest)) :=
      follows_row _ _ hblank (follows_cons (by decide) _)
    rw [row, List.append_assoc, List.append_assoc, readEntries, toOption_bind,
      toOption_nextKey hspaced first, List.map_cons, List.foldl_cons, add, Option.bind_some]
    change ((nameOf? e.member).map _).bind _ = _
    cases hname : nameOf? e.member with
    | none =>
      have hnone : d.take? e.member = none := by rw [Draft.take?, hname, Option.bind_none]
      rw [hnone, foldl_add_none]
      rfl
    | some name =>
      rw [Option.map_some, Option.bind_some]
      change (readEntry d _ _ >>= fun x => readEntries (room + 1) false x.1 x.2).toOption = _
      rw [toOption_bind, toOption_readEntry d hspaced hvalue hname hfollows]
      cases d.take? e.member with
      | none =>
        rw [foldl_add_none]
        rfl
      | some d' =>
        rw [Option.map_some, Option.bind_some, readEntries_blank hspaced.2.2.2.2]
        exact ih d' hspacedMore hitems false room (by omega)

theorem toOption_complete (d : Draft) (rest : List Char) :
    (complete d rest).toOption = d.finish?.map fun c => (c, rest) := by
  rw [complete]
  cases d.finish? <;> rfl

end Drafts

/-- Every text of an object is read as the configuration that its members make, or as none. -/
theorem toOption_ofJson {members : List (List Piece × Value)} {s : String}
    (h : SpellsObject members s) : (ofJson s).toOption = meaning? members := by
  obtain ⟨p, hvalue, hspaced, hspells, hs⟩ := h
  rw [hvalue] at hspells
  generalize htext : p.text = text at hspells
  cases hspells with
  | @object entries blank hblank hspacedEntries hitems =>
    have hread : (read s.toList).toOption
        = (meaning? (entries.map (·.member))).map fun c => (c, p.after) := by
      have hstart : skipSpace s.toList = '\x7b' :: (row ',' Entry.written true entries ++
          (blank ++ '\x7d' :: p.after)) := by
        rw [hs, Placed.written, skipSpace_blank hspaced.1, htext, List.cons_append,
          skipSpace_cons (by decide)]
        simp
      have hlength := skipSpace_length_le s.toList
      rw [hstart] at hlength
      simp only [List.length_cons, List.length_append] at hlength
      rw [read, hstart]
      refine toOption_closing ?_ (rfl : closeObject ('\x7d' :: p.after) = (p.after, none))
      change (readEntries _ true .empty _ >>= fun x => complete x.1 x.2).toOption = _
      rw [toOption_bind, toOption_readEntries .empty hspacedEntries hitems hblank true (by omega),
        meaning?]
      cases (entries.map (·.member)).foldl add (some Draft.empty) with
      | none => rfl
      | some d => exact toOption_complete d _
    rw [ofJson, readDocument, toOption_mapError, toOption_bind, hread]
    cases meaning? (entries.map (·.member)) with
    | none => rfl
    | some c =>
      rw [Option.map_some, Option.bind_some]
      dsimp only
      rw [skipSpace_of_isBlank hspaced.2]
      rfl

end PeerTrust.PolicyConfig
