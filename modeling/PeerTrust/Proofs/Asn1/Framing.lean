import Mathlib.Data.List.Basic
import PeerTrust.Asn1.Element

/-!
# Where elements end

An element that was read is read again from its own octets, whatever stands behind them, so two
octet strings that are equal begin with the same element.

Contents of indefinite length carry their end inside them. That they are found again is the one
induction over nested elements; numbers, lengths and headers are lists of octets read in turn.
-/

namespace PeerTrust.Asn1

/-- A reader takes exactly the given octets for a value, whatever stands behind them. -/
def Frames {α : Type} (read : Bytes → Option (α × Bytes)) (octets : Bytes) (a : α) : Prop :=
  ∀ more, read (octets ++ more) = some (a, more)

/-- Octets that are taken for a value are taken for one only, also when they are part of others. -/
theorem Frames.unique {α : Type} {read : Bytes → Option (α × Bytes)} {octets octets' : Bytes}
    {a a' : α} (h : Frames read octets a) (h' : Frames read octets' a') {more more' : Bytes}
    (heq : octets ++ more = octets' ++ more') : a = a' ∧ more = more' := by
  have hread := h more
  rw [heq, h' more'] at hread
  simp only [Option.some.injEq, Prod.mk.injEq] at hread
  exact ⟨hread.1.symm, hread.2.symm⟩

/-- A number in base 128 ends at its last digit. -/
theorem readNumber_frames {value n : Nat} {bs rest : Bytes}
    (h : readNumber value bs = some (n, rest)) :
    ∃ octets, bs = octets ++ rest ∧ Frames (readNumber value) octets n := by
  induction bs generalizing value with
  | nil => cases h
  | cons b bs ih =>
    rw [readNumber] at h
    split at h
    · rename_i hlast
      simp only [Option.some.injEq, Prod.mk.injEq] at h
      obtain ⟨rfl, rfl⟩ := h
      refine ⟨[b], rfl, ?_⟩
      intro more
      rw [List.singleton_append, readNumber, if_pos hlast]
    · rename_i hmore
      dsimp only at h
      split at h
      · rename_i hsmall
        obtain ⟨octets, rfl, hframes⟩ := ih h
        refine ⟨b :: octets, rfl, ?_⟩
        intro more
        rw [List.cons_append, readNumber, if_neg hmore]
        dsimp only
        rw [if_pos hsmall, hframes more]
      · cases h

/-- A tag number ends with the identifier octet or where its digits do. -/
theorem readTagNumber_frames {b : UInt8} {n : Nat} {bs rest : Bytes}
    (h : readTagNumber b bs = some (n, rest)) :
    ∃ octets, bs = octets ++ rest ∧ Frames (readTagNumber b) octets n := by
  unfold readTagNumber at h
  split at h
  · rename_i hlong
    obtain ⟨octets, hbs, hframes⟩ := readNumber_frames h
    refine ⟨octets, hbs, ?_⟩
    intro more
    rw [readTagNumber, if_pos hlong, hframes more]
  · rename_i hshort
    simp only [Option.some.injEq, Prod.mk.injEq] at h
    obtain ⟨rfl, rfl⟩ := h
    refine ⟨[], rfl, ?_⟩
    intro more
    rw [readTagNumber, if_neg hshort, List.nil_append]

/-- A length takes one octet, or as many more as the first one says. -/
theorem readLength_frames {n : Option Nat} {bs rest : Bytes}
    (h : readLength bs = some (n, rest)) :
    ∃ octets, octets ≠ [] ∧ bs = octets ++ rest ∧ Frames readLength octets n := by
  cases bs with
  | nil => cases h
  | cons b bs =>
    rw [readLength] at h
    split at h
    · rename_i hshort
      simp only [Option.some.injEq, Prod.mk.injEq] at h
      obtain ⟨rfl, rfl⟩ := h
      refine ⟨[b], List.cons_ne_nil _ _, rfl, ?_⟩
      intro more
      rw [List.singleton_append, readLength, if_pos hshort]
    · rename_i hlong
      split at h
      · rename_i hindefinite
        simp only [Option.some.injEq, Prod.mk.injEq] at h
        obtain ⟨rfl, rfl⟩ := h
        refine ⟨[b], List.cons_ne_nil _ _, rfl, ?_⟩
        intro more
        rw [List.singleton_append, readLength, if_neg hlong, if_pos hindefinite]
      · rename_i hdefinite
        dsimp only at h
        split at h
        · cases h
        · rename_i hroom
          simp only [Option.some.injEq, Prod.mk.injEq] at h
          obtain ⟨rfl, rfl⟩ := h
          have hcount : (bs.take (b.toNat - 128)).length = b.toNat - 128 := by
            rw [List.length_take]
            omega
          refine ⟨b :: bs.take (b.toNat - 128), List.cons_ne_nil _ _, ?_, ?_⟩
          · rw [List.cons_append, List.take_append_drop]
          · intro more
            have hroom' : ¬(bs.take (b.toNat - 128) ++ more).length < b.toNat - 128 := by
              rw [List.length_append, hcount]
              omega
            rw [List.cons_append, readLength, if_neg hlong, if_neg hdefinite]
            dsimp only
            rw [if_neg hroom', List.take_left' hcount, List.drop_left' hcount]

/-- A header takes at least two octets: an identifier and a length. -/
theorem Header.read_frames {bs rest : Bytes} {header : Header}
    (h : Header.read bs = some (header, rest)) :
    ∃ octets, 2 ≤ octets.length ∧ bs = octets ++ rest ∧ Frames Header.read octets header := by
  cases bs with
  | nil => cases h
  | cons b bs =>
    rw [Header.read] at h
    split at h
    · cases h
    · rename_i number afterTag htag
      split at h
      · cases h
      · rename_i length afterLength hlength
        obtain ⟨tagOctets, rfl, hframesTag⟩ := readTagNumber_frames htag
        obtain ⟨lengthOctets, hne, rfl, hframesLength⟩ := readLength_frames hlength
        split at h
        · rename_i hform
          simp only [Option.some.injEq, Prod.mk.injEq] at h
          obtain ⟨rfl, rfl⟩ := h
          refine ⟨b :: (tagOctets ++ lengthOctets), ?_, ?_, ?_⟩
          · have hpos : 0 < lengthOctets.length := List.length_pos_iff.mpr hne
            rw [List.length_cons, List.length_append]
            omega
          · rw [List.cons_append, List.append_assoc]
          · intro more
            rw [List.cons_append, List.append_assoc, Header.read, hframesTag]
            dsimp only
            rw [hframesLength]
            dsimp only
            rw [if_pos hform]
        · cases h

/-- Whether an end-of-contents mark stands in front depends on two octets only. -/
theorem closes_append {octets : Bytes} (hlong : 2 ≤ octets.length) (more : Bytes) :
    closes (octets ++ more) = closes octets := by
  obtain _ | ⟨a, _ | ⟨b, rest⟩⟩ := octets
  · simp at hlong
  · simp at hlong
  · have hmark (behind : Bytes) : closes (a :: b :: behind) = (a == 0 && b == 0) := by
      by_cases ha : a = 0
      · by_cases hb : b = 0
        · rw [ha, hb]
          rfl
        · simp [closes, hb]
      · simp [closes, ha]
    rw [List.cons_append, List.cons_append, hmark, hmark]

/-- An end-of-contents mark is two octets long. -/
theorem length_of_closes {bs : Bytes} (h : closes bs = true) : 2 ≤ bs.length := by
  unfold closes at h
  split at h
  · simp
  · cases h

/-- What stands in front of the rest takes the octets that the rest leaves. -/
theorem length_append_sub (front rest : Bytes) :
    (front ++ rest).length - rest.length = front.length := by
  rw [List.length_append, Nat.add_sub_cancel]

/-- Behind a header that is no end-of-contents mark, the end of open elements is looked for inside
the new element or behind its contents. -/
theorem closingSize_header {octets rest : Bytes} {header : Header}
    (hframes : Frames Header.read octets header) (hlong : 2 ≤ octets.length)
    (hopen : ¬closes octets = true) (depth : Nat) :
    (header.length = none → closingSize depth (octets ++ rest) =
      (closingSize (depth + 1) rest).map (· + octets.length)) ∧
    (∀ n, header.length = some n → n ≤ rest.length → closingSize depth (octets ++ rest) =
      (closingSize depth (rest.drop n)).map (· + (octets.length + n))) := by
  have hopen' : ¬closes (octets ++ rest) = true := by rwa [closes_append hlong]
  have hread := hframes rest
  rw [closingSize.eq_def depth, if_neg hopen']
  split
  · rename_i hnone
    rw [hread] at hnone
    cases hnone
  · rename_i header' rest' hsome
    rw [hread] at hsome
    simp only [Option.some.injEq, Prod.mk.injEq] at hsome
    obtain ⟨rfl, rfl⟩ := hsome
    constructor
    · intro hindefinite
      simp only [hindefinite, length_append_sub]
    · intro n hdefinite hfits
      simp only [hdefinite, length_append_sub, if_pos hfits]

/-- The end of open elements lies within the octets, and is found again whatever stands behind. -/
theorem closingSize_frames {depth size : Nat} {bs : Bytes} (h : closingSize depth bs = some size) :
    2 ≤ size ∧ size ≤ bs.length ∧
      ∀ more, closingSize depth (bs.take size ++ more) = some size := by
  have hmark {bs : Bytes} {size : Nat} (hcloses : closes bs = true) (hsize : 2 ≤ size)
      (more : Bytes) : closes (bs.take size ++ more) = true := by
    have hlength := length_of_closes hcloses
    have htaken : 2 ≤ (bs.take size).length := by
      rw [List.length_take]
      omega
    have hfront : bs.take size ++ bs.drop size = bs := List.take_append_drop size bs
    rw [closes_append htaken, ← closes_append htaken (bs.drop size), hfront]
    exact hcloses
  fun_induction closingSize depth bs generalizing size with
  | case1 bs hcloses =>
    obtain rfl := Option.some.inj h
    refine ⟨Nat.le_refl _, length_of_closes hcloses, ?_⟩
    intro more
    rw [closingSize, if_pos (hmark hcloses (Nat.le_refl _) more)]
  | case2 bs hcloses depth ih =>
    obtain ⟨inner, hinner, rfl⟩ := Option.map_eq_some_iff.mp h
    obtain ⟨-, hroom, hagain⟩ := ih hinner
    have hlength := length_of_closes hcloses
    rw [List.length_drop] at hroom
    refine ⟨Nat.le_add_left _ _, by omega, ?_⟩
    intro more
    have hrest : (bs.take (inner + 2) ++ more).drop 2 = (bs.drop 2).take inner ++ more := by
      have htaken : 2 ≤ (bs.take (inner + 2)).length := by
        rw [List.length_take]
        omega
      rw [List.drop_append_of_le_length htaken, List.drop_take, Nat.add_sub_cancel]
    rw [closingSize, if_pos (hmark hcloses (Nat.le_add_left _ _) more), hrest, hagain more]
    rfl
  | case3 => cases h
  | case4 depth bs hopen header rest hread hlength ih =>
    obtain ⟨inner, hinner, rfl⟩ := Option.map_eq_some_iff.mp h
    obtain ⟨hmin, hroom, hagain⟩ := ih hinner
    obtain ⟨octets, hlong, rfl, hframes⟩ := Header.read_frames hread
    rw [closes_append hlong] at hopen
    rw [length_append_sub]
    refine ⟨by omega, by rw [List.length_append]; omega, ?_⟩
    intro more
    have htake : (octets ++ rest).take (inner + octets.length) = octets ++ rest.take inner := by
      rw [Nat.add_comm, List.take_length_add_append]
    rw [htake, List.append_assoc, (closingSize_header hframes hlong hopen depth).1 hlength,
      hagain more]
    rfl
  | case5 depth bs hopen header rest hread n hlength hfits ih =>
    obtain ⟨inner, hinner, rfl⟩ := Option.map_eq_some_iff.mp h
    obtain ⟨hmin, hroom, hagain⟩ := ih hinner
    obtain ⟨octets, hlong, rfl, hframes⟩ := Header.read_frames hread
    rw [closes_append hlong] at hopen
    rw [List.length_drop] at hroom
    rw [length_append_sub]
    refine ⟨by omega, by rw [List.length_append]; omega, ?_⟩
    intro more
    have htake : (octets ++ rest).take (inner + (octets.length + n)) =
        octets ++ rest.take (n + inner) := by
      rw [show inner + (octets.length + n) = octets.length + (n + inner) by omega,
        List.take_length_add_append]
    have htaken : n ≤ (rest.take (n + inner)).length := by
      rw [List.length_take]
      omega
    have hdrop : (rest.take (n + inner) ++ more).drop n = (rest.drop n).take inner ++ more := by
      rw [List.drop_append_of_le_length htaken, List.drop_take, Nat.add_sub_cancel_left]
    have hfits' : n ≤ (rest.take (n + inner) ++ more).length := by
      rw [List.length_append]
      omega
    rw [htake, List.append_assoc,
      (closingSize_header hframes hlong hopen depth).2 n hlength hfits', hdrop, hagain more]
    rfl
  | case6 => cases h

namespace Element

/-- The contents of an element lie within the octets, and are found again whatever stands behind. -/
theorem contentsSize_frames {length : Option Nat} {size : Nat} {bs : Bytes}
    (h : contentsSize length bs = some size) :
    size ≤ bs.length ∧ ∀ more, contentsSize length (bs.take size ++ more) = some size := by
  cases length with
  | none =>
    obtain ⟨-, hroom, hagain⟩ := closingSize_frames h
    exact ⟨hroom, hagain⟩
  | some n =>
    simp only [contentsSize] at h ⊢
    split at h
    · rename_i hfits
      obtain rfl := Option.some.inj h
      refine ⟨hfits, ?_⟩
      intro more
      rw [if_pos]
      rw [List.length_append, List.length_take]
      omega
    · cases h

/-- An element that was read is in front of what was left, and is read from its own octets whatever
stands behind them. -/
theorem read_frames {bs rest : Bytes} {e : Element} (h : read bs = some (e, rest)) :
    bs = e.raw ++ rest ∧ Frames read e.raw e := by
  unfold read at h
  split at h
  · cases h
  · rename_i header behind hheader
    split at h
    · cases h
    · rename_i size hsize
      obtain ⟨octets, hlong, rfl, hframes⟩ := Header.read_frames hheader
      obtain ⟨hroom, hagain⟩ := contentsSize_frames hsize
      have hhead (behind : Bytes) :
          (octets ++ behind).take ((octets ++ behind).length - behind.length) = octets := by
        rw [length_append_sub, List.take_left]
      have hbody : (behind.take size).length = size := by
        rw [List.length_take]
        omega
      rw [hhead] at h
      simp only [Option.some.injEq, Prod.mk.injEq] at h
      obtain ⟨rfl, rfl⟩ := h
      refine ⟨?_, ?_⟩
      · rw [raw, List.append_assoc, List.take_append_drop]
      · intro more
        rw [raw, List.append_assoc, read, hframes]
        dsimp only
        rw [hagain more]
        dsimp only
        rw [hhead, List.take_left' hbody, List.drop_left' hbody]

/-- The first element that contents hold is read in front of the others. -/
theorem exists_read_of_readAll {indefinite : Bool} {bs : Bytes} {e : Element}
    {others : List Element} (h : readAll indefinite bs = some (e :: others)) : ∃ rest, read bs = some (e, rest) := by
  rw [readAll] at h
  split at h
  · split at h
    · simp at h
    · cases h
  · split at h
    · split at h
      · cases h
      · simp at h
    · split at h
      · cases h
      · rename_i first rest hread
        obtain ⟨items, -, hitems⟩ := Option.map_eq_some_iff.mp h
        rw [(List.cons.inj hitems).1] at hread
        exact ⟨rest, hread⟩

end Element

/-- An element that is written is never empty: it has an identifier and a length. -/
theorem write_ne_nil (tag : Tag) (constructed : Bool) (contents : Bytes) :
    write tag constructed contents ≠ [] := by
  apply List.append_ne_nil_of_left_ne_nil
  apply List.append_ne_nil_of_left_ne_nil
  split
  · exact List.cons_ne_nil _ _
  · exact List.cons_ne_nil _ _

/-- A larger number is spelled by no fewer octets. -/
theorem length_ofNatMinimal_le {m n : Nat} (h : m ≤ n) :
    (Bytes.ofNatMinimal m).length ≤ (Bytes.ofNatMinimal n).length := by
  simp only [Bytes.ofNatMinimal, Bytes.length_ofNat, Bytes.sizeOf]
  by_cases hm : m = 0
  · rw [if_pos hm]
    exact Nat.zero_le _
  · have hn : n ≠ 0 := by omega
    have hlog : m.log2 ≤ n.log2 := (Nat.le_log2 hn).mpr (Nat.le_trans (Nat.log2_self_le hm) h)
    rw [if_neg hm, if_neg hn]
    exact Nat.succ_le_succ (Nat.div_le_div_right hlog)

/-- A header for more contents is no shorter. -/
theorem length_writeHeader_le (tag : Tag) (constructed : Bool) {m n : Nat} (h : m ≤ n) :
    (writeHeader tag constructed m).length ≤ (writeHeader tag constructed n).length := by
  have hdigits := length_ofNatMinimal_le h
  simp only [writeHeader, List.length_append]
  refine Nat.add_le_add_left ?_ _
  split
  · split
    · exact Nat.le_refl _
    · rw [List.length_singleton, List.length_cons]
      omega
  · rename_i hlong
    rw [if_neg (by omega), List.length_cons, List.length_cons]
    exact Nat.succ_le_succ hdigits

/-- Elements of one tag that are written alike have the same contents. -/
theorem write_injective (tag : Tag) (constructed : Bool) :
    Function.Injective (write tag constructed) := by
  intro a b h
  have hlength : a.length = b.length := by
    have htotal := congrArg List.length h
    simp only [write, List.length_append] at htotal
    rcases Nat.le_total a.length b.length with hle | hle
    · have hheader := length_writeHeader_le tag constructed hle
      omega
    · have hheader := length_writeHeader_le tag constructed hle
      omega
  simp only [write, hlength] at h
  exact List.append_cancel_left h

end PeerTrust.Asn1
