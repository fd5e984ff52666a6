import PeerTrust.Proofs.Domain.AsciiName
import PeerTrust.Proofs.Host.AddressReading
import PeerTrust.Proofs.Outcome
import PeerTrust.Url.Reader

/-!
# Hosts of network URLs

In the schemes for the network a URL that can be read always has a host: a domain name without any
character that no host may have, or an address with the octets of its kind. What is spelled like an
address never stays a domain name, since a name that ends in a number has to be an address, and the
colons of the other addresses may stand in no name.

Which texts can be read as URLs is not told.
-/

namespace PeerTrust

namespace Text

/-- What stands behind the last separator is the last part, and not the only one. -/
theorem exists_splitAll_append {sep : Char} {last : List Char} (hlast : sep ∉ last)
    (before : List Char) :
    ∃ front, front ≠ [] ∧ splitAll sep (before ++ sep :: last) = front ++ [last] := by
  have hone {last : List Char} (hlast : sep ∉ last) : splitAll sep last = [last] := by
    induction last with
    | nil => rfl
    | cons c last ih =>
      obtain ⟨hc, hlast⟩ := not_or.mp (mt List.mem_cons.mpr hlast)
      rw [splitAll, if_neg (Ne.symm hc), ih hlast]
  induction before with
  | nil => exact ⟨[[]], by simp, by rw [List.nil_append, splitAll, if_pos rfl, hone hlast]; rfl⟩
  | cons c before ih =>
    obtain ⟨front, hne, hsplit⟩ := ih
    obtain ⟨part, front, rfl⟩ := List.exists_cons_of_ne_nil hne
    rw [List.cons_append, splitAll, hsplit]
    split
    · exact ⟨[] :: part :: front, by simp, rfl⟩
    · exact ⟨(c :: part) :: front, by simp, rfl⟩

end Text

namespace Url

namespace Host

/-- What a scheme for the network knows of a host. -/
def IsNetwork : Host → Prop
  | domain name =>
    name ≠ [] ∧ (∀ c ∈ name, Domain.isForbidden c = false) ∧ endsInNumber name = false
  | address a => a.IsSound
  | verbatim _ => False

/-- Numbers make an address of four octets. -/
theorem isSound_of_ofNumbers? {numbers : List Nat} {a : Address} (h : ofNumbers? numbers = some a) :
    a.IsSound := by
  unfold ofNumbers? at h
  split at h
  · cases h
  · rename_i last before hreverse
    have hlength := congrArg List.length hreverse
    rw [List.length_reverse, List.length_cons] at hlength
    dsimp only at h
    split at h
    · rename_i hroom
      cases h
      change (_ ++ _ : Bytes).length = 4
      rw [List.length_append, List.length_map, List.length_reverse, Bytes.length_ofNat]
      omega
    · cases h

/-- A host that is read in a scheme for the network. -/
theorem isNetwork_of_ofText {text : List Char} {host : Host} (h : ofText text = .ok host) :
    host.IsNetwork := by
  unfold ofText at h
  split at h
  · unfold ofBrackets at h
    dsimp only at h
    split at h
    · rename_i hread
      split at h
      · cases h
        exact Address.length_of_readV6 hread
      · cases h
    · cases h
  · split at h
    · cases h
    · cases h
    · rename_i name hne hname
      obtain ⟨decoded, -, hascii⟩ := Option.bind_eq_some_iff.mp hname
      split at h
      · unfold ofNumberText at h
        split at h
        · rename_i a ha
          cases h
          obtain ⟨numbers, -, hnumbers⟩ := Option.bind_eq_some_iff.mp ha
          exact isSound_of_ofNumbers? hnumbers
        · cases h
      · rename_i hnumber
        cases h
        exact ⟨hne, fun c hc => Domain.isForbidden_of_mem_toAscii? hascii hc,
          Bool.eq_false_of_not_eq_true hnumber⟩

/-- Digits behind the last dot are a number at the end. -/
theorem endsInNumber_of_digits {before last : List Char} (hne : last ≠ [])
    (hdigits : ∀ c ∈ last, (Address.decimal? c).isSome = true) :
    endsInNumber (before ++ '.' :: last) = true := by
  have hdot : '.' ∉ last := by
    intro hmem
    exact absurd (hdigits '.' hmem) (by decide)
  obtain ⟨front, -, hsplit⟩ := Text.exists_splitAll_append hdot before
  have hlast : (parts (before ++ '.' :: last)).getLast? = some last := by
    rw [parts, hsplit, List.getLast?_concat, if_neg (by simpa using hne), List.getLast?_concat]
  have hnumber : (digits? Address.decimal? 10 last).isSome = true := by
    rw [digits?, if_pos]
    · rfl
    · refine List.all_eq_true.mpr fun c hc => ?_
      obtain ⟨d, hd⟩ := Option.isSome_iff_exists.mp (hdigits c hc)
      have hsmall : d < 10 := by
        unfold Address.decimal? at hd
        split at hd
        · rename_i hrange
          cases hd
          have hhigh : c.toNat ≤ 57 := hrange.2
          change c.toNat - 48 < 10
          omega
        · cases hd
      rw [hd]
      exact decide_eq_true hsmall
  rw [endsInNumber, hlast]
  obtain ⟨c, last, rfl⟩ := List.exists_cons_of_ne_nil hne
  dsimp only
  rw [hnumber, Bool.true_or]

/-- No domain name of a network URL spells an address. -/
theorem ofText?_of_isNetwork_domain {name : List Char} (h : (domain name).IsNetwork) :
    Address.ofText? name = none := by
  obtain ⟨-, hallowed, hnumber⟩ := h
  rw [Option.eq_none_iff_forall_ne_some]
  intro a hread
  unfold Address.ofText? at hread
  split at hread
  · rename_i hv4
    obtain ⟨before, last, rfl, hne, hdigits⟩ := Address.exists_digits_of_readV4 hv4
    rw [endsInNumber_of_digits hne hdigits] at hnumber
    cases hnumber
  · cases hread
  · split at hread
    · rename_i hv6
      exact absurd (hallowed ':' (Address.colon_mem_of_readV6 hv6)) (by decide)
    · cases hread

/-- A host of a network URL is written without brackets, and not as nothing. -/
theorem IsNetwork.toText {host : Host} (h : host.IsNetwork) :
    host.toText ≠ [] ∧ '[' ∉ host.toText ∧ ']' ∉ host.toText := by
  cases host with
  | domain name =>
    obtain ⟨hne, hallowed, -⟩ := h
    exact ⟨hne, fun hc => absurd (hallowed _ hc) (by decide),
      fun hc => absurd (hallowed _ hc) (by decide)⟩
  | address a =>
    have hbracket {c : Char} (hdot : c ≠ '.') (hcolon : c ≠ ':')
        (hdigits : ∀ d < 16, c ≠ Nat.digitChar d) : c ∉ a.toText := by
      intro hc
      obtain heq | heq | ⟨d, hd, heq⟩ := Address.eq_dot_or_isGroupChar_of_mem_toText h hc
      · exact hdot heq
      · exact hcolon heq
      · exact hdigits d hd heq
    exact ⟨(Address.isPlain_of_ofText? (Address.ofText?_toText h)).1,
      hbracket (by decide) (by decide) (by decide), hbracket (by decide) (by decide) (by decide)⟩
  | verbatim _ => exact h.elim

/-- The text of a host of a network URL spells an address exactly when the host is the address. -/
theorem IsNetwork.ofText?_toText {host : Host} (h : host.IsNetwork) (a : Address) :
    Address.ofText? host.toText = some a ↔ host = .address a := by
  cases host with
  | domain name =>
    rw [Host.toText, ofText?_of_isNetwork_domain h]
    exact iff_of_false nofun nofun
  | address b =>
    rw [Host.toText, Address.ofText?_toText h, Option.some.injEq, Host.address.injEq]
  | verbatim _ => exact h.elim

end Host

/-- A scheme for the network has to be followed by a host. -/
theorem exists_host_of_readHost {text : List Char} {host : Option Host}
    (h : readHost .network text = .ok host) : ∃ found, host = some found ∧ found.IsNetwork := by
  rw [readHost] at h
  split at h
  · cases h
  · obtain ⟨found, hfound, rfl⟩ := map_eq_ok_iff.mp h
    exact ⟨found, rfl, Host.isNetwork_of_ofText hfound⟩

/-- The host between user and port is the one that is read. -/
theorem exists_readHost_of_readAuthority {kind : SchemeKind} {text : List Char} {closed : Bool}
    {host : Option Host} {port : Option Nat} (h : readAuthority kind text closed = .ok (host, port)) :
    ∃ name, readHost kind name = .ok host := by
  unfold readAuthority at h
  dsimp only at h
  split at h
  · cases h
  · split at h
    · cases h
    · rename_i found hfound
      have hsame : found = host := by
        split at h
        · cases h
        · split at h
          · cases h
          · split at h
            · cases h
            · cases h
              rfl
      exact ⟨_, hsame ▸ hfound⟩

/-- A URL of the network has a host. -/
theorem exists_host_of_network {text : List Char} {url : Url} (h : ofText text = .ok url)
    (hkind : SchemeKind.ofScheme url.scheme = .network) :
    ∃ host, url.host = some host ∧ host.IsNetwork := by
  unfold ofText at h
  split at h
  · cases h
  · obtain ⟨⟨host, port⟩, hplace, rfl⟩ := map_eq_ok_iff.mp h
    dsimp only at hkind ⊢
    rw [hkind] at hplace
    obtain ⟨name, hname⟩ := exists_readHost_of_readAuthority hplace
    exact exists_host_of_readHost hname

end Url

end PeerTrust
