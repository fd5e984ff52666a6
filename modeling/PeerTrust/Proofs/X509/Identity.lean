import PeerTrust.Path.Issuance
import PeerTrust.Proofs.Asn1.Framing

/-!
# Certificates that are written alike

Two certificates count as the same when they are written alike. The signed part is written as the
octets it was read from, and these say where they end, so certificates that were read and are the
same agree in all that is signed.
-/

namespace PeerTrust.X509

open PeerTrust.Asn1

/-- The signed part keeps the octets it was read from. -/
theorem Body.raw_of_ofElement? {e : Element} {b : Body} (h : Body.ofElement? e = some b) :
    b.raw = e.raw := by
  unfold Body.ofElement? at h
  obtain ⟨items, -, h⟩ := Option.bind_eq_some_iff.mp h
  simp only at h
  split at h
  · split at h
    · simp only [Option.bind_eq_bind, Option.bind_eq_some_iff, Option.pure_def,
        Option.some.injEq] at h
      obtain ⟨-, -, -, -, -, -, -, -, -, -, -, -, -, -, -, -, -, -, -, -, rfl⟩ := h
      rfl
    · cases h
  · cases h

/-- The first part of a certificate that is read is its signed part, in front of the others. -/
theorem Certificate.exists_read_of_ofElement? {e : Element} {c : Certificate}
    (h : Certificate.ofElement? e = some c) :
    ∃ bs first rest, Element.read bs = some (first, rest) ∧
      Body.ofElement? first = some c.body := by
  unfold Certificate.ofElement? at h
  split at h
  · rename_i first algorithm signature hitems
    obtain ⟨body, hbody, h⟩ := Option.bind_eq_some_iff.mp h
    obtain ⟨a, -, h⟩ := Option.bind_eq_some_iff.mp h
    obtain ⟨s, -, h⟩ := Option.bind_eq_some_iff.mp h
    cases h
    unfold Element.sequence? at hitems
    split at hitems
    · obtain ⟨rest, hread⟩ := Element.exists_read_of_readAll hitems
      exact ⟨_, first, rest, hread, hbody⟩
    · cases hitems
  · cases h

/-- A certificate that was read from octets. -/
def Certificate.IsRead (c : Certificate) : Prop :=
  ∃ der, Certificate.ofDer? der = some c

/-- The octets of a certificate's signed part say what it is, whatever stands behind them. -/
theorem Certificate.IsRead.frames {c : Certificate} (h : c.IsRead) :
    ∃ first, Body.ofElement? first = some c.body ∧ Frames Element.read c.body.raw first := by
  obtain ⟨der, hder⟩ := h
  obtain ⟨⟨e, after⟩, -, hcert⟩ := Option.bind_eq_some_iff.mp hder
  obtain ⟨bs, first, rest, hread, hbody⟩ := exists_read_of_ofElement? hcert
  refine ⟨first, hbody, ?_⟩
  rw [Body.raw_of_ofElement? hbody]
  exact (Element.read_frames hread).2

/-- Certificates that were read and are the same agree in all that is signed. -/
theorem Certificate.IsRead.body_eq_of_same {a b : Certificate} (ha : a.IsRead) (hb : b.IsRead)
    (hsame : Path.same a b = true) : a.body = b.body := by
  obtain ⟨first, hfirst, hframes⟩ := ha.frames
  obtain ⟨first', hfirst', hframes'⟩ := hb.frames
  have hwritten : a.write = b.write := eq_of_beq hsame
  have hparts : a.body.raw ++ (a.algorithm.write ++ a.signature.write) =
      b.body.raw ++ (b.algorithm.write ++ b.signature.write) := by
    have hcontents := write_injective _ _ hwritten
    simpa using hcontents
  have hbodies := (hframes.unique hframes' hparts).1
  rw [hbodies, hfirst'] at hfirst
  exact (Option.some.inj hfirst).symm

/-- What is read off the signed part alone is the same for certificates that agree in it. -/
theorem Certificate.congr_body {β : Type} (f : Certificate → β)
    (hf : ∀ body a s a' s', f ⟨body, a, s⟩ = f ⟨body, a', s'⟩) {a b : Certificate}
    (h : a.body = b.body) : f a = f b := by
  obtain ⟨body, _, _⟩ := a
  obtain ⟨_, _, _⟩ := b
  cases h
  exact hf _ _ _ _ _

end PeerTrust.X509
