import PeerTrust.Engine

/-!
# Judging in a session

Path validation is asked about a chain only where a policy validates paths and the chain is not
empty. Every other judgement is the same in every session, at every moment and with whatever path
validation there is. What is proved of engines goes by this division.
-/

namespace PeerTrust

/-- Whether a policy asks path validation about a chain. -/
def TrustPolicy.Consults (policy : TrustPolicy) (chain : PeerChain) : Prop :=
  (∃ anchors, policy = .systemDefault anchors) ∧ chain.isEmpty = false

/-- The judgement that an answer of path validation stands for. -/
def Judgement.ofSystem : Except String Unit → Judgement
  | .ok () => ⟨.accepted, some 0⟩
  | .error detail => ⟨.rejected (.systemValidationFailed detail), none⟩

namespace Engine

variable {σ : Type} {policy : TrustPolicy} {chain : PeerChain} {now : X509.Moment} {host : String}

section Judging

/-! ### One chain -/

theorem judgeSystem_eq_map (e : Engine σ) (call : SystemCall) :
    e.judgeSystem call = Judgement.ofSystem <$> e.outcome call := by
  rw [judgeSystem, map_eq_pure_bind]
  refine congrArg (e.outcome call >>= ·) (funext fun answer => ?_)
  cases answer <;> rfl

/-- A chain about which path validation is asked is judged by what it comes to. -/
theorem judge_of_consults {e : Engine σ} (h : e.policy.Consults chain) :
    e.judge now chain host = e.judgeSystem ⟨now, chain, host⟩ := by
  obtain ⟨⟨anchors, hpolicy⟩, hne⟩ := h
  rw [judge, hne, judgeChain, hpolicy]
  rfl

/-- Every other chain has one judgement. -/
theorem exists_judgement (h : ¬policy.Consults chain) (host : String) :
    ∃ j, ∀ {σ : Type} (system : Option (SystemVerifier σ)) (now : X509.Moment),
      judge ⟨policy, system⟩ now chain host = pure j := by
  cases htrust : policy.isTrustAll with
  | true => exact ⟨⟨.accepted, none⟩, fun system now => if_pos htrust⟩
  | false =>
    have hother : ¬policy.isTrustAll = true := Bool.eq_false_iff.mp htrust
    by_cases hempty : chain.isEmpty = true
    · exact ⟨⟨.rejected .emptyChain, none⟩, fun system now =>
        (if_neg hother).trans (if_pos hempty)⟩
    · have hjudge {σ : Type} (system : Option (SystemVerifier σ)) (now : X509.Moment) :
          judge ⟨policy, system⟩ now chain host = judgeChain ⟨policy, system⟩ now chain host :=
        (if_neg hother).trans (if_neg hempty)
      cases policy with
      | trustAll => cases htrust
      | systemDefault anchors => exact absurd ⟨⟨anchors, rfl⟩, Bool.eq_false_iff.mpr hempty⟩ h
      | pinnedCertificate _ | pinnedDigest _ _ | pinnedPublicKey _ =>
        exact ⟨_, fun system now => hjudge system now⟩

/-- A verdict is given in the session that the judgement leaves, with one more event. -/
theorem run_verify (e : Engine σ) (now : X509.Moment) (chain : PeerChain) (host : String)
    (s : Session σ) :
    (e.verify now chain host).run s
      = (((e.judge now chain host).run s).1.verdict,
        { ((e.judge now chain host).run s).2 with
          log := ((e.judge now chain host).run s).2.log
            ++ [e.eventOf chain host ((e.judge now chain host).run s).1] }) :=
  rfl

/-- A judgement for which nothing is asked leaves the session as it is, but for the event. -/
theorem run_verify_of_judgement {e : Engine σ} {j : Judgement}
    (h : e.judge now chain host = pure j) (s : Session σ) :
    (e.verify now chain host).run s
      = (j.verdict, { s with log := s.log ++ [e.eventOf chain host j] }) := by
  rw [run_verify, h]
  rfl

theorem judge_of_isEmpty (e : Engine σ) (h : chain.isEmpty) :
    e.judge now chain host
      = pure (if e.policy.isTrustAll then ⟨.accepted, none⟩ else ⟨.rejected .emptyChain, none⟩) := by
  rw [judge, if_pos h]
  split <;> rfl

/-- Of an empty chain only the policy is asked whether it accepts every chain. -/
theorem verify_of_isEmpty (e : Engine σ) (h : chain.isEmpty) (s : Session σ) :
    ((e.verify now chain host).run s).1
      = if e.policy.isTrustAll then .accepted else .rejected .emptyChain := by
  rw [run_verify_of_judgement (e.judge_of_isEmpty h)]
  split <;> rfl

/-- Path validation answers in its state, goes over to the next, and the call is kept. -/
theorem run_outcome {e : Engine σ} {system : SystemVerifier σ} (h : e.system = some system)
    (call : SystemCall) (s : Session σ) :
    (e.outcome call).run s
      = (((system call).run s.state).1,
        { s with state := ((system call).run s.state).2, calls := s.calls ++ [call] }) := by
  rw [outcome, h]
  rfl

/-- With path validation a chain about which it is asked is judged by its answer. -/
theorem run_judge_of_consults {e : Engine σ} {system : SystemVerifier σ}
    (hsystem : e.system = some system) (h : e.policy.Consults chain) (s : Session σ) :
    (e.judge now chain host).run s
      = (.ofSystem ((system ⟨now, chain, host⟩).run s.state).1,
        { s with
          state := ((system ⟨now, chain, host⟩).run s.state).2,
          calls := s.calls ++ [⟨now, chain, host⟩] }) := by
  have houtcome := run_outcome hsystem ⟨now, chain, host⟩ s
  rw [judge_of_consults h, judgeSystem_eq_map, StateT.run_map, houtcome]
  rfl

end Judging

section Runs

/-! ### Whole runs -/

/-- A step is answered in the session that the steps before have left. -/
theorem run_run_cons (e : Engine σ) (step : Step) (rest : List Step) (s : Session σ) :
    (e.run (step :: rest)).run s
      = (((e.verifyDers step.now step.ders step.host).run s).1
          :: ((e.run rest).run ((e.verifyDers step.now step.ders step.host).run s).2).1,
        ((e.run rest).run ((e.verifyDers step.now step.ders step.host).run s).2).2) :=
  rfl

/-- Each answer of a run is given in the session that the steps before have left. -/
theorem run_run_getElem? (e : Engine σ) (steps : List Step) (i : Nat) (s : Session σ) :
    ((e.run steps).run s).1[i]? = steps[i]?.map fun step =>
      ((e.verifyDers step.now step.ders step.host).run ((e.run (steps.take i)).run s).2).1 := by
  -- For any session to start with, as every step leaves another one behind.
  induction steps generalizing s i with
  | nil => rfl
  | cons step rest ih =>
    cases i with
    | zero => rfl
    | succ i => exact ih i _

theorem run_verifyDers_of_ok (e : Engine σ) {ders : List Bytes}
    (h : PeerChain.ofDers ders = .ok chain) (s : Session σ) :
    (e.verifyDers now ders host).run s
      = (.ok ((e.verify now chain host).run s).1, ((e.verify now chain host).run s).2) := by
  rw [verifyDers, h]
  rfl

/-- Octets that are no chain leave the session as it is. -/
theorem verifyDers_of_error (e : Engine σ) {ders : List Bytes} {fault : CertificateFault}
    (h : PeerChain.ofDers ders = .error fault) :
    e.verifyDers now ders host = pure (.error (.certificate fault)) := by
  rw [verifyDers, h]

end Runs

end Engine

end PeerTrust
