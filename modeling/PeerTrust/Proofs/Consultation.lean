import PeerTrust.Proofs.BuildFaults

/-!
# When path validation is consulted

Path validation of one's own may answer differently each time: it has a state, which goes on with
every call. Over a run of any length it is called once for each step whose chain can be read and is
not empty, with that chain, that host and that moment, if the policy validates paths; other policies
never call it, and neither does any other step. What it has seen is told twice, by the session and by
path validation that keeps a list of its own calls, and the two agree.
-/

namespace PeerTrust

namespace SystemVerifier

variable {σ : Type}

/-- The state behind calls in order. -/
def after (v : SystemVerifier σ) (s : σ) (calls : List SystemCall) : σ :=
  calls.foldl (fun s call => ((v call).run s).2) s

theorem after_append (v : SystemVerifier σ) (s : σ) (a b : List SystemCall) :
    v.after s (a ++ b) = v.after (v.after s a) b :=
  List.foldl_append

/-- The same path validation, which keeps a list of its calls beside its state. -/
def recording (v : SystemVerifier σ) : SystemVerifier (σ × List SystemCall) :=
  fun call (s, seen) => let (answer, s') := (v call).run s; (answer, s', seen ++ [call])

/-- What is kept of calls is the calls. -/
theorem after_recording (v : SystemVerifier σ) (s : σ) (seen calls : List SystemCall) :
    v.recording.after (s, seen) calls = (v.after s calls, seen ++ calls) := by
  induction calls generalizing s seen with
  | nil => exact congrArg (Prod.mk s) (List.append_nil seen).symm
  | cons call calls ih =>
    have hstep : v.recording.after (s, seen) (call :: calls)
        = v.recording.after (((v call).run s).2, seen ++ [call]) calls := rfl
    rw [hstep, ih, List.append_assoc, List.singleton_append]
    rfl

end SystemVerifier

/-- The verdict that an answer of path validation stands for. -/
def Verdict.ofSystem : Except String Unit → Verdict
  | .ok () => .accepted
  | .error detail => .rejected (.systemValidationFailed detail)

theorem Judgement.verdict_ofSystem (answer : Except String Unit) :
    (Judgement.ofSystem answer).verdict = .ofSystem answer := by
  cases answer <;> rfl

namespace Engine

section Steps

/-! ### One step -/

variable {σ : Type} {policy : TrustPolicy} {step : Step} {call : SystemCall}

/-- The call to path validation that a step asks for. -/
def due? (policy : TrustPolicy) (step : Step) : Option SystemCall :=
  match policy, PeerChain.ofDers step.ders with
  | .systemDefault _, .ok chain =>
    if chain.isEmpty then none else some ⟨step.now, chain, step.host⟩
  | _, _ => none

theorem due?_eq_some_iff :
    due? policy step = some call ↔ PeerChain.ofDers step.ders = .ok call.chain
      ∧ policy.Consults call.chain ∧ call.now = step.now ∧ call.host = step.host := by
  obtain ⟨now, chain, host⟩ := call
  constructor
  · intro h
    unfold due? at h
    split at h
    · rename_i anchors read hread
      split_ifs at h with hempty
      obtain ⟨rfl, rfl, rfl⟩ := SystemCall.mk.inj (Option.some.inj h)
      exact ⟨hread, ⟨⟨anchors, rfl⟩, Bool.eq_false_iff.mpr hempty⟩, rfl, rfl⟩
    · cases h
  · rintro ⟨hread, ⟨⟨anchors, rfl⟩, hempty⟩, rfl, rfl⟩
    dsimp only at hread hempty
    unfold due?
    rw [hread]
    dsimp only
    rw [if_neg (Bool.eq_false_iff.mp hempty)]

/-- A step that asks for a call makes it, and the answer decides the verdict. -/
theorem run_verifyDers_of_due (v : SystemVerifier σ) (h : due? policy step = some call)
    (s : Session σ) :
    ∃ event, ((withSystem policy v).verifyDers step.now step.ders step.host).run s
      = (.ok (.ofSystem ((v call).run s.state).1),
        ⟨((v call).run s.state).2, s.calls ++ [call], s.log ++ [event]⟩) := by
  obtain ⟨hread, hconsults, hnow, hhost⟩ := due?_eq_some_iff.mp h
  obtain ⟨now, chain, host⟩ := call
  dsimp only at hread hconsults hnow hhost
  subst hnow hhost
  have hjudge : ((withSystem policy v).judge step.now chain step.host).run s = _ :=
    run_judge_of_consults rfl hconsults s
  refine ⟨(withSystem policy v).eventOf chain step.host
    (.ofSystem ((v ⟨step.now, chain, step.host⟩).run s.state).1), ?_⟩
  rw [run_verifyDers_of_ok _ hread, run_verify, hjudge, Judgement.verdict_ofSystem]

/-- A step that asks for no call makes none, and is answered without regard to path validation. -/
theorem exists_answer_of_not_due (h : due? policy step = none) :
    ∃ answer events, ∀ {σ : Type} (system : Option (SystemVerifier σ)) (s : Session σ),
      (verifyDers ⟨policy, system⟩ step.now step.ders step.host).run s
        = (answer, { s with log := s.log ++ events }) := by
  cases hread : PeerChain.ofDers step.ders with
  | error fault =>
    refine ⟨.error (.certificate fault), [], fun system s => ?_⟩
    rw [verifyDers_of_error _ hread, List.append_nil]
    rfl
  | ok chain =>
    have hidle : ¬policy.Consults chain := by
      intro hconsults
      have hdue : due? policy step = some ⟨step.now, chain, step.host⟩ :=
        due?_eq_some_iff.mpr ⟨hread, hconsults, rfl, rfl⟩
      rw [h] at hdue
      cases hdue
    obtain ⟨j, hjudge⟩ := exists_judgement hidle step.host
    refine ⟨.ok j.verdict, [eventOf (σ := Unit) ⟨policy, none⟩ chain step.host j],
      fun system s => ?_⟩
    rw [run_verifyDers_of_ok _ hread, run_verify_of_judgement (hjudge system step.now)]
    rfl

end Steps

section Runs

/-! ### Whole runs -/

variable {σ : Type} {policy : TrustPolicy} {v : SystemVerifier σ}

/-- The calls that steps ask for, in order. -/
def dues (policy : TrustPolicy) (steps : List Step) : List SystemCall :=
  steps.filterMap (due? policy)

/-- A step makes the calls that it asks for, and path validation goes on by these. -/
theorem trace_verifyDers (policy : TrustPolicy) (v : SystemVerifier σ) (step : Step)
    (s : Session σ) :
    (((withSystem policy v).verifyDers step.now step.ders step.host).run s).2.calls
        = s.calls ++ (due? policy step).toList
      ∧ (((withSystem policy v).verifyDers step.now step.ders step.host).run s).2.state
        = v.after s.state (due? policy step).toList := by
  cases hdue : due? policy step with
  | none =>
    obtain ⟨answer, events, hrun⟩ := exists_answer_of_not_due hdue
    rw [withSystem, hrun]
    exact ⟨(List.append_nil _).symm, rfl⟩
  | some call =>
    obtain ⟨event, hrun⟩ := run_verifyDers_of_due v hdue s
    rw [hrun]
    exact ⟨rfl, rfl⟩

theorem dues_cons (policy : TrustPolicy) (step : Step) (rest : List Step) :
    dues policy (step :: rest) = (due? policy step).toList ++ dues policy rest := by
  rw [dues, List.filterMap_cons]
  cases due? policy step <;> rfl

/-- A run makes the calls that its steps ask for, and path validation ends in the state behind
them. -/
theorem trace_run (policy : TrustPolicy) (v : SystemVerifier σ) (steps : List Step)
    (s : Session σ) :
    (((withSystem policy v).run steps).run s).2.calls = s.calls ++ dues policy steps
      ∧ (((withSystem policy v).run steps).run s).2.state
        = v.after s.state (dues policy steps) := by
  -- For any session to start with, as every step leaves another one behind.
  induction steps generalizing s with
  | nil => exact ⟨(List.append_nil _).symm, rfl⟩
  | cons step rest ih =>
    obtain ⟨hcalls, hstate⟩ := trace_verifyDers policy v step s
    obtain ⟨hrestCalls, hrestState⟩ :=
      ih (((withSystem policy v).verifyDers step.now step.ders step.host).run s).2
    rw [run_run_cons, dues_cons]
    constructor
    · rw [hrestCalls, hcalls, List.append_assoc]
    · rw [hrestState, hstate, SystemVerifier.after_append]

/-- A call that a step asks for is answered by path validation as the calls of the steps before have
left it. -/
theorem answer_of_due {steps : List Step} {i : Nat} {step : Step} {call : SystemCall}
    (hstep : steps[i]? = some step) (hdue : due? policy step = some call) (s : Session σ) :
    (((withSystem policy v).run steps).run s).1[i]?
      = some (.ok (.ofSystem
          ((v call).run (v.after s.state (dues policy (steps.take i)))).1)) := by
  obtain ⟨event, hrun⟩ := run_verifyDers_of_due v hdue
    (((withSystem policy v).run (steps.take i)).run s).2
  rw [run_run_getElem?, hstep, Option.map_some, hrun, (trace_run policy v (steps.take i) s).2]

/-- A step that asks for no call has the same answer in any two runs. -/
theorem answer_congr_of_not_due {τ : Type} (system : Option (SystemVerifier σ))
    (other : Option (SystemVerifier τ)) (s : Session σ) (t : Session τ) {steps : List Step} {i : Nat}
    (h : ∀ step ∈ steps[i]?, due? policy step = none) :
    ((run ⟨policy, system⟩ steps).run s).1[i]? = ((run ⟨policy, other⟩ steps).run t).1[i]? := by
  rw [run_run_getElem?, run_run_getElem?]
  cases hstep : steps[i]? with
  | none => rfl
  | some step =>
    obtain ⟨answer, events, hrun⟩ := exists_answer_of_not_due (h step hstep)
    rw [Option.map_some, Option.map_some, hrun, hrun]

/-- Keeping a list of the calls changes nothing about the answers. -/
theorem answers_recording (policy : TrustPolicy) (v : SystemVerifier σ) (steps : List Step)
    (s : Session σ) (seen : List SystemCall) :
    (((withSystem policy v.recording).run steps).run ⟨(s.state, seen), s.calls, s.log⟩).1
      = (((withSystem policy v).run steps).run s).1 := by
  refine List.ext_getElem? fun i => ?_
  cases hstep : steps[i]? with
  | none => rw [run_run_getElem?, run_run_getElem?, hstep]; rfl
  | some step =>
    cases hdue : due? policy step with
    | none =>
      refine answer_congr_of_not_due _ _ _ _ fun step' hstep' => ?_
      rw [hstep] at hstep'
      exact Option.some.inj hstep' ▸ hdue
    | some call =>
      rw [answer_of_due hstep hdue, answer_of_due hstep hdue, SystemVerifier.after_recording]
      rfl

/-- Policies that do not validate paths ask for no call. -/
theorem due?_eq_none (h : ∀ anchors, policy ≠ .systemDefault anchors) (step : Step) :
    due? policy step = none := by
  rw [Option.eq_none_iff_forall_ne_some]
  intro call hdue
  obtain ⟨-, ⟨⟨anchors, hpolicy⟩, -⟩, -⟩ := due?_eq_some_iff.mp hdue
  exact h anchors hpolicy

theorem dues_eq_nil (h : ∀ anchors, policy ≠ .systemDefault anchors) (steps : List Step) :
    dues policy steps = [] :=
  List.filterMap_eq_nil_iff.mpr fun step _ => due?_eq_none h step

end Runs

section Binding

/-! ### Engines that validate paths -/

variable {σ : Type} {around : Surroundings} {policy : TrustPolicy} {e : Engine σ}

theorem exists_system_of_ofPolicy (h : ofPolicy around policy = .ok e)
    {anchors : Option (List PeerCertificate)} (hpolicy : e.policy = .systemDefault anchors) :
    ∃ system, e.system = some system := by
  have hsame := policy_ofPolicy h
  rw [hpolicy] at hsame
  obtain ⟨found, hfound, rfl⟩ := map_eq_ok_iff.mp h
  obtain ⟨store, rfl⟩ := (exists_store_iff hfound).mpr ⟨anchors, hsame.symm⟩
  exact ⟨store.verifier around.diagnose, rfl⟩

theorem exists_system_of_ofConfig {c : PolicyConfig} (h : (ofConfig around c).result = .ok e)
    {anchors : Option (List PeerCertificate)} (hpolicy : e.policy = .systemDefault anchors) :
    ∃ system, e.system = some system := by
  obtain ⟨policy, -, he⟩ := ofConfig_eq_ok_iff.mp h
  exact exists_system_of_ofPolicy he hpolicy

theorem exists_system_of_ofJson {json : String} (h : (ofJson around json).result = .ok e)
    {anchors : Option (List PeerCertificate)} (hpolicy : e.policy = .systemDefault anchors) :
    ∃ system, e.system = some system := by
  obtain ⟨c, -, hc⟩ := ofJson_eq_ok_iff.mp h
  exact exists_system_of_ofConfig hc hpolicy

theorem outcome_of_system {system : SystemVerifier σ} (h : e.system = some system)
    (call : SystemCall) : e.outcome call = Session.consult system call := by
  rw [outcome, h]

end Binding

/-- The calls that path validation answers over a run are those that the steps ask for, in order: one
with the chain, the host and the moment of each step whose chain can be read and is not empty, if the
policy validates paths, and none otherwise. The session tells them, path validation ends in the state
behind them, and if it keeps a list of its calls, which changes no answer, they are what it has kept.
What it answers to one, in the state that the calls before have left, is the verdict on the step. All
other steps are answered alike whatever path validation there is, if any, and so are all steps under
other policies. An engine that validates paths has always what it needs for it, so what it comes to
is what that answers. -/
theorem system_consulted_when_due (policy : TrustPolicy) {σ : Type} (v : SystemVerifier σ)
    (s : Session σ) (steps : List Step) :
    (((withSystem policy v).run steps).run s).2.calls = s.calls ++ dues policy steps
    ∧ (((withSystem policy v).run steps).run s).2.state = v.after s.state (dues policy steps)
    ∧ (((withSystem policy v.recording).run steps).run ⟨(s.state, []), s.calls, s.log⟩).2.state.2
      = dues policy steps
    ∧ (((withSystem policy v.recording).run steps).run ⟨(s.state, []), s.calls, s.log⟩).1
      = (((withSystem policy v).run steps).run s).1
    ∧ (∀ (i : Nat) (step : Step) (call : SystemCall),
        steps[i]? = some step → due? policy step = some call →
        (((withSystem policy v).run steps).run s).1[i]? = some (.ok (.ofSystem
          ((v call).run (v.after s.state (dues policy (steps.take i)))).1)))
    ∧ (∀ {τ : Type} (system : Option (SystemVerifier τ)) (t : Session τ) (i : Nat),
        (∀ step ∈ steps[i]?, due? policy step = none) →
        ((run ⟨policy, system⟩ steps).run t).1[i]?
          = (((withSystem policy v).run steps).run s).1[i]?)
    ∧ ((∀ anchors, policy ≠ .systemDefault anchors) → dues policy steps = []
        ∧ ∀ {τ : Type} (system : Option (SystemVerifier τ)) (t : Session τ),
          ((run ⟨policy, system⟩ steps).run t).1 = (((withSystem policy v).run steps).run s).1)
    ∧ ∀ (around : Surroundings) (e : Engine σ) (anchors : Option (List PeerCertificate)),
        ofPolicy around policy = .ok e ∨ (∃ c, (ofConfig around c).result = .ok e)
          ∨ (∃ json, (ofJson around json).result = .ok e)
          ∨ (∃ system, e = withSystem policy system) →
        e.policy = .systemDefault anchors →
        ∃ system, e.system = some system ∧ ∀ call, e.outcome call = Session.consult system call := by
  obtain ⟨hcalls, hstate⟩ := trace_run policy v steps s
  refine ⟨hcalls, hstate, ?_, answers_recording policy v steps s [],
    fun i step call hstep hdue => answer_of_due hstep hdue s,
    fun system t i h => answer_congr_of_not_due _ _ _ _ h,
    fun hpolicy => ⟨dues_eq_nil hpolicy steps, fun system t => ?_⟩,
    fun around e anchors hmade hpolicy => ?_⟩
  · rw [(trace_run policy v.recording steps _).2, SystemVerifier.after_recording, List.nil_append]
  · refine List.ext_getElem? fun i => ?_
    exact answer_congr_of_not_due _ _ _ _ fun step _ => due?_eq_none hpolicy step
  · have hsystem : ∃ system, e.system = some system := by
      rcases hmade with hbound | ⟨c, hconfig⟩ | ⟨json, hjson⟩ | ⟨system, rfl⟩
      · exact exists_system_of_ofPolicy hbound hpolicy
      · exact exists_system_of_ofConfig hconfig hpolicy
      · exact exists_system_of_ofJson hjson hpolicy
      · exact ⟨system, rfl⟩
    obtain ⟨system, hsome⟩ := hsystem
    exact ⟨system, hsome, outcome_of_system hsome⟩

/-- Of four steps only the last two are calls: the chains before them hold octets that are no
certificate, or nothing. Path validation refuses the first call and accepts the second. Under a pin
none of them is a call. -/
theorem system_consulted_when_due_specimen :
    ∃ (chain : PeerChain) (steps : List Step) (now : X509.Moment) (v : SystemVerifier Nat)
      (s : Session Nat) (around : Surroundings) (e : Engine Nat) (system : SystemVerifier Nat),
      steps.map Step.host = ["b", "c", "a", "a"]
      ∧ (((withSystem (.systemDefault none) v).run steps).run s).2.calls
        = [⟨now, chain, "a"⟩, ⟨now, chain, "a"⟩]
      ∧ (((withSystem (.systemDefault none) v).run steps).run s).1[2]?
        = some (.ok (.rejected (.systemValidationFailed "no")))
      ∧ (((withSystem (.systemDefault none) v).run steps).run s).1[3]? = some (.ok .accepted)
      ∧ (((withSystem (.pinnedPublicKey .empty) v).run steps).run s).2.calls = []
      ∧ ofPolicy around (.systemDefault none) = .ok e ∧ e.system = some system := by
  obtain ⟨cert, _, hcert, -, -⟩ := PeerCertificate.bundle_specimen
  let chain : PeerChain := ⟨[cert]⟩
  let now := X509.Moment.of 2026 1 1 0 0 0
  let broken : Step := ⟨now, [Asn1.writePrimitive Asn1.tagNull []], "b"⟩
  let empty : Step := ⟨now, [], "c"⟩
  let valid : Step := ⟨now, [Specimen.certificate [Utf8.encodeString "a"]], "a"⟩
  let steps := [broken, empty, valid, valid]
  let v : SystemVerifier Nat := fun _ n => (if n = 0 then .error "no" else .ok (), n + 1)
  let around : Surroundings := ⟨.ok ⟨.anchors, []⟩, fun _ _ => "no structure"⟩
  have hbroken : due? (.systemDefault none) broken = none := by
    rw [Option.eq_none_iff_forall_ne_some]
    intro call hdue
    have hread := (due?_eq_some_iff.mp hdue).1
    simp [broken, PeerChain.ofDers, PeerCertificate.ofDer_null, Except.map, bind,
      Except.bind] at hread
  have hempty : due? (.systemDefault none) empty = none := rfl
  have hvalid : due? (.systemDefault none) valid = some ⟨now, chain, "a"⟩ := by
    refine due?_eq_some_iff.mpr ⟨?_, ⟨⟨none, rfl⟩, rfl⟩, rfl, rfl⟩
    simp [valid, chain, PeerChain.ofDers, hcert, Except.map, bind, Except.bind, pure, Except.pure]
  have hnone : dues (.systemDefault none) (steps.take 2) = [] := by
    simp [dues, steps, hbroken, hempty]
  have hone : dues (.systemDefault none) (steps.take 3) = [⟨now, chain, "a"⟩] := by
    simp [dues, steps, hbroken, hempty, hvalid]
  have hboth : dues (.systemDefault none) steps = [⟨now, chain, "a"⟩, ⟨now, chain, "a"⟩] := by
    simp [dues, steps, hbroken, hempty, hvalid]
  obtain ⟨hcalls, -, -, -, hanswers, -, -, hengines⟩ :=
    system_consulted_when_due (.systemDefault none) v (.start 0) steps
  obtain ⟨hpinned, -, -, -, -, -, hpins, -⟩ :=
    system_consulted_when_due (.pinnedPublicKey .empty) v (.start 0) steps
  obtain ⟨system, hsystem, -⟩ := hengines around _ none (.inl rfl) rfl
  refine ⟨chain, steps, now, v, .start 0, around, _, system, rfl, ?_, ?_, ?_, ?_, rfl, hsystem⟩
  · rw [hcalls, hboth]
    rfl
  · rw [hanswers 2 valid _ rfl hvalid, hnone]
    rfl
  · rw [hanswers 3 valid _ rfl hvalid, hone]
    rfl
  · rw [hpinned, (hpins nofun).1]
    rfl

end Engine

end PeerTrust
