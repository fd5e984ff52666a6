import Mathlib.Order.Bounds.Defs
import PeerTrust.Proofs.Consultation
import PeerTrust.Proofs.KeySet
import PeerTrust.Proofs.PinText
import PeerTrust.Proofs.TrustAll

/-!
# What is left in the log

An engine's event is made apart from its verdict, from the verdict and a place in the chain that is
told beside it. The two belong together: an acceptance is logged with the certificate that decided
it, and a rejection with all that the peer presented. Over a run each step that is answered leaves
one event, and each step whose chain cannot be read leaves none; nothing else is added to the log.
Building an engine leaves a warning where it will trust every chain, and nothing otherwise.

The texts of pins are digests by SHA-256; nothing is assumed about collisions.
-/

namespace PeerTrust

/-- The place in a chain that decides for it: the peer's own certificate where paths are validated,
and the first certificate that satisfies it for a pin. -/
def TrustPolicy.DecidesAt (host : String) (chain : PeerChain) (depth : Nat) : TrustPolicy → Prop
  | systemDefault _ => depth = 0
  | policy => IsLeast {i | ∃ c, chain.certificates[i]? = some c ∧ policy.Satisfied host c} depth

/-- What an event says of the verdict on a chain when it is true. -/
structure Event.IsTruthful (policy : TrustPolicy) (chain : PeerChain) (host : String)
    (verdict : Verdict) (event : Event) : Prop where
  level : event.level = if verdict.isAccepted && !policy.isTrustAll then .debug else .warn
  /-- Trust in every chain warns that the chain was not looked at. -/
  trustAll : policy.isTrustAll = true → verdict = .accepted ∧ event = .trustAllAccepted host
  accepted : policy.isTrustAll = false → verdict = .accepted →
    ∃ depth c, policy.DecidesAt host chain depth ∧ chain.certificates[depth]? = some c
      ∧ event = .accepted policy.kind host (some depth) (some c.subject)
  rejected : ∀ reason, verdict = .rejected reason →
    event = .rejected policy.kind host reason (chain.certificates.map (·.subject))
      (chain.certificates.map fun c => (c.pin .sha256).text)

namespace Engine

section Judgements

/-! ### One judgement -/

variable {σ : Type} {policy : TrustPolicy} {now : X509.Moment} {host : String} {chain : PeerChain}

/-- A judgement with a place: a chain is accepted at the one that decides for it, and rejected at
none. -/
inductive Decided (policy : TrustPolicy) (host : String) (chain : PeerChain) : Judgement → Prop
  | accepted {depth : Nat} {c : PeerCertificate}
      (hdecides : policy.DecidesAt host chain depth) (hc : chain.certificates[depth]? = some c) :
      Decided policy host chain ⟨.accepted, some depth⟩
  | rejected {reason : RejectReason} : Decided policy host chain ⟨.rejected reason, none⟩

/-- A test on certificates accepts at the first that passes. -/
theorem decided_judgePin (hpin : policy.IsPin) {pinned : PeerCertificate → Bool}
    (htest : ∀ c, pinned c = true ↔ policy.Satisfied host c) (chain : PeerChain)
    (reason : RejectReason) : Decided policy host chain (judgePin chain pinned reason) := by
  unfold judgePin
  split
  · rename_i depth hfound
    obtain ⟨hdepth, hpinned, hfirst⟩ := List.findIdx?_eq_some_iff_getElem.mp hfound
    have hleast : IsLeast {i | ∃ c, chain.certificates[i]? = some c ∧ policy.Satisfied host c}
        depth := by
      refine ⟨⟨_, List.getElem?_eq_getElem hdepth, (htest _).mp hpinned⟩, ?_⟩
      rintro i ⟨c, hc, hsatisfied⟩
      -- A certificate before the one that was found has failed the test.
      by_contra hbefore
      obtain ⟨hi, rfl⟩ := List.getElem?_eq_some_iff.mp hc
      exact hfirst i (Nat.lt_of_not_le hbefore) ((htest _).mpr hsatisfied)
    refine .accepted ?_ (List.getElem?_eq_getElem hdepth)
    cases policy with
    | systemDefault _ | trustAll => exact hpin.elim
    | pinnedCertificate _ | pinnedDigest _ _ | pinnedPublicKey _ => exact hleast
  · exact .rejected

/-- Path validation accepts at the peer's own certificate. -/
theorem decided_ofSystem (h : policy.Consults chain) (answer : Except String Unit) :
    Decided policy host chain (.ofSystem answer) := by
  obtain ⟨⟨anchors, rfl⟩, hne⟩ := h
  cases answer with
  | error detail => exact .rejected
  | ok _ =>
    obtain ⟨c, rest, hchain⟩ := List.exists_cons_of_ne_nil (List.isEmpty_eq_false_iff.mp hne)
    refine .accepted (c := c) rfl ?_
    rw [hchain]
    rfl

theorem decided_judge (e : Engine σ) (htrust : e.policy.isTrustAll = false) (s : Session σ) :
    Decided e.policy host chain ((e.judge now chain host).run s).1 := by
  by_cases hne : chain.certificates = []
  · rw [e.judge_of_isEmpty (List.isEmpty_iff.mpr hne), htrust]
    exact .rejected
  · have hbyPin (hpin : e.policy.IsPin) :
        Decided e.policy host chain ((e.judge now chain host).run s).1 := by
      obtain ⟨pinned, reason, htest, -, hjudge⟩ := e.exists_judgePin host hpin
      rw [e.judge_eq_judgeChain now chain host hpin hne, hjudge]
      exact decided_judgePin hpin htest chain reason
    cases hpolicy : e.policy with
    | trustAll =>
      rw [hpolicy] at htrust
      cases htrust
    | systemDefault anchors =>
      have hconsults : e.policy.Consults chain :=
        ⟨⟨anchors, hpolicy⟩, List.isEmpty_eq_false_iff.mpr hne⟩
      rw [← hpolicy, judge_of_consults hconsults, judgeSystem_eq_map, StateT.run_map]
      exact decided_ofSystem hconsults _
    | pinnedCertificate _ | pinnedDigest _ _ | pinnedPublicKey _ =>
      rw [hpolicy] at hbyPin
      exact hbyPin trivial

/-- What is logged of a judgement with a place is true. -/
theorem Decided.isTruthful {e : Engine σ} {j : Judgement} (h : Decided e.policy host chain j)
    (htrust : e.policy.isTrustAll = false) :
    Event.IsTruthful e.policy chain host j.verdict (e.eventOf chain host j) := by
  have hother : ¬e.policy.isTrustAll = true := Bool.eq_false_iff.mp htrust
  cases h with
  | @accepted depth c hdecides hc =>
    have hevent : e.eventOf chain host ⟨.accepted, some depth⟩
        = .accepted e.policy.kind host (some depth) (some c.subject) := by
      rw [eventOf]
      dsimp only
      rw [if_neg hother, Option.bind_some, hc, Option.map_some]
    rw [hevent]
    exact ⟨by rw [htrust]; rfl, fun htrue => absurd htrue hother,
      fun _ _ => ⟨depth, c, hdecides, hc, rfl⟩, nofun⟩
  | @rejected reason =>
    have hevent : e.eventOf chain host ⟨.rejected reason, none⟩
        = .rejected e.policy.kind host reason (chain.certificates.map (·.subject))
          (chain.certificates.map fun c => (c.pin .sha256).text) := by
      rw [← PeerChain.pins_eq]
      rfl
    rw [hevent]
    refine ⟨rfl, fun htrue => absurd htrue hother, nofun, ?_⟩
    rintro _ ⟨⟩
    rfl

/-- What is logged of a judgement is true. -/
theorem isTruthful_eventOf (e : Engine σ) (s : Session σ) :
    Event.IsTruthful e.policy chain host ((e.judge now chain host).run s).1.verdict
      (e.eventOf chain host ((e.judge now chain host).run s).1) := by
  cases htrust : e.policy.isTrustAll with
  | true =>
    have hjudge : e.judge now chain host = pure ⟨.accepted, none⟩ := if_pos htrust
    have hevent : e.eventOf chain host ⟨.accepted, none⟩ = .trustAllAccepted host :=
      if_pos htrust
    rw [hjudge]
    change Event.IsTruthful e.policy chain host .accepted (e.eventOf chain host ⟨.accepted, none⟩)
    rw [hevent]
    refine ⟨by rw [htrust]; rfl, fun _ => ⟨rfl, rfl⟩, fun hother => ?_, fun reason hreason => ?_⟩
    · rw [htrust] at hother
      cases hother
    · cases hreason
  | false => exact (e.decided_judge htrust s).isTruthful htrust

/-- Whatever is asked of path validation, the log stays as it is. -/
theorem log_outcome (e : Engine σ) (call : SystemCall) (s : Session σ) :
    ((e.outcome call).run s).2.log = s.log := by
  unfold outcome
  cases e.system <;> rfl

/-- Judging alone leaves nothing in the log. -/
theorem log_judge (e : Engine σ) (s : Session σ) :
    ((e.judge now chain host).run s).2.log = s.log := by
  by_cases hconsults : e.policy.Consults chain
  · rw [judge_of_consults hconsults, judgeSystem_eq_map, StateT.run_map]
    exact e.log_outcome _ s
  · obtain ⟨j, hjudge⟩ := exists_judgement hconsults host
    have hpure : e.judge now chain host = pure j := hjudge e.system now
    rw [hpure]
    rfl

/-- Each verdict leaves one event, which is true. -/
theorem exists_event_verify (e : Engine σ) (now : X509.Moment) (chain : PeerChain) (host : String)
    (s : Session σ) :
    ∃ event, ((e.verify now chain host).run s).2.log = s.log ++ [event]
      ∧ event.IsTruthful e.policy chain host ((e.verify now chain host).run s).1 := by
  refine ⟨e.eventOf chain host ((e.judge now chain host).run s).1, ?_, e.isTruthful_eventOf s⟩
  rw [run_verify, e.log_judge]

end Judgements

section Runs

/-! ### Steps and whole runs -/

variable {σ : Type} {policy : TrustPolicy}

/-- What a step leaves in the log beside its answer: one true event for a chain that can be read, and
none for any other. -/
inductive LogsStep (policy : TrustPolicy) (step : Step) :
    Except EngineError Verdict → List Event → Prop
  | unread {fault : CertificateFault} (h : PeerChain.ofDers step.ders = .error fault) :
      LogsStep policy step (.error (.certificate fault)) []
  | answered {chain : PeerChain} {verdict : Verdict} {event : Event}
      (h : PeerChain.ofDers step.ders = .ok chain)
      (htrue : event.IsTruthful policy chain step.host verdict) :
      LogsStep policy step (.ok verdict) [event]

/-- What a run leaves in the log beside its answers: what each of its steps leaves, in order. -/
inductive LogsRun (policy : TrustPolicy) :
    List Step → List (Except EngineError Verdict) → List Event → Prop
  | nil : LogsRun policy [] [] []
  | cons {step : Step} {steps : List Step} {answer : Except EngineError Verdict}
      {answers : List (Except EngineError Verdict)} {events rest : List Event}
      (hstep : LogsStep policy step answer events) (hrest : LogsRun policy steps answers rest) :
      LogsRun policy (step :: steps) (answer :: answers) (events ++ rest)

theorem LogsRun.exists_of_cons {step : Step} {steps : List Step}
    {answer : Except EngineError Verdict} {answers : List (Except EngineError Verdict)}
    {events : List Event} (h : LogsRun policy (step :: steps) (answer :: answers) events) :
    ∃ first rest, events = first ++ rest ∧ LogsStep policy step answer first
      ∧ LogsRun policy steps answers rest := by
  cases h with
  | cons hstep hrest => exact ⟨_, _, rfl, hstep, hrest⟩

theorem LogsStep.eq_nil {step : Step} {answer : Except EngineError Verdict} {events : List Event}
    (h : LogsStep policy step answer events) {fault : CertificateFault}
    (hread : PeerChain.ofDers step.ders = .error fault) : events = [] := by
  cases h with
  | unread => rfl
  | answered hchain => cases hchain.symm.trans hread

theorem LogsStep.exists_event {step : Step} {answer : Except EngineError Verdict}
    {events : List Event} (h : LogsStep policy step answer events) {chain : PeerChain}
    (hread : PeerChain.ofDers step.ders = .ok chain) :
    ∃ verdict event, answer = .ok verdict ∧ events = [event]
      ∧ event.IsTruthful policy chain step.host verdict := by
  cases h with
  | unread hfault => cases hfault.symm.trans hread
  | answered hchain htrue =>
    obtain rfl := Except.ok.inj (hchain.symm.trans hread)
    exact ⟨_, _, rfl, rfl, htrue⟩

/-- A step adds to the log what it leaves. -/
theorem exists_events_verifyDers (e : Engine σ) (step : Step) (s : Session σ) :
    ∃ events,
      ((e.verifyDers step.now step.ders step.host).run s).2.log = s.log ++ events
      ∧ LogsStep e.policy step ((e.verifyDers step.now step.ders step.host).run s).1 events := by
  cases hread : PeerChain.ofDers step.ders with
  | error fault =>
    rw [e.verifyDers_of_error hread]
    exact ⟨[], (List.append_nil _).symm, .unread hread⟩
  | ok chain =>
    obtain ⟨event, hlog, htrue⟩ := e.exists_event_verify step.now chain step.host s
    rw [e.run_verifyDers_of_ok hread]
    exact ⟨[event], hlog, .answered hread htrue⟩

/-- A run adds to the log what its steps leave. -/
theorem exists_events_run (e : Engine σ) (steps : List Step) (s : Session σ) :
    ∃ events, ((e.run steps).run s).2.log = s.log ++ events
      ∧ LogsRun e.policy steps ((e.run steps).run s).1 events := by
  induction steps generalizing s with
  | nil => exact ⟨[], (List.append_nil _).symm, .nil⟩
  | cons step rest ih =>
    obtain ⟨events, hlog, hstep⟩ := e.exists_events_verifyDers step s
    obtain ⟨more, hmore, hrest⟩ :=
      ih ((e.verifyDers step.now step.ders step.host).run s).2
    rw [run_run_cons]
    refine ⟨events ++ more, ?_, .cons hstep hrest⟩
    rw [hmore, hlog, List.append_assoc]

end Runs

end Engine

section Building

/-! ### Building an engine -/

variable {σ : Type} {around : Surroundings} {c : PolicyConfig} {e : Engine σ}

/-- Of all kinds of policy only trust in every chain is told when it is built, and only where it is
granted. -/
theorem PolicyConfig.events_toPolicy (c : PolicyConfig) :
    c.toPolicy.events
      = if c.variant = .trustAll ∧ c.buildMode = .debug then [.trustAllBuilt] else [] := by
  unfold toPolicy
  cases c.variant with
  | trustAll => cases c.buildMode <;> rfl
  | systemDefault | pinnedCertificate | pinnedDigest | pinnedPublicKey => rfl

/-- The log of building tells whether the engine that was built trusts every chain. -/
theorem Engine.events_of_ofConfig (h : (ofConfig around c).result = .ok e) :
    (ofConfig (σ := σ) around c).events
      = if e.policy.isTrustAll then [.trustAllBuilt] else [] := by
  refine c.events_toPolicy.trans ?_
  simp only [isTrustAll_ofConfig h]

/-- Where no engine is built, none was announced. -/
theorem Engine.events_of_ofConfig_error {fault : EngineError}
    (h : (ofConfig (σ := σ) around c).result = .error fault) :
    (ofConfig (σ := σ) around c).events = [] := by
  refine c.events_toPolicy.trans (if_neg ?_)
  rintro ⟨hvariant, hmode⟩
  have hpolicy : c.toPolicy.result = .ok .trustAll := by
    rw [PolicyConfig.toPolicy, hvariant, hmode]
    rfl
  rw [ofConfig_of_ok hpolicy] at h
  cases h

end Building

/-- Every step of a run that is answered leaves one event in the log, and one whose chain cannot be
read leaves none, whatever the engine and whatever path validation answers. The event is true: a
warning for a rejection, with the subject and the pin of each certificate in the order of the chain,
and for trust in every chain, and otherwise a note of the certificate that decided, which is the
first that satisfies a pin. Building an engine for a configuration leaves one warning if it will
trust every chain, and nothing if not or if it cannot be built. -/
theorem events_truthful {σ : Type} :
    (∀ (e : Engine σ) (steps : List Engine.Step) (s : Session σ),
      ∃ events, ((e.run steps).run s).2.log = s.log ++ events
        ∧ Engine.LogsRun e.policy steps ((e.run steps).run s).1 events)
    ∧ Event.trustAllBuilt.level = .warn
    ∧ ∀ (around : Surroundings) (c : PolicyConfig),
      (∀ e : Engine σ, (Engine.ofConfig around c).result = .ok e →
        (Engine.ofConfig (σ := σ) around c).events
          = if e.policy.isTrustAll then [.trustAllBuilt] else [])
      ∧ ∀ fault, (Engine.ofConfig (σ := σ) around c).result = .error fault →
        (Engine.ofConfig (σ := σ) around c).events = [] :=
  ⟨fun e steps s => e.exists_events_run steps s, rfl, fun _ _ =>
    ⟨fun _ => Engine.events_of_ofConfig, fun _ => Engine.events_of_ofConfig_error⟩⟩

/-- Of two steps the first holds octets that are no certificate and leaves nothing. The second is a
chain whose two certificates both have the pinned key, and the first of them is told. A debug build
of trust in every chain warns when it is built, a release build is none and does not. -/
theorem events_truthful_specimen :
    ∃ (cert : PeerCertificate) (steps : List Engine.Step) (s : Session Unit)
      (around : Surroundings),
      steps.map Engine.Step.host = ["b", "a"]
      ∧ (((Engine.mk (.pinnedPublicKey (.ofList [cert.publicKey])) none).run steps).run s).2.log
        = [.accepted "pinned_public_key" "a" (some 0) (some cert.subject)]
      ∧ (Engine.ofConfig (σ := Unit) around
          { PolicyConfig.ofVariant .trustAll with buildMode := .debug }).events
        = [.trustAllBuilt]
      ∧ (Engine.ofConfig (σ := Unit) around (PolicyConfig.ofVariant .trustAll)).events = [] := by
  obtain ⟨cert, _, hcert, -, -⟩ := PeerCertificate.bundle_specimen
  let chain : PeerChain := ⟨[cert, cert]⟩
  let e : Engine Unit := ⟨.pinnedPublicKey (.ofList [cert.publicKey]), none⟩
  let now := X509.Moment.of 2026 1 1 0 0 0
  let broken : Engine.Step := ⟨now, [Asn1.writePrimitive Asn1.tagNull []], "b"⟩
  let encoding := Specimen.certificate [Utf8.encodeString "a"]
  let valid : Engine.Step := ⟨now, [encoding, encoding], "a"⟩
  let around : Surroundings := ⟨.error "no store", fun _ _ => "no structure"⟩
  have hbroken : PeerChain.ofDers broken.ders
      = .error (.invalidDer (Asn1.writePrimitive Asn1.tagNull [])) := by
    simp [broken, PeerChain.ofDers, PeerCertificate.ofDer_null, Except.map, bind, Except.bind]
  have hvalid : PeerChain.ofDers valid.ders = .ok chain := by
    simp [valid, encoding, chain, PeerChain.ofDers, hcert, Except.map, bind, Except.bind, pure,
      Except.pure]
  have hsatisfied : e.policy.Satisfied "a" cert := KeySet.mem_ofList.mpr List.mem_cons_self
  obtain ⟨hrun, -, hbuilding⟩ := events_truthful (σ := Unit)
  obtain ⟨events, hlog, hlogs⟩ := hrun e [broken, valid] (.start ())
  rw [Engine.run_run_cons, Engine.run_run_cons] at hlogs
  obtain ⟨first, rest, rfl, hfirst, hrest⟩ := hlogs.exists_of_cons
  obtain ⟨second, none, rfl, hsecond, hnone⟩ := hrest.exists_of_cons
  obtain rfl : none = [] := by
    cases hnone
    rfl
  obtain ⟨verdict, event, hanswer, hevents, htrue⟩ := hsecond.exists_event hvalid
  have hverdict : verdict = .accepted := by
    rw [e.run_verifyDers_of_ok hvalid] at hanswer
    refine (Except.ok.inj hanswer).symm.trans ?_
    exact Engine.verify_of_satisfied trivial (List.mem_cons_self (l := [cert])) hsatisfied
  obtain ⟨depth, c, hdecides, hc, rfl⟩ := htrue.accepted rfl hverdict
  obtain rfl : depth = 0 := Nat.le_zero.mp (hdecides.2 ⟨cert, rfl, hsatisfied⟩)
  obtain rfl : cert = c := Option.some.inj hc
  refine ⟨cert, [broken, valid], .start (), around, rfl, ?_, ?_, ?_⟩
  · rw [hlog, hfirst.eq_nil hbroken, hevents]
    rfl
  · exact (hbuilding around
      { PolicyConfig.ofVariant .trustAll with buildMode := .debug }).1 _ rfl
  · exact (hbuilding around (PolicyConfig.ofVariant .trustAll)).2 _ rfl

end PeerTrust
