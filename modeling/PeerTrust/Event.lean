import PeerTrust.Text.Quoted
import PeerTrust.Verdict

/-!
# Log events

What a policy and an engine leave in the log. Every event has a level, a message and named fields,
whose values are texts.
-/

namespace PeerTrust

/-- How serious an event is. -/
inductive Level where
  | debug
  | warn
  deriving DecidableEq, Repr

/-- The word for a level. -/
def Level.word : Level → String
  | debug => "DEBUG"
  | warn => "WARN"

/-- What is logged. -/
inductive Event where
  /-- A policy was built that accepts every chain. -/
  | trustAllBuilt
  /-- A chain was accepted without being looked at. -/
  | trustAllAccepted (host : String)
  /-- A chain was accepted because of the certificate at a depth. -/
  | accepted (policy host : String) (depth : Option Nat) (subject : Option String)
  | rejected (policy host : String) (reason : RejectReason) (subjects pins : List String)
  deriving DecidableEq, Repr

namespace Event

/-- How serious the event is. -/
def level : Event → Level
  | accepted .. => .debug
  | _ => .warn

/-- The event's message. -/
def message : Event → String
  | trustAllBuilt => "trust-all policy constructed; certificate validation is disabled"
  | trustAllAccepted _ => "trust-all policy accepted chain without inspection"
  | accepted .. => "certificate chain accepted"
  | rejected .. => "certificate chain rejected"

/-- A depth as shown. -/
def depthText : Option Nat → String
  | none => "None"
  | some n => "Some(" ++ toString n ++ ")"

/-- The event's fields; a subject that is not there has no field. -/
def fields : Event → List (String × String)
  | trustAllBuilt => []
  | trustAllAccepted host => [("host", host)]
  | accepted policy host depth subject =>
    [("policy", policy), ("host", host), ("depth", depthText depth)]
      ++ (match subject with
        | some s => [("subject", s)]
        | none => [])
  | rejected policy host reason subjects pins =>
    [("policy", policy), ("host", host), ("reason", reason.message),
      ("subjects", Text.quotedList subjects), ("pins", Text.quotedList pins)]

end Event

/-- What building something comes to, and the events that it leaves in the log. -/
@[ext]
structure Built (ε α : Type) where
  result : Except ε α
  events : List Event

/-- The same events with an error of another kind. -/
def Built.mapError {ε δ α : Type} (f : ε → δ) (b : Built ε α) : Built δ α :=
  ⟨b.result.mapError f, b.events⟩

@[simp]
theorem Built.result_mapError {ε δ α : Type} (f : ε → δ) (b : Built ε α) :
    (b.mapError f).result = b.result.mapError f := rfl

@[simp]
theorem Built.events_mapError {ε δ α : Type} (f : ε → δ) (b : Built ε α) :
    (b.mapError f).events = b.events := rfl

/-- Something that is built further, which leaves no more events. -/
def Built.bind {ε α β : Type} (b : Built ε α) (f : α → Except ε β) : Built ε β :=
  ⟨b.result.bind f, b.events⟩

@[simp]
theorem Built.result_bind {ε α β : Type} (b : Built ε α) (f : α → Except ε β) :
    (b.bind f).result = b.result.bind f := rfl

@[simp]
theorem Built.events_bind {ε α β : Type} (b : Built ε α) (f : α → Except ε β) :
    (b.bind f).events = b.events := rfl

end PeerTrust
