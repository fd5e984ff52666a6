import PeerTrust.Certificate
import PeerTrust.Event
import PeerTrust.X509.Moment

/-!
# Sessions

Judging chains has two effects: path validation is consulted, and events are left in the log. Path
validation may answer differently each time, so it is taken with a state that goes on with every
call. A session holds what the effects change, and each of them is one step of it.
-/

namespace PeerTrust

/-- A call to path validation: a chain that is presented for a host at some moment. -/
structure SystemCall where
  now : X509.Moment
  chain : PeerChain
  host : String

/-- Path validation. It answers a call in the state that it is in and goes over to another; a refusal
comes with its explanation. -/
abbrev SystemVerifier (σ : Type) := SystemCall → StateM σ (Except String Unit)

/-- What changes while chains are judged. -/
structure Session (σ : Type) where
  /-- The state that path validation is in. -/
  state : σ
  /-- The calls that path validation has answered, in order. -/
  calls : List SystemCall
  log : List Event

namespace Session

variable {σ : Type}

/-- A session in which nothing has happened. -/
def start (state : σ) : Session σ :=
  ⟨state, [], []⟩

/-- Consults path validation: it answers in its state, goes over to the next, and the call is kept
with those before. -/
def consult (system : SystemVerifier σ) (call : SystemCall) :
    StateM (Session σ) (Except String Unit) :=
  modifyGet fun s =>
    let (answer, state) := (system call).run s.state
    (answer, { s with state := state, calls := s.calls ++ [call] })

/-- Leaves events in the log. -/
def tell (events : List Event) : StateM (Session σ) Unit :=
  modify fun s => { s with log := s.log ++ events }

end Session

end PeerTrust
