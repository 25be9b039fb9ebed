import EmergencyService.Server.DisconnectEffect
import EmergencyService.Server.ProcessReturn

/- How the handling of a connection ends, in both modes of the server, when its frames are
   served one at a time. -/
namespace HandlerLoops
open JavaRuntime JavaFrame AtomicProgram MapCalls ConnectionsImpl StompProtocolImpl
open SubscriptionSweep ProcessRun FrameEvents BranchOutcomes FrameOutcome HandlerThreads ServerRuns
open DisconnectEffect ProcessReturn

inductive Mode where
  | threadPerClient
  | reactor
  deriving DecidableEq, Repr

/-- The server, with the connections whose handling is over: `run` has returned, or the
    channel has been closed. -/
structure Handling where
  server : Server
  ended : Nat → Bool

def Handling.initial : Handling := ⟨Server.initial, fun _ => false⟩

/-- Besides a frame, what a handler can meet: the end of the stream, an IOException on
    read, and, in the reactor, an empty write queue and an IOException on write. -/
inductive HandlerAction where
  | construct
  | increment
  | frame : Surroundings → Nat → Text → HandlerAction
  | endOfStream : Nat → HandlerAction
  | readFails : Nat → HandlerAction
  | written : Nat → HandlerAction
  | writeFails : Nat → HandlerAction

/-- Whether the handling is over after a frame. The loop of the blocking handler ends with
    an exception, and tests `shouldTerminate` and `connected`; a task of the reactor ends
    with its exception, and only a closed channel is not read any more. -/
def endsAfter (mode : Mode) (c : Nat) (result : Except JavaException Unit) (s : ServerState) :
    Bool :=
  match mode with
  | .threadPerClient =>
      (match result with
        | .ok _ => false
        | .error _ => true) || (s.protocol c).shouldTerminate || !s.connected c
  | .reactor => !s.connected c

/-- The state when the handling ends without a frame: only the reactor calls `close`. -/
def stopped (mode : Mode) (c : Nat) (s : ServerState) : ServerState :=
  match mode with
  | .threadPerClient => s
  | .reactor => closed c s

namespace Handling
variable (mode : Mode) (h : Handling)

def stop (c : Nat) : Handling where
  server := ⟨stopped mode c h.server.state, h.server.accepting⟩
  ended := Function.update h.ended c true

def serve (w : Surroundings) (c : Nat) (message : Text) : Handling where
  server := ⟨processed w c message h.server.state, h.server.accepting⟩
  ended := Function.update h.ended c (h.ended c || endsAfter mode c
    (run exec (process w c message) h.server.state).1 (processed w c message h.server.state))

def Reading (c : Nat) : Prop := Constructed h.server.state c ∧ h.ended c = false

instance (c : Nat) : Decidable (h.Reading c) := inferInstanceAs (Decidable (_ ∧ _))

/-- A frame may be processed: a task of the reactor may hold frames that were read before
    the channel was closed, and `close` of its handler catches the IOException. -/
def MayServe (w : Surroundings) (c : Nat) : Prop :=
  match mode with
  | .threadPerClient => h.Reading c
  | .reactor => Constructed h.server.state c ∧ w.closeFails = false

instance (w : Surroundings) (c : Nat) : Decidable (MayServe mode h w c) :=
  match mode with
  | .threadPerClient => inferInstanceAs (Decidable (h.Reading c))
  | .reactor => inferInstanceAs (Decidable (_ ∧ _))

def act : HandlerAction → Option Handling
  | .construct => (h.server.act .construct).map fun server => ⟨server, h.ended⟩
  | .increment => (h.server.act .increment).map fun server => ⟨server, h.ended⟩
  | .frame w c message => if MayServe mode h w c then some (h.serve mode w c message) else none
  | .endOfStream c => if h.Reading c then some (h.stop mode c) else none
  | .readFails c => if h.Reading c then some (h.stop mode c) else none
  | .written c =>
      if mode = .reactor ∧ h.Reading c ∧ (h.server.state.protocol c).shouldTerminate = true then
        some (h.stop mode c)
      else none
  | .writeFails c => if mode = .reactor ∧ h.Reading c then some (h.stop mode c) else none

end Handling

/-- A CONNECT that `connectUser` would enter. -/
def Admits (frame : StompFrame) (s : ServerState) : Prop :=
  frame.command = "CONNECT" ∧ ∃ login passcode, header frame.headers "login" = some login ∧
    header frame.headers "passcode" = some passcode ∧ login ∉ s.loggedInUsers ∧
    ∀ p, s.users.lookup login = some p → p = passcode

section Effects
variable {w : Surroundings} {c c' : Nat} {frame : StompFrame} {s s' : ServerState}

/-- What the cleanup never does: add a handler, a login or a subscription. -/
structure CleanedUp (w : Surroundings) (c : Nat) (s s' : ServerState) : Prop where
  clients : s'.activeClients = s.activeClients ∨ s'.activeClients = s.activeClients.erase c
  counter : s'.connectionID = s.connectionID
  connected : s'.connected = Function.update s.connected c false
  logins : ∀ u c', s'.loggedInUsers.lookup u = some c' → s.loggedInUsers.lookup u = some c'
  subscriptions : ∀ ch h, s'.subscription ch h ≠ none → s.subscription ch h ≠ none

theorem cleaned_up_effect : CleanedUp w c s (cleanedUp w c s) := by
  have fewer : ∀ {result s'}, Disconnected w c (closed c s) result s' →
      ∀ ch h, s'.subscription ch h ≠ none → s.subscription ch h ≠ none := by
    intro result s' effect ch h held
    rcases effect.fewer ch h with gone | kept
    · exact absurd gone held
    · rw [kept] at held
      exact held
  rcases cleaned_up_cases w (c := c) (s := s) with
    ⟨_, same⟩ | ⟨_, s', effect, same⟩ | ⟨_, e, s', effect, same⟩
  · rw [same]
    exact ⟨Or.inl rfl, rfl, rfl, fun _ _ held => held, fun _ _ held => held⟩
  · rw [same]
    refine ⟨Or.inr ?_, ?_, ?_, fun u c' held => ?_, fun ch h held => fewer effect ch h held⟩
    · change s'.activeClients.erase c = _
      rw [effect.frame]
      rfl
    · change s'.connectionID = _
      rw [effect.frame]
      rfl
    · change s'.connected = _
      rw [effect.frame]
      rfl
    · change s'.loggedInUsers.lookup u = _ at held
      rw [effect.frame] at held
      exact remove_value_subset w.logins c s.loggedInUsers held
  · rw [same]
    refine ⟨Or.inl ?_, ?_, ?_, fun u c' held => ?_, fewer effect⟩
    · rw [effect.frame]
      rfl
    · rw [effect.frame]
      rfl
    · rw [effect.frame]
      rfl
    · rw [effect.frame] at held
      exact remove_value_subset w.logins c s.loggedInUsers held

end Effects

/-- The handler of the connection has been constructed, now or some time ago. -/
def Born (server : Server) (c : Nat) : Prop :=
  c < server.state.connectionID ∨ (server.accepting = true ∧ c = server.state.connectionID)

end HandlerLoops
