import EmergencyService.Foundation.TopicBroker
import EmergencyService.Server.HandlerLoops
import EmergencyService.Server.SendAcceptance
import EmergencyService.Server.SubscriberLogins

/- What an action of the server means to a broker of topics, and how the broker follows a
   frame. -/
namespace BrokerRounds
open JavaRuntime JavaFrame AtomicProgram MapCalls ConnectionsImpl StompProtocolImpl
open PendingOperations TopicBroker SubscriptionSweep ProcessRun
open FrameEvents BranchOutcomes FrameOutcome AnswerSource HandlerThreads ServerRuns CallFootprint
open ProcessReturn HandlerLoops SendAcceptance SubscriberLogins

abbrev ServerBroker := Broker Nat Text Text Text Int

def messageTo (h : Handling) : Event → Option (Nat × Text)
  | .sent r text =>
      if h.Reading r.connectionID ∧ commandOf text = "MESSAGE" then some (r.connectionID, text)
      else none
  | _ => none

def delivered (h : Handling) (s' : ServerState) : List (Nat × Text) :=
  (newEvents h.server.state s').reverse.filterMap (messageTo h)

/-- A frame sweeps the channels when it disconnects or is refused. If a connection is being
    accepted then, it has not subscribed yet. -/
def Undisturbed (h : Handling) : HandlerAction → Prop
  | .frame w c message => h.Reading c ∧ (h.server.accepting = true →
      ∀ frame, StompFrame.ofText message = .ok frame →
        frame.command = "DISCONNECT" ∨ Refused w c h.server.state frame →
          ∀ ch, h.server.state.subscription ch (some ⟨h.server.state.connectionID⟩) = none)
  | _ => True

/-- The text is the MESSAGE frame for the topic, with the body. -/
def Carries (sent : Nat × Text) (meant : Nat × Text × Text) : Prop :=
  sent.1 = meant.1 ∧ ∃ id messageID order,
    sent.2 = (messageFrame id messageID meant.2.1 meant.2.2).createFrame order

/-- What the broker knows of a state in which some connections are read from. -/
structure Represents (s : ServerState) (reading : Nat → Prop) (b : ServerBroker) : Prop where
  accounts : ∀ u, b.accounts u = s.users.lookup u
  online : ∀ u, b.online u = s.loggedInUsers.lookup u
  joined : ∀ c, c ∈ b.joined ↔ reading c
  subs : ∀ c t, reading c → b.subs c t = s.subscription t (some ⟨c⟩)

section Represents
variable {s s' : ServerState} {reading : Nat → Prop} {b : ServerBroker} {c : Nat}

end Represents

section Sweeps
variable {w : Surroundings} {c : Nat} {s s' : ServerState} {reading : Nat → Prop}
  {b : ServerBroker} (quiet : ∀ ch, s.subscription ch s.counted = none)
include quiet

end Sweeps

section Deliveries
variable {h : Handling} {c : Nat} {message text : Text} {s s' : ServerState}

end Deliveries

section Frames
variable {h : Handling} {w : Surroundings} {c : Nat} {message : Text} {frame : StompFrame}
  {s s' : ServerState} {b : ServerBroker} {ends : Bool}

end Frames

end BrokerRounds
