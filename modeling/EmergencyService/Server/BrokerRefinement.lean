import EmergencyService.Foundation.RecordedRuns
import EmergencyService.Server.BrokerRounds

/- With its frames processed one at a time, the server is a broker of topics: each of its
   rounds is what operations of the broker say, and the MESSAGE frames that open
   connections are handed are the publications. -/
namespace BrokerRefinement
open JavaRuntime JavaFrame AtomicProgram MapCalls ConnectionsImpl StompProtocolImpl
open GuardedRuns PendingOperations RecordedRuns TopicBroker SubscriptionSweep ProcessRun
open FrameEvents BranchOutcomes FrameOutcome AnswerSource HandlerThreads ServerRuns CallFootprint
open ProcessReturn HandlerLoops BrokerRounds

structure Sound (h : Handling) : Prop where
  ids : HandlerIds h.server.state
  dark : NoNullHandler h.server.state
  live : ∀ c, Born h.server c → h.ended c = false → c ∈ h.server.state.activeClients
  ended_born : ∀ c, h.ended c = true → Born h.server c
  active_born : ∀ c, c ∈ h.server.state.activeClients → Born h.server c
  subs_born : ∀ c ch, h.server.state.subscription ch (some ⟨c⟩) ≠ none → Born h.server c

section Sound
variable {mode : Mode} {h h' : Handling} {w : Surroundings} {c : Nat} {message : Text}

theorem sound_initial : Sound Handling.initial := by
  refine ⟨handler_ids_initial, fun _ => rfl, fun c born => ?_, fun c ended => ?_,
    fun c active => ?_, fun c ch held => ?_⟩
  · rcases born with before | ⟨accepting, _⟩
    · cases before
    · cases accepting
  · cases ended
  · simp [Handling.initial, Server.initial, ServerState.initial] at active
  · exact absurd rfl held

end Sound

section Rounds
variable {mode : Mode} {h h' : Handling} {b b' : ServerBroker} {w : Surroundings} {c : Nat}
  {message : Text} {s' : ServerState}

end Rounds

section History
variable {mode : Mode} {h : Handling} {w : Surroundings} {c : Nat} {message : Text}
  {sent : List (Nat × Text)} {replied : Bool}

end History

section Example
open MessageRelay

end Example

end BrokerRefinement
