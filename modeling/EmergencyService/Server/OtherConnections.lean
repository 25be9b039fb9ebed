import EmergencyService.Server.SubscriberLogins

/- What the frames of other connections leave of a connection: its handler, and its
   subscriptions unless a disconnection runs while the static counter names it. -/
namespace OtherConnections
open JavaRuntime JavaFrame AtomicProgram MapCalls ConnectionsImpl StompProtocolImpl
open SubscriptionSweep ProcessRun FrameEvents CallFootprint BranchOutcomes HandlerThreads ServerRuns
open FrameOutcome SubscriberLogins

/-- The handler of the connection is registered as before and has got no ERROR since. -/
structure Quiet (c : Nat) (s s' : ServerState) : Prop where
  handler : s'.activeClients.lookup c = s.activeClients.lookup c
  errors : ∀ text, .sent ⟨c⟩ text ∈ s'.log → commandOf text = "ERROR" → .sent ⟨c⟩ text ∈ s.log

def SameView (c : Nat) (s s' : ServerState) : Prop :=
  ∀ ch, s'.subscription ch (some ⟨c⟩) = s.subscription ch (some ⟨c⟩)

structure Untouched (c : Nat) (s s' : ServerState) : Prop extends Quiet c s s' where
  view : SameView c s s'

/-- Not subscribed, or not the one whose subscriptions a disconnection takes away. -/
def Spared (c : Nat) (s : ServerState) : Prop :=
  s.counted = some ⟨c⟩ → ∀ ch, s.subscription ch (some ⟨c⟩) = none

section Parts
variable {w : Surroundings} {c c' : Nat} {f : StompFrame} {s s₁ s' : ServerState}

theorem quiet_trans (first : Quiet c s s₁) (second : Quiet c s₁ s') : Quiet c s s' := by
  refine ⟨second.handler.trans first.handler, fun text member named => ?_⟩
  exact first.errors text (second.errors text member named) named

theorem untouched_unrecorded (clients : s'.activeClients = s.activeClients)
    (log : s'.log = s.log) (view : SameView c s s') : Untouched c s s' := by
  refine ⟨⟨by rw [clients], fun text member _ => ?_⟩, view⟩
  rwa [log] at member

theorem untouched_refl : Untouched c s s := untouched_unrecorded rfl rfl fun _ => rfl

theorem untouched_trans (first : Untouched c s s₁) (second : Untouched c s₁ s') :
    Untouched c s s' :=
  ⟨quiet_trans first.toQuiet second.toQuiet, fun ch => (second.view ch).trans (first.view ch)⟩

theorem untouched_record {e : Event}
    (harmless : ∀ text, e = .sent ⟨c⟩ text → commandOf text ≠ "ERROR") :
    Untouched c s (s.record e) := by
  refine ⟨⟨rfl, fun text member named => ?_⟩, fun _ => rfl⟩
  rcases List.mem_cons.mp member with here | before
  · exact absurd named (harmless text here.symm)
  · exact before

theorem untouched_answered (other : c' ≠ c ∨ commandOf (f.createFrame w.headers) ≠ "ERROR") :
    Untouched c s (answered w c' f s) := by
  refine untouched_record fun text same => ?_
  cases same
  exact other.resolve_left fun ne => ne rfl

theorem untouched_reported (other : c' ≠ c ∨ commandOf (f.createFrame w.headers) ≠ "ERROR") :
    Untouched c s (reported w c' f s) := by
  unfold reported
  split
  · exact untouched_answered other
  · exact untouched_refl

theorem untouched_begun {message : Text} (frame : StompFrame) :
    Untouched c s (begun c' message frame s) := by
  have received : Untouched c s (s.record (.received c' message)) :=
    untouched_record fun text same => by cases same
  exact untouched_trans received (untouched_unrecorded rfl rfl fun _ => rfl)

theorem untouched_deliver {msg : Text} (named : commandOf msg ≠ "ERROR")
    (handlers : List ConnectionHandler) : Untouched c s (deliver msg handlers s) := by
  refine ⟨⟨rfl, fun text member error => ?_⟩, fun _ => rfl⟩
  rcases List.mem_append.mp member with new | old
  · obtain ⟨h, _, same⟩ := List.mem_map.mp (List.mem_reverse.mp new)
    cases same
    exact absurd error named
  · exact old

theorem untouched_disconnected {result : Except JavaException Unit} (spared : Spared c s)
    (effect : Disconnected w c' s result s') : Untouched c s s' := by
  refine ⟨⟨by rw [effect.frame], fun text member _ => ?_⟩, fun ch => ?_⟩
  · rw [effect.frame] at member
    rcases List.mem_cons.mp member with here | before
    · cases here
    · exact before
  · by_cases counted : s.counted = some ⟨c⟩
    · have absent := spared counted ch
      rcases effect.fewer ch (some ⟨c⟩) with gone | kept
      · rw [gone, absent]
      · exact kept
    · exact effect.others ch _ (Ne.symm counted)

theorem untouched_cleaned_up (other : c' ≠ c) (spared : w.closeFails = false → Spared c s) :
    Untouched c s (cleanedUp w c' s) := by
  have shut : Untouched c s (closed c' s) := untouched_unrecorded rfl rfl fun _ => rfl
  have erased : ∀ s' : ServerState, Untouched c s' (removed c' s') := by
    intro s'
    refine ⟨⟨?_, fun _ member _ => member⟩, fun _ => rfl⟩
    exact AList.lookup_erase_ne (Ne.symm other)
  rcases cleaned_up_cases (c := c') (s := s) w with ⟨_, same⟩ | ⟨closes, s', effect, same⟩ |
    ⟨closes, e, s', effect, same⟩
  · rw [same]
    exact shut
  · have kept : Spared c (closed c' s) := spared closes
    rw [same]
    exact untouched_trans (untouched_trans shut (untouched_disconnected kept effect)) (erased s')
  · have kept : Spared c (closed c' s) := spared closes
    rw [same]
    exact untouched_trans shut (untouched_disconnected kept effect)

end Parts

section Frames
variable {w : Surroundings} {c c' : Nat} {frame : StompFrame} {s s' : ServerState}

theorem other_handler (ids : HandlerIds s) (other : c' ≠ c) :
    some ⟨c⟩ ≠ s.activeClients.lookup c' := by
  intro same
  have mine : (⟨c⟩ : ConnectionHandler) = ⟨c'⟩ := ids c' ⟨c⟩ same.symm
  cases mine
  exact other rfl

theorem outcome_untouched (other : c' ≠ c) (ids : HandlerIds s)
    (spared : Disconnects w c' s frame → Spared c s) (outcome : Outcome w c' frame s s') :
    Untouched c s s' := by
  have foreign := other_handler ids other
  cases outcome with
  | idle => exact untouched_refl
  | connected login passcode command named secret free known =>
    have entered : Untouched c s (loggedIn login passcode c' s) :=
      untouched_unrecorded rfl rfl fun _ => rfl
    exact untouched_trans entered (untouched_reported (Or.inl other))
  | refused headers refusal active =>
    have kept : w.closeFails = false → Spared c s := fun closes =>
      spared ⟨active, Or.inr ⟨refusal, closes⟩⟩
    exact untouched_trans (untouched_answered (Or.inl other)) (untouched_cleaned_up other kept)
  | refusedTwice headers refusal active =>
    have kept : w.closeFails = false → Spared c s := fun closes =>
      spared ⟨active, Or.inr ⟨refusal, closes⟩⟩
    exact untouched_trans (untouched_answered (Or.inl other))
      (untouched_trans (untouched_answered (Or.inl other)) (untouched_cleaned_up other kept))
  | disconnected result _ command active effect =>
    have kept : Spared c s := spared ⟨active, Or.inl command⟩
    exact untouched_trans (untouched_answered (Or.inl other)) (untouched_disconnected kept effect)
  | subscribed channel id s₁ command target number absent added =>
    have same : Untouched c s s₁ := by
      refine untouched_unrecorded (by rw [added.frame]) (by rw [added.frame]) fun ch => ?_
      rw [added.view, if_neg fun both => foreign both.2]
    exact untouched_trans same (untouched_reported (Or.inl other))
  | unsubscribed channel id i command number found current =>
    have same : Untouched c s (s.removeSubscription ⟨channel, i⟩ (s.activeClients.lookup c')) := by
      refine untouched_unrecorded rfl rfl fun ch => ?_
      rw [ServerState.subscription_remove current, if_neg fun both => foreign both.2]
    exact untouched_trans same (untouched_reported (Or.inl other))
  | relayed channel id messageID command target held valid =>
    have counted : Untouched c s (s.setProtocol c'
        ⟨(s.protocol c').shouldTerminate, messageID⟩) := untouched_unrecorded rfl rfl fun _ => rfl
    refine untouched_trans counted (untouched_deliver ?_ _)
    rw [message_command]
    decide

theorem frame_untouched (message : Text) (other : c' ≠ c) (ids : HandlerIds s)
    (spared : ∀ frame, StompFrame.ofText message = .ok frame → Disconnects w c' s frame →
      Spared c s) : Untouched c s (processed w c' message s) := by
  rcases process_outcome w c' message ids with ⟨e, _, same⟩ | ⟨frame, parsed, outcome⟩
  · rw [same]
    exact untouched_record fun text same => by cases same
  · have started : Untouched c s (begun c' message frame s) := untouched_begun frame
    have kept : Disconnects w c' (begun c' message frame s) frame →
        Spared c (begun c' message frame s) := by
      rintro ⟨active, way⟩
      refine spared frame parsed ⟨active, way.imp_right fun ⟨refusal, closes⟩ => ?_⟩
      exact ⟨refused_of_begun refusal, closes⟩
    exact untouched_trans started (outcome_untouched other ids kept outcome)

end Frames

end OtherConnections
