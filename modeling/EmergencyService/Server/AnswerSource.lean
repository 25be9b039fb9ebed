import EmergencyService.Server.FrameOutcome

/- Where the frames come from that the server hands to its handlers: the replies of one
   branch to its own connection, and the MESSAGE of an accepted SEND. -/
namespace AnswerSource
open JavaRuntime JavaFrame MapCalls ConnectionsImpl StompProtocolImpl ProcessRun FrameEvents
open BranchOutcomes HandlerThreads ServerRuns FrameOutcome

/-- Whatever was sent has the property. -/
def OnlySends (P : ConnectionHandler → Text → Prop) (s s' : ServerState) : Prop :=
  ∃ new, s'.log = new ++ s.log ∧ ∀ r text, .sent r text ∈ new → P r text

section Sending
variable {P : ConnectionHandler → Text → Prop} {w : Surroundings} {c : Nat} {frame : StompFrame}
  {s : ServerState}

theorem only_sends_refl (s : ServerState) : OnlySends P s s := ⟨[], rfl, by simp⟩

theorem only_sends_trans {s₁ s₂ s₃ : ServerState} (first : OnlySends P s₁ s₂)
    (later : OnlySends P s₂ s₃) : OnlySends P s₁ s₃ := by
  obtain ⟨new, grown, before⟩ := first
  obtain ⟨new', grown', after⟩ := later
  refine ⟨new' ++ new, by rw [grown', grown, List.append_assoc], ?_⟩
  intro r text sent
  rcases List.mem_append.mp sent with member | member
  · exact after r text member
  · exact before r text member

theorem only_sends_answered (holds : P ⟨c⟩ (frame.createFrame w.headers)) :
    OnlySends P s (answered w c frame s) := by
  refine ⟨[.sent ⟨c⟩ (frame.createFrame w.headers)], rfl, ?_⟩
  intro r text sent
  cases List.mem_singleton.mp sent
  exact holds

theorem only_sends_reported (holds : P ⟨c⟩ (frame.createFrame w.headers)) :
    OnlySends P s (reported w c frame s) := by
  unfold reported
  split
  · exact only_sends_answered holds
  · exact only_sends_refl s

theorem only_sends_cleaned_up : OnlySends P s (cleanedUp w c s) := by
  rcases cleaned_up_log w c s with same | more
  · exact ⟨[], same, by simp⟩
  · exact ⟨[.disconnected c], more, by simp⟩

end Sending

def AsksReceipt (command : Text) : Prop :=
  command = "SUBSCRIBE" ∨ command = "UNSUBSCRIBE" ∨ command = "DISCONNECT"

section Outcomes
variable {P : ConnectionHandler → Text → Prop} {w : Surroundings} {c : Nat} {frame : StompFrame}
  {s s' : ServerState}

theorem outcome_sends (outcome : Outcome w c frame s s')
    (error : ∀ headers, P ⟨c⟩ ((errorFrame headers).createFrame w.headers))
    (connected : P ⟨c⟩ (connectedFrame.createFrame w.headers))
    (receipt : AsksReceipt frame.command →
      P ⟨c⟩ ((receiptFrame (header frame.headers "receipt")).createFrame w.headers)) :
    OnlySends P s s' ∨ ∃ channel id, frame.command = "SEND" ∧
      header frame.headers "destination" = some channel ∧
      s.subscription channel (s.activeClients.lookup c) = some id ∧ id ≠ -1 ∧
      s'.log = ((recipients w s channel).map fun h => Event.sent h
        ((messageFrame id (s.protocol c).messageID channel frame.body).createFrame
          w.headers)).reverse ++ s.log := by
  cases outcome with
  | idle => exact Or.inl (only_sends_refl s)
  | connected login passcode command named secret free known =>
    have entered : OnlySends P s (loggedIn login passcode c s) := only_sends_refl s
    exact Or.inl (only_sends_trans entered (only_sends_reported connected))
  | refused headers refusal active =>
    exact Or.inl (only_sends_trans (only_sends_answered (error headers)) only_sends_cleaned_up)
  | refusedTwice headers refusal active =>
    have twice := only_sends_trans (only_sends_answered (s := s) (error headers))
      (only_sends_answered (error headers))
    exact Or.inl (only_sends_trans twice only_sends_cleaned_up)
  | disconnected result _ command active effect =>
    have answer := receipt (Or.inr (Or.inr command))
    have freed : OnlySends P (answered w c (receiptFrame (header frame.headers "receipt")) s)
        s' := by
      refine ⟨[.disconnected c], ?_, by simp⟩
      rw [effect.frame]
      rfl
    exact Or.inl (only_sends_trans (only_sends_answered answer) freed)
  | subscribed channel id s₁ command target number absent added =>
    have same : OnlySends P s s₁ := ⟨[], by rw [added.frame]; rfl, by simp⟩
    exact Or.inl (only_sends_trans same (only_sends_reported (receipt (Or.inl command))))
  | unsubscribed channel id i command number found current =>
    have same : OnlySends P s (s.removeSubscription ⟨channel, i⟩ (s.activeClients.lookup c)) :=
      only_sends_refl s
    have answer := receipt (Or.inr (Or.inl command))
    exact Or.inl (only_sends_trans same (only_sends_reported answer))
  | relayed channel id messageID command target held valid =>
    exact Or.inr ⟨channel, id, command, target, held, valid, rfl⟩

/-- A frame that the server has written; a RECEIPT answers a frame of the connection itself
    and has its receipt. -/
def Written (w : Surroundings) (c : Nat) (frame : StompFrame) (r : ConnectionHandler)
    (text : Text) : Prop :=
  ∃ f : StompFrame, f.command ≠ [] ∧ LineFree f.command ∧ text = f.createFrame w.headers ∧
    (f.command = "RECEIPT" → r = ⟨c⟩ ∧ AsksReceipt frame.command ∧
      f = receiptFrame (header frame.headers "receipt"))

variable {message text : Text} {r : ConnectionHandler}

theorem sent_written (ids : HandlerIds s)
    (sent : .sent r text ∈ newEvents s (processed w c message s)) :
    ∃ frame, StompFrame.ofText message = .ok frame ∧ Written w c frame r text := by
  rcases process_outcome w c message ids with ⟨e, _, same⟩ | ⟨frame, parsed, outcome⟩
  · have events : newEvents s (processed w c message s) = [.received c message] :=
      new_events_of_log (by rw [same]; rfl)
    rw [events] at sent
    cases List.mem_singleton.mp sent
  · refine ⟨frame, parsed, ?_⟩
    have error : ("ERROR".toList : Text) ≠ [] ∧ LineFree "ERROR" ∧
        "ERROR".toList ≠ "RECEIPT".toList := by decide
    have connected : ("CONNECTED".toList : Text) ≠ [] ∧ LineFree "CONNECTED" ∧
        "CONNECTED".toList ≠ "RECEIPT".toList := by decide
    have relayed : ("MESSAGE".toList : Text) ≠ [] ∧ LineFree "MESSAGE" ∧
        "MESSAGE".toList ≠ "RECEIPT".toList := by decide
    have receipt : ("RECEIPT".toList : Text) ≠ [] ∧ LineFree "RECEIPT" := by decide
    have other : ∀ (f : StompFrame) r, f.command ≠ [] ∧ LineFree f.command ∧
        f.command ≠ "RECEIPT".toList → Written w c frame r (f.createFrame w.headers) :=
      fun f r ⟨full, free, differs⟩ => ⟨f, full, free, rfl, fun same => absurd same differs⟩
    have answered : ∀ new : List Event,
        (processed w c message s).log = new ++ (begun c message frame s).log →
        .sent r text ∈ new := by
      intro new grown
      have events : newEvents s (processed w c message s) = new ++ [.received c message] :=
        new_events_of_log (by rw [grown, List.append_assoc]; rfl)
      rw [events] at sent
      simpa using sent
    rcases outcome_sends outcome (fun headers => other (errorFrame headers) ⟨c⟩ error)
        (other connectedFrame ⟨c⟩ connected)
        (fun asks => ⟨_, receipt.1, receipt.2, rfl, fun _ => ⟨rfl, asks, rfl⟩⟩) with
      ⟨new, grown, only⟩ | ⟨channel, id, _, _, _, _, grown⟩
    · exact only r text (answered new grown)
    · have member := answered _ grown
      simp only [List.mem_reverse, List.mem_map] at member
      obtain ⟨h, _, same⟩ := member
      cases same
      exact other (messageFrame _ _ _ _) r relayed

end Outcomes

end AnswerSource
