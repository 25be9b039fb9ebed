import EmergencyService.Server.WriteWakeup

/- The bytes on their way from `send` to the channel: calls of `continueWrite` at any time
   among the senders, and every outcome that a `chan.write` can have. -/
namespace WriteStream
open JavaRuntime Utf8Text FrameBytes BufferQueue NonBlockingWrites WriteWakeup GuardedRuns

/-- An IOException says nothing about the bytes that the channel has taken before it, nor
    about how far the position of the buffer has moved. -/
inductive StreamAction (T : Type) where
  | step : SendingAction T → StreamAction T
  | continueWrite
  | ioException : (taken moved : Nat) → StreamAction T

namespace StreamAction
variable {T : Type}

def message : StreamAction T → Option Text
  | .step (.append _ msg) => some msg
  | _ => none

def throwsIOException : StreamAction T → Bool
  | .ioException _ _ => true
  | .step (.selector _ .writeFails) => true
  | _ => false

end StreamAction

/-- `continueWrite` begins, whatever the interest set says. -/
def callContinueWrite (w : Writer) : Option Writer :=
  if w.position = .away then some { w with position := .loopTest } else none

/-- The write of `continueWrite` ends in an IOException, and the handler closes the channel. -/
def writeBreaks (w : Writer) (taken moved : Nat) : Option Writer :=
  match w.position, w.writeQueue with
  | .write, top :: rest =>
      if w.isOpen then some { w with
        writeQueue := top.advance moved :: rest
        accepted := w.accepted ++ top.remaining.take taken
        isOpen := false
        position := .loopTest }
      else none
  | _, _ => none

section Threads
variable {T : Type} [DecidableEq T]

def act (s : Sending T) : StreamAction T → Option (Sending T)
  | .step a => s.act a
  | .continueWrite => (callContinueWrite s.writer).map fun writer => { s with writer := writer }
  | .ioException taken moved =>
      (writeBreaks s.writer taken moved).map fun writer => { s with writer := writer }

end Threads

/-- The messages handed to `send`, in the order in which they enter the queue. -/
def messages {T : Type} (actions : List (StreamAction T)) : List Text :=
  actions.filterMap StreamAction.message

/-- The encoded messages of the connection, one after the other. -/
def whole (w : Writer) : Bytes := w.sent.flatMap FrameEncoderDecoder.encode

/-- An open channel has lost nothing yet. -/
structure InOrder (w : Writer) : Prop where
  taken : w.accepted <+: whole w
  streamed : w.isOpen = true → Streamed w

section Steps
variable {w w' : Writer} {terminate : Bool} {step : SelectorStep}

theorem taken_of_streamed (held : Streamed w) : w.accepted <+: whole w := by
  unfold Streamed at held
  exact ⟨unread w.writeQueue, held⟩

theorem in_order_initial : InOrder .initial where
  taken := List.prefix_refl []
  streamed := fun _ => rfl

/-- A message that is queued behind the others makes the whole longer at its end. -/
theorem in_order_append (held : InOrder w) (msg : Text) : InOrder (w.append msg) where
  taken := by
    have longer : whole (w.append msg) = whole w ++ FrameEncoderDecoder.encode msg := by
      simp [whole, Writer.append]
    rw [longer]
    exact held.taken.trans (List.prefix_append _ _)
  streamed := fun isOpen => streamed_append (held.streamed isOpen) msg

theorem in_order_request (held : InOrder w) (asked : w.request = some w') : InOrder w' := by
  unfold Writer.request at asked
  split at asked
  · cases asked
  · cases asked
    exact ⟨held.taken, held.streamed⟩

theorem request_sent (asked : w.request = some w') : w'.sent = w.sent := by
  unfold Writer.request at asked
  split at asked <;> cases asked
  rfl

theorem selector_sent (moved : w.selector terminate step = some w') : w'.sent = w.sent := by
  rcases selector_cases moved with ⟨_, proceeded⟩ | ⟨n, _, wrote⟩ | aside
  · exact (proceed_effect proceeded).sent
  · have effect : SelectorEffect terminate (.write n) w w' := write_effect wrote
    exact effect.sent
  · exact aside.sent

theorem closed_selector (shut : w.isOpen = false) (moved : w.selector terminate step = some w') :
    w'.sent = w.sent ∧ w'.accepted = w.accepted ∧ w'.isOpen = false := by
  by_cases fails : step = .writeFails
  · subst fails
    simp only [Writer.selector, Writer.writeFails] at moved
    split at moved
    · cases moved
      exact ⟨rfl, rfl, rfl⟩
    · cases moved
  · have effect := selector_effect moved fails
    refine ⟨effect.sent, effect.accepted shut, ?_⟩
    rcases effect.isOpen with same | ⟨_, _, closed, _⟩
    · exact same.trans shut
    · exact closed

theorem in_order_selector (held : InOrder w) (moved : w.selector terminate step = some w') :
    InOrder w' := by
  cases isOpen : w.isOpen with
  | true =>
    have streamed := streamed_selector (held.streamed isOpen) moved
    exact ⟨taken_of_streamed streamed, fun _ => streamed⟩
  | false =>
    obtain ⟨sent, accepted, shut⟩ := closed_selector isOpen moved
    constructor
    · unfold whole
      rw [sent, accepted]
      exact held.taken
    · intro now
      rw [shut] at now
      cases now

theorem call_effect (called : callContinueWrite w = some w') :
    w' = { w with position := .loopTest } := by
  unfold callContinueWrite at called
  split at called
  · exact (Option.some.inj called).symm
  · cases called

/-- A failed write closes the channel with a beginning of the first buffer taken. -/
structure BreaksEffect (w w' : Writer) : Prop where
  sent : w'.sent = w.sent
  isOpen : w.isOpen = true ∧ w'.isOpen = false
  accepted : ∃ more, w'.accepted = w.accepted ++ more ∧ more <+: unread w.writeQueue

theorem breaks_effect {taken moved : Nat} (broke : writeBreaks w taken moved = some w') :
    BreaksEffect w w' := by
  unfold writeBreaks at broke
  split at broke
  · rename_i top rest _ queue
    split at broke
    · rename_i isOpen
      cases broke
      refine ⟨rfl, ⟨isOpen, rfl⟩, top.remaining.take taken, rfl, ?_⟩
      rw [queue, unread_cons]
      exact (List.take_prefix taken top.remaining).trans (List.prefix_append _ _)
    · cases broke
  · cases broke

theorem in_order_breaks {taken moved : Nat} (held : InOrder w)
    (broke : writeBreaks w taken moved = some w') : InOrder w' := by
  have effect := breaks_effect broke
  obtain ⟨more, accepted, first⟩ := effect.accepted
  constructor
  · have streamed := held.streamed effect.isOpen.1
    unfold Streamed at streamed
    unfold whole
    rw [effect.sent, accepted, ← streamed, List.prefix_append_right_inj]
    exact first
  · intro now
    rw [effect.isOpen.2] at now
    cases now

end Steps

section Runs
variable {T : Type} [DecidableEq T] {s s' : Sending T} {a : StreamAction T}

theorem act_cases (acted : act s a = some s') :
    (∃ t msg, a = .step (.append t msg) ∧ s'.writer = s.writer.append msg) ∨
    (∃ t, a = .step (.request t) ∧ s.writer.request = some s'.writer) ∨
    (∃ terminate step, a = .step (.selector terminate step) ∧
      s.writer.selector terminate step = some s'.writer) ∨
    (a = .step .close ∧ s'.writer = s.writer.close) ∨
    (a = .continueWrite ∧ s'.writer = { s.writer with position := .loopTest }) ∨
    ∃ taken moved, a = .ioException taken moved ∧
      writeBreaks s.writer taken moved = some s'.writer := by
  cases a with
  | step a =>
    cases a with
    | append t msg =>
      simp only [act, Sending.act] at acted
      split at acted
      · cases acted
      · cases acted
        exact Or.inl ⟨t, msg, rfl, rfl⟩
    | request t =>
      simp only [act, Sending.act] at acted
      split at acted
      · obtain ⟨writer, asked, rfl⟩ := Option.map_eq_some_iff.mp acted
        exact Or.inr (Or.inl ⟨t, rfl, asked⟩)
      · cases acted
    | selector terminate step =>
      obtain ⟨writer, moved, rfl⟩ := Option.map_eq_some_iff.mp acted
      exact Or.inr (Or.inr (Or.inl ⟨terminate, step, rfl, moved⟩))
    | close =>
      cases acted
      exact Or.inr (Or.inr (Or.inr (Or.inl ⟨rfl, rfl⟩)))
  | continueWrite =>
    obtain ⟨writer, called, rfl⟩ := Option.map_eq_some_iff.mp acted
    exact Or.inr (Or.inr (Or.inr (Or.inr (Or.inl ⟨rfl, call_effect called⟩))))
  | ioException taken moved =>
    obtain ⟨writer, broke, rfl⟩ := Option.map_eq_some_iff.mp acted
    exact Or.inr (Or.inr (Or.inr (Or.inr (Or.inr ⟨taken, moved, rfl, broke⟩))))

/-- Every action leaves the messages as they are, but for the one that it queues. -/
theorem sent_act (acted : act s a = some s') :
    s'.writer.sent = s.writer.sent ++ a.message.toList := by
  have same {w : Writer} (kept : w.sent = s.writer.sent) :
      w.sent = s.writer.sent ++ [] := by rw [kept, List.append_nil]
  rcases act_cases acted with ⟨t, msg, rfl, writer⟩ | ⟨t, rfl, asked⟩ |
    ⟨terminate, step, rfl, moved⟩ | ⟨rfl, writer⟩ | ⟨rfl, writer⟩ | ⟨taken, moved, rfl, broke⟩
  · rw [writer]
    rfl
  · exact same (request_sent asked)
  · exact same (selector_sent moved)
  · rw [writer]
    exact same rfl
  · rw [writer]
    exact same rfl
  · exact same (breaks_effect broke).sent

theorem in_order_act (held : InOrder s.writer) (acted : act s a = some s') :
    InOrder s'.writer := by
  rcases act_cases acted with ⟨t, msg, rfl, writer⟩ | ⟨t, rfl, asked⟩ |
    ⟨terminate, step, rfl, moved⟩ | ⟨rfl, writer⟩ | ⟨rfl, writer⟩ | ⟨taken, moved, rfl, broke⟩
  · rw [writer]
    exact in_order_append held msg
  · exact in_order_request held asked
  · exact in_order_selector held moved
  · rw [writer]
    exact ⟨held.taken, nofun⟩
  · rw [writer]
    exact ⟨held.taken, held.streamed⟩
  · exact in_order_breaks held broke

theorem streamed_act (held : Streamed s.writer) (works : a.throwsIOException = false)
    (acted : act s a = some s') : Streamed s'.writer := by
  rcases act_cases acted with ⟨t, msg, rfl, writer⟩ | ⟨t, rfl, asked⟩ |
    ⟨terminate, step, rfl, moved⟩ | ⟨rfl, writer⟩ | ⟨rfl, writer⟩ | ⟨taken, moved, rfl, broke⟩
  · rw [writer]
    exact streamed_append held msg
  · exact streamed_request held asked
  · exact streamed_selector held moved
  · rw [writer]
    exact held
  · rw [writer]
    exact held
  · cases works

theorem sent_acts {actions : List (StreamAction T)} (ran : acts act actions s = some s') :
    s'.writer.sent = s.writer.sent ++ messages actions := by
  induction actions generalizing s with
  | nil =>
    cases ran
    exact (List.append_nil _).symm
  | cons a rest ih =>
    obtain ⟨next, acted, later⟩ := Option.bind_eq_some_iff.mp ran
    rw [ih later, sent_act acted, List.append_assoc]
    unfold messages
    cases queued : a.message with
    | none => rw [List.filterMap_cons_none queued]; rfl
    | some msg => rw [List.filterMap_cons_some queued]; rfl

theorem in_order_acts {actions : List (StreamAction T)} (held : InOrder s.writer)
    (ran : acts act actions s = some s') : InOrder s'.writer := by
  apply run_invariant (fun s => InOrder s.writer) held _ (run_of_acts actions ran)
  intro a before after _ ih _ acted
  exact in_order_act ih acted

theorem streamed_acts {actions : List (StreamAction T)} (held : Streamed s.writer)
    (works : ∀ a ∈ actions, a.throwsIOException = false) (ran : acts act actions s = some s') :
    Streamed s'.writer := by
  have runs : Runs act (fun _ a => a.throwsIOException = false) s s' :=
    run_of_acts_all actions (fun a member _ => works a member) ran
  apply run_invariant (fun s => Streamed s.writer) held _ runs
  intro a before after _ ih works acted
  exact streamed_act ih works acted

/-- The channel has taken a beginning of the messages in the order of the queue, and as long
    as no write has failed the buffers hold all the rest. -/
theorem write_stream_intact {actions : List (StreamAction T)}
    (ran : acts act actions .initial = some s) :
    s.writer.accepted <+: (messages actions).flatMap FrameEncoderDecoder.encode ∧
      ((∀ a ∈ actions, a.throwsIOException = false) →
        s.writer.accepted ++ unread s.writer.writeQueue =
          (messages actions).flatMap FrameEncoderDecoder.encode) := by
  have sent : s.writer.sent = messages actions := sent_acts ran
  rw [← sent]
  constructor
  · exact (in_order_acts in_order_initial ran).taken
  · intro works
    have start : Streamed (Sending.initial : Sending T).writer := rfl
    exact streamed_acts start works ran

/-- Two messages, of which the first is written in two pieces while the second comes in. -/
def twoMessages : List (StreamAction Nat) :=
  [.step (.append 0 "fire"), .continueWrite, .step (.selector false .proceed),
    .step (.selector false (.write 3)), .step (.append 1 "flood"),
    .step (.selector false .proceed), .step (.request 0), .continueWrite,
    .step (.selector false .proceed), .step (.selector false (.write 9)),
    .step (.selector false .proceed), .step (.selector false .proceed),
    .step (.selector false (.write 0))]

theorem two_messages_streamed :
    ∃ s, acts act twoMessages .initial = some s ∧ s.writer.accepted.length = 5 ∧
      s.writer.accepted <+: (messages twoMessages).flatMap FrameEncoderDecoder.encode ∧
      s.writer.accepted ++ unread s.writer.writeQueue =
        (messages twoMessages).flatMap FrameEncoderDecoder.encode := by
  have ran : (acts act twoMessages .initial).any (fun s => s.writer.accepted.length = 5) =
      true := by decide +kernel
  obtain ⟨s, acted, five⟩ := (Option.any_eq_true _ _).mp ran
  have works : ∀ a ∈ twoMessages, a.throwsIOException = false := by decide
  obtain ⟨first, rest⟩ := write_stream_intact acted
  exact ⟨s, acted, of_decide_eq_true five, first, rest works⟩

end Runs
end WriteStream
