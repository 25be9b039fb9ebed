import EmergencyService.Foundation.BufferQueue
import EmergencyService.Frames.FrameBytes
import EmergencyService.Server.MapCalls

/- The write side of a `NonBlockingConnectionHandler`: the threads that call `send`, the
   selector thread in `continueWrite`, and `close`, which both can call. -/
namespace NonBlockingWrites
open JavaRuntime Utf8Text FrameBytes BufferQueue

/-- The interest set of a key; no other operations are ever set for a connection. -/
structure InterestOps where
  read : Bool
  write : Bool
  deriving DecidableEq, Repr

def opRead : InterestOps := ⟨true, false⟩

def opReadWrite : InterestOps := ⟨true, true⟩

/-- Where the selector thread stands in `continueWrite`, in front of the step it is named
    after. It is `away` outside, and has `escaped` when a CancelledKeyException has left the
    loop of `serve`. -/
inductive Position where
  | away | loopTest | write | remainingTest | emptyTest | terminateTest | close | updateOps
  | escaped
  deriving DecidableEq, Repr

/-- `registered` falls when `select` has removed the key of a closed channel, and `requests`
    counts the threads between the two steps of `send`. `sent` are the messages handed to
    `send`, in the order of the queue. -/
structure Writer where
  writeQueue : List (Buffer UInt8)
  isOpen : Bool
  accepted : Bytes
  interestOps : InterestOps
  registered : Bool
  selectorTasks : List InterestOps
  requests : Nat
  position : Position
  sent : List Text

inductive SelectorStep where
  | enter
  | proceed
  | write : Nat → SelectorStep
  | writeFails
  | runTask
  | select
  deriving DecidableEq, Repr

namespace Writer
variable (w : Writer)

def initial : Writer := ⟨[], true, [], opRead, true, [], 0, .away, []⟩

/-- The first step of `send`. -/
def append (msg : Text) : Writer :=
  { w with
    writeQueue := w.writeQueue ++ [.wrap (FrameEncoderDecoder.encode msg)]
    requests := w.requests + 1
    sent := w.sent ++ [msg] }

/-- The second step of `send`: `updateInterestedOps`, on a thread that is not the
    selector's. -/
def request : Option Writer :=
  match w.requests with
  | 0 => none
  | requests + 1 => some { w with
      requests := requests
      selectorTasks := if w.registered then w.selectorTasks ++ [opReadWrite]
        else w.selectorTasks }

def close : Writer := { w with isOpen := false }

/-- The next step in `continueWrite`, apart from the write itself. -/
def proceed (shouldTerminate : Bool) : Option Writer :=
  match w.position with
  | .away => none
  | .loopTest =>
      if w.writeQueue ≠ [] ∧ w.isOpen then some { w with position := .write }
      else some { w with position := .emptyTest }
  | .write => none
  | .remainingTest =>
      match w.writeQueue with
      | [] => none
      | top :: rest =>
          if top.hasRemaining then some { w with position := .away }
          else some { w with writeQueue := rest, position := .loopTest }
  | .emptyTest =>
      if w.writeQueue = [] then some { w with position := .terminateTest }
      else some { w with position := .away }
  | .terminateTest =>
      some { w with position := if shouldTerminate then .close else .updateOps }
  | .close => some { w.close with position := .away }
  | .updateOps =>
      if w.isOpen then some { w with interestOps := opRead, position := .away }
      else if w.registered then some { w with position := .escaped }
      else some { w with position := .away }
  | .escaped => none

/-- `chan.write(top)` takes some of the bytes; on a closed channel it throws. -/
def write (n : Nat) : Option Writer :=
  match w.position, w.writeQueue with
  | .write, top :: rest =>
      if w.isOpen then some { w with
        writeQueue := top.advance n :: rest
        accepted := w.accepted ++ top.remaining.take n
        position := .remainingTest }
      else some { w with position := .loopTest }
  | _, _ => none

/-- An IOException of `chan.write`; the handler closes the channel. -/
def writeFails : Option Writer :=
  if w.position = .write then some { w.close with position := .loopTest } else none

/-- A task of `runSelectionThreadTasks`; a cancelled key throws, and the exception is caught. -/
def runTask : Option Writer :=
  match w.position, w.selectorTasks with
  | .away, ops :: rest => some { w with
      selectorTasks := rest
      interestOps := if w.isOpen then ops else w.interestOps }
  | _, _ => none

def selector (shouldTerminate : Bool) : SelectorStep → Option Writer
  | .enter =>
      if w.position = .away ∧ w.isOpen ∧ w.interestOps.write then
        some { w with position := .loopTest }
      else none
  | .proceed => w.proceed shouldTerminate
  | .write n => w.write n
  | .writeFails => w.writeFails
  | .runTask => w.runTask
  | .select =>
      if w.position = .away then some { w with registered := w.registered && w.isOpen } else none

/-- The channel is open, and the selector thread is not about to close it. -/
def Stays : Prop := w.isOpen = true ∧ w.position ≠ .close

instance : Decidable w.Stays := inferInstanceAs (Decidable (_ ∧ _))

end Writer

/-- What the channel has taken and what is still in the queue are the messages sent. -/
def Streamed (w : Writer) : Prop :=
  w.accepted ++ unread w.writeQueue = w.sent.flatMap FrameEncoderDecoder.encode

section Stream
variable {w w' : Writer} {msg : Text} {terminate : Bool} {step : SelectorStep}

/-- The steps outside the loop of `continueWrite` leave the stream alone, and only a failed
    write closes the channel. -/
structure Aside (step : SelectorStep) (w w' : Writer) : Prop where
  sent : w'.sent = w.sent
  accepted : w'.accepted = w.accepted
  writeQueue : w'.writeQueue = w.writeQueue
  isOpen : step ≠ .writeFails → w'.isOpen = w.isOpen
  position : w'.position ≠ .close

theorem selector_cases (moved : w.selector terminate step = some w') :
    (step = .proceed ∧ w.proceed terminate = some w') ∨
      (∃ n, step = .write n ∧ w.write n = some w') ∨ Aside step w w' := by
  cases step with
  | proceed => exact Or.inl ⟨rfl, moved⟩
  | write n => exact Or.inr (Or.inl ⟨n, rfl, moved⟩)
  | enter =>
    simp only [Writer.selector] at moved
    split at moved
    · cases moved
      exact Or.inr (Or.inr ⟨rfl, rfl, rfl, fun _ => rfl, nofun⟩)
    · cases moved
  | writeFails =>
    simp only [Writer.selector, Writer.writeFails] at moved
    split at moved
    · cases moved
      exact Or.inr (Or.inr ⟨rfl, rfl, rfl, fun works => absurd rfl works, nofun⟩)
    · cases moved
  | runTask =>
    simp only [Writer.selector, Writer.runTask] at moved
    split at moved
    · rename_i away _
      cases moved
      refine Or.inr (Or.inr ⟨rfl, rfl, rfl, fun _ => rfl, ?_⟩)
      rw [away]
      nofun
    · cases moved
  | select =>
    simp only [Writer.selector] at moved
    split at moved
    · rename_i away
      cases moved
      refine Or.inr (Or.inr ⟨rfl, rfl, rfl, fun _ => rfl, ?_⟩)
      rw [away]
      nofun
    · cases moved

theorem streamed_append (held : Streamed w) (msg : Text) : Streamed (w.append msg) := by
  unfold Streamed at held ⊢
  simp [Writer.append, ← held]

theorem streamed_request (held : Streamed w) (asked : w.request = some w') : Streamed w' := by
  unfold Writer.request at asked
  split at asked
  · cases asked
  · cases asked
    exact held

theorem streamed_write {n : Nat} (held : Streamed w) (wrote : w.write n = some w') :
    Streamed w' := by
  unfold Writer.write at wrote
  split at wrote
  · rename_i top rest _ queue
    split at wrote
    · cases wrote
      unfold Streamed at held ⊢
      rw [queue, unread_cons] at held
      rw [unread_cons, ← held, List.append_assoc]
      rw [← List.append_assoc (top.remaining.take n), top.take_advance]
    · cases wrote
      exact held
  · cases wrote

theorem streamed_proceed (held : Streamed w) (moved : w.proceed terminate = some w') :
    Streamed w' := by
  unfold Writer.proceed at moved
  split at moved
  · cases moved
  · split at moved <;> cases moved <;> exact held
  · cases moved
  · split at moved
    · cases moved
    · rename_i top rest queue
      split at moved
      · cases moved
        exact held
      · rename_i taken
        cases moved
        have empty : top.remaining = [] := top.remaining_nil.mpr (by simpa using taken)
        unfold Streamed at held ⊢
        rwa [queue, unread_cons, empty, List.nil_append] at held
  · split at moved <;> cases moved <;> exact held
  · cases moved
    exact held
  · cases moved
    exact held
  · split at moved
    · cases moved
      exact held
    · split at moved <;> cases moved <;> exact held
  · cases moved

theorem streamed_selector (held : Streamed w) (moved : w.selector terminate step = some w') :
    Streamed w' := by
  rcases selector_cases moved with ⟨_, proceeded⟩ | ⟨n, _, wrote⟩ | aside
  · exact streamed_proceed held proceeded
  · exact streamed_write held wrote
  · unfold Streamed at held ⊢
    rwa [aside.sent, aside.accepted, aside.writeQueue]

end Stream

section Closing
variable {w w' : Writer} {terminate : Bool} {step : SelectorStep}

/-- What the steps of the selector thread can do to an open channel, and how it comes to
    close it. -/
structure SelectorEffect (terminate : Bool) (step : SelectorStep) (w w' : Writer) : Prop where
  sent : w'.sent = w.sent
  accepted : w.isOpen = false → w'.accepted = w.accepted
  isOpen : w'.isOpen = w.isOpen ∨ (step = .proceed ∧ w.position = .close ∧ w'.isOpen = false ∧
    w'.accepted = w.accepted)
  closing : w'.position = .close → step = .proceed ∧ w.position = .terminateTest ∧
    terminate = true ∧ w'.writeQueue = w.writeQueue

theorem proceed_effect (moved : w.proceed terminate = some w') :
    SelectorEffect terminate .proceed w w' := by
  unfold Writer.proceed at moved
  split at moved
  · cases moved
  · split at moved <;> cases moved <;> exact ⟨rfl, fun _ => rfl, Or.inl rfl, nofun⟩
  · cases moved
  · split at moved
    · cases moved
    · split at moved <;> cases moved <;> exact ⟨rfl, fun _ => rfl, Or.inl rfl, nofun⟩
  · split at moved <;> cases moved <;> exact ⟨rfl, fun _ => rfl, Or.inl rfl, nofun⟩
  · rename_i test
    cases moved
    refine ⟨rfl, fun _ => rfl, Or.inl rfl, ?_⟩
    intro closing
    cases terminate with
    | true => exact ⟨rfl, test, rfl, rfl⟩
    | false => cases closing
  · rename_i close
    cases moved
    exact ⟨rfl, fun _ => rfl, Or.inr ⟨rfl, close, rfl, rfl⟩, nofun⟩
  · split at moved
    · cases moved
      exact ⟨rfl, fun _ => rfl, Or.inl rfl, nofun⟩
    · split at moved <;> cases moved <;> exact ⟨rfl, fun _ => rfl, Or.inl rfl, nofun⟩
  · cases moved

theorem write_effect {n : Nat} (moved : w.write n = some w') :
    SelectorEffect terminate (.write n) w w' := by
  unfold Writer.write at moved
  split at moved
  · split at moved
    · rename_i isOpen
      cases moved
      refine ⟨rfl, ?_, Or.inl rfl, nofun⟩
      intro shut
      rw [isOpen] at shut
      cases shut
    · cases moved
      exact ⟨rfl, fun _ => rfl, Or.inl rfl, nofun⟩
  · cases moved

theorem selector_effect (moved : w.selector terminate step = some w')
    (works : step ≠ .writeFails) : SelectorEffect terminate step w w' := by
  rcases selector_cases moved with ⟨rfl, proceeded⟩ | ⟨n, rfl, wrote⟩ | aside
  · exact proceed_effect proceeded
  · exact write_effect wrote
  · exact ⟨aside.sent, fun _ => aside.accepted, Or.inl (aside.isOpen works),
      fun closing => absurd closing aside.position⟩

end Closing

end NonBlockingWrites
