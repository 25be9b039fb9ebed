import EmergencyService.Foundation.GuardedRuns
import EmergencyService.Server.NonBlockingWrites
import Mathlib.Data.Finset.Card

/- What makes the selector thread write: the senders of one connection among the steps of
   `continueWrite`, and who still has to ask for OP_WRITE. -/
namespace WriteWakeup
open JavaRuntime NonBlockingWrites GuardedRuns

/-- A connection with the threads that have queued a message in `send` and have not yet
    called `updateInterestedOps`. -/
structure Sending (T : Type) where
  writer : Writer
  between : Finset T

inductive SendingAction (T : Type) where
  | append : T → Text → SendingAction T
  | request : T → SendingAction T
  | selector : Bool → SelectorStep → SendingAction T
  | close

namespace Sending
variable {T : Type} [DecidableEq T]

def initial : Sending T := ⟨.initial, ∅⟩

/-- `shouldTerminate` is read at a time of its own, so that its value comes with the step. -/
def act (s : Sending T) : SendingAction T → Option (Sending T)
  | .append t msg =>
      if t ∈ s.between then none else some ⟨s.writer.append msg, insert t s.between⟩
  | .request t =>
      if t ∈ s.between then s.writer.request.map fun writer => ⟨writer, s.between.erase t⟩
      else none
  | .selector shouldTerminate step =>
      (s.writer.selector shouldTerminate step).map fun writer => { s with writer := writer }
  | .close => some { s with writer := s.writer.close }

end Sending

/-- Someone still has to set OP_WRITE: a task of the selector thread, or a sender. -/
def Asked (w : Writer) : Prop := w.selectorTasks ≠ [] ∨ 0 < w.requests

/-- The selector thread has found the queue empty and not yet changed the interest set. -/
def FoundEmpty (position : Position) : Prop :=
  position = .terminateTest ∨ position = .close ∨ position = .updateOps

/-- While the channel is open. -/
structure Awake (w : Writer) : Prop where
  registered : w.registered = true
  tasks : ∀ ops ∈ w.selectorTasks, ops.write = true
  triggered : w.writeQueue ≠ [] → w.interestOps.write = true ∨ Asked w
  found : FoundEmpty w.position → w.writeQueue ≠ [] → Asked w

section Writes
variable {w w' : Writer} {terminate : Bool} {step : SelectorStep} {n : Nat}

theorem awake_initial : Awake .initial where
  registered := rfl
  tasks := nofun
  triggered := fun waiting => absurd rfl waiting
  found := nofun

theorem awake_append (held : Awake w) (msg : Text) : Awake (w.append msg) where
  registered := held.registered
  tasks := held.tasks
  triggered := fun _ => Or.inr (Or.inr (Nat.succ_pos _))
  found := fun _ _ => Or.inr (Nat.succ_pos _)

theorem awake_request (held : Awake w) (asked : w.request = some w') : Awake w' := by
  unfold Writer.request at asked
  split at asked
  · cases asked
  · cases asked
    rw [if_pos held.registered]
    have task : w.selectorTasks ++ [opReadWrite] ≠ [] := by simp
    refine ⟨held.registered, ?_, fun _ => Or.inr (Or.inl task), fun _ _ => Or.inl task⟩
    intro ops member
    rcases List.mem_append.mp member with old | new
    · exact held.tasks ops old
    · rw [List.mem_singleton.mp new]
      rfl

theorem awake_write (held : Awake w) (wrote : w.write n = some w') : Awake w' := by
  unfold Writer.write at wrote
  split at wrote
  · rename_i top rest _ queue
    have waiting : w.writeQueue ≠ [] := by simp [queue]
    split at wrote <;> cases wrote
    · exact ⟨held.registered, held.tasks, fun _ => held.triggered waiting, nofun⟩
    · exact ⟨held.registered, held.tasks, held.triggered, nofun⟩
  · cases wrote

theorem awake_proceed (isOpen : w.isOpen = true) (held : Awake w)
    (moved : w.proceed terminate = some w') (stillOpen : w'.isOpen = true) : Awake w' := by
  unfold Writer.proceed at moved
  split at moved
  · cases moved
  · split at moved <;> cases moved <;>
      exact ⟨held.registered, held.tasks, held.triggered, nofun⟩
  · cases moved
  · split at moved
    · cases moved
    · rename_i top rest queue
      have waiting : w.writeQueue ≠ [] := by simp [queue]
      split at moved <;> cases moved
      · exact ⟨held.registered, held.tasks, held.triggered, nofun⟩
      · exact ⟨held.registered, held.tasks, fun _ => held.triggered waiting, nofun⟩
  · split at moved
    · rename_i empty
      cases moved
      exact ⟨held.registered, held.tasks, held.triggered, fun _ waiting => absurd empty waiting⟩
    · cases moved
      exact ⟨held.registered, held.tasks, held.triggered, nofun⟩
  · -- a message that has been queued since the test has a sender that asks, or a task
    rename_i test
    cases moved
    exact ⟨held.registered, held.tasks, held.triggered, fun _ => held.found (Or.inl test)⟩
  · cases moved
    cases stillOpen
  · rename_i update
    rw [if_pos isOpen] at moved
    cases moved
    have asked := held.found (Or.inr (Or.inr update))
    exact ⟨held.registered, held.tasks, fun waiting => Or.inr (asked waiting), nofun⟩
  · cases moved

theorem awake_run_task (isOpen : w.isOpen = true) (held : Awake w)
    (ran : w.runTask = some w') : Awake w' := by
  unfold Writer.runTask at ran
  split at ran
  · rename_i ops rest away queued
    cases ran
    have sets : ops.write = true := held.tasks ops (by simp [queued])
    refine ⟨held.registered, ?_, ?_, ?_⟩
    · intro later member
      exact held.tasks later (by simp [queued, member])
    · intro _
      left
      change (if w.isOpen then ops else w.interestOps).write = true
      rw [if_pos isOpen]
      exact sets
    · intro found
      change FoundEmpty w.position at found
      rw [away] at found
      rcases found with found | found | found <;> cases found
  · cases ran

theorem awake_selector (isOpen : w.isOpen = true) (held : Awake w)
    (moved : w.selector terminate step = some w') (stillOpen : w'.isOpen = true) : Awake w' := by
  cases step with
  | enter =>
    simp only [Writer.selector] at moved
    split at moved
    · cases moved
      refine ⟨held.registered, held.tasks, held.triggered, ?_⟩
      intro found
      rcases found with found | found | found <;> cases found
    · cases moved
  | proceed => exact awake_proceed isOpen held moved stillOpen
  | write n => exact awake_write held moved
  | writeFails =>
    simp only [Writer.selector, Writer.writeFails] at moved
    split at moved
    · cases moved
      cases stillOpen
    · cases moved
  | runTask => exact awake_run_task isOpen held moved
  | select =>
    simp only [Writer.selector] at moved
    split at moved
    · cases moved
      refine ⟨?_, held.tasks, held.triggered, held.found⟩
      change (w.registered && w.isOpen) = true
      rw [held.registered, isOpen]
      rfl
    · cases moved

end Writes

section Steps
variable {w w' : Writer} {terminate : Bool} {step : SelectorStep}

theorem selector_was_open (moved : w.selector terminate step = some w')
    (isOpen : w'.isOpen = true) : w.isOpen = true := by
  by_cases fails : step = .writeFails
  · subst fails
    simp only [Writer.selector, Writer.writeFails] at moved
    split at moved
    · cases moved
      cases isOpen
    · cases moved
  · rcases (selector_effect moved fails).isOpen with same | ⟨_, _, shut, _⟩
    · exact same.symm.trans isOpen
    · rw [shut] at isOpen
      cases isOpen

theorem proceed_requests (moved : w.proceed terminate = some w') :
    w'.requests = w.requests := by
  unfold Writer.proceed at moved
  split at moved
  · cases moved
  · split at moved <;> cases moved <;> rfl
  · cases moved
  · split at moved
    · cases moved
    · split at moved <;> cases moved <;> rfl
  · split at moved <;> cases moved <;> rfl
  · cases moved
    rfl
  · cases moved
    rfl
  · split at moved
    · cases moved
      rfl
    · split at moved <;> cases moved <;> rfl
  · cases moved

theorem selector_requests (moved : w.selector terminate step = some w') :
    w'.requests = w.requests := by
  cases step with
  | enter =>
    simp only [Writer.selector] at moved
    split at moved <;> cases moved
    rfl
  | proceed => exact proceed_requests moved
  | write n =>
    simp only [Writer.selector, Writer.write] at moved
    split at moved
    · split at moved <;> cases moved <;> rfl
    · cases moved
  | writeFails =>
    simp only [Writer.selector, Writer.writeFails] at moved
    split at moved <;> cases moved
    rfl
  | runTask =>
    simp only [Writer.selector, Writer.runTask] at moved
    split at moved <;> cases moved
    rfl
  | select =>
    simp only [Writer.selector] at moved
    split at moved <;> cases moved
    rfl

theorem request_effect (asked : w.request = some w') :
    w.requests = w'.requests + 1 ∧ w'.isOpen = w.isOpen := by
  unfold Writer.request at asked
  split at asked
  · cases asked
  · rename_i some
    cases asked
    exact ⟨some, rfl⟩

end Steps

section Runs
variable {T : Type} {s s' : Sending T}

/-- The threads between the two steps of `send` are the requests of the connection. -/
structure Watched (s : Sending T) : Prop where
  requests : s.writer.requests = s.between.card
  awake : s.writer.isOpen = true → Awake s.writer

theorem watched_initial : Watched (.initial : Sending T) where
  requests := rfl
  awake := fun _ => awake_initial

variable [DecidableEq T]

theorem watched_act {action : SendingAction T} (held : Watched s)
    (acted : s.act action = some s') : Watched s' := by
  cases action with
  | append t msg =>
    simp only [Sending.act] at acted
    split at acted
    · cases acted
    · rename_i fresh
      cases acted
      refine ⟨?_, fun isOpen => awake_append (held.awake isOpen) msg⟩
      change s.writer.requests + 1 = (insert t s.between).card
      rw [Finset.card_insert_of_notMem fresh, held.requests]
  | request t =>
    simp only [Sending.act] at acted
    split at acted
    · rename_i sender
      obtain ⟨writer, asked, rfl⟩ := Option.map_eq_some_iff.mp acted
      obtain ⟨requests, isOpen⟩ := request_effect asked
      refine ⟨?_, ?_⟩
      · have one := Finset.card_erase_add_one sender
        have before := held.requests
        change writer.requests = (s.between.erase t).card
        omega
      · intro now
        exact awake_request (held.awake (isOpen.symm.trans now)) asked
    · cases acted
  | selector terminate step =>
    obtain ⟨writer, moved, rfl⟩ := Option.map_eq_some_iff.mp acted
    refine ⟨(selector_requests moved).trans held.requests, ?_⟩
    intro stillOpen
    have isOpen := selector_was_open moved stillOpen
    exact awake_selector isOpen (held.awake isOpen) moved stillOpen
  | close =>
    cases acted
    exact ⟨held.requests, nofun⟩

/-- Whatever the order of the steps, a message in the queue of an open channel is not left
    without anyone to have it written. -/
theorem no_lost_wakeup (runs : Runs Sending.act (fun _ _ => True) (.initial : Sending T) s)
    (isOpen : s.writer.isOpen = true) (waiting : s.writer.writeQueue ≠ []) :
    s.writer.interestOps.write = true ∨ (∃ ops ∈ s.writer.selectorTasks, ops.write = true) ∨
      ∃ t, t ∈ s.between := by
  have held : Watched s := by
    apply run_invariant Watched watched_initial _ runs
    intro action before after _ held _ acted
    exact watched_act held acted
  have awake := held.awake isOpen
  rcases awake.triggered waiting with set | tasks | requests
  · exact Or.inl set
  · obtain ⟨ops, member⟩ := List.exists_mem_of_ne_nil _ tasks
    exact Or.inr (Or.inl ⟨ops, member, awake.tasks ops member⟩)
  · rw [held.requests] at requests
    exact Or.inr (Or.inr (Finset.card_pos.mp requests))

/-- A message queued between the test of the queue and the change to OP_READ. -/
def lateMessage : List (SendingAction Nat) :=
  [.append 0 "fire", .request 0] ++
    ([.runTask, .enter, .proceed, .write 5, .proceed, .proceed, .proceed] : List SelectorStep).map
      (SendingAction.selector false) ++
    [.append 1 "flood", .selector false .proceed, .selector false .proceed]

theorem late_message_has_sender :
    ∃ s, acts Sending.act lateMessage .initial = some s ∧ s.writer.interestOps = opRead ∧
      (s.writer.interestOps.write = true ∨
        (∃ ops ∈ s.writer.selectorTasks, ops.write = true) ∨ ∃ t, t ∈ s.between) := by
  have ran : (acts Sending.act lateMessage .initial).any (fun s =>
      s.writer.isOpen && !s.writer.writeQueue.isEmpty && decide (s.writer.interestOps = opRead)) =
      true := by decide +kernel
  obtain ⟨s, acted, checked⟩ := (Option.any_eq_true _ _).mp ran
  simp only [Bool.and_eq_true, Bool.not_eq_true', decide_eq_true_eq] at checked
  obtain ⟨⟨isOpen, waiting⟩, ops⟩ := checked
  refine ⟨s, acted, ops, no_lost_wakeup (run_of_acts _ acted) isOpen ?_⟩
  intro empty
  rw [empty] at waiting
  cases waiting

end Runs
end WriteWakeup
