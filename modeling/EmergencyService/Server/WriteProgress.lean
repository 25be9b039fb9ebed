import EmergencyService.Foundation.DrainingRuns
import EmergencyService.Server.WriteStream

/- The write side comes to rest: once nothing more is queued and as long as the channel takes
   bytes, every order of the remaining steps ends, and then everything has been written. -/
namespace WriteProgress
open NonBlockingWrites WriteWakeup WriteStream BufferQueue GuardedRuns DrainingRuns

/-- The steps left when nothing more is queued: the second step of `send`, and those of the
    selector thread while each write takes a byte and the protocol does not terminate. -/
def advances {T : Type} : SendingAction T → Prop
  | .request _ => True
  | .selector false (.write n) => 0 < n
  | .selector false .enter | .selector false .proceed | .selector false .runTask => True
  | _ => False

instance {T : Type} (action : SendingAction T) : Decidable (advances action) := by
  unfold advances
  split <;> infer_instance

/-- Behind a write the round ends, or the buffer is removed and the loop goes on. -/
def writtenWeight : List (Buffer UInt8) → Nat
  | [] => 2
  | top :: _ => if top.hasRemaining then 6 else 2

/-- How far the selector thread is from `away`, counting the round that OP_WRITE starts. -/
def placeWeight (w : Writer) : Nat :=
  match w.position with
  | .away => if w.interestOps.write then 5 else 0
  | .loopTest => 4
  | .write => 3
  | .remainingTest => writtenWeight w.writeQueue
  | .emptyTest => if w.writeQueue = [] then 3 else 6
  | .terminateTest => 2
  | .updateOps => 1
  | .close | .escaped => 0

def bufferWeight (b : Buffer UInt8) : Nat := 4 * b.remaining.length + 3

/-- A request becomes a task, and a task a round; a round takes a byte or empties the queue. -/
def weight (w : Writer) : Nat :=
  7 * w.requests + 6 * w.selectorTasks.length + (w.writeQueue.map bufferWeight).sum + placeWeight w

/-- In front of a write and behind it there is a buffer, and only the key of a closed channel
    lets an exception out. -/
structure Placed (w : Writer) : Prop where
  inside : w.position = .write ∨ w.position = .remainingTest → w.writeQueue ≠ []
  caught : w.position = .escaped → w.isOpen = false

section Places
variable {w w' : Writer} {terminate : Bool} {step : SelectorStep} {n : Nat}

theorem placed_elsewhere (place : w.position ≠ .write ∧ w.position ≠ .remainingTest ∧
    w.position ≠ .escaped) : Placed w := by
  obtain ⟨write, remaining, escaped⟩ := place
  refine ⟨?_, fun here => absurd here escaped⟩
  rintro (here | here)
  · exact absurd here write
  · exact absurd here remaining

theorem placed_proceed (moved : w.proceed terminate = some w') : Placed w' := by
  unfold Writer.proceed at moved
  split at moved
  · cases moved
  · split at moved
    · rename_i go
      cases moved
      exact ⟨fun _ => go.1, nofun⟩
    · cases moved
      exact placed_elsewhere (by simp)
  · cases moved
  · split at moved
    · cases moved
    · split at moved <;> cases moved <;> exact placed_elsewhere (by simp)
  · split at moved <;> cases moved <;> exact placed_elsewhere (by simp)
  · cases moved
    cases terminate <;> exact placed_elsewhere (by simp)
  · cases moved
    exact placed_elsewhere (by simp)
  · split at moved
    · cases moved
      exact placed_elsewhere (by simp)
    · rename_i shut
      split at moved
      · cases moved
        exact ⟨by simp, fun _ => by simpa using shut⟩
      · cases moved
        exact placed_elsewhere (by simp)
  · cases moved

theorem placed_write (wrote : w.write n = some w') : Placed w' := by
  unfold Writer.write at wrote
  split at wrote
  · split at wrote
    · cases wrote
      exact ⟨fun _ => by simp, nofun⟩
    · cases wrote
      exact placed_elsewhere (by simp)
  · cases wrote

theorem placed_selector (moved : w.selector terminate step = some w') : Placed w' := by
  cases step with
  | enter =>
    simp only [Writer.selector] at moved
    split at moved <;> cases moved
    exact placed_elsewhere (by simp)
  | proceed => exact placed_proceed moved
  | write n => exact placed_write moved
  | writeFails =>
    simp only [Writer.selector, Writer.writeFails] at moved
    split at moved <;> cases moved
    exact placed_elsewhere (by simp)
  | runTask =>
    simp only [Writer.selector, Writer.runTask] at moved
    split at moved <;> cases moved
    rename_i away _
    exact placed_elsewhere (by simp [away])
  | select =>
    simp only [Writer.selector] at moved
    split at moved <;> cases moved
    rename_i away
    exact placed_elsewhere (by simp [away])

theorem placed_request (held : Placed w) (asked : w.request = some w') : Placed w' := by
  unfold Writer.request at asked
  split at asked
  · cases asked
  · cases asked
    exact ⟨held.inside, held.caught⟩

end Places

section Weights
variable {w w' : Writer} {n : Nat}

theorem request_weight (registered : w.registered = true) (asked : w.request = some w') :
    weight w' < weight w := by
  unfold Writer.request at asked
  split at asked
  · cases asked
  · rename_i requests one
    cases asked
    rw [if_pos registered]
    simp only [weight, placeWeight, List.length_append, List.length_singleton, one]
    omega

theorem run_task_weight (ran : w.runTask = some w') : weight w' < weight w := by
  unfold Writer.runTask at ran
  split at ran
  · rename_i ops rest away queued
    cases ran
    simp only [weight, placeWeight, away, queued, List.length_cons]
    split <;> split <;> omega
  · cases ran

theorem advance_weight (b : Buffer UInt8) (positive : 0 < n) :
    bufferWeight (b.advance n) ≤ bufferWeight b ∧
      ((b.advance n).hasRemaining = true → bufferWeight (b.advance n) + 4 ≤ bufferWeight b) := by
  have taken := congrArg List.length (b.take_advance n)
  rw [List.length_append, List.length_take] at taken
  refine ⟨by simp only [bufferWeight]; omega, ?_⟩
  intro more
  have left : (b.advance n).remaining.length ≠ 0 := by
    intro none
    have empty := (b.advance n).remaining_nil.mp (List.length_eq_zero_iff.mp none)
    rw [more] at empty
    cases empty
  simp only [bufferWeight]
  omega

theorem write_weight (isOpen : w.isOpen = true) (positive : 0 < n) (wrote : w.write n = some w') :
    weight w' < weight w := by
  unfold Writer.write at wrote
  split at wrote
  · rename_i top rest write queue
    rw [if_pos isOpen] at wrote
    cases wrote
    obtain ⟨less, lessStill⟩ := advance_weight top positive
    simp only [weight, placeWeight, writtenWeight, write, queue, List.map_cons, List.sum_cons]
    by_cases more : (top.advance n).hasRemaining = true
    · have taken := lessStill more
      rw [if_pos more]
      omega
    · rw [if_neg more]
      omega
  · cases wrote

theorem proceed_weight (stays : w.Stays) (moved : w.proceed false = some w') :
    weight w' < weight w := by
  obtain ⟨isOpen, goesOn⟩ := stays
  unfold Writer.proceed at moved
  split at moved
  · cases moved
  · rename_i test
    split at moved
    · cases moved
      simp only [weight, placeWeight, test]
      omega
    · rename_i stop
      have empty : w.writeQueue = [] := by
        by_contra waiting
        exact stop ⟨waiting, isOpen⟩
      cases moved
      simp only [weight, placeWeight, test, empty, if_true]
      omega
  · cases moved
  · rename_i test
    split at moved
    · cases moved
    · rename_i top rest queue
      split at moved
      · rename_i more
        cases moved
        simp only [weight, placeWeight, writtenWeight, test, queue, more, if_true]
        split <;> omega
      · rename_i done
        cases moved
        simp only [weight, placeWeight, writtenWeight, test, queue, List.map_cons, List.sum_cons,
          done, bufferWeight, Bool.false_eq_true, if_false]
        omega
  · rename_i test
    split at moved
    · rename_i empty
      cases moved
      simp only [weight, placeWeight, test, empty, if_true]
      omega
    · rename_i waiting
      cases moved
      simp only [weight, placeWeight, test, waiting, if_false]
      split <;> omega
  · rename_i test
    cases moved
    simp only [weight, placeWeight, test, Bool.false_eq_true, if_false]
    omega
  · rename_i closing
    exact absurd closing goesOn
  · rename_i test
    rw [if_pos isOpen] at moved
    cases moved
    simp only [weight, placeWeight, test, opRead, Bool.false_eq_true, if_false]
    omega
  · cases moved

theorem write_possible (held : Placed w) (write : w.position = .write) :
    (w.write 1).isSome = true := by
  cases queue : w.writeQueue with
  | nil => exact absurd queue (held.inside (Or.inl write))
  | cons top rest =>
    rw [Writer.write, write, queue]
    dsimp only
    split <;> rfl

theorem proceed_possible (held : Placed w) (stays : w.Stays) (inside : w.position ≠ .away)
    (other : w.position ≠ .write) : (w.proceed false).isSome = true := by
  unfold Writer.proceed
  split
  · rename_i away
    exact absurd away inside
  · split <;> rfl
  · rename_i write
    exact absurd write other
  · rename_i test
    split
    · rename_i empty
      exact absurd empty (held.inside (Or.inr test))
    · split <;> rfl
  · split <;> rfl
  · rfl
  · rfl
  · split
    · rfl
    · split <;> rfl
  · rename_i escaped
    have shut := held.caught escaped
    rw [stays.1] at shut
    cases shut

end Weights

section Runs
variable {T : Type} {s s' : Sending T} {action : SendingAction T}

/-- An open channel on which the selector thread goes on. -/
structure Serving (s : Sending T) : Prop where
  watched : Watched s
  placed : Placed s.writer
  stays : s.writer.Stays

/-- Nothing is left to do, and the channel has taken every message in order. -/
structure AtRest (s : Sending T) : Prop where
  away : s.writer.position = .away
  between : s.between = ∅
  tasks : s.writer.selectorTasks = []
  reading : s.writer.interestOps.write = false
  written : s.writer.accepted = whole s.writer

theorem weight_zero_iff (serving : Serving s) (streamed : Streamed s.writer) :
    weight s.writer = 0 ↔ AtRest s := by
  have awake := serving.watched.awake serving.stays.1
  have requests := serving.watched.requests
  constructor
  · intro light
    unfold weight at light
    have none : s.writer.requests = 0 := by omega
    have tasks : s.writer.selectorTasks = [] := List.length_eq_zero_iff.mp (by omega)
    have queue : s.writer.writeQueue = [] := by
      cases queue : s.writer.writeQueue with
      | nil => rfl
      | cons top rest =>
        rw [queue, List.map_cons, List.sum_cons, bufferWeight] at light
        omega
    have place : placeWeight s.writer = 0 := by omega
    have away : s.writer.position = .away := by
      cases position : s.writer.position with
      | away => rfl
      | close => exact absurd position serving.stays.2
      | escaped =>
        have shut := serving.placed.caught position
        rw [serving.stays.1] at shut
        cases shut
      | _ => simp [placeWeight, writtenWeight, position, queue] at place
    refine ⟨away, ?_, tasks, ?_, ?_⟩
    · exact Finset.card_eq_zero.mp (requests.symm.trans none)
    · simpa [placeWeight, away] using place
    · rw [whole, ← streamed, queue, unread_nil, List.append_nil]
  · intro rest
    have none : s.writer.requests = 0 := by rw [requests, rest.between, Finset.card_empty]
    have queue : s.writer.writeQueue = [] := by
      by_contra waiting
      rcases awake.triggered waiting with set | tasks | asking
      · rw [rest.reading] at set
        cases set
      · exact tasks rest.tasks
      · omega
    simp [weight, placeWeight, none, rest.tasks, queue, rest.away, rest.reading]

variable [DecidableEq T]

theorem act_serving (serving : Serving s) (kind : advances action)
    (acted : s.act action = some s') : Serving s' := by
  have watched := watched_act serving.watched acted
  cases action with
  | append t msg => exact kind.elim
  | close => exact kind.elim
  | request t =>
    simp only [Sending.act] at acted
    split at acted
    · obtain ⟨writer, asked, rfl⟩ := Option.map_eq_some_iff.mp acted
      refine ⟨watched, placed_request serving.placed asked, ?_⟩
      unfold Writer.request at asked
      split at asked <;> cases asked
      exact serving.stays
    · cases acted
  | selector terminate step =>
    obtain ⟨writer, moved, rfl⟩ := Option.map_eq_some_iff.mp acted
    have works : step ≠ .writeFails ∧ terminate = false := by
      cases terminate <;> cases step <;> simp_all [advances]
    obtain ⟨fine, rfl⟩ := works
    have effect := selector_effect moved fine
    refine ⟨watched, placed_selector moved, ?_, ?_⟩
    · rcases effect.isOpen with same | ⟨_, closing, _⟩
      · exact same.trans serving.stays.1
      · exact absurd closing serving.stays.2
    · intro closing
      obtain ⟨_, _, terminating, _⟩ := effect.closing closing
      cases terminating

theorem act_weight (serving : Serving s) (kind : advances action)
    (acted : s.act action = some s') : weight s'.writer < weight s.writer := by
  have isOpen := serving.stays.1
  cases action with
  | append t msg => exact kind.elim
  | close => exact kind.elim
  | request t =>
    simp only [Sending.act] at acted
    split at acted
    · obtain ⟨writer, asked, rfl⟩ := Option.map_eq_some_iff.mp acted
      exact request_weight (serving.watched.awake isOpen).registered asked
    · cases acted
  | selector terminate step =>
    obtain ⟨writer, moved, rfl⟩ := Option.map_eq_some_iff.mp acted
    cases terminate with
    | true => exact kind.elim
    | false =>
      cases step with
      | enter =>
        simp only [Writer.selector] at moved
        split at moved
        · rename_i ready
          cases moved
          simp only [weight, placeWeight, ready.1, ready.2.2, if_true]
          omega
        · cases moved
      | proceed => exact proceed_weight serving.stays moved
      | write n => exact write_weight isOpen kind moved
      | writeFails => exact kind.elim
      | runTask => exact run_task_weight moved
      | select => exact kind.elim

theorem step_possible (serving : Serving s) (heavy : weight s.writer ≠ 0) :
    ∃ action s', advances action ∧ s.act action = some s' := by
  have isOpen := serving.stays.1
  have awake := serving.watched.awake isOpen
  have stepping : ∀ step, advances (.selector false step : SendingAction T) →
      (s.writer.selector false step).isSome = true →
      ∃ action s', advances action ∧ s.act action = some s' := by
    intro step kind possible
    obtain ⟨w', moved⟩ := Option.isSome_iff_exists.mp possible
    refine ⟨.selector false step, { s with writer := w' }, kind, ?_⟩
    rw [Sending.act, moved, Option.map_some]
  by_cases away : s.writer.position = .away
  · cases tasks : s.writer.selectorTasks with
    | cons ops rest =>
      have ran : s.writer.runTask.isSome = true := by
        rw [Writer.runTask, away, tasks]
        rfl
      exact stepping .runTask trivial ran
    | nil =>
      cases writing : s.writer.interestOps.write with
      | true =>
        have entered : (s.writer.selector false .enter).isSome = true := by
          rw [Writer.selector, if_pos ⟨away, isOpen, writing⟩]
          rfl
        exact stepping .enter trivial entered
      | false =>
        -- only a sender can be left, for otherwise the queue would be empty
        have asking : 0 < s.writer.requests := by
          by_contra idle
          apply heavy
          have queue : s.writer.writeQueue = [] := by
            by_contra waiting
            rcases awake.triggered waiting with set | left | asking
            · rw [writing] at set
              cases set
            · exact left tasks
            · exact idle asking
          have zero : s.writer.requests = 0 := by omega
          simp [weight, placeWeight, zero, tasks, queue, away, writing]
        have card := serving.watched.requests
        obtain ⟨t, sender⟩ := Finset.card_pos.mp (card ▸ asking)
        obtain ⟨requests, one⟩ := Nat.exists_eq_succ_of_ne_zero asking.ne'
        have possible : (s.act (.request t)).isSome = true := by
          rw [Sending.act, if_pos sender, Writer.request, one]
          rfl
        obtain ⟨s', acted⟩ := Option.isSome_iff_exists.mp possible
        exact ⟨.request t, s', trivial, acted⟩
  · by_cases write : s.writer.position = .write
    · have kind : advances (.selector false (.write 1) : SendingAction T) := Nat.one_pos
      exact stepping (.write 1) kind (write_possible serving.placed write)
    · exact stepping .proceed trivial (proceed_possible serving.placed serving.stays away write)

theorem serving_drains :
    Draining (Sending.act (T := T)) advances Serving fun s => weight s.writer where
  keeps _ _ _ serving kind acted := act_serving serving kind acted
  lowers _ _ _ serving kind acted := act_weight serving kind acted
  enabled _ serving heavy := step_possible serving heavy

theorem reached_kept (runs : Runs Sending.act (fun _ _ => True) (.initial : Sending T) s) :
    Watched s ∧ Placed s.writer ∧ InOrder s.writer := by
  refine run_invariant (fun s => Watched s ∧ Placed s.writer ∧ InOrder s.writer)
    ⟨watched_initial, placed_elsewhere (by simp [Sending.initial, Writer.initial]),
      in_order_initial⟩ ?_ runs
  rintro action before after _ ⟨watched, placed, ordered⟩ _ acted
  have streaming : WriteStream.act before (.step action) = some after := acted
  refine ⟨watched_act watched acted, ?_, in_order_act ordered streaming⟩
  rcases act_cases streaming with ⟨t, msg, _, writer⟩ | ⟨t, _, asked⟩ |
    ⟨terminate, step, _, moved⟩ | ⟨_, writer⟩ | ⟨none, _⟩ | ⟨_, _, none, _⟩
  · rw [writer]
    exact ⟨fun _ => by simp [Writer.append], placed.caught⟩
  · exact placed_request placed asked
  · exact placed_selector moved
  · rw [writer]
    exact ⟨placed.inside, fun _ => rfl⟩
  · cases none
  · cases none

/-- Once nothing more is queued, every order of the steps that are left ends, and it can only
    end when all that was ever queued has been written, in order, and nobody is left to write. -/
theorem queue_drains {actions : List (SendingAction T)}
    (runs : Runs Sending.act (fun _ _ => True) (.initial : Sending T) s)
    (stays : s.writer.Stays) (kind : ∀ action ∈ actions, advances action)
    (ran : acts Sending.act actions s = some s') :
    actions.length ≤ weight s.writer ∧
      ((∀ action, advances action → s'.act action = none) ↔ AtRest s') := by
  obtain ⟨watched, placed, _⟩ := reached_kept runs
  obtain ⟨serving, bound⟩ := draining_bound serving_drains ⟨watched, placed, stays⟩ kind ran
  obtain ⟨_, _, ordered⟩ := reached_kept (runs.trans (run_of_acts actions ran))
  have streamed := ordered.streamed serving.stays.1
  refine ⟨by omega, ?_⟩
  exact (over_iff serving_drains serving).trans (weight_zero_iff serving streamed)

end Runs

/-- Two senders, of which one still has to ask, and a channel that takes the first message in
    two pieces. -/
def queued : List (SendingAction Nat) := [.append 0 "fire", .append 1 "flood", .request 1]

def written : List (SendingAction Nat) :=
  .request 0 :: ([.runTask, .runTask, .enter, .proceed, .write 3, .proceed, .enter, .proceed,
    .write 9, .proceed] : List SelectorStep).map (.selector false)

theorem two_messages_drained :
    ∃ s s', acts Sending.act queued .initial = some s ∧ acts Sending.act written s = some s' ∧
      written.length ≤ weight s.writer ∧
      ((∀ action, advances action → s'.act action = none) ↔ AtRest s') := by
  have ran : (acts Sending.act queued .initial).any (fun s => decide s.writer.Stays &&
      (acts Sending.act written s).isSome) = true := by decide +kernel
  obtain ⟨s, first, checked⟩ := (Option.any_eq_true _ _).mp ran
  rw [Bool.and_eq_true, decide_eq_true_eq] at checked
  obtain ⟨s', second⟩ := Option.isSome_iff_exists.mp checked.2
  have kind : ∀ action ∈ written, advances action := by decide
  exact ⟨s, s', first, second, queue_drains (run_of_acts _ first) checked.1 kind second⟩

end WriteProgress
