import Mathlib.Data.List.Basic

/- What running the tasks of an actor serially means: at most one at a time, in the order
   in which they were submitted. -/
namespace SerialTasks
variable {R : Type}

structure SerialActor (R : Type) where
  finished : List R
  current : Option R
  pending : List R
  busy : current = none → pending = []

namespace SerialActor
variable (t : SerialActor R)

def idle : SerialActor R := ⟨[], none, [], fun _ => rfl⟩

def submit (r : R) : SerialActor R :=
  match t.current with
  | none => ⟨t.finished, some r, [], nofun⟩
  | some current => ⟨t.finished, some current, t.pending ++ [r], nofun⟩

/-- The current task is over, and the next one takes its place. -/
def finish : SerialActor R where
  finished := t.finished ++ t.current.toList
  current := t.pending.head?
  pending := t.pending.tail
  busy := by
    intro idle
    rw [List.head?_eq_none_iff.mp idle, List.tail_nil]

def history : List R := t.finished ++ t.current.toList ++ t.pending

@[simp] theorem history_submit (r : R) : (t.submit r).history = t.history ++ [r] := by
  unfold submit history
  cases current : t.current with
  | none => simp [t.busy current]
  | some running => simp

@[simp] theorem history_finish : t.finish.history = t.history := by
  have split : t.pending.head?.toList ++ t.pending.tail = t.pending := by
    cases t.pending <;> rfl
  simp [finish, history, split]

end SerialActor

end SerialTasks
