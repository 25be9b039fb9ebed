import Mathlib.Data.List.Basic

/- Two copies of a state. One side applies an operation at once and sends it; the other
   side applies the operations in the order in which they were sent. -/
namespace PendingOperations
variable {Op State : Type} {step : Op → State → State → Prop}

/-- The pending operations, in their order, lead from one copy to the other. -/
def Leads (step : Op → State → State → Prop) : List Op → State → State → Prop
  | [], s, s' => s = s'
  | op :: rest, s, s' => ∃ next, step op s next ∧ Leads step rest next s'

variable {op : Op} {pending more : List Op} {s s' s'' : State}

@[simp] theorem leads_nil : Leads step [] s s' ↔ s = s' := Iff.rfl

theorem leads_trans (first : Leads step pending s s') (second : Leads step more s' s'') :
    Leads step (pending ++ more) s s'' := by
  induction pending generalizing s with
  | nil =>
    obtain rfl := leads_nil.mp first
    exact second
  | cons op pending ih =>
    obtain ⟨next, stepped, later⟩ := first
    exact ⟨next, stepped, ih later⟩

theorem leads_split (trace : Leads step (pending ++ more) s s'') :
    ∃ s', Leads step pending s s' ∧ Leads step more s' s'' := by
  induction pending generalizing s with
  | nil => exact ⟨s, rfl, trace⟩
  | cons op pending ih =>
    obtain ⟨next, stepped, later⟩ := trace
    obtain ⟨s', first, second⟩ := ih later
    exact ⟨s', ⟨next, stepped, first⟩, second⟩

theorem leads_idle (idle : ∀ op ∈ pending, step op s s) : Leads step pending s s := by
  induction pending with
  | nil => rfl
  | cons op pending ih =>
    exact ⟨s, idle op (by simp), ih fun op' member => idle op' (List.mem_cons_of_mem op member)⟩

end PendingOperations
