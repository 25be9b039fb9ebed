import EmergencyService.Foundation.GuardedRuns

/- Machines whose actions of one kind lower a weight: with these actions alone every run comes
   to an end, and at the end nothing is left to do. -/
namespace DrainingRuns
open GuardedRuns

variable {S A : Type}

/-- The actions of the kind keep the invariant and lower the weight; while there is weight one
    of them is possible, without it none. -/
structure Draining (act : S → A → Option S) (kind : A → Prop) (inv : S → Prop)
    (weight : S → Nat) : Prop where
  keeps : ∀ a s s', inv s → kind a → act s a = some s' → inv s'
  lowers : ∀ a s s', inv s → kind a → act s a = some s' → weight s' < weight s
  enabled : ∀ s, inv s → weight s ≠ 0 → ∃ a s', kind a ∧ act s a = some s'

variable {act : S → A → Option S} {kind : A → Prop} {inv : S → Prop} {weight : S → Nat}
  {s s' : S} {actions : List A}

theorem draining_bound (draining : Draining act kind inv weight) (start : inv s)
    (all : ∀ a ∈ actions, kind a) (ran : acts act actions s = some s') :
    inv s' ∧ actions.length + weight s' ≤ weight s := by
  induction actions generalizing s with
  | nil =>
    cases ran
    exact ⟨start, by simp⟩
  | cons a rest ih =>
    obtain ⟨next, acted, later⟩ := Option.bind_eq_some_iff.mp ran
    have kindly := all a List.mem_cons_self
    have lower := draining.lowers a s next start kindly acted
    obtain ⟨held, bound⟩ := ih (draining.keeps a s next start kindly acted)
      (fun b member => all b (List.mem_cons_of_mem a member)) later
    refine ⟨held, ?_⟩
    rw [List.length_cons]
    omega

theorem over_iff (draining : Draining act kind inv weight) (held : inv s) :
    (∀ a, kind a → act s a = none) ↔ weight s = 0 := by
  constructor
  · intro still
    cases remaining : weight s with
    | zero => rfl
    | succ n =>
      obtain ⟨a, s', kindly, acted⟩ := draining.enabled s held (by omega)
      rw [still a kindly] at acted
      cases acted
  · intro empty a kindly
    cases acted : act s a with
    | none => rfl
    | some s' =>
      have lower := draining.lowers a s s' held kindly acted
      omega

end DrainingRuns
