import Mathlib.Logic.Relation

/- Runs of a machine whose actions are partial, with a condition on every action and the
   state that it finds. -/
namespace GuardedRuns

variable {S A : Type} (act : S → A → Option S)

def acts : List A → S → Option S
  | [], s => some s
  | a :: rest, s => (act s a).bind (acts rest)

def actsWhere (check : S → A → Bool) : List A → S → Option S
  | [], s => some s
  | a :: rest, s => if check s a then (act s a).bind (actsWhere check rest) else none

def Step (condition : S → A → Prop) (s s' : S) : Prop :=
  ∃ a, condition s a ∧ act s a = some s'

abbrev Runs (condition : S → A → Prop) (s s' : S) : Prop :=
  Relation.ReflTransGen (Step act condition) s s'

variable {act} {condition wider : S → A → Prop} {s s' : S}

theorem run_invariant (inv : S → Prop) (start : inv s)
    (keeps : ∀ a before after, Runs act condition s before → inv before →
      condition before a → act before a = some after → inv after)
    (runs : Runs act condition s s') : inv s' := by
  induction runs with
  | refl => exact start
  | tail before step ih =>
    obtain ⟨a, admitted, acted⟩ := step
    exact keeps a _ _ before ih admitted acted

theorem run_weaken (weaker : ∀ s a, condition s a → wider s a)
    (runs : Runs act condition s s') : Runs act wider s s' := by
  induction runs with
  | refl => exact Relation.ReflTransGen.refl
  | tail _ step ih =>
    obtain ⟨a, admitted, acted⟩ := step
    exact ih.tail ⟨a, weaker _ a admitted, acted⟩

theorem acts_append (first second : List A) :
    acts act (first ++ second) s = (acts act first s).bind (acts act second) := by
  induction first generalizing s with
  | nil => rfl
  | cons a rest ih =>
    cases acted : act s a with
    | none => simp [acts, acted]
    | some next => simp [acts, acted, ih]

theorem run_of_acts_all (actions : List A) (admitted : ∀ a ∈ actions, ∀ s, condition s a)
    (acted : acts act actions s = some s') : Runs act condition s s' := by
  induction actions generalizing s with
  | nil =>
    cases acted
    exact Relation.ReflTransGen.refl
  | cons a rest ih =>
    obtain ⟨next, first, later⟩ := Option.bind_eq_some_iff.mp acted
    have tail := ih (fun b member => admitted b (List.mem_cons_of_mem a member)) later
    exact Relation.ReflTransGen.head ⟨a, admitted a List.mem_cons_self s, first⟩ tail

theorem run_of_acts (actions : List A) (acted : acts act actions s = some s') :
    Runs act (fun _ _ => True) s s' :=
  run_of_acts_all actions (fun _ _ _ => trivial) acted

theorem run_of_acts_where {check : S → A → Bool}
    (sound : ∀ s a, check s a = true → condition s a) (actions : List A)
    (acted : actsWhere act check actions s = some s') : Runs act condition s s' := by
  induction actions generalizing s with
  | nil =>
    cases acted
    exact Relation.ReflTransGen.refl
  | cons a rest ih =>
    simp only [actsWhere] at acted
    split at acted
    · rename_i checked
      obtain ⟨next, first, later⟩ := Option.bind_eq_some_iff.mp acted
      exact Relation.ReflTransGen.head ⟨a, sound s a checked, first⟩ (ih later)
    · cases acted

end GuardedRuns
