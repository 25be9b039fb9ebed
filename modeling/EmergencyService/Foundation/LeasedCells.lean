import Mathlib.Data.List.Nodup
import Mathlib.Logic.Function.Basic

/- Cells that are lent out and come back to a queue of free ones; a new cell is made when none
   is free. Any number of borrowers. -/
namespace LeasedCells
variable {H : Type}

/-- Which cells are free and which borrower holds which. A cell is never in two places. -/
structure Leases (H : Type) where
  free : List Nat
  held : H → Option Nat
  made : Nat
  free_nodup : free.Nodup
  free_made : ∀ i ∈ free, i < made
  held_made : ∀ h i, held h = some i → i < made
  held_free : ∀ h i, held h = some i → i ∉ free
  exclusive : ∀ h h' i, held h = some i → held h' = some i → h = h'

namespace Leases

def none : Leases H where
  free := []
  held _ := .none
  made := 0
  free_nodup := List.nodup_nil
  free_made := nofun
  held_made := nofun
  held_free := nofun
  exclusive := nofun

variable [DecidableEq H] (l : Leases H) (h : H)

theorem update_held {i : Nat} {cell : Option Nat} {h' : H}
    (holds : Function.update l.held h cell h' = some i) :
    (h' = h ∧ cell = some i) ∨ (h' ≠ h ∧ l.held h' = some i) := by
  by_cases same : h' = h
  · subst same
    exact Or.inl ⟨rfl, by simpa using holds⟩
  · rw [Function.update_of_ne same] at holds
    exact Or.inr ⟨same, holds⟩

def takeFree {i : Nat} {rest : List Nat} (queue : l.free = i :: rest) : Leases H where
  free := rest
  held := Function.update l.held h (some i)
  made := l.made
  free_nodup := (List.nodup_cons.mp (queue ▸ l.free_nodup)).2
  free_made j member := l.free_made j (queue ▸ List.mem_cons_of_mem i member)
  held_made h' j holds := by
    rcases update_held l h holds with ⟨_, same⟩ | ⟨_, old⟩
    · cases same
      exact l.free_made _ (queue ▸ List.mem_cons_self)
    · exact l.held_made h' j old
  held_free h' j holds member := by
    rcases update_held l h holds with ⟨_, same⟩ | ⟨_, old⟩
    · cases same
      exact (List.nodup_cons.mp (queue ▸ l.free_nodup)).1 member
    · exact l.held_free h' j old (queue ▸ List.mem_cons_of_mem i member)
  exclusive h₁ h₂ j first second := by
    have apart : ∀ h', l.held h' = some i → False := fun h' old =>
      l.held_free h' i old (queue ▸ List.mem_cons_self)
    rcases update_held l h first with ⟨one, same⟩ | ⟨_, old⟩ <;>
      rcases update_held l h second with ⟨two, same'⟩ | ⟨_, old'⟩
    · exact one.trans two.symm
    · cases same
      exact (apart h₂ old').elim
    · cases same'
      exact (apart h₁ old).elim
    · exact l.exclusive h₁ h₂ j old old'

def takeNew : Leases H where
  free := l.free
  held := Function.update l.held h (some l.made)
  made := l.made + 1
  free_nodup := l.free_nodup
  free_made j member := Nat.lt_succ_of_lt (l.free_made j member)
  held_made h' j holds := by
    rcases update_held l h holds with ⟨_, same⟩ | ⟨_, old⟩
    · cases same
      exact Nat.lt_succ_self _
    · exact Nat.lt_succ_of_lt (l.held_made h' j old)
  held_free h' j holds member := by
    rcases update_held l h holds with ⟨_, same⟩ | ⟨_, old⟩
    · cases same
      exact Nat.lt_irrefl _ (l.free_made _ member)
    · exact l.held_free h' j old member
  exclusive h₁ h₂ j first second := by
    have apart : ∀ h', l.held h' = some l.made → False := fun h' old =>
      Nat.lt_irrefl _ (l.held_made h' _ old)
    rcases update_held l h first with ⟨one, same⟩ | ⟨_, old⟩ <;>
      rcases update_held l h second with ⟨two, same'⟩ | ⟨_, old'⟩
    · exact one.trans two.symm
    · cases same
      exact (apart h₂ old').elim
    · cases same'
      exact (apart h₁ old).elim
    · exact l.exclusive h₁ h₂ j old old'

def giveBack {i : Nat} (mine : l.held h = some i) : Leases H where
  free := l.free ++ [i]
  held := Function.update l.held h .none
  made := l.made
  free_nodup := by
    refine List.nodup_append.mpr ⟨l.free_nodup, List.nodup_singleton i, ?_⟩
    rintro j member k last rfl
    rw [List.mem_singleton.mp last] at member
    exact l.held_free h i mine member
  free_made j member := by
    rcases List.mem_append.mp member with old | new
    · exact l.free_made j old
    · rw [List.mem_singleton.mp new]
      exact l.held_made h i mine
  held_made h' j holds := by
    rcases update_held l h holds with ⟨_, same⟩ | ⟨_, old⟩
    · cases same
    · exact l.held_made h' j old
  held_free h' j holds member := by
    rcases update_held l h holds with ⟨_, same⟩ | ⟨other, old⟩
    · cases same
    · rcases List.mem_append.mp member with free | new
      · exact l.held_free h' j old free
      · rw [List.mem_singleton.mp new] at old
        exact other (l.exclusive h' h i old mine)
  exclusive h₁ h₂ j first second := by
    rcases update_held l h first with ⟨_, same⟩ | ⟨_, old⟩
    · cases same
    rcases update_held l h second with ⟨_, same⟩ | ⟨_, old'⟩
    · cases same
    · exact l.exclusive h₁ h₂ j old old'

end Leases

end LeasedCells
