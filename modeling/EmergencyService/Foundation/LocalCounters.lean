import Mathlib.Data.List.Nodup
import Mathlib.Data.List.Count
import Mathlib.Data.List.Range

/- Numbers given out by counters that each key has for itself. -/
namespace LocalCounters
variable {K : Type} [DecidableEq K]

/-- Each key of the sequence gets the number of its earlier turns; `seen` are the turns before
    the sequence. -/
def numbers : List K → List K → List Nat
  | _, [] => []
  | seen, k :: rest => seen.count k :: numbers (k :: seen) rest

theorem numbers_concat {seen keys : List K} (k : K) :
    numbers seen (keys ++ [k]) = numbers seen keys ++ [seen.count k + keys.count k] := by
  induction keys generalizing seen with
  | nil => simp [numbers]
  | cons first rest ih =>
    rw [List.cons_append, numbers, ih, numbers, List.cons_append, List.count_cons, List.count_cons]
    congr 3
    omega

theorem zero_mem_numbers {seen keys : List K} {k : K} (member : k ∈ keys) (new : k ∉ seen) :
    0 ∈ numbers seen keys := by
  induction keys generalizing seen with
  | nil => cases member
  | cons first rest ih =>
    unfold numbers
    by_cases here : first = k
    · subst here
      rw [List.count_eq_zero.mpr new]
      exact List.mem_cons_self
    · apply List.mem_cons_of_mem
      apply ih
      · rcases List.mem_cons.mp member with same | later
        · exact absurd same.symm here
        · exact later
      · intro old
        rcases List.mem_cons.mp old with same | older
        · exact here same.symm
        · exact new older

theorem numbers_of_single {seen keys : List K} {k : K} (single : ∀ a ∈ keys, a = k) :
    numbers seen keys = List.range' (seen.count k) keys.length := by
  induction keys generalizing seen with
  | nil => rfl
  | cons first rest ih =>
    obtain rfl : first = k := single first List.mem_cons_self
    have later : numbers (first :: seen) rest =
        List.range' ((first :: seen).count first) rest.length :=
      ih fun a member => single a (List.mem_cons_of_mem _ member)
    rw [numbers, later, List.count_cons_self, List.length_cons, List.range'_succ]

theorem numbers_nodup_iff (keys : List K) :
    (numbers [] keys).Nodup ↔ ∀ a ∈ keys, ∀ b ∈ keys, a = b := by
  constructor
  · intro differ
    cases keys with
    | nil => nofun
    | cons first rest =>
      rw [numbers, List.count_nil, List.nodup_cons] at differ
      have same : ∀ a ∈ first :: rest, a = first := by
        intro a member
        rcases List.mem_cons.mp member with here | later
        · exact here
        · by_contra other
          exact differ.1 (zero_mem_numbers later (by simpa using other))
      intro a left b right
      rw [same a left, same b right]
  · intro single
    cases keys with
    | nil => exact List.nodup_nil
    | cons first rest =>
      rw [numbers_of_single fun a member => single a member first List.mem_cons_self]
      exact List.nodup_range'

end LocalCounters
