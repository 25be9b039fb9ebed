import Mathlib.Data.Char
import Mathlib.Data.List.Lex
import Mathlib.Data.List.Sort
import Mathlib.Order.RelClasses

/- `std::sort` with a comparator of the caller, and comparators that look at a second key where
   the first ones are equal. -/
namespace StdSort
variable {E : Type}

/-- What the documentation of `std::sort` requires of a comparator. -/
abbrev Comparator (less : E → E → Bool) : Prop := IsStrictWeakOrder E fun a b => less a b = true

/-- A sorting routine: the elements come out in an order that the comparator allows. Which one
    of several is left open, and so is everything about other comparators. -/
structure SortRoutine (E : Type) where
  sort : (E → E → Bool) → List E → List E
  perm : ∀ less, Comparator less → ∀ l, (sort less l).Perm l
  sorted : ∀ less, Comparator less → ∀ l, (sort less l).Pairwise fun a b => less b a = false

section Insertion
variable {less : E → E → Bool}

theorem not_less_total (order : Comparator less) :
    Std.Total fun a b : E => less b a = false where
  total := by
    intro a b
    cases first : less b a with
    | false => exact Or.inl rfl
    | true =>
      cases second : less a b with
      | false => exact Or.inr rfl
      | true => exact absurd (order.trans _ _ _ first second) (order.irrefl b)

theorem not_less_trans (order : Comparator less) :
    IsTrans E fun a b : E => less b a = false where
  trans := by
    intro a b c ab bc
    cases ca : less c a with
    | false => rfl
    | true =>
      -- b is neither before c nor behind a, so it would be on a level with both
      cases below : less a b with
      | true => exact (Bool.eq_false_iff.mp bc (order.trans _ _ _ ca below)).elim
      | false =>
        cases above : less b c with
        | true => exact (Bool.eq_false_iff.mp ab (order.trans _ _ _ above ca)).elim
        | false =>
          have level := order.incomp_trans c b a (by simp [bc, above]) (by simp [ab, below])
          exact absurd ca level.1

def SortRoutine.insertion : SortRoutine E where
  sort less l := l.insertionSort fun a b => less b a = false
  perm _ _ l := List.perm_insertionSort _ l
  sorted less order l := by
    have total := not_less_total order
    have trans := not_less_trans order
    exact List.pairwise_insertionSort _ l

end Insertion

section Keys
variable {A B : Type} [LinearOrder A] [LinearOrder B]

theorem two_keys_order {less : E → E → Bool} (first : E → A) (second : E → B)
    (spec : ∀ a b, less a b = true ↔
      first a < first b ∨ first a = first b ∧ second a < second b) : Comparator less where
  irrefl := by
    intro a
    rw [spec]
    simp
  trans := by
    intro a b c
    rw [spec, spec, spec]
    rintro (ab | ⟨same, ab⟩) (bc | ⟨same', bc⟩)
    · exact Or.inl (ab.trans bc)
    · exact Or.inl (same' ▸ ab)
    · exact Or.inl (same ▸ bc)
    · exact Or.inr ⟨same.trans same', ab.trans bc⟩
  incomp_trans := by
    -- two elements are on a level exactly when both keys agree
    have level : ∀ a b, (¬ less a b = true ∧ ¬ less b a = true) ↔
        first a = first b ∧ second a = second b := by
      intro a b
      rw [spec, spec]
      constructor
      · rintro ⟨ab, ba⟩
        have firsts : first a = first b :=
          le_antisymm (not_lt.mp fun less => ba (Or.inl less))
            (not_lt.mp fun less => ab (Or.inl less))
        exact ⟨firsts, le_antisymm (not_lt.mp fun less => ba (Or.inr ⟨firsts.symm, less⟩))
          (not_lt.mp fun less => ab (Or.inr ⟨firsts, less⟩))⟩
      · rintro ⟨firsts, seconds⟩
        simp [firsts, seconds]
    intro a b c ab bc
    rw [level] at ab bc ⊢
    exact ⟨ab.1.trans bc.1, ab.2.trans bc.2⟩

end Keys

end StdSort
