import Mathlib.Data.List.DropRight
import Mathlib.Data.List.Infix
import Mathlib.Data.List.SplitBy

/- Runs of a separator in a text: the text whose runs are cut down to two and whose first
   run is gone, and the text without its last run. The alphabet is a parameter. -/
namespace SeparatorRuns
variable {A : Type} [DecidableEq A]

/-- `more` says how many separators may still follow; other characters allow two. -/
def squeezeFrom (d : A) (more : Nat) : List A → List A
  | [] => []
  | c :: rest =>
      if c = d then
        match more with
        | 0 => squeezeFrom d 0 rest
        | more + 1 => d :: squeezeFrom d more rest
      else c :: squeezeFrom d 2 rest

def squeezed (d : A) (t : List A) : List A := squeezeFrom d 0 t

/-- Every run of the separator cut down to its first two. -/
def shortened (d : A) (t : List A) : List A :=
  (t.splitBy (· == ·)).flatMap fun run => if run.head? = some d then run.take 2 else run

def trimEnd (d : A) (t : List A) : List A := t.rdropWhile (· = d)

variable {d c : A} {t rest : List A} {more : Nat}

@[simp] theorem squeeze_skip : squeezeFrom d 0 (d :: rest) = squeezeFrom d 0 rest := by
  simp [squeezeFrom]

@[simp] theorem squeeze_kept :
    squeezeFrom d (more + 1) (d :: rest) = d :: squeezeFrom d more rest := by
  simp [squeezeFrom]

theorem squeeze_other (other : c ≠ d) :
    squeezeFrom d more (c :: rest) = c :: squeezeFrom d 2 rest := by
  simp [squeezeFrom, other]

theorem dropped_head (t : List A) : (t.dropWhile (· = d)).head? ≠ some d := by
  intro first
  have other := List.head?_dropWhile_not (· = d) t
  rw [first] at other
  simp at other

@[simp] theorem trim_end_nil : trimEnd d [] = [] := rfl

theorem trim_end_concat : trimEnd d (t ++ [d]) = trimEnd d t := by
  simp [trimEnd]

theorem trim_end_cons :
    trimEnd d (c :: t) = if c = d ∧ trimEnd d t = [] then [] else c :: trimEnd d t := by
  unfold trimEnd List.rdropWhile
  rw [List.reverse_cons, List.dropWhile_append]
  by_cases gone : t.reverse.dropWhile (· = d) = []
  · by_cases here : c = d <;> simp [gone, here]
  · simp [gone]

theorem trim_end_idem : trimEnd d (trimEnd d t) = trimEnd d t :=
  List.rdropWhile_idempotent ..

theorem squeeze_length (more : Nat) (t : List A) :
    (squeezeFrom d more t).length ≤ t.length := by
  induction t generalizing more with
  | nil => simp [squeezeFrom]
  | cons c t ih =>
    by_cases here : c = d
    · subst here
      cases more with
      | zero =>
        have := ih 0
        simp only [squeeze_skip, List.length_cons]
        omega
      | succ more =>
        have := ih more
        simp only [squeeze_kept, List.length_cons]
        omega
    · have := ih 2
      simp only [squeeze_other here, List.length_cons]
      omega

theorem squeeze_eq_nil (more : Nat) (some' : trimEnd d t ≠ []) : squeezeFrom d more t ≠ [] := by
  induction t generalizing more with
  | nil => simp at some'
  | cons c t ih =>
    by_cases here : c = d
    · subst here
      cases more with
      | zero =>
        rw [squeeze_skip]
        refine ih 0 fun gone => some' ?_
        simp [trim_end_cons, gone]
      | succ more => simp
    · simp [squeeze_other here]

theorem trim_end_squeeze (more : Nat) (t : List A) :
    trimEnd d (squeezeFrom d more t) = squeezeFrom d more (trimEnd d t) := by
  induction t generalizing more with
  | nil => rfl
  | cons c t ih =>
    by_cases here : c = d
    · subst here
      cases more with
      | zero =>
        rw [squeeze_skip, ih 0]
        by_cases gone : trimEnd c t = [] <;> simp [trim_end_cons, gone]
      | succ more =>
        rw [squeeze_kept, trim_end_cons, trim_end_cons, ih more]
        by_cases gone : trimEnd c t = []
        · simp [gone, squeezeFrom]
        · have kept : squeezeFrom c more (trimEnd c t) ≠ [] :=
            squeeze_eq_nil more (by rwa [trim_end_idem])
          simp [gone, kept]
    · rw [squeeze_other here, trim_end_cons, trim_end_cons, ih 2]
      simp [here, squeeze_other here]

theorem trim_end_squeezed : trimEnd d (squeezed d t) = squeezed d (trimEnd d t) :=
  trim_end_squeeze 0 t

theorem squeeze_again {fewer : Nat} (le : fewer ≤ more) (small : more ≤ 2) (t : List A) :
    squeezeFrom d more (squeezeFrom d fewer t) = squeezeFrom d fewer t := by
  induction t generalizing fewer more with
  | nil => rfl
  | cons c t ih =>
    by_cases here : c = d
    · subst here
      cases fewer with
      | zero => simpa using ih (Nat.zero_le more) small
      | succ fewer =>
        cases more with
        | zero => omega
        | succ more => simp [ih (show fewer ≤ more by omega) (by omega)]
    · simp [squeeze_other here, ih le_rfl le_rfl]

theorem squeeze_concat (other : c ≠ d) (more : Nat) (t : List A) :
    squeezeFrom d more (t ++ [c]) = squeezeFrom d more t ++ [c] := by
  induction t generalizing more with
  | nil => simp [squeezeFrom, other]
  | cons b t ih =>
    by_cases here : b = d
    · subst here
      cases more with
      | zero => simp [ih]
      | succ more => simp [ih]
    · simp [squeeze_other here, ih]

theorem squeezed_idem : squeezed d (squeezed d t) = squeezed d t :=
  squeeze_again le_rfl (Nat.zero_le 2) t

theorem squeeze_fixed_iff (small : more ≤ 2) :
    squeezeFrom d more t = t ↔
      ¬ List.replicate (more + 1) d <+: t ∧ ¬ List.replicate 3 d <:+: t := by
  induction t generalizing more with
  | nil => simp [squeezeFrom]
  | cons c t ih =>
    by_cases here : c = d
    · subst here
      cases more with
      | zero =>
        have shorter := squeeze_length (d := c) 0 t
        constructor
        · intro same
          rw [squeeze_skip] at same
          rw [same, List.length_cons] at shorter
          omega
        · intro plain
          exact absurd (by simp) plain.1
      | succ more =>
        have run : ¬ List.replicate (more + 1) c <+: t → ¬ List.replicate 2 c <+: t := by
          intro absent two
          have first : List.replicate (more + 1) c <+: List.replicate 2 c :=
            ⟨List.replicate (1 - more) c, by rw [List.replicate_append_replicate]; congr 1; omega⟩
          exact absent (first.trans two)
        rw [squeeze_kept, List.cons.injEq, ih (by omega), List.infix_cons_iff]
        simp only [true_and, List.replicate_succ, List.cons_prefix_cons] at run ⊢
        tauto
    · rw [squeeze_other here, List.cons.injEq, ih le_rfl, List.infix_cons_iff]
      have other : d ≠ c := fun same => here same.symm
      simp only [true_and, List.replicate_succ, List.cons_prefix_cons, other, false_and,
        not_false_eq_true, false_or]
      exact ⟨fun plain => plain.2, fun plain => ⟨fun first => plain first.isInfix, plain⟩⟩

theorem squeezed_fixed_iff :
    squeezed d t = t ↔ t.head? ≠ some d ∧ ¬ [d, d, d] <:+: t := by
  have first : List.replicate 1 d <+: t ↔ t.head? = some d := by
    cases t <;> simp [eq_comm]
  rw [squeezed, squeeze_fixed_iff (Nat.zero_le 2), first]
  rfl

section Runs

theorem squeeze_restart (fewer : Nat) (dark : t.head? ≠ some d) :
    squeezeFrom d more t = squeezeFrom d fewer t := by
  cases t with
  | nil => rfl
  | cons c t =>
    have other : c ≠ d := fun here => dark (by simp [here])
    rw [squeeze_other other, squeeze_other other]

theorem squeeze_run (n : Nat) :
    squeezeFrom d more (List.replicate n d ++ t) =
      List.replicate (min n more) d ++ squeezeFrom d (more - n) t := by
  induction n generalizing more with
  | zero => simp
  | succ n ih =>
    rw [List.replicate_succ, List.cons_append]
    cases more with
    | zero => rw [squeeze_skip, ih]; simp
    | succ more =>
      rw [squeeze_kept, ih, Nat.succ_min_succ, List.replicate_succ, Nat.add_sub_add_right]
      rfl

theorem squeeze_other_run (other : c ≠ d) (n : Nat) :
    squeezeFrom d more (List.replicate (n + 1) c ++ t) =
      List.replicate (n + 1) c ++ squeezeFrom d 2 t := by
  induction n generalizing more with
  | zero => simp [squeeze_other other]
  | succ n ih => rw [List.replicate_succ, List.cons_append, squeeze_other other, ih]; rfl

theorem first_run (c : A) (t : List A) :
    ∃ n rest, c :: t = List.replicate (n + 1) c ++ rest ∧ rest.head? ≠ some c := by
  induction t with
  | nil => exact ⟨0, [], rfl, nofun⟩
  | cons b t ih =>
    by_cases same : b = c
    · subst same
      obtain ⟨n, rest, whole, dark⟩ := ih
      exact ⟨n + 1, rest, by rw [List.replicate_succ, List.cons_append, ← whole], dark⟩
    · exact ⟨0, b :: t, rfl, by simpa using same⟩

theorem shortened_run {n : Nat} (dark : rest.head? ≠ some c) :
    shortened d (List.replicate (n + 1) c ++ rest) =
      (if c = d then List.replicate (min (n + 1) 2) c else List.replicate (n + 1) c) ++
        shortened d rest := by
  have runs : (List.replicate (n + 1) c ++ rest).splitBy (· == ·) =
      List.replicate (n + 1) c :: rest.splitBy (· == ·) := by
    rw [List.splitBy_append, List.splitBy_of_isChain (by simp)]
    · rfl
    · exact List.isChain_replicate_of_rel _ (by simp)
    · intro x last y first
      have x_eq : x = c := by simpa [List.getLast?_replicate, eq_comm] using last
      have y_ne : y ≠ c := by
        rintro rfl
        exact dark first
      simpa [x_eq] using y_ne.symm
  unfold shortened
  rw [runs, List.flatMap_cons]
  simp only [List.replicate_succ, List.head?_cons, Option.some.injEq]
  rw [← List.replicate_succ, List.take_replicate, Nat.min_comm]

theorem squeeze_shortened (t : List A) : squeezeFrom d 2 t = shortened d t := by
  induction size : t.length using Nat.strongRecOn generalizing t with
  | ind k ih =>
    cases t with
    | nil => rfl
    | cons c t =>
      obtain ⟨n, rest, whole, dark⟩ := first_run c t
      have shorter : rest.length < k := by
        have lengths := congrArg List.length whole
        simp only [List.length_append, List.length_replicate] at lengths
        omega
      rw [whole, shortened_run dark, ← ih rest.length shorter rest rfl]
      by_cases here : c = d
      · subst here
        rw [if_pos rfl, squeeze_run, squeeze_restart 2 dark]
      · rw [if_neg here, squeeze_other_run here]

theorem squeezed_eq_shortened (t : List A) :
    squeezed d t = shortened d (t.dropWhile (· = d)) := by
  rw [← squeeze_shortened]
  induction t with
  | nil => rfl
  | cons c t ih =>
    by_cases here : c = d
    · subst here
      simpa [squeezed] using ih
    · simp [squeezed, here, squeeze_other here]

end Runs

end SeparatorRuns
