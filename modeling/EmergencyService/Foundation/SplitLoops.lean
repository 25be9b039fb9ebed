import Mathlib.Data.List.Basic

/- Two nested loops that cut a text at a delimiter: the inner one collects a piece and breaks
   at the delimiter, the outer one goes on with the text behind it. -/
namespace SplitLoops
variable {A B C : Type} [DecidableEq A]

/-- The inner loop, with the piece read so far. It ends with the text behind the first
    delimiter, or with nothing when it has come to the end of the text. -/
def scan (delimiter : A) (part : List A) : List A → List A × Option (List A)
  | [] => (part, none)
  | c :: rest => if delimiter = c then (part, some rest) else scan delimiter (part ++ [c]) rest

theorem scan_end {d : A} {t : List A} (free : d ∉ t) (part : List A) :
    scan d part t = (part ++ t, none) := by
  induction t generalizing part with
  | nil => simp [scan]
  | cons c t ih =>
    have first : d ≠ c := fun here => free (by simp [here])
    have tail : d ∉ t := fun here => free (List.mem_cons_of_mem c here)
    simp [scan, first, ih tail]

theorem scan_cut {d : A} {a : List A} (free : d ∉ a) (part rest : List A) :
    scan d part (a ++ d :: rest) = (part ++ a, some rest) := by
  induction a generalizing part with
  | nil => simp [scan]
  | cons c a ih =>
    have first : d ≠ c := fun here => free (by simp [here])
    have tail : d ∉ a := fun here => free (List.mem_cons_of_mem c here)
    simp [scan, first, ih tail]

theorem scan_shorter {d : A} {part part' t rest : List A}
    (found : scan d part t = (part', some rest)) : rest.length < t.length := by
  induction t generalizing part with
  | nil => cases found
  | cons c t ih =>
    simp only [scan] at found
    split at found
    · cases found
      exact Nat.lt_succ_self _
    · exact Nat.lt_succ_of_lt (ih found)

/-- The outer loop. `push` is what the inner one adds to the parts in front of its break,
    given the piece and the text behind the delimiter; `last` is what is added for a piece
    that the end of the text ends. Every turn leaves a shorter text. -/
def splitLoop (delimiter : A) (push : List A → List A → List B) (last : List A → List B)
    (line : List A) : List B :=
  if line = [] then []
  else
    match _found : scan delimiter [] line with
    | (part, none) => last part
    | (part, some rest) => push part rest ++ splitLoop delimiter push last rest
termination_by line.length
decreasing_by exact scan_shorter (by assumption)

variable {d : A} {push : List A → List A → List B} {last : List A → List B}

@[simp] theorem loop_nil : splitLoop d push last [] = [] := by
  rw [splitLoop, if_pos rfl]

theorem loop_last {t : List A} (free : d ∉ t) (nonempty : t ≠ []) :
    splitLoop d push last t = last t := by
  have scanned := scan_end free []
  rw [splitLoop, if_neg nonempty]
  split
  · rename_i part found
    rw [scanned] at found
    cases found
    rfl
  · rename_i part rest found
    rw [scanned] at found
    cases found

theorem loop_cut {a : List A} (free : d ∉ a) (rest : List A) :
    splitLoop d push last (a ++ d :: rest) = push a rest ++ splitLoop d push last rest := by
  have scanned := scan_cut free [] rest
  rw [splitLoop, if_neg (by simp)]
  split
  · rename_i part found
    rw [scanned] at found
    cases found
  · rename_i part rest' found
    rw [scanned] at found
    cases found
    rfl

theorem cut_induction {motive : List A → Prop} (whole : ∀ t, d ∉ t → motive t)
    (cut : ∀ a rest, d ∉ a → motive rest → motive (a ++ d :: rest)) (t : List A) : motive t := by
  induction size : t.length using Nat.strongRecOn generalizing t with
  | ind n ih =>
    by_cases here : d ∈ t
    · obtain ⟨a, rest, rfl, free⟩ := List.eq_append_cons_of_mem here
      have shorter : rest.length < n := by
        rw [← size]
        simp only [List.length_append, List.length_cons]
        omega
      exact cut a rest free (ih rest.length shorter rest rfl)
    · exact whole t here

theorem loop_map (f : B → C) (t : List A) :
    (splitLoop d push last t).map f =
      splitLoop d (fun part rest => (push part rest).map f) (fun part => (last part).map f) t := by
  induction t using cut_induction with
  | whole t free =>
    by_cases empty : t = []
    · simp [empty]
    · rw [loop_last free empty, loop_last free empty]
  | cut a rest free ih => rw [loop_cut free, loop_cut free, List.map_append, ih]

end SplitLoops
