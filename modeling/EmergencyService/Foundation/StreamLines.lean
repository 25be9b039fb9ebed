import Mathlib.Data.List.TakeWhile

/- The lines that `getline` gets from a stream when it is called again and again: into a
   string, or into an array of a fixed size. -/
namespace StreamLines
variable {B : Type} [DecidableEq B]

/-- The last line may lack its delimiter. Behind a delimiter at the end there is none. -/
def linesFrom (d : B) (part : List B) : List B → List (List B)
  | [] => if part = [] then [] else [part]
  | b :: rest => if b = d then part :: linesFrom d [] rest else linesFrom d (part ++ [b]) rest

def lines (d : B) (t : List B) : List (List B) := linesFrom d [] t

variable {d : B} {part a t rest : List B}

theorem lines_from_cut (free : d ∉ a) :
    linesFrom d part (a ++ d :: rest) = (part ++ a) :: lines d rest := by
  induction a generalizing part with
  | nil => simp [linesFrom, lines]
  | cons b a ih =>
    obtain ⟨other, tail⟩ := List.ne_and_not_mem_of_not_mem_cons free
    rw [List.cons_append, linesFrom, if_neg (Ne.symm other), ih tail, List.append_assoc]
    rfl

theorem lines_cut (free : d ∉ a) : lines d (a ++ d :: rest) = a :: lines d rest :=
  lines_from_cut free

theorem lines_from_last (free : d ∉ a) :
    linesFrom d part a = if part ++ a = [] then [] else [part ++ a] := by
  induction a generalizing part with
  | nil => simp [linesFrom]
  | cons b a ih =>
    obtain ⟨other, tail⟩ := List.ne_and_not_mem_of_not_mem_cons free
    rw [linesFrom, if_neg (Ne.symm other), ih tail, List.append_assoc]
    rfl

theorem lines_last (free : d ∉ a) : lines d a = if a = [] then [] else [a] :=
  lines_from_last free

theorem lines_from_free (clean : d ∉ part) : ∀ line ∈ linesFrom d part t, d ∉ line := by
  induction t generalizing part with
  | nil =>
    intro line member
    rw [linesFrom] at member
    split at member
    · cases member
    · rwa [List.mem_singleton.mp member]
  | cons b t ih =>
    intro line member
    rw [linesFrom] at member
    split at member
    · rcases List.mem_cons.mp member with rfl | later
      · exact clean
      · exact ih List.not_mem_nil line later
    · rename_i other
      apply ih _ line member
      simp [clean, Ne.symm other]

theorem lines_free : ∀ line ∈ lines d t, d ∉ line := lines_from_free List.not_mem_nil

theorem lines_from_glued : (linesFrom d part (t ++ [d])).flatMap (· ++ [d]) = part ++ t ++ [d] := by
  induction t generalizing part with
  | nil => simp [linesFrom]
  | cons b t ih =>
    rw [List.cons_append, linesFrom]
    split
    · rename_i same
      rw [List.flatMap_cons, ih, same]
      simp
    · rw [ih]
      simp

theorem lines_glued : (lines d (t ++ [d])).flatMap (· ++ [d]) = t ++ [d] := lines_from_glued

theorem lines_written {ls : List (List B)} (free : ∀ l ∈ ls, d ∉ l) :
    lines d (ls.flatMap (· ++ [d]) ++ rest) = ls ++ lines d rest := by
  induction ls with
  | nil => rfl
  | cons l ls ih =>
    have tail := ih fun l' member => free l' (List.mem_cons_of_mem l member)
    rw [List.flatMap_cons, List.append_assoc, List.append_assoc, List.singleton_append,
      lines_cut (free l List.mem_cons_self), tail]
    rfl

structure Input (B : Type) where
  rest : List B
  eof : Bool
  failed : Bool

/-- `getline` into an array of `size` elements, one of them for the end mark: with the flags
    set it does nothing; a line that does not fit is cut off, and the call fails. -/
def getline (d : B) (size : Nat) (s : Input B) : List B × Input B :=
  if s.eof || s.failed then ([], { s with failed := true })
  else
    let line := s.rest.takeWhile (· ≠ d)
    if line.length < size then
      match s.rest.dropWhile (· ≠ d) with
      | [] => (line, ⟨[], true, line.isEmpty⟩)
      | _ :: rest => (line, ⟨rest, false, false⟩)
    else (line.take (size - 1), ⟨s.rest.drop (size - 1), false, true⟩)

/-- The lines that the calls still to come will get: those before the first that is too long. -/
def upcoming (d : B) (size : Nat) (s : Input B) : List (List B) :=
  if s.eof || s.failed then [] else (lines d s.rest).takeWhile (·.length < size)

variable {size : Nat} {s : Input B}

theorem first_line (t : List B) : d ∉ t.takeWhile (· ≠ d) ∧
    ((t.dropWhile (· ≠ d) = [] ∧ t.takeWhile (· ≠ d) = t) ∨
      ∃ rest, t.dropWhile (· ≠ d) = d :: rest ∧ t = t.takeWhile (· ≠ d) ++ d :: rest) := by
  have whole : t.takeWhile (· ≠ d) ++ t.dropWhile (· ≠ d) = t := List.takeWhile_append_dropWhile
  have free : d ∉ t.takeWhile (· ≠ d) := by
    intro member
    have other := List.mem_takeWhile_imp member
    simp at other
  refine ⟨free, ?_⟩
  cases behind : t.dropWhile (· ≠ d) with
  | nil =>
    rw [behind, List.append_nil] at whole
    exact Or.inl ⟨rfl, whole⟩
  | cons c rest =>
    have stop : c = d := by
      have head := List.head?_dropWhile_not (· ≠ d) t
      rw [behind] at head
      simpa using head
    subst stop
    rw [behind] at whole
    exact Or.inr ⟨rest, rfl, whole.symm⟩

theorem getline_free : d ∉ (getline d size s).1 := by
  obtain ⟨free, _⟩ := first_line (d := d) s.rest
  unfold getline
  split
  · exact List.not_mem_nil
  · dsimp only
    split
    · split <;> exact free
    · exact fun inside => free (List.mem_of_mem_take inside)

theorem upcoming_failed (failed : s.failed = true) : upcoming d size s = [] := by
  simp [upcoming, failed]

theorem getline_upcoming : upcoming d size s =
    if (getline d size s).2.failed then [] else
      (getline d size s).1 :: upcoming d size (getline d size s).2 := by
  unfold getline
  by_cases stopped : (s.eof || s.failed) = true
  · simp only [upcoming, stopped, if_true]
  simp only [upcoming, stopped, Bool.false_eq_true, if_false]
  obtain ⟨free, ⟨behind, whole⟩ | ⟨rest, behind, whole⟩⟩ := first_line (d := d) s.rest
  · have last := lines_last free
    rw [whole] at last
    rw [behind, whole, last]
    by_cases short : s.rest.length < size
    · simp only [short, if_true]
      by_cases empty : s.rest = []
      · simp [empty]
      · simp [empty, short]
    · simp only [short, if_false]
      by_cases empty : s.rest = []
      · simp [empty]
      · simp [empty, short]
  · have first : lines d s.rest = s.rest.takeWhile (· ≠ d) :: lines d rest :=
      (congrArg (lines d) whole).trans (lines_cut free)
    rw [behind, first]
    generalize s.rest.takeWhile (· ≠ d) = line
    by_cases short : line.length < size
    · simp [short]
    · simp [short]

end StreamLines
