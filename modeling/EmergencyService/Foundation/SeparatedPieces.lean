import EmergencyService.Foundation.SplitLoops
import Mathlib.Logic.Relation

/- The pieces that the separators of a text leave between them: where each one stands, and
   which texts have the same ones. -/
namespace SeparatedPieces
open SplitLoops
variable {A : Type}

def pieces [DecidableEq A] (d : A) (line : List A) : List (List A) :=
  splitLoop d (fun part _ => if part = [] then [] else [part]) (fun part => [part]) line

/-- A piece without separators that cannot be made longer, and the position at which it
    stands. -/
structure PieceAt (d : A) (text : List A) (start : Nat) (piece : List A) : Prop where
  nonempty : piece ≠ []
  free : d ∉ piece
  there : piece <+: text.drop start
  before : ∀ p, start = p + 1 → text[p]? = some d
  behind : ∀ c, text[start + piece.length]? = some c → c = d

/-- The list has exactly these pieces, in the order of their positions. -/
def MaximalPieces (d : A) (line : List A) (parts : List (List A)) : Prop :=
  ∃ found : List (Nat × List A), found.map Prod.snd = parts ∧
    (found.map Prod.fst).Pairwise (· < ·) ∧
      ∀ start piece, (start, piece) ∈ found ↔ PieceAt d line start piece

/-- One more separator at the start, at the end or next to another one. -/
inductive Spaced (d : A) : List A → List A → Prop where
  | start (line) : Spaced d line (d :: line)
  | stop (line) : Spaced d line (line ++ [d])
  | beside (before after) : Spaced d (before ++ d :: after) (before ++ d :: d :: after)

/-- Any number of separators added or taken away at these places. -/
abbrev Respaced (d : A) : List A → List A → Prop := Relation.EqvGen (Spaced d)

variable {d : A} {a t rest piece : List A} {start : Nat}

section Positions

theorem piece_at_whole (free : d ∉ t) :
    PieceAt d t start piece ↔ start = 0 ∧ piece = t ∧ t ≠ [] := by
  constructor
  · intro held
    have first : start = 0 := by
      cases start with
      | zero => rfl
      | succ p => exact absurd (List.mem_of_getElem? (held.before p rfl)) free
    subst first
    have there : piece <+: t := by simpa using held.there
    have long : t.length ≤ piece.length := by
      by_contra short
      have next := List.getElem?_eq_getElem (show piece.length < t.length by omega)
      have sep := held.behind _ (by rw [Nat.zero_add]; exact next)
      rw [sep] at next
      exact free (List.mem_of_getElem? next)
    have same := there.eq_of_length_le long
    exact ⟨rfl, same, same ▸ held.nonempty⟩
  · rintro ⟨rfl, rfl, nonempty⟩
    refine ⟨nonempty, free, by simp, nofun, ?_⟩
    intro c here
    simp at here

theorem piece_at_first (free : d ∉ a) :
    PieceAt d (a ++ d :: rest) 0 piece ↔ piece = a ∧ a ≠ [] := by
  constructor
  · intro held
    have there : piece <+: a ++ d :: rest := by simpa using held.there
    have shorter : piece.length ≤ a.length := by
      by_contra long
      have past : a ++ [d] <+: piece := by
        apply List.prefix_of_prefix_length_le _ there
        · simp only [List.length_append, List.length_singleton]
          omega
        · exact ⟨rest, by simp⟩
      exact held.free (past.subset (by simp))
    have within : piece <+: a :=
      List.prefix_of_prefix_length_le there (List.prefix_append _ _) shorter
    have longer : a.length ≤ piece.length := by
      by_contra short
      have next := List.getElem?_eq_getElem (show piece.length < a.length by omega)
      have sep := held.behind a[piece.length] (by
        rw [Nat.zero_add, List.getElem?_append_left (by omega)]
        exact next)
      rw [sep] at next
      exact free (List.mem_of_getElem? next)
    have same := within.eq_of_length_le longer
    exact ⟨same, same ▸ held.nonempty⟩
  · rintro ⟨rfl, nonempty⟩
    refine ⟨nonempty, free, by simp, nofun, ?_⟩
    intro c here
    simpa [eq_comm] using here

theorem piece_at_later (later : Nat) :
    PieceAt d (a ++ d :: rest) (a.length + 1 + later) piece ↔ PieceAt d rest later piece := by
  have shift (n : Nat) : (a ++ d :: rest)[a.length + 1 + n]? = rest[n]? := by
    rw [List.getElem?_append_right (by omega)]
    have index : a.length + 1 + n - a.length = n + 1 := by omega
    rw [index, List.getElem?_cons_succ]
  have dropped : (a ++ d :: rest).drop (a.length + 1 + later) = rest.drop later := by
    have index : a.length + 1 + later = a.length + (1 + later) := by omega
    rw [index, List.drop_length_add_append, Nat.add_comm 1 later, List.drop_succ_cons]
  constructor
  · intro held
    refine ⟨held.nonempty, held.free, dropped ▸ held.there, ?_, ?_⟩
    · rintro p rfl
      rw [← shift]
      exact held.before (a.length + 1 + p) (by omega)
    · intro c here
      apply held.behind c
      rw [Nat.add_assoc (a.length + 1), shift]
      exact here
  · intro held
    refine ⟨held.nonempty, held.free, dropped ▸ held.there, ?_, ?_⟩
    · intro p position
      cases later with
      | zero =>
        have index : p = a.length := by omega
        rw [index, List.getElem?_append_right Nat.le.refl, Nat.sub_self, List.getElem?_cons_zero]
      | succ later =>
        have index : p = a.length + 1 + later := by omega
        rw [index, shift]
        exact held.before later rfl
    · intro c here
      rw [Nat.add_assoc (a.length + 1), shift] at here
      exact held.behind c here

theorem piece_at_cut (free : d ∉ a) :
    PieceAt d (a ++ d :: rest) start piece ↔ (start = 0 ∧ piece = a ∧ a ≠ []) ∨
      ∃ later, start = a.length + 1 + later ∧ PieceAt d rest later piece := by
  constructor
  · intro held
    cases start with
    | zero => exact Or.inl ⟨rfl, (piece_at_first free).mp held⟩
    | succ p =>
      have sep := held.before p rfl
      have beyond : a.length ≤ p := by
        by_contra short
        rw [List.getElem?_append_left (by omega)] at sep
        exact free (List.mem_of_getElem? sep)
      have index : p + 1 = a.length + 1 + (p - a.length) := by omega
      rw [index] at held ⊢
      exact Or.inr ⟨_, rfl, (piece_at_later _).mp held⟩
  · rintro (⟨rfl, first⟩ | ⟨later, rfl, held⟩)
    · exact (piece_at_first free).mpr first
    · exact (piece_at_later later).mpr held

end Positions

theorem respaced_behind {line line' : List A} (before : List A)
    (same : Respaced d line line') :
    Respaced d (before ++ d :: line) (before ++ d :: line') := by
  induction same with
  | rel x y spaced =>
    apply Relation.EqvGen.rel
    cases spaced with
    | start => exact .beside before x
    | stop =>
      have moved : before ++ d :: (x ++ [d]) = before ++ d :: x ++ [d] := by simp
      rw [moved]
      exact .stop _
    | beside first last =>
      have moved (t : List A) : before ++ d :: (first ++ d :: t) =
          (before ++ d :: first) ++ d :: t := by simp
      rw [moved, moved]
      exact .beside _ last
  | refl => exact .refl _
  | symm _ _ _ ih => exact ih.symm
  | trans _ _ _ _ _ ih ih' => exact ih.trans _ _ _ ih'

section Loops
variable [DecidableEq A]

theorem pieces_maximal (d : A) (line : List A) : MaximalPieces d line (pieces d line) := by
  induction line using @cut_induction A _ d with
  | whole t free =>
    by_cases empty : t = []
    · refine ⟨[], by simp [pieces, empty], List.Pairwise.nil, ?_⟩
      intro start piece
      rw [piece_at_whole free]
      simp [empty]
    · refine ⟨[(0, t)], by simp [pieces, loop_last free empty], by simp, ?_⟩
      intro start piece
      rw [piece_at_whole free]
      simp [empty]
  | cut a rest free ih =>
    obtain ⟨found, parts, order, all⟩ := ih
    let behind := found.map fun place => (a.length + 1 + place.1, place.2)
    let first := if a = [] then [] else [(0, a)]
    refine ⟨first ++ behind, ?_, ?_, ?_⟩
    · unfold pieces at parts ⊢
      rw [loop_cut free, ← parts]
      by_cases empty : a = [] <;> simp [first, behind, empty, Function.comp_def]
    · have shifted : (behind.map Prod.fst).Pairwise (· < ·) := by
        rw [List.pairwise_map] at order
        simp only [behind, List.pairwise_map]
        exact order.imp fun less => by omega
      have beyond : ∀ n ∈ behind.map Prod.fst, 0 < n := by
        simp only [behind, List.map_map, List.mem_map]
        rintro n ⟨place, _, rfl⟩
        simp only [Function.comp_apply]
        omega
      by_cases empty : a = []
      · simpa [first, empty] using shifted
      · simpa [first, empty] using ⟨by simpa using beyond, shifted⟩
    · intro start piece
      rw [piece_at_cut free, List.mem_append]
      apply or_congr
      · by_cases empty : a = [] <;> simp [first, empty]
      · simp only [behind, List.mem_map, Prod.exists, Prod.mk.injEq]
        constructor
        · rintro ⟨later, piece', member, rfl, rfl⟩
          exact ⟨later, rfl, (all later piece').mp member⟩
        · rintro ⟨later, rfl, held⟩
          exact ⟨later, piece, (all later piece).mpr held, rfl, rfl⟩

theorem pieces_eq_nil_iff {line : List A} : pieces d line = [] ↔ ∀ c ∈ line, c = d := by
  induction line using @cut_induction A _ d with
  | whole t free =>
    by_cases empty : t = []
    · simp [pieces, empty]
    · obtain ⟨c, member⟩ := List.exists_mem_of_ne_nil t empty
      have other : c ≠ d := fun same => free (same ▸ member)
      simp only [pieces, loop_last free empty, List.cons_ne_nil, false_iff]
      exact fun all => other (all c member)
  | cut a rest free ih =>
    unfold pieces at ih ⊢
    rw [loop_cut free]
    by_cases empty : a = []
    · simpa [empty] using ih
    · obtain ⟨c, member⟩ := List.exists_mem_of_ne_nil a empty
      have other : c ≠ d := fun same => free (same ▸ member)
      simp only [empty, if_false, List.cons_append, List.cons_ne_nil, false_iff]
      exact fun all => other (all c (List.mem_append_left _ member))

theorem pieces_append (a b : List A) : pieces d (a ++ d :: b) = pieces d a ++ pieces d b := by
  induction a using @cut_induction A _ d with
  | whole a free =>
    unfold pieces
    rw [loop_cut free]
    by_cases empty : a = []
    · simp [empty]
    · simp [loop_last free empty, empty]
  | cut a rest free ih =>
    unfold pieces at ih ⊢
    rw [List.append_assoc, List.cons_append, loop_cut free, loop_cut free, ih, List.append_assoc]

variable {line line' : List A}

theorem pieces_spaced (spaced : Spaced d line line') : pieces d line = pieces d line' := by
  have nothing : pieces d [] = [] := loop_nil
  have skipped (b : List A) : pieces d (d :: b) = pieces d b := by
    have cut := pieces_append (d := d) [] b
    rwa [nothing] at cut
  cases spaced with
  | start => exact (skipped line).symm
  | stop => rw [pieces_append, nothing, List.append_nil]
  | beside before after => rw [pieces_append, pieces_append, skipped]

theorem respaced_pieces (line : List A) :
    Respaced d line ((pieces d line).flatMap (· ++ [d])) := by
  induction line using @cut_induction A _ d with
  | whole t free =>
    by_cases empty : t = []
    · subst empty
      rw [pieces, loop_nil]
      exact .refl _
    · have one : (pieces d t).flatMap (· ++ [d]) = t ++ [d] := by
        simp [pieces, loop_last free empty]
      rw [one]
      exact .rel _ _ (.stop t)
  | cut a rest free ih =>
    have moved := respaced_behind a ih
    unfold pieces at ih moved ⊢
    rw [loop_cut free]
    by_cases empty : a = []
    · subst empty
      exact moved.trans _ _ _ (.symm _ _ (.rel _ _ (.start _)))
    · simpa [empty] using moved

theorem pieces_eq_iff : pieces d line = pieces d line' ↔ Respaced d line line' := by
  constructor
  · intro same
    have back := respaced_pieces (d := d) line'
    rw [← same] at back
    exact (respaced_pieces line).trans _ _ _ back.symm
  · intro respaced
    induction respaced with
    | rel x y spaced => exact pieces_spaced spaced
    | refl => rfl
    | symm _ _ _ ih => exact ih.symm
    | trans _ _ _ _ _ ih ih' => exact ih.trans ih'

end Loops
end SeparatedPieces
