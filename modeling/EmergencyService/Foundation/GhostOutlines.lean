import EmergencyService.Foundation.ThreadInterleaving

/- Proof outlines for threads that keep notes: every call also updates a ghost state, which
   no program reads. Threads that are not running have an assertion of their own. -/
namespace GhostOutlines
open AtomicProgram ThreadInterleaving

variable {Op : Type} {Ret : Op → Type} {ε α σ γ T Job : Type}

/-- A call of thread `t` with the note it takes of it. -/
def annotated (exec : (op : Op) → σ → Ret op × σ) (note : T → (op : Op) → Ret op → γ → γ)
    (t : T) (op : Op) (x : σ × γ) : Ret op × (σ × γ) :=
  ((exec op x.1).1, (exec op x.1).2, note t op (exec op x.1).1 x.2)

variable (exec : (op : Op) → σ → Ret op × σ) (note : T → (op : Op) → Ret op → γ → γ)
  (D : Discipline (σ × γ) T Op) (rest : T → σ × γ → Prop)

abbrev Outlined (t : T) (p : Program Op Ret ε α) (A : σ × γ → Prop) : Prop :=
  D.Outline (annotated exec note t) t (fun _ => rest t) p A

/-- Every running thread has an outline that ends in its rest, where the others are. -/
structure Upheld (pool : Pool Op Ret ε α σ T Job) (g : γ) : Prop where
  inv : D.inv (pool.shared, g)
  live : ∀ t job p, pool.running t = some (job, p) →
    ∃ A, D.Stable t A ∧ A (pool.shared, g) ∧ Outlined exec note D rest t p A
  idle : ∀ t, pool.running t = none → rest t (pool.shared, g)

variable {exec note D rest} {code : T → Job → Program Op Ret ε α} {mayStart : T → Job → σ → Prop}
  {permitted : T → Op → σ → Prop} {pool pool' : Pool Op Ret ε α σ T Job} {g : γ}

theorem upheld_idle {s : σ} (inv : D.inv (s, g)) (quiet : ∀ t, rest t (s, g)) :
    Upheld exec note D rest (Pool.idle s : Pool Op Ret ε α σ T Job) g :=
  ⟨inv, fun _ _ _ busy => by simp [Pool.idle] at busy, fun t _ => quiet t⟩

section Moves
variable [DecidableEq T]

theorem upheld_retire (upheld : Upheld exec note D rest pool g) {t : T} {job : Job}
    {result : Except ε α} (quiet : rest t (pool.shared, g)) :
    Upheld exec note D rest ⟨pool.shared, Function.update pool.running t none,
      (t, job, result) :: pool.finished⟩ g := by
  refine ⟨upheld.inv, fun t' job' p busy => ?_, fun t' free => ?_⟩
  · by_cases same : t' = t
    · subst same
      simp at busy
    · simp only [Function.update_of_ne same] at busy
      exact upheld.live t' job' p busy
  · by_cases same : t' = t
    · subst same
      exact quiet
    · simp only [Function.update_of_ne same] at free
      exact upheld.idle t' free

theorem upheld_start (upheld : Upheld exec note D rest pool g) {t : T} {job : Job}
    {p : Program Op Ret ε α} {A : σ × γ → Prop} (stable : D.Stable t A)
    (holds : A (pool.shared, g)) (outline : Outlined exec note D rest t p A) :
    Upheld exec note D rest
      { pool with running := Function.update pool.running t (some (job, p)) } g := by
  refine ⟨upheld.inv, fun t' job' p' busy => ?_, fun t' free => ?_⟩
  · by_cases same : t' = t
    · subst same
      simp only [Function.update_self, Option.some.injEq, Prod.mk.injEq] at busy
      obtain ⟨rfl, rfl⟩ := busy
      exact ⟨A, stable, holds, outline⟩
    · simp only [Function.update_of_ne same] at busy
      exact upheld.live t' job' p' busy
  · by_cases same : t' = t
    · subst same
      simp at free
    · simp only [Function.update_of_ne same] at free
      exact upheld.idle t' free

/-- After a call the others keep their assertions, since the call is safe for them. -/
theorem upheld_call (resting : ∀ t, D.Stable t (rest t)) (upheld : Upheld exec note D rest pool g)
    {t : T} {job : Job} {p : Program Op Ret ε α} {A : σ × γ → Prop} {s : σ} {g' : γ}
    (safe : D.Safe t (pool.shared, g) (s, g')) (stable : D.Stable t A) (holds : A (s, g'))
    (outline : Outlined exec note D rest t p A) :
    Upheld exec note D rest
      ⟨s, Function.update pool.running t (some (job, p)), pool.finished⟩ g' := by
  refine ⟨safe.inv, fun t' job' p' busy => ?_, fun t' free => ?_⟩
  · by_cases same : t' = t
    · subst same
      simp only [Function.update_self, Option.some.injEq, Prod.mk.injEq] at busy
      obtain ⟨rfl, rfl⟩ := busy
      exact ⟨A, stable, holds, outline⟩
    · simp only [Function.update_of_ne same] at busy
      obtain ⟨A', stable', holds', outline'⟩ := upheld.live t' job' p' busy
      have kept := stable' _ _ upheld.inv safe.inv (safe.others t' same) holds'
      exact ⟨A', stable', kept, outline'⟩
  · by_cases same : t' = t
    · subst same
      simp at free
    · simp only [Function.update_of_ne same] at free
      exact resting t' _ _ upheld.inv safe.inv (safe.others t' same) (upheld.idle t' free)

theorem upheld_move
    (opening : ∀ t job, ∃ A, D.Stable t A ∧
      (∀ x, D.inv x → rest t x → mayStart t job x.1 → A x) ∧
        Outlined exec note D rest t (code t job) A)
    (resting : ∀ t, D.Stable t (rest t)) (same : ∀ x, D.keeps x x)
    (allowed : ∀ t op x, permitted t op x.1 → D.permitted t op x)
    (upheld : Upheld exec note D rest pool g) {m : Move T Job}
    (legal : Legal mayStart permitted pool m) (moved : pool.move exec code m = some pool') :
    ∃ g', Upheld exec note D rest pool' g' ∧ D.keeps (pool.shared, g) (pool'.shared, g') := by
  cases m with
  | start t job =>
    simp only [Pool.move] at moved
    split at moved
    · rename_i free
      cases moved
      obtain ⟨A, stable, start, outline⟩ := opening t job
      have holds := start (pool.shared, g) upheld.inv (upheld.idle t free) legal
      exact ⟨g, upheld_start upheld stable holds outline, same _⟩
    · cases moved
  | turn t =>
    simp only [Pool.move] at moved
    split at moved
    · cases moved
    · rename_i job a busy
      cases moved
      obtain ⟨A, _, holds, outline⟩ := upheld.live t job _ busy
      exact ⟨g, upheld_retire upheld (outline _ upheld.inv holds), same _⟩
    · rename_i job e busy
      cases moved
      obtain ⟨A, _, holds, outline⟩ := upheld.live t job _ busy
      exact ⟨g, upheld_retire upheld (outline _ upheld.inv holds), same _⟩
    · rename_i job op next busy
      cases moved
      obtain ⟨A, _, holds, B, stable, safe, later⟩ := upheld.live t job _ busy
      have ok := allowed t op (pool.shared, g) (legal job op next busy)
      obtain ⟨safe, after⟩ := safe _ upheld.inv holds ok
      exact ⟨_, upheld_call resting upheld safe (stable _) after (later _), safe.keeps⟩

end Moves

end GhostOutlines
