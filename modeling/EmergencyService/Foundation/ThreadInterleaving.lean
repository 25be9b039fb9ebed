import Mathlib.Tactic.Choose
import EmergencyService.Foundation.AtomicProgram

/- Threads that run atomic programs over one shared state, one call at a time and
   in any order, and proof outlines for them in the rely/guarantee manner. -/
namespace ThreadInterleaving
open AtomicProgram

variable {Op : Type} {Ret : Op → Type} {ε α β σ T Job : Type}

structure Pool (Op : Type) (Ret : Op → Type) (ε α σ T Job : Type) where
  shared : σ
  running : T → Option (Job × Program Op Ret ε α)
  finished : List (T × Job × Except ε α)

def Pool.idle (s : σ) : Pool Op Ret ε α σ T Job := ⟨s, fun _ => none, []⟩

inductive Move (T Job : Type) where
  | start : T → Job → Move T Job
  | turn : T → Move T Job

section Moves
variable [DecidableEq T] (exec : (op : Op) → σ → Ret op × σ)
  (code : T → Job → Program Op Ret ε α)

def Pool.move (pool : Pool Op Ret ε α σ T Job) :
    Move T Job → Option (Pool Op Ret ε α σ T Job)
  | .start t job =>
      match pool.running t with
      | none => some { pool with
          running := Function.update pool.running t (some (job, code t job)) }
      | some _ => none
  | .turn t =>
      match pool.running t with
      | none => none
      | some (job, .done a) => some { pool with
          running := Function.update pool.running t none
          finished := (t, job, .ok a) :: pool.finished }
      | some (job, .raise e) => some { pool with
          running := Function.update pool.running t none
          finished := (t, job, .error e) :: pool.finished }
      | some (job, .call op next) => some { pool with
          shared := (exec op pool.shared).2
          running := Function.update pool.running t
            (some (job, next (exec op pool.shared).1)) }

section Effects
variable {exec code} {pool pool' : Pool Op Ret ε α σ T Job} {m : Move T Job}

theorem move_running (moved : pool.move exec code m = some pool') {t : T} {job : Job}
    {p : Program Op Ret ε α} (busy : pool'.running t = some (job, p)) :
    (m ≠ .turn t ∧ pool.running t = some (job, p)) ∨ (m = .start t job ∧ p = code t job) ∨
      ∃ op next, m = .turn t ∧ pool.running t = some (job, .call op next) ∧
        p = next (exec op pool.shared).1 := by
  have frame : ∀ {t' : T} {task : Option (Job × Program Op Ret ε α)},
      Function.update pool.running t' task t = some (job, p) →
      (t' ≠ t ∧ pool.running t = some (job, p)) ∨ (t' = t ∧ task = some (job, p)) := by
    intro t' task here
    by_cases same : t = t'
    · subst same
      exact Or.inr ⟨rfl, by simpa using here⟩
    · rw [Function.update_of_ne same] at here
      exact Or.inl ⟨Ne.symm same, here⟩
  cases m with
  | start t' job' =>
    simp only [Pool.move] at moved
    split at moved
    · cases moved
      rcases frame busy with ⟨_, old⟩ | ⟨rfl, new⟩
      · exact Or.inl ⟨nofun, old⟩
      · cases new
        exact Or.inr (Or.inl ⟨rfl, rfl⟩)
    · cases moved
  | turn t' =>
    simp only [Pool.move] at moved
    split at moved
    · cases moved
    · cases moved
      rcases frame busy with ⟨other, old⟩ | ⟨_, none⟩
      · exact Or.inl ⟨fun same => other (Move.turn.inj same), old⟩
      · cases none
    · cases moved
      rcases frame busy with ⟨other, old⟩ | ⟨_, none⟩
      · exact Or.inl ⟨fun same => other (Move.turn.inj same), old⟩
      · cases none
    · rename_i job' op next running
      cases moved
      rcases frame busy with ⟨other, old⟩ | ⟨rfl, new⟩
      · exact Or.inl ⟨fun same => other (Move.turn.inj same), old⟩
      · cases new
        exact Or.inr (Or.inr ⟨op, next, rfl, running, rfl⟩)

theorem move_shared (moved : pool.move exec code m = some pool') :
    pool'.shared = pool.shared ∨ ∃ t job op next, m = .turn t ∧
      pool.running t = some (job, .call op next) ∧ pool'.shared = (exec op pool.shared).2 := by
  cases m with
  | start t job =>
    simp only [Pool.move] at moved
    split at moved
    · cases moved
      exact Or.inl rfl
    · cases moved
  | turn t =>
    simp only [Pool.move] at moved
    split at moved
    · cases moved
    · cases moved
      exact Or.inl rfl
    · cases moved
      exact Or.inl rfl
    · rename_i job op next running
      cases moved
      exact Or.inr ⟨t, job, op, next, rfl, running, rfl⟩

end Effects

/-- A move is legal when the thread may start the job, respectively when the call
    it is about to make is permitted in the state it finds. -/
def Legal (mayStart : T → Job → σ → Prop) (permitted : T → Op → σ → Prop)
    (pool : Pool Op Ret ε α σ T Job) : Move T Job → Prop
  | .start t job => mayStart t job pool.shared
  | .turn t => ∀ job op next, pool.running t = some (job, .call op next) →
      permitted t op pool.shared

def Step (mayStart : T → Job → σ → Prop) (permitted : T → Op → σ → Prop)
    (pool pool' : Pool Op Ret ε α σ T Job) : Prop :=
  ∃ m, Legal mayStart permitted pool m ∧ pool.move exec code m = some pool'

abbrev Reached (mayStart : T → Job → σ → Prop) (permitted : T → Op → σ → Prop)
    (pool pool' : Pool Op Ret ε α σ T Job) : Prop :=
  Relation.ReflTransGen (Step exec code mayStart permitted) pool pool'

/-- A schedule: the moves one after the other, as long as each of them is legal. -/
def Pool.moves (mayStart : T → Job → σ → Prop) [∀ t job s, Decidable (mayStart t job s)]
    (permitted : T → Op → σ → Prop) [∀ t op s, Decidable (permitted t op s)] :
    List (Move T Job) → Pool Op Ret ε α σ T Job → Option (Pool Op Ret ε α σ T Job)
  | [], pool => some pool
  | .start t job :: rest, pool =>
      if mayStart t job pool.shared then
        (pool.move exec code (.start t job)).bind (Pool.moves mayStart permitted rest)
      else none
  | .turn t :: rest, pool =>
      match pool.running t with
      | some (_, .call op _) =>
          if permitted t op pool.shared then
            (pool.move exec code (.turn t)).bind (Pool.moves mayStart permitted rest)
          else none
      | _ => (pool.move exec code (.turn t)).bind (Pool.moves mayStart permitted rest)

/-- The pool after a thread has moved the shared state and stands at `task`. -/
def Pool.put (pool : Pool Op Ret ε α σ T Job) (t : T)
    (task : Option (Job × Program Op Ret ε α)) (s : σ) : Pool Op Ret ε α σ T Job :=
  ⟨s, Function.update pool.running t task, pool.finished⟩

section Put
variable (pool : Pool Op Ret ε α σ T Job) (t : T)
  (task task' : Option (Job × Program Op Ret ε α)) (s s' : σ)

@[simp] theorem put_running : (pool.put t task s).running t = task := by simp [Pool.put]

@[simp] theorem put_put : (pool.put t task s).put t task' s' = pool.put t task' s' := by
  simp [Pool.put]

end Put

section Solo
variable (mayStart : T → Job → σ → Prop)

theorem reached_of_moves {permitted : T → Op → σ → Prop}
    [∀ t job s, Decidable (mayStart t job s)] [∀ t op s, Decidable (permitted t op s)]
    {moves : List (Move T Job)} {pool pool' : Pool Op Ret ε α σ T Job}
    (moved : Pool.moves exec code mayStart permitted moves pool = some pool') :
    Reached exec code mayStart permitted pool pool' := by
  induction moves generalizing pool with
  | nil =>
    cases moved
    exact Relation.ReflTransGen.refl
  | cons m rest ih =>
    cases m with
    | start t job =>
      simp only [Pool.moves] at moved
      split at moved
      · rename_i ready
        obtain ⟨next, first, later⟩ := Option.bind_eq_some_iff.mp moved
        exact Relation.ReflTransGen.head ⟨.start t job, ready, first⟩ (ih later)
      · cases moved
    | turn t =>
      simp only [Pool.moves] at moved
      split at moved
      · rename_i job op next busy
        split at moved
        · rename_i ok
          obtain ⟨pool₁, first, later⟩ := Option.bind_eq_some_iff.mp moved
          refine Relation.ReflTransGen.head ⟨.turn t, ?_, first⟩ (ih later)
          intro job' op' next' same
          rw [busy] at same
          cases same
          exact ok
        · cases moved
      · rename_i other
        obtain ⟨pool₁, first, later⟩ := Option.bind_eq_some_iff.mp moved
        refine Relation.ReflTransGen.head ⟨.turn t, ?_, first⟩ (ih later)
        intro job op next busy
        exact absurd busy (other job op next)

theorem reached_start {t : T} {job : Job} {pool : Pool Op Ret ε α σ T Job}
    (free : pool.running t = none) (ready : mayStart t job pool.shared) :
    Reached exec code mayStart (fun _ _ _ => True) pool
      (pool.put t (some (job, code t job)) pool.shared) := by
  refine Relation.ReflTransGen.single ⟨.start t job, ready, ?_⟩
  simp [Pool.move, free, Pool.put]

theorem reached_call {t : T} {job : Job} {op : Op} {next : Ret op → Program Op Ret ε α}
    {pool : Pool Op Ret ε α σ T Job} (busy : pool.running t = some (job, .call op next)) :
    Reached exec code mayStart (fun _ _ _ => True) pool
      (pool.put t (some (job, next (exec op pool.shared).1)) (exec op pool.shared).2) := by
  refine Relation.ReflTransGen.single ⟨.turn t, fun _ _ _ _ => trivial, ?_⟩
  simp [Pool.move, busy, Pool.put]

theorem solo_bind {t : T} {job : Job} {p : Program Op Ret ε β} {f : β → Program Op Ret ε α}
    {pool : Pool Op Ret ε α σ T Job} {b : β} {s : σ}
    (busy : pool.running t = some (job, p >>= f)) (first : run exec p pool.shared = (.ok b, s)) :
    Reached exec code mayStart (fun _ _ _ => True) pool (pool.put t (some (job, f b)) s) := by
  induction p generalizing pool with
  | done a =>
    obtain ⟨rfl, rfl⟩ : a = b ∧ pool.shared = s := by simpa using first
    have unchanged : Function.update pool.running t (some (job, f a)) = pool.running := by
      rw [Function.update_eq_self_iff]
      exact busy.symm
    simp only [Pool.put, unchanged]
    exact Relation.ReflTransGen.refl
  | raise e => simp at first
  | call op next ih =>
    have later := ih (exec op pool.shared).1 (put_running pool t _ (exec op pool.shared).2) first
    rw [put_put] at later
    exact (reached_call exec code mayStart busy).trans later

/-- A thread that is scheduled until its job is over does what `run` computes, so
    running programs whole is one of the interleavings. -/
theorem solo_run {t : T} {job : Job} {p : Program Op Ret ε α}
    {pool : Pool Op Ret ε α σ T Job} (busy : pool.running t = some (job, p)) :
    Reached exec code mayStart (fun _ _ _ => True) pool
      { pool.put t none (run exec p pool.shared).2 with
        finished := (t, job, (run exec p pool.shared).1) :: pool.finished } := by
  induction p generalizing pool with
  | done a =>
    refine Relation.ReflTransGen.single ⟨.turn t, fun _ _ _ _ => trivial, ?_⟩
    simp [Pool.move, busy, Pool.put]
  | raise e =>
    refine Relation.ReflTransGen.single ⟨.turn t, fun _ _ _ _ => trivial, ?_⟩
    simp [Pool.move, busy, Pool.put]
  | call op next ih =>
    have later := ih (exec op pool.shared).1 (put_running pool t _ (exec op pool.shared).2)
    rw [put_put] at later
    exact (reached_call exec code mayStart busy).trans later

end Solo

end Moves

/-- What the threads of a pool keep to: the shared invariant, what thread `t` may rely
    on while others move, and what every permitted call does to the state. -/
structure Discipline (σ T Op : Type) where
  inv : σ → Prop
  rely : T → σ → σ → Prop
  keeps : σ → σ → Prop
  permitted : T → Op → σ → Prop

namespace Discipline
variable (D : Discipline σ T Op) (exec : (op : Op) → σ → Ret op × σ)

def Stable (t : T) (A : σ → Prop) : Prop :=
  ∀ s s', D.inv s → D.inv s' → D.rely t s s' → A s → A s'

structure Safe (t : T) (s s' : σ) : Prop where
  inv : D.inv s'
  keeps : D.keeps s s'
  others : ∀ t', t' ≠ t → D.rely t' s s'

/-- A proof outline of the program of thread `t`: `A` holds before the next call and
    no other thread can break it, each call is safe, and `Q` holds at the end. -/
def Outline (t : T) (Q : Except ε α → σ → Prop) : Program Op Ret ε α → (σ → Prop) → Prop
  | .done a, A => ∀ s, D.inv s → A s → Q (.ok a) s
  | .raise e, A => ∀ s, D.inv s → A s → Q (.error e) s
  | .call op next, A => ∃ B : Ret op → σ → Prop,
      (∀ r, D.Stable t (B r)) ∧
      (∀ s, D.inv s → A s → D.permitted t op s →
        D.Safe t s (exec op s).2 ∧ B (exec op s).1 (exec op s).2) ∧
      ∀ r, Outline t Q (next r) (B r)

variable {D exec} {t : T}

theorem outline_weaken {Q : Except ε α → σ → Prop} {p : Program Op Ret ε α} {A B : σ → Prop}
    (h : D.Outline exec t Q p B) (weaker : ∀ s, D.inv s → A s → B s) :
    D.Outline exec t Q p A := by
  cases p with
  | done a => exact fun s i a => h s i (weaker s i a)
  | raise e => exact fun s i a => h s i (weaker s i a)
  | call op next =>
    obtain ⟨C, stable, safe, rest⟩ := h
    exact ⟨C, stable, fun s i a => safe s i (weaker s i a), rest⟩

theorem outline_conclude {Q Q' : Except ε α → σ → Prop} {p : Program Op Ret ε α} {A : σ → Prop}
    (h : D.Outline exec t Q p A) (weaker : ∀ r s, D.inv s → Q r s → Q' r s) :
    D.Outline exec t Q' p A := by
  induction p generalizing A with
  | done a => exact fun s i holds => weaker _ s i (h s i holds)
  | raise e => exact fun s i holds => weaker _ s i (h s i holds)
  | call op next ih =>
    obtain ⟨B, stable, safe, rest⟩ := h
    exact ⟨B, stable, safe, fun r => ih r (rest r)⟩

theorem outline_unreached (Q : Except ε α → σ → Prop) (p : Program Op Ret ε α) :
    D.Outline exec t Q p fun _ => False := by
  induction p with
  | done a => exact fun _ _ h => h.elim
  | raise e => exact fun _ _ h => h.elim
  | call op next ih =>
    exact ⟨fun _ _ => False, fun _ _ _ _ _ _ h => h, fun _ _ h => h.elim, ih⟩

theorem outline_exists {I : Type} {Q : Except ε α → σ → Prop} {p : Program Op Ret ε α}
    {A : I → σ → Prop} (each : ∀ i, D.Outline exec t Q p (A i)) :
    D.Outline exec t Q p fun s => ∃ i, A i s := by
  induction p generalizing A with
  | done a => exact fun s inv ⟨i, holds⟩ => each i s inv holds
  | raise e => exact fun s inv ⟨i, holds⟩ => each i s inv holds
  | call op next ih =>
    choose B stable safe rest using each
    refine ⟨fun r s => ∃ i, B i r s, ?_, ?_, fun r => ih r fun i => rest i r⟩
    · rintro r s s' inv inv' relied ⟨i, holds⟩
      exact ⟨i, stable i r s s' inv inv' relied holds⟩
    · rintro s inv ⟨i, holds⟩ permitted
      obtain ⟨sound, after⟩ := safe i s inv holds permitted
      exact ⟨sound, i, after⟩

theorem outline_bind {Q : Except ε α → σ → Prop} {Q' : Except ε β → σ → Prop}
    {p : Program Op Ret ε α} {f : α → Program Op Ret ε β} {A : σ → Prop}
    (first : D.Outline exec t Q p A) (later : ∀ a, D.Outline exec t Q' (f a) (Q (.ok a)))
    (failed : ∀ e s, D.inv s → Q (.error e) s → Q' (.error e) s) :
    D.Outline exec t Q' (p >>= f) A := by
  change D.Outline exec t Q' (p.bind f) A
  induction p generalizing A with
  | done a => exact outline_weaken (later a) first
  | raise e => exact fun s i a => failed e s i (first s i a)
  | call op next ih =>
    obtain ⟨B, stable, safe, rest⟩ := first
    exact ⟨B, stable, safe, fun r => ih r (rest r)⟩

theorem outline_catching {Q Q' : Except ε α → σ → Prop} {p : Program Op Ret ε α}
    {handler : ε → Program Op Ret ε α} {A : σ → Prop} (body : D.Outline exec t Q p A)
    (rescue : ∀ e, D.Outline exec t Q' (handler e) (Q (.error e)))
    (returned : ∀ a s, D.inv s → Q (.ok a) s → Q' (.ok a) s) :
    D.Outline exec t Q' (p.catching handler) A := by
  induction p generalizing A with
  | done a => exact fun s inv holds => returned a s inv (body s inv holds)
  | raise e => exact outline_weaken (rescue e) body
  | call op next ih =>
    obtain ⟨B, stable, safe, later⟩ := body
    exact ⟨B, stable, safe, fun r => ih r (later r)⟩

theorem outline_perform_bind (op : Op) {Q : Except ε β → σ → Prop}
    {f : Ret op → Program Op Ret ε β} {A : σ → Prop} (B : Ret op → σ → Prop)
    (stable : ∀ r, D.Stable t (B r))
    (safe : ∀ s, D.inv s → A s → D.permitted t op s →
      D.Safe t s (exec op s).2 ∧ B (exec op s).1 (exec op s).2)
    (later : ∀ r, D.Outline exec t Q (f r) (B r)) :
    D.Outline exec t Q (perform op >>= f) A := ⟨B, stable, safe, later⟩

theorem outline_of_calls {answers : (op : Op) → Ret op → Prop} {allowed : Op → Prop}
    {p : Program Op Ret ε α} {A : σ → Prop} (calls : Calls answers allowed p)
    (stable : D.Stable t A)
    (each : ∀ op s, allowed op → D.inv s → A s → D.permitted t op s →
      answers op (exec op s).1 ∧ D.Safe t s (exec op s).2 ∧ A (exec op s).2) :
    D.Outline exec t (fun _ => A) p A := by
  induction p with
  | done a => exact fun _ _ h => h
  | raise e => exact fun _ _ h => h
  | call op next ih =>
    refine ⟨fun r s => answers op r ∧ A s, ?_, ?_, ?_⟩
    · exact fun r s s' i i' moved h => ⟨h.1, stable s s' i i' moved h.2⟩
    · intro s i a ok
      obtain ⟨answer, safe, after⟩ := each op s calls.1 i a ok
      exact ⟨safe, answer, after⟩
    · intro r
      by_cases answer : answers op r
      · exact outline_weaken (ih r (calls.2 r answer)) fun _ _ h => h.2
      · exact outline_weaken (outline_unreached _ _) fun _ _ h => answer h.1

end Discipline

section Soundness
variable [DecidableEq T] {exec : (op : Op) → σ → Ret op × σ}
  {code : T → Job → Program Op Ret ε α} {mayStart : T → Job → σ → Prop}
  {D : Discipline σ T Op} {post : T → Job → Except ε α → σ → Prop}

structure Sound (exec : (op : Op) → σ → Ret op × σ) (D : Discipline σ T Op)
    (post : T → Job → Except ε α → σ → Prop) (pool : Pool Op Ret ε α σ T Job) : Prop where
  inv : D.inv pool.shared
  live : ∀ t job p, pool.running t = some (job, p) →
    ∃ A, D.Stable t A ∧ A pool.shared ∧ D.Outline exec t (post t job) p A
  past : ∀ t job r, (t, job, r) ∈ pool.finished → post t job r pool.shared

omit [DecidableEq T] in
theorem sound_idle {s : σ} (h : D.inv s) :
    Sound exec D post (Pool.idle s : Pool Op Ret ε α σ T Job) :=
  ⟨h, fun _ _ _ busy => by simp [Pool.idle] at busy, fun _ _ _ m => by simp [Pool.idle] at m⟩

theorem sound_retire {pool : Pool Op Ret ε α σ T Job} (sound : Sound exec D post pool)
    {t : T} {job : Job} {result : Except ε α} (holds : post t job result pool.shared) :
    Sound exec D post ⟨pool.shared, Function.update pool.running t none,
      (t, job, result) :: pool.finished⟩ := by
  refine ⟨sound.inv, ?_, ?_⟩
  · intro t' job' p h
    by_cases same : t' = t
    · subst same; simp at h
    · simp only [Function.update_of_ne same] at h
      exact sound.live t' job' p h
  · intro t' job' r member
    rcases List.mem_cons.mp member with first | member
    · cases first
      exact holds
    · exact sound.past t' job' r member

variable
  (opening : ∀ t job, ∃ A, D.Stable t A ∧
    (∀ s, D.inv s → mayStart t job s → A s) ∧ D.Outline exec t (post t job) (code t job) A)
  (lasting : ∀ t job r s s', D.keeps s s' → post t job r s → post t job r s')
include opening lasting

theorem sound_step {pool pool' : Pool Op Ret ε α σ T Job} (sound : Sound exec D post pool)
    (step : Step exec code mayStart D.permitted pool pool') : Sound exec D post pool' := by
  obtain ⟨m, legal, moved⟩ := step
  cases m with
  | start t job =>
    cases busy : pool.running t with
    | some _ => simp [Pool.move, busy] at moved
    | none =>
      simp only [Pool.move, busy, Option.some.injEq] at moved
      subst moved
      refine ⟨sound.inv, ?_, sound.past⟩
      intro t' job' p h
      by_cases same : t' = t
      · subst same
        simp only [Function.update_self, Option.some.injEq, Prod.mk.injEq] at h
        obtain ⟨rfl, rfl⟩ := h
        obtain ⟨A, stable, start, outline⟩ := opening t' job
        exact ⟨A, stable, start _ sound.inv legal, outline⟩
      · simp only [Function.update_of_ne same] at h
        exact sound.live t' job' p h
  | turn t =>
    -- the other threads keep their assertions: by `rely` after a call, trivially otherwise
    cases busy : pool.running t with
    | none => simp [Pool.move, busy] at moved
    | some current =>
      obtain ⟨job, p⟩ := current
      obtain ⟨A, stable, holds, outline⟩ := sound.live t job p busy
      cases p with
      | done a =>
        simp only [Pool.move, busy, Option.some.injEq] at moved
        subst moved
        exact sound_retire sound (outline _ sound.inv holds)
      | raise e =>
        simp only [Pool.move, busy, Option.some.injEq] at moved
        subst moved
        exact sound_retire sound (outline _ sound.inv holds)
      | call op next =>
        simp only [Pool.move, busy, Option.some.injEq] at moved
        subst moved
        obtain ⟨B, stableB, safe, rest⟩ := outline
        obtain ⟨safe, after⟩ := safe _ sound.inv holds (legal job op next busy)
        refine ⟨safe.inv, ?_, ?_⟩
        · intro t' job' p h
          by_cases same : t' = t
          · subst same
            simp only [Function.update_self, Option.some.injEq, Prod.mk.injEq] at h
            obtain ⟨rfl, rfl⟩ := h
            exact ⟨B _, stableB _, after, rest _⟩
          · simp only [Function.update_of_ne same] at h
            obtain ⟨A', stable', holds', outline'⟩ := sound.live t' job' p h
            have kept := stable' _ _ sound.inv safe.inv (safe.others t' same) holds'
            exact ⟨A', stable', kept, outline'⟩
        · exact fun t' job' r member =>
            lasting t' job' r _ _ safe.keeps (sound.past t' job' r member)

theorem sound_reached {pool pool' : Pool Op Ret ε α σ T Job} (sound : Sound exec D post pool)
    (reached : Reached exec code mayStart D.permitted pool pool') :
    Sound exec D post pool' := by
  induction reached with
  | refl => exact sound
  | tail _ step ih => exact sound_step opening lasting ih step

omit opening lasting in
/-- An invariant that every call of every thread keeps holds wherever the threads get. -/
theorem reached_invariant {inv : σ → Prop} {answers : (op : Op) → Ret op → Prop}
    {allowed : T → Op → Prop} {permitted : T → Op → σ → Prop}
    (calls : ∀ t job, Calls answers (allowed t) (code t job))
    (each : ∀ t op s, allowed t op → inv s → answers op (exec op s).1 ∧ inv (exec op s).2)
    {s : σ} {pool : Pool Op Ret ε α σ T Job} (start : inv s)
    (reached : Reached exec code mayStart permitted (Pool.idle s) pool) : inv pool.shared := by
  let keeping : Discipline σ T Op := ⟨inv, fun _ _ _ => True, fun _ _ => True, permitted⟩
  have anywhere : ∀ t, keeping.Stable t fun _ => True := fun _ _ _ _ _ _ _ => trivial
  have opening : ∀ t job, ∃ A, keeping.Stable t A ∧
      (∀ s, keeping.inv s → mayStart t job s → A s) ∧
      keeping.Outline exec t (fun _ _ => True) (code t job) A := by
    intro t job
    refine ⟨fun _ => True, anywhere t, fun _ _ _ => trivial, ?_⟩
    refine Discipline.outline_of_calls (calls t job) (anywhere t) fun op s ok i _ _ => ?_
    obtain ⟨answer, kept⟩ := each t op s ok i
    exact ⟨answer, ⟨kept, trivial, fun _ _ => trivial⟩, trivial⟩
  have sound : Sound exec keeping (fun _ _ _ _ => True) pool :=
    sound_reached opening (fun _ _ _ _ _ _ _ => trivial) (sound_idle start) reached
  exact sound.inv

end Soundness

end ThreadInterleaving
