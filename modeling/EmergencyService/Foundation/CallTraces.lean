import EmergencyService.Foundation.RecordedRuns
import EmergencyService.Foundation.ThreadInterleaving

/- What one thread does in an interleaving: the calls that it makes, with the answers that it
   gets, lead from its program to what is left of it. -/
namespace CallTraces
open AtomicProgram ThreadInterleaving GuardedRuns RecordedRuns

variable {Op : Type} {Ret : Op → Type} {ε α β σ T Job : Type}

structure Answered (Op : Type) (Ret : Op → Type) where
  op : Op
  answer : Ret op

/-- From a program to one that it comes to after some calls, each answered as `answers`
    allows. -/
inductive Trace (answers : (op : Op) → Ret op → Prop) :
    Program Op Ret ε α → List (Answered Op Ret) → Program Op Ret ε α → Prop
  | here (p : Program Op Ret ε α) : Trace answers p [] p
  | call {op : Op} {next : Ret op → Program Op Ret ε α} {r : Ret op} {calls q} :
      answers op r → Trace answers (next r) calls q →
        Trace answers (.call op next) (⟨op, r⟩ :: calls) q

section Traces
variable {answers : (op : Op) → Ret op → Prop} {p q : Program Op Ret ε α}
  {calls : List (Answered Op Ret)} {allowed : Op → Prop}

theorem trace_next {op : Op} {next : Ret op → Program Op Ret ε α} {r : Ret op}
    (trace : Trace answers p calls (.call op next)) (answer : answers op r) :
    Trace answers p (calls ++ [⟨op, r⟩]) (next r) := by
  generalize left : Program.call op next = q at trace
  induction trace with
  | here p =>
    subst left
    exact .call answer (.here _)
  | call first _ ih => exact .call first (ih left)

theorem trace_allowed (bounded : Calls answers allowed p) (trace : Trace answers p calls q) :
    ∀ call ∈ calls, allowed call.op := by
  induction trace with
  | here p => simp
  | call answer _ ih =>
    intro call member
    rcases List.mem_cons.mp member with rfl | later
    · exact bounded.1
    · exact ih (bounded.2 _ answer) call later

theorem trace_answered (trace : Trace answers p calls q) :
    ∀ call ∈ calls, answers call.op call.answer := by
  induction trace with
  | here p => simp
  | call answer _ ih =>
    intro call member
    rcases List.mem_cons.mp member with rfl | later
    · exact answer
    · exact ih call later

theorem trace_mono {wider : (op : Op) → Ret op → Prop}
    (trace : Trace answers p calls q) (weaker : ∀ op r, answers op r → wider op r) :
    Trace wider p calls q := by
  induction trace with
  | here p => exact .here p
  | call answer _ ih => exact .call (weaker _ _ answer) ih

theorem trace_done {a : α} (trace : Trace answers (.done a : Program Op Ret ε α) calls q) :
    calls = [] ∧ q = .done a := by
  cases trace
  exact ⟨rfl, rfl⟩

theorem trace_raise {e : ε} (trace : Trace answers (.raise e : Program Op Ret ε α) calls q) :
    calls = [] ∧ q = .raise e := by
  cases trace
  exact ⟨rfl, rfl⟩

theorem trace_bind {f : α → Program Op Ret ε β} {q : Program Op Ret ε β}
    (trace : Trace answers (p >>= f) calls q) :
    ((∃ q', Trace answers p calls q') ∧ ∀ b, q ≠ .done b) ∨
      ∃ a before after, calls = before ++ after ∧ Trace answers p before (.done a) ∧
        Trace answers (f a) after q := by
  change Trace answers (p.bind f) calls q at trace
  induction p generalizing calls with
  | done a => exact Or.inr ⟨a, [], calls, rfl, .here _, trace⟩
  | raise e =>
    obtain ⟨rfl, rfl⟩ := trace_raise trace
    exact Or.inl ⟨⟨.raise e, .here _⟩, nofun⟩
  | call op next ih =>
    cases trace with
    | here => exact Or.inl ⟨⟨.call op next, .here _⟩, nofun⟩
    | @call _ _ r calls _ answer later =>
      rcases ih r later with ⟨⟨q', first⟩, running⟩ | ⟨a, before, after, rfl, first, rest⟩
      · exact Or.inl ⟨⟨q', .call answer first⟩, running⟩
      · exact Or.inr ⟨a, ⟨op, r⟩ :: before, after, rfl, .call answer first, rest⟩

theorem trace_perform_bind (op : Op) {f : Ret op → Program Op Ret ε β}
    {q : Program Op Ret ε β} (trace : Trace answers (perform op >>= f) calls q) :
    (calls = [] ∧ ∀ b, q ≠ .done b) ∨
      ∃ r after, answers op r ∧ calls = ⟨op, r⟩ :: after ∧ Trace answers (f r) after q := by
  change Trace answers (.call op f) calls q at trace
  cases trace with
  | here => exact Or.inl ⟨rfl, nofun⟩
  | call answer later => exact Or.inr ⟨_, _, answer, rfl, later⟩

/-- Every call but the first comes right behind one, with an answer, that heralds it. -/
def Heralded (answers : (op : Op) → Ret op → Prop) (heralds : Answered Op Ret → Op → Prop) :
    Program Op Ret ε α → Prop
  | .done _ => True
  | .raise _ => True
  | .call op next => ∀ r, answers op r →
      (∀ op' later, next r = .call op' later → heralds ⟨op, r⟩ op') ∧
        Heralded answers heralds (next r)

section Heralds
variable {heralds : Answered Op Ret → Op → Prop}

theorem heralded_of_calls (bounded : Calls answers allowed p)
    (free : ∀ op, allowed op → ∀ call, heralds call op) : Heralded answers heralds p := by
  induction p with
  | done a => trivial
  | raise e => trivial
  | call op next ih =>
    intro r answer
    have rest := bounded.2 r answer
    refine ⟨?_, ih r rest⟩
    intro op' later same
    rw [same] at rest
    exact free op' rest.1 _

theorem heralded_perform (op : Op) :
    Heralded answers heralds (perform op : Program Op Ret ε (Ret op)) := by
  refine fun r _ => ⟨?_, trivial⟩
  intro op' later same
  cases same

theorem heralded_bind {f : α → Program Op Ret ε β} (first : Heralded answers heralds p)
    (entry : ∀ a op later, f a = .call op later → ∀ call, heralds call op)
    (later : ∀ a, Heralded answers heralds (f a)) : Heralded answers heralds (p >>= f) := by
  change Heralded answers heralds (p.bind f)
  induction p with
  | done a => exact later a
  | raise e => trivial
  | call op next ih =>
    intro r answer
    obtain ⟨head, rest⟩ := first r answer
    refine ⟨?_, ih r rest⟩
    intro op' onward same
    change (next r).bind f = .call op' onward at same
    cases left : next r with
    | done a =>
      rw [left] at same
      exact entry a op' onward same _
    | raise e =>
      rw [left] at same
      cases same
    | call op'' more =>
      rw [left] at same
      cases same
      exact head _ more left

theorem heralded_before_calls {f : α → Program Op Ret ε β} (first : Heralded answers heralds p)
    (bounded : ∀ a, Calls answers allowed (f a))
    (free : ∀ op, allowed op → ∀ call, heralds call op) :
    Heralded answers heralds (p >>= f) := by
  apply heralded_bind first
  · intro a op later same
    have head := bounded a
    rw [same] at head
    exact free op head.1
  · exact fun a => heralded_of_calls (bounded a) free

end Heralds

/-- Each call of `opening` is followed at once by one of `closing`, and all other calls are among
    `others`. The flag says that a `closing` is due. -/
def Paired (answers : (op : Op) → Ret op → Prop) (others : Op → Prop) (opening closing : Op) :
    Bool → Program Op Ret ε α → Prop
  | due, .done _ => due = false
  | due, .raise _ => due = false
  | true, .call op next =>
      op = closing ∧ ∀ r, answers op r → Paired answers others opening closing false (next r)
  | false, .call op next =>
      (op = opening ∧ ∀ r, answers op r → Paired answers others opening closing true (next r)) ∨
        (others op ∧ ∀ r, answers op r → Paired answers others opening closing false (next r))

section Pairs
variable {others : Op → Prop} {opening closing : Op}

theorem paired_of_calls (bounded : Calls answers others p) :
    Paired answers others opening closing false p := by
  induction p with
  | done a => rfl
  | raise e => rfl
  | call op next ih => exact Or.inr ⟨bounded.1, fun r answer => ih r (bounded.2 r answer)⟩

theorem paired_over {due : Bool} {result : Except ε α}
    (paired : Paired answers others opening closing due
      (AtomicProgram.ofExcept result : Program Op Ret ε α)) : due = false := by
  cases result <;> cases due <;> exact paired

theorem paired_after {f : α → Program Op Ret ε β} (first : Calls answers others p)
    (later : ∀ a, Paired answers others opening closing false (f a)) :
    Paired answers others opening closing false (p >>= f) := by
  change Paired answers others opening closing false (p.bind f)
  induction p with
  | done a => exact later a
  | raise e => rfl
  | call op next ih => exact Or.inr ⟨first.1, fun r answer => ih r (first.2 r answer)⟩

theorem paired_pair {f : Ret opening → Ret closing → Program Op Ret ε β}
    (later : ∀ r r', Paired answers others opening closing false (f r r')) :
    Paired answers others opening closing false
      (perform opening >>= fun r => perform closing >>= f r) :=
  Or.inl ⟨rfl, fun r _ => ⟨rfl, fun r' _ => later r r'⟩⟩

end Pairs

end Traces

/-- What can be seen of an interleaving. -/
inductive Observation (Op : Type) (Ret : Op → Type) (ε α T Job : Type) where
  | started : T → Job → Observation Op Ret ε α T Job
  | called : T → Answered Op Ret → Observation Op Ret ε α T Job
  | ended : T → Job → Except ε α → Observation Op Ret ε α T Job

section Threads
variable [DecidableEq T] (exec : (op : Op) → σ → Ret op × σ)
  (code : T → Job → Program Op Ret ε α)

def seen (pool : Pool Op Ret ε α σ T Job) : Move T Job → List (Observation Op Ret ε α T Job)
  | .start t job => [.started t job]
  | .turn t =>
      match pool.running t with
      | none => []
      | some (job, .done a) => [.ended t job (.ok a)]
      | some (job, .raise e) => [.ended t job (.error e)]
      | some (_, .call op _) => [.called t ⟨op, (exec op pool.shared).1⟩]

def observe (pool : Pool Op Ret ε α σ T Job) (m : Move T Job) :
    Option (Pool Op Ret ε α σ T Job × List (Observation Op Ret ε α T Job)) :=
  (pool.move exec code m).map fun after => (after, seen exec pool m)

/-- The three kinds of moves, with the pool that each leads to and what is seen of it. -/
inductive Witnessed (pool : Pool Op Ret ε α σ T Job) :
    Pool Op Ret ε α σ T Job → List (Observation Op Ret ε α T Job) → Prop
  | started {t job} : pool.running t = none →
      Witnessed pool (pool.put t (some (job, code t job)) pool.shared) [.started t job]
  | called {t job op next} : pool.running t = some (job, .call op next) →
      Witnessed pool (pool.put t (some (job, next (exec op pool.shared).1)) (exec op pool.shared).2)
        [.called t ⟨op, (exec op pool.shared).1⟩]
  | ended {t job} (result : Except ε α) : pool.running t = some (job, ofExcept result) →
      Witnessed pool
        { pool.put t none pool.shared with finished := (t, job, result) :: pool.finished }
        [.ended t job result]

theorem witnessed_of_observe {pool after : Pool Op Ret ε α σ T Job} {m : Move T Job}
    {out : List (Observation Op Ret ε α T Job)}
    (observed : observe exec code pool m = some (after, out)) :
    Witnessed exec code pool after out := by
  obtain ⟨next, moved, same⟩ := Option.map_eq_some_iff.mp observed
  obtain ⟨rfl, rfl⟩ := Prod.mk.inj same
  cases m with
  | start t job =>
    cases busy : pool.running t with
    | none =>
      simp only [Pool.move, busy, Option.some.injEq] at moved
      exact moved ▸ .started busy
    | some task => simp [Pool.move, busy] at moved
  | turn t =>
    cases busy : pool.running t with
    | none => simp [Pool.move, busy] at moved
    | some task =>
      obtain ⟨job, p⟩ := task
      cases p with
      | done a =>
        simp only [Pool.move, busy, Option.some.injEq] at moved
        simp only [seen, busy]
        exact moved ▸ .ended (.ok a) busy
      | raise e =>
        simp only [Pool.move, busy, Option.some.injEq] at moved
        simp only [seen, busy]
        exact moved ▸ .ended (.error e) busy
      | call op next =>
        simp only [Pool.move, busy, Option.some.injEq] at moved
        simp only [seen, busy]
        exact moved ▸ .called busy

def heed (t : T) (calls : List (Answered Op Ret)) :
    Observation Op Ret ε α T Job → List (Answered Op Ret)
  | .started t' _ => if t' = t then [] else calls
  | .called t' call => if t' = t then calls ++ [call] else calls
  | .ended _ _ _ => calls

/-- The calls of a thread since it last started a job. -/
def current (t : T) (seen : List (Observation Op Ret ε α T Job)) : List (Answered Op Ret) :=
  seen.foldl (heed t) []

variable {exec code} {s : σ} {condition : Pool Op Ret ε α σ T Job → Move T Job → Prop}
  {origin pool : Pool Op Ret ε α σ T Job} {transcript : List (Observation Op Ret ε α T Job)}

theorem observe_move :
    (fun pool m => (observe exec code pool m).map Prod.fst) = Pool.move exec code := by
  funext pool m
  unfold observe
  rw [Option.map_map]
  exact Option.map_id'

theorem observed_runs (runs : Recorded (observe exec code) condition origin pool transcript) :
    Runs (Pool.move exec code) condition origin pool := by
  have forgotten := recorded_runs runs
  rwa [observe_move] at forgotten

theorem exists_observed (runs : Runs (Pool.move exec code) condition origin pool) :
    ∃ transcript, Recorded (observe exec code) condition origin pool transcript := by
  apply exists_recorded
  rwa [observe_move]

theorem seen_other {pool' : Pool Op Ret ε α σ T Job} {m : Move T Job} {t : T}
    {task : Job × Program Op Ret ε α} (moved : pool.move exec code m = some pool')
    (other : m ≠ .turn t) (busy : pool.running t = some task) (calls : List (Answered Op Ret)) :
    (seen exec pool m).foldl (heed t) calls = calls := by
  cases m with
  | start t' job =>
    have away : t' ≠ t := by
      rintro rfl
      simp [Pool.move, busy] at moved
    simp [seen, heed, away]
  | turn t' =>
    have away : t' ≠ t := by
      rintro rfl
      exact other rfl
    cases working : pool.running t' with
    | none => simp [Pool.move, working] at moved
    | some current =>
      obtain ⟨job, p⟩ := current
      cases p <;> simp [seen, working, heed, away]

/-- In every interleaving the calls that a thread has made lead to what it has still to run:
    from what it ran at the beginning, or from the code of a job that it has started since. -/
theorem traces_since {answers : (op : Op) → Ret op → Prop}
    (answered : ∀ pool, Runs (Pool.move exec code) condition origin pool →
      ∀ t job op next, pool.running t = some (job, .call op next) →
        answers op (exec op pool.shared).1)
    (runs : Recorded (observe exec code) condition origin pool transcript) :
    ∀ t job p, pool.running t = some (job, p) →
      (∃ p₀, origin.running t = some (job, p₀) ∧ Trace answers p₀ (current t transcript) p) ∨
        Trace answers (code t job) (current t transcript) p := by
  refine run_invariant (fun now : Pool Op Ret ε α σ T Job × List (Observation Op Ret ε α T Job) =>
    ∀ t job p, now.1.running t = some (job, p) →
      (∃ p₀, origin.running t = some (job, p₀) ∧ Trace answers p₀ (current t now.2) p) ∨
        Trace answers (code t job) (current t now.2) p) ?_ ?_ runs
  · intro t job p busy
    exact Or.inl ⟨p, busy, .here p⟩
  · rintro m ⟨before, earlier⟩ ⟨after, all⟩ started ih _ acted t job p busy
    obtain ⟨out, found, rfl⟩ := recorded_some acted
    obtain ⟨next, moved, same⟩ := Option.map_eq_some_iff.mp found
    obtain ⟨rfl, rfl⟩ := Prod.mk.inj same
    have onward : current t (earlier ++ seen exec before m) =
        (seen exec before m).foldl (heed t) (current t earlier) := List.foldl_append ..
    dsimp only at ih onward ⊢
    rw [onward]
    rcases move_running moved busy with ⟨other, old⟩ | ⟨rfl, rfl⟩ | ⟨op, next, rfl, old, rfl⟩
    · rw [seen_other moved other old]
      exact ih t job p old
    · simp only [seen, List.foldl_cons, List.foldl_nil, heed, if_true]
      exact Or.inr (.here _)
    · have working : before.running t = some (job, .call op next) := old
      have answer := answered before (observed_runs started) t job op next working
      simp only [seen, working, List.foldl_cons, List.foldl_nil, heed, if_true]
      rcases ih t job _ old with ⟨p₀, first, trace⟩ | trace
      · exact Or.inl ⟨p₀, first, trace_next trace answer⟩
      · exact Or.inr (trace_next trace answer)

/-- From the idle pool every job has been started since. -/
theorem thread_traces {answers : (op : Op) → Ret op → Prop}
    (answered : ∀ pool, Runs (Pool.move exec code) condition (Pool.idle s) pool →
      ∀ op, answers op (exec op pool.shared).1)
    (runs : Recorded (observe exec code) condition (Pool.idle s) pool transcript) :
    ∀ t job p, pool.running t = some (job, p) →
      Trace answers (code t job) (current t transcript) p := by
  intro t job p busy
  rcases traces_since (fun pool runs _ _ op _ _ => answered pool runs op) runs t job p busy with
    ⟨_, early, _⟩ | trace
  · cases early
  · exact trace

theorem running_heralded {answers : (op : Op) → Ret op → Prop}
    {heralds : Answered Op Ret → Op → Prop}
    (answered : ∀ pool, Runs (Pool.move exec code) condition (Pool.idle s) pool →
      ∀ op, answers op (exec op pool.shared).1)
    (written : ∀ t job, Heralded answers heralds (code t job))
    (runs : Runs (Pool.move exec code) condition (Pool.idle s) pool) :
    ∀ t job p, pool.running t = some (job, p) → Heralded answers heralds p := by
  refine run_invariant (fun pool : Pool Op Ret ε α σ T Job =>
    ∀ t job p, pool.running t = some (job, p) → Heralded answers heralds p) ?_ ?_ runs
  · intro t job p busy
    cases busy
  · intro m before after started ih _ moved t job p busy
    rcases move_running moved busy with ⟨_, old⟩ | ⟨rfl, rfl⟩ | ⟨op, next, rfl, old, rfl⟩
    · exact ih t job p old
    · exact written t job
    · exact (ih t job _ old _ (answered before started op)).2

end Threads

end CallTraces
