import EmergencyService.Foundation.ReadLoops
import EmergencyService.Server.ActorPool

/- How the reactor reads one connection: the selector thread submits a task for every chunk,
   and the workers of the pool drain the chunks among those of the other connections. -/
namespace ReadTasks
open GuardedRuns SerialTasks ActorPool ReadLoops

variable {T R : Type}

/-- Where a task of an actor is: waiting for a worker, or with one that is in some phase. -/
def At (pool : ActorThreadPool T R) (a : T) (task : R) : Option Phase → Prop
  | none => (a, task) ∈ pool.handed
  | some phase => ⟨a, task, phase⟩ ∈ pool.workers

section Places
variable {pool pool' : ActorThreadPool T R} {a : T} {task task' : R}
variable {place place' : Option Phase} {k : Nat}

theorem at_execute_other {b : T} {r : R} (other : b ≠ a)
    (here : At (pool.execute b r) a task place) : At pool a task place := by
  cases place with
  | some phase => exact here
  | none =>
    rcases List.mem_append.mp here with old | new
    · exact old
    · exact absurd (congrArg Prod.fst (List.mem_singleton.mp new)).symm other

theorem at_leave_run {phase : Phase} (left : pool.leaveRun k phase = some pool')
    (here : At pool' a task place) :
    At pool a task place ∨ (pool.workers[k]? = some ⟨a, task, .running⟩ ∧ place = some phase) := by
  obtain ⟨b, r, found, rfl⟩ := ActorThreadPool.leave_run_some left
  cases place with
  | none => exact Or.inl here
  | some phase' =>
    rcases List.mem_or_eq_of_mem_set here with old | new
    · exact Or.inl old
    · cases new
      exact Or.inr ⟨found, rfl⟩

theorem at_start (started : pool.start k = some pool') (here : At pool' a task place) :
    At pool a task place ∨ (pool.handed[k]? = some (a, task) ∧ place = some .running) := by
  obtain ⟨b, r, found, rfl⟩ := ActorThreadPool.start_some started
  cases place with
  | none => exact Or.inl (List.mem_of_mem_eraseIdx here)
  | some phase =>
    rcases List.mem_append.mp here with old | new
    · exact Or.inl old
    · cases List.mem_singleton.mp new
      exact Or.inr ⟨found, rfl⟩

theorem at_drop_worker (here : At (pool.dropWorker k) a task place) : At pool a task place := by
  cases place with
  | none => exact here
  | some phase => exact List.mem_of_mem_eraseIdx here

theorem eq_of_short {X : Type} {l : List X} (short : l.length ≤ 1) {x y : X} (first : x ∈ l)
    (second : y ∈ l) : x = y := by
  match l, short with
  | [z], _ => exact (List.mem_singleton.mp first).trans (List.mem_singleton.mp second).symm

variable [DecidableEq T] {s s' : Schedule T R} {t : SerialActor R}

theorem tasks_of_append (a : T) (work work' : List (T × R)) :
    tasksOf a (work ++ work') = tasksOf a work ++ tasksOf a work' := by
  simp [tasksOf]

theorem mem_tasks_of {work : List (T × R)} : task ∈ tasksOf a work ↔ (a, task) ∈ work := by
  simp [tasksOf]

theorem worked {e : Execution T R} (member : e ∈ pool.workers) :
    e.task ∈ tasksOf e.act (pool.workers.map Execution.work) :=
  mem_tasks_of.mpr (List.mem_map.mpr ⟨e, member, rfl⟩)

theorem at_mem (here : At pool a task place) : task ∈ tasksOf a pool.out := by
  rw [ActorThreadPool.out, tasks_of_append, List.mem_append]
  cases place with
  | none => exact Or.inl (mem_tasks_of.mpr here)
  | some phase => exact Or.inr (worked here)

theorem at_current (holds : Holds pool a t) (here : At pool a task place) :
    t.current = some task := by
  have current := holds.current.mem_iff.mp (at_mem here)
  simpa [eq_comm] using current

theorem current_at (holds : Holds pool a t) (current : t.current = some task) :
    ∃ place, At pool a task place := by
  have member : task ∈ tasksOf a pool.out := holds.current.mem_iff.mpr (by simp [current])
  rw [ActorThreadPool.out, tasks_of_append, List.mem_append] at member
  rcases member with waiting | running
  · exact ⟨none, mem_tasks_of.mp waiting⟩
  · obtain ⟨e, worker, work⟩ := List.mem_map.mp (mem_tasks_of.mp running)
    obtain ⟨rfl, rfl⟩ := Prod.mk.inj work
    exact ⟨some e.phase, worker⟩

theorem at_unique (holds : Holds pool a t) (here : At pool a task place)
    (there : At pool a task' place') : task' = task ∧ place' = place := by
  have same : task' = task := by
    have both := (at_current holds there).symm.trans (at_current holds here)
    exact Option.some.inj both
  subst same
  have short : (tasksOf a pool.out).length ≤ 1 := by
    rw [holds.current.length_eq]
    cases t.current <;> simp
  rw [ActorThreadPool.out, tasks_of_append, List.length_append] at short
  have apart : ∀ {phase}, (a, task') ∈ pool.handed → ¬ ⟨a, task', phase⟩ ∈ pool.workers := by
    intro phase waiting running
    have first := List.length_pos_of_mem (mem_tasks_of.mpr waiting)
    have second := List.length_pos_of_mem (worked running)
    simp only at second
    omega
  refine ⟨rfl, ?_⟩
  cases place with
  | none =>
    cases place' with
    | none => rfl
    | some phase => exact absurd there (apart here)
  | some phase =>
    cases place' with
    | none => exact absurd here (apart there)
    | some phase' =>
      have few : (pool.workers.filter fun e => e.act = a).length ≤ 1 := by
        have counted : (tasksOf a (pool.workers.map Execution.work)).length =
            (pool.workers.filter fun e => e.act = a).length := by
          simp only [tasksOf, List.filter_map, List.length_map]
          rfl
        omega
      have one : ⟨a, task', phase⟩ ∈ pool.workers.filter fun e => e.act = a :=
        List.mem_filter.mpr ⟨here, decide_eq_true rfl⟩
      have two : ⟨a, task', phase'⟩ ∈ pool.workers.filter fun e => e.act = a :=
        List.mem_filter.mpr ⟨there, decide_eq_true rfl⟩
      have same := congrArg Execution.phase (eq_of_short few two one)
      exact congrArg some same

/-- The action is one of the other actors'. -/
def foreign (a : T) (pool : ActorThreadPool T R) : PoolAction T R → Bool
  | .submit b _ => b ≠ a
  | .start k => (pool.handed[k]?).all fun entry => entry.1 ≠ a
  | .returns k | .throws k | .complete k => (pool.workers[k]?).all fun e => e.act ≠ a

theorem at_submit {b : T} {r : R} (here : At (pool.submit b r) a task place) :
    At pool a task place ∨ (b = a ∧ b ∉ pool.playingNow ∧ place = none) := by
  by_cases busy : b ∈ pool.playingNow
  · rw [ActorThreadPool.submit_busy busy] at here
    cases place <;> exact Or.inl here
  · rw [ActorThreadPool.submit_idle busy] at here
    by_cases own : b = a
    · cases place with
      | none => exact Or.inr ⟨own, busy, rfl⟩
      | some phase => exact Or.inl here
    · have old := at_execute_other own here
      cases place <;> exact Or.inl old

theorem at_complete {b : T} (here : At (pool.complete b) a task place) :
    At pool a task place ∨ (b = a ∧ place = none) := by
  cases queue : pool.pending b with
  | nil =>
    rw [ActorThreadPool.complete_last queue] at here
    have made : At (pool.pendingRunnablesOf b).2 a task place := by
      cases place <;> exact here
    unfold ActorThreadPool.pendingRunnablesOf at made
    cases acts : pool.acts b with
    | none =>
      rw [acts] at made
      cases place <;> exact Or.inl made
    | some pending =>
      rw [acts] at made
      exact Or.inl made
  | cons next rest =>
    rw [ActorThreadPool.complete_next queue] at here
    by_cases own : b = a
    · cases place with
      | none => exact Or.inr ⟨own, rfl⟩
      | some phase => exact Or.inl here
    · have old := at_execute_other own here
      cases place <;> exact Or.inl old

theorem foreign_at {action : PoolAction T R} (other : foreign a s.pool action = true)
    (acted : s.act action = some s') (here : At s'.pool a task place) :
    At s.pool a task place := by
  cases action with
  | submit b r =>
    cases acted
    rcases at_submit here with old | ⟨own, _⟩
    · exact old
    · simp [foreign, own] at other
  | start k =>
    obtain ⟨pool', started, rfl⟩ := Option.map_eq_some_iff.mp acted
    rcases at_start started here with old | ⟨found, _⟩
    · exact old
    · simp [foreign, found] at other
  | returns k =>
    obtain ⟨pool', left, rfl⟩ := Option.map_eq_some_iff.mp acted
    rcases at_leave_run left here with old | ⟨found, _⟩
    · exact old
    · simp [foreign, found] at other
  | throws k =>
    obtain ⟨pool', left, rfl⟩ := Option.map_eq_some_iff.mp acted
    rcases at_leave_run left here with old | ⟨found, _⟩
    · exact old
    · simp [foreign, found] at other
  | complete k =>
    obtain ⟨e, found, _, rfl⟩ := complete_some acted
    rcases at_complete here with old | ⟨own, _⟩
    · exact at_drop_worker old
    · simp [foreign, found, own] at other

theorem foreign_on_actor {action : PoolAction T R} (other : foreign a s.pool action = true) :
    onActor s a action t = t := by
  cases action with
  | submit b r => simp_all [foreign, onActor]
  | complete k => cases found : s.pool.workers[k]? <;> simp_all [foreign, onActor]
  | _ => rfl

end Places

/-- One connection in the reactor. `arriving` are the chunks that the reads of its channel
    will get, `chanOpen` falls with the selector thread's `close`, and `buf` is what the running
    task still has to take from its buffer. -/
structure Reading (T B D S M : Type) where
  arriving : List (List B)
  chanOpen : Bool
  pool : Schedule T (List B)
  buf : List B
  reader : Reader D S M

inductive ReadAction (T B : Type) where
  | continueRead
  | endOfStream
  | closeTerminated
  | startTask : Nat → ReadAction T B
  | taskStep : Nat → ReadAction T B
  | completeTask : Nat → ReadAction T B
  | other : PoolAction T (List B) → ReadAction T B

variable {B D S M : Type}

namespace Reading

def begin (threads : Nat) (chunks : List (List B)) (r : Reader D S M) : Reading T B D S M :=
  ⟨chunks, true, .idle threads, [], r⟩

section Actions
variable [DecidableEq T] (decode : D → B → D × Decoded M) (serve : S → M → Bool × S)
  (shouldTerminate connected : S → Bool) (handler : T) (s : Reading T B D S M)

/-- A channel that a worker's `close` or the selector thread's has closed is not read. -/
def Readable : Prop := s.chanOpen = true ∧ connected s.reader.state = true

instance : Decidable (s.Readable connected) := inferInstanceAs (Decidable (_ ∧ _))

def withPool (pool : Schedule T (List B)) : Reading T B D S M := { s with pool := pool }

/-- The selector thread gets a chunk from the channel and submits its task. -/
def continueRead : Option (Reading T B D S M) :=
  match s.arriving with
  | [] => none
  | chunk :: rest =>
      if s.Readable connected then
        (s.pool.act (.submit handler chunk)).map fun pool =>
          { s with arriving := rest, pool := pool }
      else none

def startTask (k : Nat) : Option (Reading T B D S M) :=
  match s.pool.pool.handed[k]? with
  | some (act, chunk) =>
      if act = handler then
        (s.pool.act (.start k)).map fun pool => { s with pool := pool, buf := chunk }
      else none
  | none => none

/-- The worker goes once round the loop of the task, or leaves it. -/
def taskStep (k : Nat) : Option (Reading T B D S M) :=
  match s.pool.pool.workers[k]? with
  | some ⟨act, _, .running⟩ =>
      if act = handler then
        match s.buf with
        | [] => (s.pool.act (.returns k)).map s.withPool
        | b :: rest =>
            let fed := feed decode serve s.reader b
            if fed.1 then
              (s.pool.act (.throws k)).map fun pool =>
                { s with pool := pool, buf := [], reader := fed.2 }
            else some { s with buf := rest, reader := fed.2 }
      else none
  | _ => none

def completeTask (k : Nat) : Option (Reading T B D S M) :=
  match s.pool.pool.workers[k]? with
  | some e => if e.act = handler then (s.pool.act (.complete k)).map s.withPool else none
  | none => none

def act : ReadAction T B → Option (Reading T B D S M)
  | .continueRead => s.continueRead connected handler
  | .endOfStream =>
      if s.arriving = [] ∧ s.Readable connected then some { s with chanOpen := false } else none
  | .closeTerminated =>
      if shouldTerminate s.reader.state then some { s with chanOpen := false } else none
  | .startTask k => s.startTask handler k
  | .taskStep k => s.taskStep decode serve handler k
  | .completeTask k => s.completeTask handler k
  | .other action =>
      if foreign handler s.pool.pool action then (s.pool.act action).map s.withPool else none

/-- No task of the connection is left, and no chunk will be read. -/
def Over : Prop :=
  s.pool.inFlight handler = [] ∧ (s.arriving = [] ∨ ¬ s.Readable connected)

instance : Decidable (s.Over connected handler) := inferInstanceAs (Decidable (_ ∧ _))

end Actions

end Reading

section Runs
variable (decode : D → B → D × Decoded M) (serve : S → M → Bool × S)
  (shouldTerminate connected : S → Bool)

/-- The condition on which the loop of the blocking handler ends. -/
def stops (s : S) : Bool := shouldTerminate s || !connected s

/-- What the reader has got from the chunk that is in flight. -/
def Placed (r₀ : Reader D S M) (finished : List (List B)) (s : Reading T B D S M)
    (chunk : List B) : Option Phase → Prop
  | none => s.reader = drainAll decode serve r₀ finished
  | some .running => ∃ used, chunk = used ++ s.buf ∧ ∀ later,
      drain decode serve (drainAll decode serve r₀ finished) (used ++ later) =
        drain decode serve s.reader later
  | some _ => s.reader = drainAll decode serve r₀ (finished ++ [chunk])

section Running
variable {decode serve} {r₀ : Reader D S M} {s : Reading T B D S M} {finished : List (List B)}
  {chunk rest : List B} {b : B}

theorem drain_all_snoc (r : Reader D S M) (finished : List (List B)) (chunk : List B) :
    drainAll decode serve r (finished ++ [chunk]) =
      drain decode serve (drainAll decode serve r finished) chunk := by
  simp [drainAll]

/-- The reader of a task that has come to the end of its buffer has got the whole chunk. -/
theorem placed_emptied (placed : Placed decode serve r₀ finished s chunk (some .running))
    (isEmpty : s.buf = []) : s.reader = drainAll decode serve r₀ (finished ++ [chunk]) := by
  obtain ⟨used, split, drained⟩ := placed
  have whole := drained []
  rw [isEmpty, List.append_nil] at split
  subst split
  rw [List.append_nil] at whole
  exact whole.symm.trans (drain_all_snoc _ _ _).symm

theorem placed_raised (placed : Placed decode serve r₀ finished s chunk (some .running))
    (isBuf : s.buf = b :: rest) (raises : (feed decode serve s.reader b).1 = true) :
    (feed decode serve s.reader b).2 = drainAll decode serve r₀ (finished ++ [chunk]) := by
  obtain ⟨used, split, drained⟩ := placed
  have whole : drain decode serve (drainAll decode serve r₀ finished) chunk =
      (feed decode serve s.reader b).2 := by
    rw [split, isBuf, drained]
    simp [drain, raises]
  exact whole.symm.trans (drain_all_snoc _ _ _).symm

theorem placed_fed (placed : Placed decode serve r₀ finished s chunk (some .running))
    (isBuf : s.buf = b :: rest) (quiet : (feed decode serve s.reader b).1 = false) :
    Placed decode serve r₀ finished
      { s with buf := rest, reader := (feed decode serve s.reader b).2 } chunk
      (some .running) := by
  obtain ⟨used, split, drained⟩ := placed
  refine ⟨used ++ [b], by simp [split, isBuf], ?_⟩
  intro later
  rw [List.append_assoc, drained]
  simp [drain, quiet]

end Running

variable [DecidableEq T] (handler : T) (r₀ : Reader D S M) (chunks : List (List B))

structure Invariant (s : Reading T B D S M) (t : SerialActor (List B)) : Prop where
  represents : Represents s.pool handler t
  stream : s.pool.submitted handler ++ s.arriving = chunks
  idle : t.current = none → s.reader = drainAll decode serve r₀ t.finished
  placed : ∀ chunk place, At s.pool.pool handler chunk place →
    Placed decode serve r₀ t.finished s chunk place
  closed : s.chanOpen = false → s.arriving = [] ∨
    behind decode serve (stops shouldTerminate connected) r₀ (s.pool.submitted handler) ≠ none

variable {decode serve shouldTerminate connected handler r₀ chunks}
variable {s s' : Reading T B D S M} {t : SerialActor (List B)}

theorem Invariant.reached
    (held : Invariant decode serve shouldTerminate connected handler r₀ chunks s t) :
    ∃ progress, s.reader = drainAll decode serve r₀ progress ∧
      progress.flatten <+: (s.pool.submitted handler).flatten := by
  have history := held.represents.submitted
  cases current : t.current with
  | none =>
    refine ⟨t.finished, held.idle current, ?_⟩
    simp [history, SerialActor.history]
  | some chunk =>
    have inside : (t.finished ++ [chunk]).flatten <+: (s.pool.submitted handler).flatten := by
      simp [history, SerialActor.history, current]
    obtain ⟨place, here⟩ := current_at held.represents.holds current
    have placed := held.placed chunk place here
    cases place with
    | none =>
      refine ⟨t.finished, placed, List.IsPrefix.trans ?_ inside⟩
      simp
    | some phase =>
      cases phase with
      | running =>
        obtain ⟨used, split, drained⟩ := placed
        refine ⟨t.finished ++ [used], ?_, List.IsPrefix.trans ?_ inside⟩
        · rw [drain_all_snoc]
          simpa [drain] using (drained []).symm
        · simp [split, ← List.append_assoc]
      | returned => exact ⟨_, placed, inside⟩
      | threw => exact ⟨_, placed, inside⟩

theorem Invariant.stopped
    (held : Invariant decode serve shouldTerminate connected handler r₀ chunks s t)
    (stop : stops shouldTerminate connected s.reader.state = true) :
    behind decode serve (stops shouldTerminate connected) r₀ (s.pool.submitted handler) ≠
      none := by
  intro unended
  obtain ⟨progress, drained, within⟩ := held.reached
  obtain ⟨whole, alive⟩ := behind_none_iff.mp unended
  obtain ⟨part, alive⟩ := end_of_stream_prefix within alive
  have going := end_of_stream_alive alive
  rw [← drain_all_of_loop alive, ← drained, stop] at going
  cases going

theorem continue_read_invariant
    (held : Invariant decode serve shouldTerminate connected handler r₀ chunks s t)
    (acted : s.continueRead connected handler = some s') :
    ∃ t', Invariant decode serve shouldTerminate connected handler r₀ chunks s' t' := by
  unfold Reading.continueRead at acted
  cases arriving : s.arriving with
  | nil => simp [arriving] at acted
  | cons chunk rest =>
    simp only [arriving] at acted
    split at acted
    · rename_i readable
      obtain ⟨pool, submitted, rfl⟩ := Option.map_eq_some_iff.mp acted
      have represents := act_represents held.represents submitted
      simp only [onActor, ↓reduceIte] at represents
      cases submitted
      refine ⟨t.submit chunk, represents, ?_, ?_, ?_, ?_⟩
      · simp [← held.stream, arriving]
      · intro idle
        unfold SerialActor.submit at idle
        split at idle <;> cases idle
      · intro task place here
        have same : (t.submit chunk).finished = t.finished := by
          unfold SerialActor.submit
          split <;> rfl
        rw [same]
        rcases at_submit here with old | ⟨_, free, rfl⟩
        · exact held.placed task place old
        · apply held.idle
          by_contra busy
          exact free (held.represents.holds.playing.mpr busy)
      · intro closed
        rw [readable.1] at closed
        cases closed
    · cases acted

theorem Invariant.keep
    (held : Invariant decode serve shouldTerminate connected handler r₀ chunks s t)
    (represents : Represents s'.pool handler t) (arriving : s'.arriving = s.arriving)
    (chanOpen : s'.chanOpen = s.chanOpen)
    (idle : t.current = none → s'.reader = drainAll decode serve r₀ t.finished)
    (placed : ∀ chunk place, At s'.pool.pool handler chunk place →
      Placed decode serve r₀ t.finished s' chunk place) :
    Invariant decode serve shouldTerminate connected handler r₀ chunks s' t := by
  have submitted := represents.submitted.trans held.represents.submitted.symm
  refine ⟨represents, ?_, idle, placed, ?_⟩
  · rw [submitted, arriving]
    exact held.stream
  · rw [submitted, arriving, chanOpen]
    exact held.closed

theorem Invariant.move {chunk : List B} {place : Option Phase}
    (held : Invariant decode serve shouldTerminate connected handler r₀ chunks s t)
    (represents : Represents s'.pool handler t) (arriving : s'.arriving = s.arriving)
    (chanOpen : s'.chanOpen = s.chanOpen) (here : At s'.pool.pool handler chunk place)
    (placed : Placed decode serve r₀ t.finished s' chunk place) :
    Invariant decode serve shouldTerminate connected handler r₀ chunks s' t := by
  apply held.keep represents arriving chanOpen
  · intro idle
    rw [at_current represents.holds here] at idle
    cases idle
  · intro chunk' place' there
    obtain ⟨rfl, rfl⟩ := at_unique represents.holds here there
    exact placed

theorem start_task_invariant {k : Nat}
    (held : Invariant decode serve shouldTerminate connected handler r₀ chunks s t)
    (acted : s.startTask handler k = some s') :
    Invariant decode serve shouldTerminate connected handler r₀ chunks s' t := by
  unfold Reading.startTask at acted
  split at acted
  · rename_i a chunk found
    split at acted
    · rename_i own
      subst own
      obtain ⟨pool, started, rfl⟩ := Option.map_eq_some_iff.mp acted
      have represents := act_represents held.represents started
      obtain ⟨inner, taken, rfl⟩ := Option.map_eq_some_iff.mp started
      have waiting : s.reader = drainAll decode serve r₀ t.finished :=
        held.placed chunk none (List.mem_of_getElem? found)
      have here : At inner a chunk (some .running) := by
        obtain ⟨b, task, first, rfl⟩ := ActorThreadPool.start_some taken
        rw [found] at first
        cases first
        exact List.mem_append_right _ (List.mem_singleton.mpr rfl)
      refine held.move represents rfl rfl here ⟨[], rfl, ?_⟩
      intro later
      rw [waiting]
      rfl
    · cases acted
  · cases acted

/-- What a step of the worker does: it leaves the loop at the end of the buffer, or feeds one
    byte to the reader, and leaves the loop when that raises. -/
theorem task_step_cases {k : Nat} (acted : s.taskStep decode serve handler k = some s') :
    ∃ chunk, s.pool.pool.workers[k]? = some ⟨handler, chunk, .running⟩ ∧
      ((s.buf = [] ∧ ∃ pool, s.pool.act (.returns k) = some pool ∧ s' = s.withPool pool) ∨
        ∃ b rest, s.buf = b :: rest ∧
          (((feed decode serve s.reader b).1 = true ∧ ∃ pool,
              s.pool.act (.throws k) = some pool ∧
              s' = { s with pool := pool, buf := [], reader := (feed decode serve s.reader b).2 }) ∨
            ((feed decode serve s.reader b).1 = false ∧
              s' = { s with buf := rest, reader := (feed decode serve s.reader b).2 }))) := by
  unfold Reading.taskStep at acted
  split at acted
  · rename_i a chunk found
    split at acted
    · rename_i own
      subst own
      refine ⟨chunk, found, ?_⟩
      split at acted
      · rename_i isEmpty
        obtain ⟨pool, returned, rfl⟩ := Option.map_eq_some_iff.mp acted
        exact Or.inl ⟨isEmpty, pool, returned, rfl⟩
      · rename_i b rest isBuf
        refine Or.inr ⟨b, rest, isBuf, ?_⟩
        dsimp only at acted
        split at acted
        · rename_i raises
          obtain ⟨pool, threw, rfl⟩ := Option.map_eq_some_iff.mp acted
          exact Or.inl ⟨raises, pool, threw, rfl⟩
        · rename_i quiet
          cases acted
          exact Or.inr ⟨Bool.eq_false_iff.mpr quiet, rfl⟩
    · cases acted
  · cases acted

theorem task_step_invariant {k : Nat}
    (held : Invariant decode serve shouldTerminate connected handler r₀ chunks s t)
    (acted : s.taskStep decode serve handler k = some s') :
    Invariant decode serve shouldTerminate connected handler r₀ chunks s' t := by
  obtain ⟨chunk, found, outcome⟩ := task_step_cases acted
  have running : At s.pool.pool handler chunk (some .running) := List.mem_of_getElem? found
  have placed := held.placed chunk (some .running) running
  have left : ∀ {phase inner}, s.pool.pool.leaveRun k phase = some inner →
      At inner handler chunk (some phase) := by
    intro phase inner left
    obtain ⟨b, task, first, rfl⟩ := ActorThreadPool.leave_run_some left
    rw [found] at first
    cases first
    obtain ⟨bound, _⟩ := List.getElem?_eq_some_iff.mp found
    exact List.mem_set bound _
  rcases outcome with ⟨isEmpty, pool, returned, rfl⟩ |
    ⟨b, rest, isBuf, ⟨raises, pool, threw, rfl⟩ | ⟨quiet, rfl⟩⟩
  · have represents := act_represents held.represents returned
    obtain ⟨inner, past, rfl⟩ := Option.map_eq_some_iff.mp returned
    exact held.move represents rfl rfl (left past) (placed_emptied placed isEmpty)
  · have represents := act_represents held.represents threw
    obtain ⟨inner, past, rfl⟩ := Option.map_eq_some_iff.mp threw
    exact held.move represents rfl rfl (left past) (placed_raised placed isBuf raises)
  · exact held.move held.represents rfl rfl running (placed_fed placed isBuf quiet)

theorem complete_task_invariant {k : Nat}
    (held : Invariant decode serve shouldTerminate connected handler r₀ chunks s t)
    (acted : s.completeTask handler k = some s') :
    ∃ t', Invariant decode serve shouldTerminate connected handler r₀ chunks s' t' := by
  unfold Reading.completeTask at acted
  split at acted
  · rename_i e found
    split at acted
    · rename_i own
      obtain ⟨pool, completed, rfl⟩ := Option.map_eq_some_iff.mp acted
      have represents := act_represents held.represents completed
      simp only [onActor, found, own, ↓reduceIte] at represents
      obtain ⟨current, gone⟩ := drop_worker_gone found own held.represents.holds
      obtain ⟨e', found', past, rfl⟩ := complete_some completed
      rw [found] at found'
      cases found'
      have drained : s.reader = drainAll decode serve r₀ t.finish.finished := by
        have here : At s.pool.pool handler e.task (some e.phase) := by
          rw [← own]
          exact List.mem_of_getElem? found
        have placed := held.placed e.task (some e.phase) here
        simp only [SerialActor.finish, current, Option.toList_some]
        cases phase : e.phase with
        | running => exact absurd phase past
        | returned =>
          rw [phase] at placed
          exact placed
        | threw =>
          rw [phase] at placed
          exact placed
      refine ⟨t.finish, represents, held.stream, fun _ => drained, ?_, held.closed⟩
      intro chunk place here
      rcases at_complete here with old | ⟨_, rfl⟩
      · have inside := at_mem old
        rw [gone] at inside
        cases inside
      · exact drained
    · cases acted
  · cases acted

/-- Every action keeps the invariant. -/
theorem act_invariant {action : ReadAction T B}
    (held : Invariant decode serve shouldTerminate connected handler r₀ chunks s t)
    (acted : s.act decode serve shouldTerminate connected handler action = some s') :
    ∃ t', Invariant decode serve shouldTerminate connected handler r₀ chunks s' t' := by
  cases action with
  | continueRead => exact continue_read_invariant held acted
  | endOfStream =>
    simp only [Reading.act] at acted
    split at acted
    · rename_i ended
      cases acted
      exact ⟨t, held.represents, held.stream, held.idle, held.placed, fun _ => Or.inl ended.1⟩
    · cases acted
  | closeTerminated =>
    simp only [Reading.act] at acted
    split at acted
    · rename_i terminated
      cases acted
      have stop : stops shouldTerminate connected s.reader.state = true := by
        simp [stops, terminated]
      exact ⟨t, held.represents, held.stream, held.idle, held.placed,
        fun _ => Or.inr (held.stopped stop)⟩
    · cases acted
  | startTask k => exact ⟨t, start_task_invariant held acted⟩
  | taskStep k => exact ⟨t, task_step_invariant held acted⟩
  | completeTask k => exact complete_task_invariant held acted
  | other action =>
    simp only [Reading.act] at acted
    split at acted
    · rename_i other
      obtain ⟨pool, moved, rfl⟩ := Option.map_eq_some_iff.mp acted
      have represents := act_represents held.represents moved
      rw [foreign_on_actor other] at represents
      refine ⟨t, held.keep represents rfl rfl held.idle ?_⟩
      intro chunk place here
      exact held.placed chunk place (foreign_at other moved here)
    · cases acted

theorem begin_invariant (threads : Nat) :
    Invariant decode serve shouldTerminate connected handler r₀ chunks
      (Reading.begin threads chunks r₀) .idle where
  represents := idle_represents threads handler
  stream := rfl
  idle := fun _ => rfl
  placed := by
    intro chunk place here
    cases place <;> cases here
  closed := nofun

/-- In every run that has come to its end, the messages served are those that the blocking
    loop serves, unless the tasks were given one more behind the end of that loop. -/
theorem served_iff {threads : Nat}
    (runs : Runs (Reading.act decode serve shouldTerminate connected handler)
      (fun _ _ => True) (Reading.begin threads chunks r₀) s)
    (past : s.Over connected handler) :
    s.reader.log = (loop decode serve (stops shouldTerminate connected) r₀
        chunks.flatten).reader.log ↔
      ¬ MessageBehind decode serve (stops shouldTerminate connected) r₀
        (s.pool.submitted handler) := by
  obtain ⟨t, held⟩ : ∃ t, Invariant decode serve shouldTerminate connected handler r₀
      chunks s t := by
    apply run_invariant (fun s => ∃ t, Invariant decode serve shouldTerminate connected handler
      r₀ chunks s t) ⟨_, begin_invariant threads⟩ _ runs
    intro action before after _ held _ acted
    obtain ⟨t, held⟩ := held
    exact act_invariant held acted
  have idle : t.current = none := by
    have empty := past.1
    rw [held.represents.in_flight] at empty
    simpa using empty
  have history : s.pool.submitted handler = t.finished := by
    simp [held.represents.submitted, SerialActor.history, idle, t.busy idle]
  have drained := held.idle idle
  rw [← history] at drained
  have all : s.arriving.flatten = [] ∨ behind decode serve (stops shouldTerminate connected) r₀
      (s.pool.submitted handler) ≠ none := by
    rcases past.2 with empty | shut
    · exact Or.inl (by simp [empty])
    · by_cases up : stops shouldTerminate connected s.reader.state = true
      · exact Or.inr (held.stopped up)
      · have closed : s.chanOpen = false := by
          simp_all [stops, Reading.Readable]
        exact (held.closed closed).imp (fun empty => by simp [empty]) id
  have whole := logs_agree_iff r₀ (s.pool.submitted handler) all
  rw [← List.flatten_append, held.stream] at whole
  rw [drained]
  exact whole

end Runs

end ReadTasks
