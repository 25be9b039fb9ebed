import Mathlib.Data.Finset.Erase
import Mathlib.Data.Finset.Insert
import Mathlib.Data.List.Perm.Basic
import EmergencyService.Foundation.GuardedRuns
import EmergencyService.Foundation.SerialTasks

/- The pool of the reactor: `submit` and `complete` of one actor exclude each other, and the
   executor runs every task that it is handed once. -/
namespace ActorPool
open GuardedRuns SerialTasks

/-- Where a worker is inside the wrapper that `execute` hands over: in `run`, or behind it,
    in front of `complete`. -/
inductive Phase where
  | running | returned | threw
  deriving DecidableEq, Repr

structure Execution (T R : Type) where
  act : T
  task : R
  phase : Phase

/-- `acts` makes a queue for an actor when it is first asked for; `handed` is the queue of
    the executor. -/
structure ActorThreadPool (T R : Type) where
  threads : Nat
  acts : T → Option (List R)
  playingNow : Finset T
  handed : List (T × R)
  workers : List (Execution T R)

variable {T R : Type}

def Execution.work (e : Execution T R) : T × R := (e.act, e.task)

namespace ActorThreadPool
variable (pool : ActorThreadPool T R) (act : T) (r : R)

def new (threads : Nat) : ActorThreadPool T R := ⟨threads, fun _ => none, ∅, [], []⟩

def execute : ActorThreadPool T R := { pool with handed := pool.handed ++ [(act, r)] }

def start (k : Nat) : Option (ActorThreadPool T R) :=
  if pool.workers.length < pool.threads then
    match pool.handed[k]? with
    | some (act, task) => some { pool with
        handed := pool.handed.eraseIdx k
        workers := pool.workers ++ [⟨act, task, .running⟩] }
    | none => none
  else none

/-- `run` of a task returns or throws. -/
def leaveRun (k : Nat) (phase : Phase) : Option (ActorThreadPool T R) :=
  match pool.workers[k]? with
  | some ⟨act, task, .running⟩ =>
      some { pool with workers := pool.workers.set k ⟨act, task, phase⟩ }
  | _ => none

def setPlaying (playing : Finset T) : ActorThreadPool T R := { pool with playingNow := playing }

def dropWorker (k : Nat) : ActorThreadPool T R :=
  { pool with workers := pool.workers.eraseIdx k }

/-- Everything that the executor has: waiting for a worker, or with one. -/
def out : List (T × R) := pool.handed ++ pool.workers.map Execution.work

/-- What is in the queue of an actor, if it has been made. -/
def pending : List R := (pool.acts act).getD []

section Executor
variable {pool pool' : ActorThreadPool T R} {k : Nat} {phase : Phase}

theorem perm_of_get {X : Type} {l : List X} {x : X} (found : l[k]? = some x) :
    l.Perm (x :: l.eraseIdx k) := by
  obtain ⟨bound, rfl⟩ := List.getElem?_eq_some_iff.mp found
  exact (List.getElem_cons_eraseIdx_perm bound).symm

theorem out_execute (pool : ActorThreadPool T R) (a : T) (r : R) :
    (pool.execute a r).out.Perm ((a, r) :: pool.out) := by
  simp [out, execute]

@[simp] theorem out_set_playing (pool : ActorThreadPool T R) (playing : Finset T) :
    (pool.setPlaying playing).out = pool.out := rfl

@[simp] theorem pending_set_playing (pool : ActorThreadPool T R) (a : T) (playing : Finset T) :
    (pool.setPlaying playing).pending a = pool.pending a := rfl

@[simp] theorem playing_set_playing (pool : ActorThreadPool T R) (playing : Finset T) :
    (pool.setPlaying playing).playingNow = playing := rfl

@[simp] theorem playing_drop_worker (pool : ActorThreadPool T R) (k : Nat) :
    (pool.dropWorker k).playingNow = pool.playingNow := rfl

@[simp] theorem pending_execute (pool : ActorThreadPool T R) (a b : T) (r : R) :
    (pool.execute a r).pending b = pool.pending b := rfl

@[simp] theorem playing_execute (pool : ActorThreadPool T R) (a : T) (r : R) :
    (pool.execute a r).playingNow = pool.playingNow := rfl

theorem start_some (started : pool.start k = some pool') :
    ∃ act task, pool.handed[k]? = some (act, task) ∧ pool' = { pool with
      handed := pool.handed.eraseIdx k
      workers := pool.workers ++ [⟨act, task, .running⟩] } := by
  unfold start at started
  split at started
  · split at started
    · rename_i act task found
      exact ⟨act, task, found, (Option.some.inj started).symm⟩
    · cases started
  · cases started

theorem leave_run_some (left : pool.leaveRun k phase = some pool') :
    ∃ act task, pool.workers[k]? = some ⟨act, task, .running⟩ ∧
      pool' = { pool with workers := pool.workers.set k ⟨act, task, phase⟩ } := by
  unfold leaveRun at left
  split at left
  · rename_i act task found
    exact ⟨act, task, found, (Option.some.inj left).symm⟩
  · cases left

theorem start_out (started : pool.start k = some pool') : pool'.out.Perm pool.out := by
  obtain ⟨act, task, found, rfl⟩ := start_some started
  have taken := perm_of_get found
  have moved : (pool.handed.eraseIdx k ++ (pool.workers.map Execution.work ++
      [(act, task)])).Perm ((act, task) :: (pool.handed.eraseIdx k ++
      pool.workers.map Execution.work)) := by
    rw [← List.append_assoc]
    exact List.perm_append_singleton _ _
  simpa [out, Execution.work] using moved.trans (taken.symm.append_right _)

theorem leave_run_out (left : pool.leaveRun k phase = some pool') : pool'.out = pool.out := by
  obtain ⟨act, task, found, rfl⟩ := leave_run_some left
  have stored : (pool.workers.map Execution.work)[k]? = some (act, task) := by
    simp [found, Execution.work]
  obtain ⟨bound, here⟩ := List.getElem?_eq_some_iff.mp stored
  have kept : (pool.workers.map Execution.work).set k (act, task) =
      pool.workers.map Execution.work := by
    rw [← here]
    exact List.set_getElem_self bound
  simp only [out, List.map_set]
  exact congrArg _ kept

theorem drop_worker_out {e : Execution T R} (found : pool.workers[k]? = some e) :
    pool.out.Perm (e.work :: (pool.dropWorker k).out) := by
  have taken := (perm_of_get found).map Execution.work
  exact (taken.append_left pool.handed).trans List.perm_middle

end Executor

variable [DecidableEq T]

def setActs (queue : List R) : ActorThreadPool T R :=
  { pool with acts := Function.update pool.acts act (some queue) }

def pendingRunnablesOf : List R × ActorThreadPool T R :=
  match pool.acts act with
  | some pendingRunnables => (pendingRunnables, pool)
  | none => ([], pool.setActs act [])

def submit : ActorThreadPool T R :=
  if act ∉ pool.playingNow then
    (pool.setPlaying (insert act pool.playingNow)).execute act r
  else
    let (pending, pool) := pool.pendingRunnablesOf act
    pool.setActs act (pending ++ [r])

def complete : ActorThreadPool T R :=
  let (pending, pool) := pool.pendingRunnablesOf act
  match pending with
  | [] => pool.setPlaying (pool.playingNow.erase act)
  | r :: rest => (pool.setActs act rest).execute act r

section Actors
variable {pool : ActorThreadPool T R} {a : T} {r : R}

theorem pending_set_acts (pool : ActorThreadPool T R) (a b : T) (queue : List R) :
    (pool.setActs a queue).pending b = if b = a then queue else pool.pending b := by
  by_cases here : b = a
  · subst here
    simp [pending, setActs]
  · simp [pending, setActs, here]

@[simp] theorem out_set_acts (pool : ActorThreadPool T R) (a : T) (queue : List R) :
    (pool.setActs a queue).out = pool.out := rfl

@[simp] theorem playing_set_acts (pool : ActorThreadPool T R) (a : T) (queue : List R) :
    (pool.setActs a queue).playingNow = pool.playingNow := rfl

theorem pending_runnables_eq (pool : ActorThreadPool T R) (a : T) :
    (pool.pendingRunnablesOf a).1 = pool.pending a := by
  unfold pendingRunnablesOf pending
  cases pool.acts a <;> rfl

theorem pending_made (pool : ActorThreadPool T R) (a b : T) :
    (pool.pendingRunnablesOf a).2.pending b = pool.pending b := by
  unfold pendingRunnablesOf
  cases made : pool.acts a with
  | some queue => rfl
  | none =>
    rw [pending_set_acts]
    split
    · rename_i here
      subst here
      simp [pending, made]
    · rfl

theorem made_set_acts (pool : ActorThreadPool T R) (a : T) (queue : List R) :
    (pool.pendingRunnablesOf a).2.setActs a queue = pool.setActs a queue := by
  unfold pendingRunnablesOf
  cases pool.acts a <;> simp [setActs]

theorem made_out (pool : ActorThreadPool T R) (a : T) :
    (pool.pendingRunnablesOf a).2.out = pool.out := by
  unfold pendingRunnablesOf
  cases pool.acts a <;> rfl

theorem made_playing (pool : ActorThreadPool T R) (a : T) :
    (pool.pendingRunnablesOf a).2.playingNow = pool.playingNow := by
  unfold pendingRunnablesOf
  cases pool.acts a <;> rfl

theorem submit_idle (idle : a ∉ pool.playingNow) :
    pool.submit a r = (pool.setPlaying (insert a pool.playingNow)).execute a r :=
  if_pos idle

theorem submit_busy (busy : a ∈ pool.playingNow) :
    pool.submit a r = pool.setActs a (pool.pending a ++ [r]) := by
  have taken : ¬ (a ∉ pool.playingNow) := fun idle => idle busy
  rw [submit, if_neg taken]
  simp only [pending_runnables_eq, made_set_acts]

theorem complete_last (last : pool.pending a = []) :
    pool.complete a =
      (pool.pendingRunnablesOf a).2.setPlaying (pool.playingNow.erase a) := by
  simp only [complete, pending_runnables_eq, last, made_playing]

theorem complete_next {rest : List R} (next : pool.pending a = r :: rest) :
    pool.complete a = (pool.setActs a rest).execute a r := by
  simp only [complete, pending_runnables_eq, next, made_set_acts]

end Actors

end ActorThreadPool

def tasksOf [DecidableEq T] (act : T) (work : List (T × R)) : List R :=
  (work.filter fun entry => entry.1 = act).map Prod.snd

inductive PoolAction (T R : Type) where
  | submit : T → R → PoolAction T R
  | start : Nat → PoolAction T R
  | returns : Nat → PoolAction T R
  | throws : Nat → PoolAction T R
  | complete : Nat → PoolAction T R

/-- The pool with what has been submitted to it and what it has finished. -/
structure Schedule (T R : Type) where
  pool : ActorThreadPool T R
  submitted : T → List R
  finished : T → List R

namespace Schedule
variable [DecidableEq T] (s : Schedule T R)

def idle (threads : Nat) : Schedule T R := ⟨.new threads, fun _ => [], fun _ => []⟩

def withPool (pool : ActorThreadPool T R) : Schedule T R := { s with pool := pool }

def act : PoolAction T R → Option (Schedule T R)
  | .submit a r => some
      { pool := s.pool.submit a r
        submitted := Function.update s.submitted a (s.submitted a ++ [r])
        finished := s.finished }
  | .start k => (s.pool.start k).map s.withPool
  | .returns k => (s.pool.leaveRun k .returned).map s.withPool
  | .throws k => (s.pool.leaveRun k .threw).map s.withPool
  | .complete k =>
      match s.pool.workers[k]? with
      | none => none
      | some ⟨_, _, .running⟩ => none
      | some ⟨a, task, _⟩ => some
          { pool := (s.pool.dropWorker k).complete a
            submitted := s.submitted
            finished := Function.update s.finished a (s.finished a ++ [task]) }

/-- The tasks of an actor that the executor has. -/
def inFlight (a : T) : List R := tasksOf a s.pool.out

end Schedule

section Serial
variable [DecidableEq T] {s s' : Schedule T R} {action : PoolAction T R} {t : SerialActor R}

theorem tasks_of_cons (a b : T) (r : R) (work : List (T × R)) :
    tasksOf a ((b, r) :: work) = if b = a then r :: tasksOf a work else tasksOf a work := by
  by_cases here : b = a <;> simp [tasksOf, here]

theorem tasks_of_perm (a : T) {work work' : List (T × R)} (same : work.Perm work') :
    (tasksOf a work).Perm (tasksOf a work') := by
  apply List.Perm.map
  exact same.filter _

/-- Nothing that belongs to the actor has changed in the pool. -/
structure SameFor (a : T) (pool pool' : ActorThreadPool T R) : Prop where
  out : (tasksOf a pool'.out).Perm (tasksOf a pool.out)
  pending : pool'.pending a = pool.pending a
  playing : a ∈ pool'.playingNow ↔ a ∈ pool.playingNow

variable {a b : T} {r : R} {k : Nat} {pool pool' pool'' : ActorThreadPool T R}

theorem SameFor.trans (first : SameFor a pool pool') (second : SameFor a pool' pool'') :
    SameFor a pool pool'' where
  out := second.out.trans first.out
  pending := second.pending.trans first.pending
  playing := second.playing.trans first.playing

theorem execute_same (other : b ≠ a) : SameFor a pool (pool.execute b r) where
  out := by
    have added := tasks_of_perm a (pool.out_execute b r)
    rwa [tasks_of_cons, if_neg other] at added
  pending := rfl
  playing := Iff.rfl

theorem set_acts_same (other : b ≠ a) (queue : List R) :
    SameFor a pool (pool.setActs b queue) where
  out := List.Perm.refl _
  pending := by rw [ActorThreadPool.pending_set_acts, if_neg other.symm]
  playing := Iff.rfl

theorem submit_same (other : b ≠ a) : SameFor a pool (pool.submit b r) := by
  by_cases busy : b ∈ pool.playingNow
  · rw [ActorThreadPool.submit_busy busy]
    exact set_acts_same other _
  · rw [ActorThreadPool.submit_idle busy]
    apply SameFor.trans _ (execute_same other)
    exact ⟨List.Perm.refl _, rfl, by simp [other.symm]⟩

theorem complete_same (other : b ≠ a) : SameFor a pool (pool.complete b) := by
  cases queue : pool.pending b with
  | nil =>
    rw [ActorThreadPool.complete_last queue]
    constructor
    · exact (congrArg (tasksOf a) (pool.made_out b)).symm ▸ List.Perm.refl _
    · exact pool.pending_made b a
    · simp [other.symm]
  | cons next rest =>
    rw [ActorThreadPool.complete_next queue]
    exact (set_acts_same other rest).trans (execute_same other)

theorem drop_worker_same {e : Execution T R} (found : pool.workers[k]? = some e)
    (other : e.act ≠ a) : SameFor a pool (pool.dropWorker k) where
  out := by
    have dropped := tasks_of_perm a (ActorThreadPool.drop_worker_out found)
    rw [Execution.work, tasks_of_cons, if_neg other] at dropped
    exact dropped.symm
  pending := rfl
  playing := Iff.rfl

theorem start_same (started : pool.start k = some pool') : SameFor a pool pool' := by
  have moved := tasks_of_perm a (ActorThreadPool.start_out started)
  obtain ⟨_, _, _, rfl⟩ := ActorThreadPool.start_some started
  exact ⟨moved, rfl, Iff.rfl⟩

theorem leave_run_same {phase : Phase} (left : pool.leaveRun k phase = some pool') :
    SameFor a pool pool' := by
  have kept := congrArg (tasksOf a) (ActorThreadPool.leave_run_out left)
  obtain ⟨_, _, _, rfl⟩ := ActorThreadPool.leave_run_some left
  exact ⟨kept ▸ List.Perm.refl _, rfl, Iff.rfl⟩

/-- What the pool has of one actor is a serial actor. -/
structure Holds (pool : ActorThreadPool T R) (a : T) (t : SerialActor R) : Prop where
  current : (tasksOf a pool.out).Perm t.current.toList
  pending : pool.pending a = t.pending
  playing : a ∈ pool.playingNow ↔ t.current ≠ none

theorem Holds.same (holds : Holds pool a t) (same : SameFor a pool pool') : Holds pool' a t where
  current := same.out.trans holds.current
  pending := same.pending.trans holds.pending
  playing := same.playing.trans holds.playing

theorem holds_submit (holds : Holds pool a t) : Holds (pool.submit a r) a (t.submit r) := by
  cases isCurrent : t.current with
  | none =>
    have idle : a ∉ pool.playingNow := fun busy => holds.playing.mp busy isCurrent
    have added := tasks_of_perm a
      ((pool.setPlaying (insert a pool.playingNow)).out_execute a r)
    have none : (tasksOf a pool.out).Perm [] := by simpa [isCurrent] using holds.current
    rw [tasks_of_cons, if_pos rfl] at added
    rw [ActorThreadPool.submit_idle idle]
    constructor
    · simpa [SerialActor.submit, isCurrent] using added.trans (none.cons r)
    · have empty : pool.pending a = [] := holds.pending.trans (t.busy isCurrent)
      simpa [SerialActor.submit, isCurrent] using empty
    · simp [SerialActor.submit, isCurrent]
  | some current =>
    have busy : a ∈ pool.playingNow := holds.playing.mpr (by simp [isCurrent])
    rw [ActorThreadPool.submit_busy busy]
    constructor
    · simpa [SerialActor.submit, isCurrent] using holds.current
    · simp [SerialActor.submit, isCurrent, ActorThreadPool.pending_set_acts, holds.pending]
    · simpa [SerialActor.submit, isCurrent] using busy

theorem drop_worker_gone {e : Execution T R} (found : pool.workers[k]? = some e)
    (own : e.act = a) (holds : Holds pool a t) :
    t.current = some e.task ∧ tasksOf a (pool.dropWorker k).out = [] := by
  have dropped := tasks_of_perm a (ActorThreadPool.drop_worker_out found)
  rw [Execution.work, tasks_of_cons, if_pos own] at dropped
  have single := dropped.symm.trans holds.current
  cases current : t.current with
  | none => simp [current] at single
  | some task =>
    rw [current, Option.toList_some, List.perm_singleton] at single
    simp_all

theorem holds_complete {e : Execution T R} (found : pool.workers[k]? = some e)
    (own : e.act = a) (holds : Holds pool a t) :
    Holds ((pool.dropWorker k).complete a) a t.finish := by
  obtain ⟨isCurrent, gone⟩ := drop_worker_gone found own holds
  have queue : (pool.dropWorker k).pending a = t.pending := holds.pending
  cases waiting : t.pending with
  | nil =>
    rw [waiting] at queue
    rw [ActorThreadPool.complete_last queue]
    constructor
    · have same : tasksOf a ((pool.dropWorker k).pendingRunnablesOf a).2.out = [] := by
        rw [ActorThreadPool.made_out, gone]
      simpa [SerialActor.finish, waiting] using same
    · have same := (pool.dropWorker k).pending_made a a
      rw [queue] at same
      simpa [SerialActor.finish, waiting] using same
    · simp [SerialActor.finish, waiting]
  | cons next rest =>
    rw [waiting] at queue
    have added := tasks_of_perm a
      (((pool.dropWorker k).setActs a rest).out_execute a next)
    rw [tasks_of_cons, if_pos rfl] at added
    have busy : a ∈ pool.playingNow := holds.playing.mpr (by simp [isCurrent])
    rw [ActorThreadPool.complete_next queue]
    constructor
    · have same : tasksOf a ((pool.dropWorker k).setActs a rest).out = [] := gone
      rw [same] at added
      simpa [SerialActor.finish, waiting] using added
    · have stored := (pool.dropWorker k).pending_set_acts a a rest
      simpa [SerialActor.finish, waiting] using stored
    · simpa [SerialActor.finish, waiting] using busy

structure Represents (s : Schedule T R) (a : T) (t : SerialActor R) : Prop where
  holds : Holds s.pool a t
  finished : s.finished a = t.finished
  submitted : s.submitted a = t.history

def onActor (s : Schedule T R) (a : T) (action : PoolAction T R) (t : SerialActor R) :
    SerialActor R :=
  match action with
  | .submit b r => if b = a then t.submit r else t
  | .complete k =>
      match s.pool.workers[k]? with
      | some e => if e.act = a then t.finish else t
      | none => t
  | _ => t

theorem submit_represents (represents : Represents s a t) :
    s.act (.submit b r) = some s' → Represents s' a (onActor s a (.submit b r) t) := by
  intro acted
  cases acted
  by_cases own : b = a
  · subst own
    simp only [onActor, ↓reduceIte]
    constructor
    · exact holds_submit represents.holds
    · rw [represents.finished]
      unfold SerialActor.submit
      split <;> rfl
    · simp [represents.submitted]
  · simp only [onActor, own, ↓reduceIte]
    constructor
    · exact represents.holds.same (submit_same own)
    · exact represents.finished
    · simpa [Function.update_of_ne (Ne.symm own)] using represents.submitted

theorem complete_some (acted : s.act (.complete k) = some s') :
    ∃ e, s.pool.workers[k]? = some e ∧ e.phase ≠ .running ∧ s' =
      { pool := (s.pool.dropWorker k).complete e.act
        submitted := s.submitted
        finished := Function.update s.finished e.act (s.finished e.act ++ [e.task]) } := by
  simp only [Schedule.act] at acted
  split at acted
  · cases acted
  · cases acted
  · rename_i b task phase past found
    exact ⟨⟨b, task, phase⟩, found, past, (Option.some.inj acted).symm⟩

theorem complete_represents (represents : Represents s a t) :
    s.act (.complete k) = some s' → Represents s' a (onActor s a (.complete k) t) := by
  intro acted
  obtain ⟨e, found, _, rfl⟩ := complete_some acted
  by_cases own : e.act = a
  · simp only [onActor, found, own, ↓reduceIte]
    obtain ⟨current, _⟩ := drop_worker_gone found own represents.holds
    constructor
    · exact holds_complete found own represents.holds
    · simp [SerialActor.finish, current, represents.finished]
    · simp [represents.submitted]
  · simp only [onActor, found, own, ↓reduceIte]
    constructor
    · exact represents.holds.same ((drop_worker_same found own).trans (complete_same own))
    · simpa [Function.update_of_ne (Ne.symm own)] using represents.finished
    · exact represents.submitted

theorem act_represents (represents : Represents s a t) (acted : s.act action = some s') :
    Represents s' a (onActor s a action t) := by
  have inside : ∀ moved : Option (ActorThreadPool T R),
      (∀ pool', moved = some pool' → SameFor a s.pool pool') →
      moved.map s.withPool = some s' → Represents s' a t := by
    intro moved same acted
    obtain ⟨pool', isMoved, rfl⟩ := Option.map_eq_some_iff.mp acted
    exact ⟨represents.holds.same (same pool' isMoved), represents.finished,
      represents.submitted⟩
  cases action with
  | submit b r => exact submit_represents represents acted
  | start k => exact inside _ (fun _ => start_same) acted
  | returns k => exact inside _ (fun _ => leave_run_same) acted
  | throws k => exact inside _ (fun _ => leave_run_same) acted
  | complete k => exact complete_represents represents acted

theorem idle_represents (threads : Nat) (a : T) :
    Represents (Schedule.idle threads : Schedule T R) a .idle where
  holds := ⟨List.Perm.refl _, rfl, by simp [Schedule.idle, ActorThreadPool.new, SerialActor.idle]⟩
  finished := rfl
  submitted := rfl

theorem reached_represents {threads : Nat} (a : T)
    (runs : Runs Schedule.act (fun _ _ => True) (Schedule.idle threads) s) :
    ∃ t, Represents s a t := by
  apply run_invariant (fun s => ∃ t, Represents s a t) ⟨_, idle_represents threads a⟩ _ runs
  intro action before after _ held _ acted
  obtain ⟨t, represents⟩ := held
  exact ⟨_, act_represents represents acted⟩

theorem Represents.in_flight (represents : Represents s a t) :
    s.inFlight a = t.current.toList := by
  have same : (s.inFlight a).Perm t.current.toList := represents.holds.current
  cases current : t.current with
  | none => exact List.Perm.eq_nil (by simpa [current] using same)
  | some task => exact List.perm_singleton.mp (by simpa [current] using same)

/-- Every actor has at most one task in flight, is playing exactly then, and its tasks are
    finished, in flight and pending in the order in which they were submitted. -/
theorem serial_execution {threads : Nat} (a : T)
    (runs : Runs Schedule.act (fun _ _ => True) (Schedule.idle threads) s) :
    (s.inFlight a).length ≤ 1 ∧ (a ∈ s.pool.playingNow ↔ s.inFlight a ≠ []) ∧
      s.submitted a = s.finished a ++ s.inFlight a ++ s.pool.pending a := by
  obtain ⟨t, represents⟩ := reached_represents a runs
  rw [represents.in_flight, represents.holds.playing, represents.holds.pending,
    represents.finished, represents.submitted]
  refine ⟨?_, ?_, rfl⟩
  · cases t.current <;> simp
  · cases t.current <;> simp

/-- Two actors on one thread; the first task of actor 0 throws. -/
theorem thrown_task_followed :
    ∃ s : Schedule Nat Nat,
      acts Schedule.act [.submit 0 10, .submit 1 20, .submit 0 11, .start 0, .throws 0,
        .complete 0, .start 1, .submit 0 12] (Schedule.idle 1) = some s ∧
      (s.inFlight 0).length ≤ 1 ∧ (0 ∈ s.pool.playingNow ↔ s.inFlight 0 ≠ []) ∧
        s.submitted 0 = s.finished 0 ++ s.inFlight 0 ++ s.pool.pending 0 := by
  obtain ⟨s, acted⟩ := Option.isSome_iff_exists.mp (show (acts Schedule.act
    [.submit 0 10, .submit 1 20, .submit 0 11, .start 0, .throws 0, .complete 0, .start 1,
      .submit 0 12] (Schedule.idle 1 : Schedule Nat Nat)).isSome = true from rfl)
  exact ⟨s, acted, serial_execution 0 (run_of_acts _ acted)⟩

end Serial

end ActorPool
