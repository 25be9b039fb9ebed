import Mathlib.Algebra.BigOperators.Ring.Finset
import Mathlib.Algebra.Order.BigOperators.Group.Finset
import EmergencyService.Foundation.DrainingRuns
import EmergencyService.Server.ReadTasks

/- The pool comes to rest: once nothing is submitted any more, every schedule of its threads
   ends, and only when all tasks are finished. -/
namespace PoolProgress
open GuardedRuns DrainingRuns SerialTasks ActorPool ReadTasks

variable {T R : Type}

def submits : PoolAction T R → Bool
  | .submit _ _ => true
  | _ => false

/-- How many steps a worker is away from the end of its wrapper. -/
def stepsLeft (e : Execution T R) : Nat :=
  match e.phase with
  | .running => 2
  | .returned | .threw => 1

/-- Every task takes three steps: it is started, its `run` ends, and it is completed. -/
def weight (s : Schedule T R) : Nat :=
  ∑ a ∈ s.pool.playingNow, 3 * (s.pool.pending a).length + 3 * s.pool.handed.length +
    (s.pool.workers.map stepsLeft).sum

variable [DecidableEq T]

structure Serving (s : Schedule T R) : Prop where
  threads : 0 < s.pool.threads
  actors : ∀ a, ∃ t, Represents s a t

variable {s s' : Schedule T R} {k : Nat} {action : PoolAction T R}

theorem complete_threads (pool : ActorThreadPool T R) (a : T) :
    (pool.complete a).threads = pool.threads := by
  have made : (pool.pendingRunnablesOf a).2.threads = pool.threads := by
    unfold ActorThreadPool.pendingRunnablesOf
    cases pool.acts a <;> rfl
  cases queue : pool.pending a with
  | nil =>
    rw [ActorThreadPool.complete_last queue]
    exact made
  | cons r rest =>
    rw [ActorThreadPool.complete_next queue]
    rfl

theorem act_threads (acted : s.act action = some s') : s'.pool.threads = s.pool.threads := by
  cases action with
  | submit a r =>
    cases acted
    by_cases busy : a ∈ s.pool.playingNow
    · simp only [ActorThreadPool.submit_busy busy]
      rfl
    · simp only [ActorThreadPool.submit_idle busy]
      rfl
  | start k =>
    obtain ⟨pool, started, rfl⟩ := Option.map_eq_some_iff.mp acted
    obtain ⟨_, _, _, rfl⟩ := ActorThreadPool.start_some started
    rfl
  | returns k =>
    obtain ⟨pool, left, rfl⟩ := Option.map_eq_some_iff.mp acted
    obtain ⟨_, _, _, rfl⟩ := ActorThreadPool.leave_run_some left
    rfl
  | throws k =>
    obtain ⟨pool, left, rfl⟩ := Option.map_eq_some_iff.mp acted
    obtain ⟨_, _, _, rfl⟩ := ActorThreadPool.leave_run_some left
    rfl
  | complete k =>
    obtain ⟨e, _, _, rfl⟩ := complete_some acted
    exact complete_threads _ _

theorem act_serving (serving : Serving s) (acted : s.act action = some s') : Serving s' := by
  refine ⟨act_threads acted ▸ serving.threads, fun a => ?_⟩
  obtain ⟨t, represents⟩ := serving.actors a
  exact ⟨_, act_represents represents acted⟩

theorem sum_set {X : Type} (f : X → Nat) {l : List X} {x : X} (y : X)
    (found : l[k]? = some x) : ((l.set k y).map f).sum + f x = (l.map f).sum + f y := by
  induction l generalizing k with
  | nil => cases found
  | cons z l ih =>
    cases k with
    | zero =>
      obtain rfl : z = x := by simpa using found
      simp only [List.set_cons_zero, List.map_cons, List.sum_cons]
      omega
    | succ k =>
      have tail := ih (k := k) (by simpa using found)
      simp only [List.set_cons_succ, List.map_cons, List.sum_cons]
      omega

theorem sum_erase {X : Type} (f : X → Nat) {l : List X} {x : X} (found : l[k]? = some x) :
    ((l.eraseIdx k).map f).sum + f x = (l.map f).sum := by
  have moved := (ActorThreadPool.perm_of_get found).map f
  rw [moved.sum_eq, List.map_cons, List.sum_cons, Nat.add_comm]

theorem start_weight (acted : s.act (.start k) = some s') : weight s' + 1 = weight s := by
  obtain ⟨pool, started, rfl⟩ := Option.map_eq_some_iff.mp acted
  obtain ⟨a, task, found, rfl⟩ := ActorThreadPool.start_some started
  have one := (ActorThreadPool.perm_of_get found).length_eq
  rw [List.length_cons] at one
  have same : ∀ b, ActorThreadPool.pending { s.pool with
      handed := s.pool.handed.eraseIdx k
      workers := s.pool.workers ++ [⟨a, task, .running⟩] } b = s.pool.pending b := fun _ => rfl
  simp only [weight, Schedule.withPool, same, List.map_append, List.sum_append, List.map_cons,
    List.map_nil, List.sum_cons, List.sum_nil, stepsLeft]
  omega

omit [DecidableEq T] in
theorem leave_weight {phase : Phase} {pool : ActorThreadPool T R} (past : phase ≠ .running)
    (left : s.pool.leaveRun k phase = some pool) : weight (s.withPool pool) + 1 = weight s := by
  obtain ⟨a, task, found, rfl⟩ := ActorThreadPool.leave_run_some left
  have moved := sum_set stepsLeft (⟨a, task, phase⟩ : Execution T R) found
  have late : stepsLeft (⟨a, task, phase⟩ : Execution T R) = 1 := by
    cases phase with
    | running => exact absurd rfl past
    | returned => rfl
    | threw => rfl
  have early : stepsLeft (⟨a, task, .running⟩ : Execution T R) = 2 := rfl
  rw [late, early] at moved
  have same : ∀ b, ActorThreadPool.pending { s.pool with
      workers := s.pool.workers.set k ⟨a, task, phase⟩ } b = s.pool.pending b := fun _ => rfl
  simp only [weight, Schedule.withPool, same]
  omega

theorem worker_playing (serving : Serving s) {e : Execution T R}
    (found : s.pool.workers[k]? = some e) : e.act ∈ s.pool.playingNow := by
  obtain ⟨t, represents⟩ := serving.actors e.act
  have here : At s.pool e.act e.task (some e.phase) := List.mem_of_getElem? found
  rw [represents.holds.playing, at_current represents.holds here]
  exact Option.some_ne_none _

theorem made_lists (pool : ActorThreadPool T R) (a : T) :
    (pool.pendingRunnablesOf a).2.handed = pool.handed ∧
      (pool.pendingRunnablesOf a).2.workers = pool.workers := by
  unfold ActorThreadPool.pendingRunnablesOf
  cases pool.acts a <;> exact ⟨rfl, rfl⟩

theorem complete_weight (serving : Serving s) (acted : s.act (.complete k) = some s') :
    weight s' + 1 = weight s := by
  obtain ⟨e, found, past, rfl⟩ := complete_some acted
  have playing := worker_playing serving found
  have dropped := sum_erase stepsLeft found
  have last : stepsLeft e = 1 := by
    cases phase : e.phase with
    | running => exact absurd phase past
    | returned => simp [stepsLeft, phase]
    | threw => simp [stepsLeft, phase]
  have whole : weight s = 3 * (s.pool.pending e.act).length +
      ∑ a ∈ s.pool.playingNow.erase e.act, 3 * (s.pool.pending a).length +
      3 * s.pool.handed.length + (s.pool.workers.map stepsLeft).sum := by
    rw [weight, ← Finset.add_sum_erase _ _ playing]
  cases queue : s.pool.pending e.act with
  | nil =>
    have ended : (s.pool.dropWorker k).complete e.act = _ :=
      ActorThreadPool.complete_last queue
    obtain ⟨handed, workers⟩ := made_lists (s.pool.dropWorker k) e.act
    have queues : ∀ a, ((s.pool.dropWorker k).complete e.act).pending a = s.pool.pending a := by
      intro a
      rw [ended, ActorThreadPool.pending_set_playing, ActorThreadPool.pending_made]
      rfl
    have kept : ((s.pool.dropWorker k).complete e.act).handed = s.pool.handed := by
      rw [ended]
      exact handed
    have left : ((s.pool.dropWorker k).complete e.act).workers = s.pool.workers.eraseIdx k := by
      rw [ended]
      exact workers
    have idle : ((s.pool.dropWorker k).complete e.act).playingNow =
        s.pool.playingNow.erase e.act := by
      rw [ended]
      rfl
    rw [whole, queue, weight]
    simp only [queues, kept, left, idle, List.length_nil]
    omega
  | cons r rest =>
    have next : (s.pool.dropWorker k).complete e.act = _ :=
      ActorThreadPool.complete_next queue
    have queues : ∀ a, ((s.pool.dropWorker k).complete e.act).pending a =
        if a = e.act then rest else s.pool.pending a := by
      intro a
      rw [next, ActorThreadPool.pending_execute, ActorThreadPool.pending_set_acts]
      rfl
    have kept : ((s.pool.dropWorker k).complete e.act).handed.length =
        s.pool.handed.length + 1 := by
      rw [next]
      exact List.length_append
    have left : ((s.pool.dropWorker k).complete e.act).workers = s.pool.workers.eraseIdx k := by
      rw [next]
      rfl
    have busy : ((s.pool.dropWorker k).complete e.act).playingNow = s.pool.playingNow := by
      rw [next]
      rfl
    have others : ∑ a ∈ s.pool.playingNow.erase e.act,
          3 * (if a = e.act then rest else s.pool.pending a).length =
        ∑ a ∈ s.pool.playingNow.erase e.act, 3 * (s.pool.pending a).length := by
      apply Finset.sum_congr rfl
      intro a member
      rw [if_neg (Finset.ne_of_mem_erase member)]
    rw [whole, queue, weight]
    simp only [queues, kept, left, busy]
    rw [← Finset.add_sum_erase _ _ playing, others, if_pos rfl, List.length_cons]
    omega

theorem act_weight (serving : Serving s) (inner : submits action = false)
    (acted : s.act action = some s') : weight s' + 1 = weight s := by
  cases action with
  | submit a r => cases inner
  | start k => exact start_weight acted
  | returns k =>
    obtain ⟨pool, left, rfl⟩ := Option.map_eq_some_iff.mp acted
    have past : Phase.returned ≠ .running := by decide
    exact leave_weight past left
  | throws k =>
    obtain ⟨pool, left, rfl⟩ := Option.map_eq_some_iff.mp acted
    have past : Phase.threw ≠ .running := by decide
    exact leave_weight past left
  | complete k => exact complete_weight serving acted

theorem idle_finished (serving : Serving s) (empty : s.pool.out = []) (a : T) :
    s.finished a = s.submitted a ∧ a ∉ s.pool.playingNow := by
  obtain ⟨t, represents⟩ := serving.actors a
  have idle : t.current = none := by
    have current := represents.holds.current
    rw [empty] at current
    exact Option.toList_eq_nil_iff.mp current.symm.eq_nil
  refine ⟨?_, ?_⟩
  · rw [represents.finished, represents.submitted, SerialActor.history, idle, t.busy idle]
    simp
  · rw [represents.holds.playing, idle]
    simp

theorem finished_weight (serving : Serving s) (all : ∀ a, s.finished a = s.submitted a) :
    weight s = 0 := by
  have idle : ∀ a, tasksOf a s.pool.out = [] ∧ a ∉ s.pool.playingNow := by
    intro a
    obtain ⟨t, represents⟩ := serving.actors a
    have whole := all a
    rw [represents.finished, represents.submitted, SerialActor.history, List.append_assoc] at whole
    have rest : t.current.toList ++ t.pending = [] :=
      List.append_cancel_left (whole.symm.trans (List.append_nil _).symm)
    have current : t.current = none :=
      Option.toList_eq_nil_iff.mp (List.append_eq_nil_iff.mp rest).1
    have held := represents.holds.current
    rw [current] at held
    refine ⟨held.eq_nil, ?_⟩
    rw [represents.holds.playing, current]
    simp
  have out : s.pool.out = [] := by
    apply List.eq_nil_iff_forall_not_mem.mpr
    rintro ⟨a, task⟩ member
    have mine := mem_tasks_of.mpr member
    rw [(idle a).1] at mine
    cases mine
  obtain ⟨handed, workers⟩ := List.append_eq_nil_iff.mp out
  have playing : s.pool.playingNow = ∅ :=
    Finset.eq_empty_of_forall_notMem fun a => (idle a).2
  simp [weight, playing, handed, List.map_eq_nil_iff.mp workers]

theorem step_possible (serving : Serving s) (left : s.pool.out ≠ []) :
    ∃ action s', submits action = false ∧ s.act action = some s' := by
  cases workers : s.pool.workers with
  | cons e rest =>
    obtain ⟨a, task, phase⟩ := e
    cases phase with
    | running =>
      refine ⟨.returns 0, s.withPool { s.pool with
        workers := s.pool.workers.set 0 ⟨a, task, .returned⟩ }, rfl, ?_⟩
      simp [Schedule.act, ActorThreadPool.leaveRun, workers]
    | returned => exact ⟨.complete 0, _, rfl, by simp [Schedule.act, workers]; rfl⟩
    | threw => exact ⟨.complete 0, _, rfl, by simp [Schedule.act, workers]; rfl⟩
  | nil =>
    cases handed : s.pool.handed with
    | nil => exact absurd (by simp [ActorThreadPool.out, handed, workers]) left
    | cons next rest =>
      have free := serving.threads
      exact ⟨.start 0, _, rfl,
        by simp [Schedule.act, ActorThreadPool.start, workers, handed, free]; rfl⟩

theorem serving_drains : Draining (Schedule.act (T := T) (R := R))
    (fun action => submits action = false) Serving weight where
  keeps _ _ _ serving _ acted := act_serving serving acted
  lowers _ _ _ serving inner acted := by
    have := act_weight serving inner acted
    omega
  enabled s serving heavy := by
    apply step_possible serving
    intro empty
    exact heavy (finished_weight serving fun a => (idle_finished serving empty a).1)

theorem reached_serving {threads : Nat} (positive : 0 < threads)
    (runs : Runs Schedule.act (fun _ _ => True) (Schedule.idle threads) s) : Serving s := by
  apply run_invariant Serving _ _ runs
  · exact ⟨positive, fun a => ⟨_, idle_represents threads a⟩⟩
  · intro action before after _ serving _ acted
    exact act_serving serving acted

/-- Once nothing more is submitted, every schedule of the threads ends, and it can only end
    when every task of every actor is finished, also where tasks have thrown. -/
theorem pool_drains {threads : Nat} {actions : List (PoolAction T R)} (positive : 0 < threads)
    (runs : Runs Schedule.act (fun _ _ => True) (Schedule.idle threads) s)
    (inner : ∀ action ∈ actions, submits action = false)
    (ran : acts Schedule.act actions s = some s') :
    actions.length ≤ weight s ∧
      ((∀ action, submits action = false → s'.act action = none) ↔
        ∀ a, s'.finished a = s'.submitted a) := by
  have serving := reached_serving positive runs
  obtain ⟨after, bound⟩ := draining_bound serving_drains serving inner ran
  refine ⟨by omega, (over_iff serving_drains after).trans ⟨?_, finished_weight after⟩⟩
  intro light a
  by_contra behind
  have busy : s'.pool.out ≠ [] := fun empty => behind (idle_finished after empty a).1
  obtain ⟨action, next, quiet, acted⟩ := step_possible after busy
  have lower := serving_drains.lowers action s' next after quiet acted
  omega

/-- Two tasks of one actor, the first of which throws, on one thread. -/
theorem drained_after_throw :
    ∃ s s' : Schedule Nat Nat,
      acts Schedule.act [.submit 0 10, .submit 0 11] (Schedule.idle 1) = some s ∧
      acts Schedule.act [.start 0, .throws 0, .complete 0, .start 0, .returns 0, .complete 0] s =
        some s' ∧
      6 ≤ weight s ∧
      ((∀ action, submits action = false → s'.act action = none) ↔
        ∀ a, s'.finished a = s'.submitted a) := by
  obtain ⟨s, first⟩ := Option.isSome_iff_exists.mp (show (acts Schedule.act
    [.submit 0 10, .submit 0 11] (Schedule.idle 1 : Schedule Nat Nat)).isSome = true from rfl)
  have second : (acts Schedule.act [.start 0, .throws 0, .complete 0, .start 0, .returns 0,
      .complete 0] s).isSome = true := by
    obtain rfl := Option.some.inj first
    rfl
  obtain ⟨s', acted⟩ := Option.isSome_iff_exists.mp second
  exact ⟨s, s', first, acted,
    pool_drains (by decide) (run_of_acts _ first) (by simp [submits]) acted⟩

end PoolProgress
