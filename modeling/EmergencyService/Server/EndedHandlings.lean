import EmergencyService.Foundation.GuardedRuns
import EmergencyService.Server.CleanupOutline
import EmergencyService.Server.HandlerLoops
import EmergencyService.Server.MessageRelay
import EmergencyService.Server.ReplyCount

/- The server with the end of every handling, in both modes, while its threads interleave call
   by call: what is left of a connection in the shared maps. -/
namespace EndedHandlings
open JavaRuntime JavaFrame AtomicProgram ThreadInterleaving GhostOutlines MapCalls ConnectionsImpl
open StompProtocolImpl HandlerThreads DisconnectEffect HandlerLoops CleanupOutline

/-- The threads, with the connections whose handling is over: `run` has returned, or the
    channel has been closed. -/
structure Served where
  pool : ServerPool
  ended : Nat → Bool

def Served.initial : Served := ⟨Pool.idle ServerState.initial, fun _ => false⟩

/-- Besides a call of a thread: the end of the stream, an IOException on read, and, in the
    reactor, an empty write queue and an IOException on write. -/
inductive Happening where
  | move : Move Thread Work → Happening
  | endOfStream : Nat → Happening
  | readFails : Nat → Happening
  | written : Nat → Happening
  | writeFails : Nat → Happening

/-- The handler whose `process` is over, with the result, when it has the turn. -/
def finishing (pool : ServerPool) : Move Thread Work → Option (Nat × Except JavaException Unit)
  | .turn (.handler c) =>
      match pool.running (.handler c) with
      | some (_, .done a) => some (c, .ok a)
      | some (_, .raise e) => some (c, .error e)
      | _ => none
  | _ => none

/-- A blocking handler reads on until its handling is over; a task of the reactor may hold
    frames that were read before the channel was closed, and `close` of its handler catches
    the IOException. -/
def mayServe (mode : Mode) (ended : Nat → Bool) : Thread → Work → ServerState → Prop
  | .acceptor, .accept, _ => True
  | .handler c, .frame w _, s =>
      match mode with
      | .threadPerClient => Constructed s c ∧ ended c = false
      | .reactor => Started s c ∧ w.closeFails = false
  | _, _, _ => False

instance (mode : Mode) (ended : Nat → Bool) (t : Thread) (work : Work) (s : ServerState) :
    Decidable (mayServe mode ended t work s) :=
  match t, work, mode with
  | .acceptor, .accept, _ => inferInstanceAs (Decidable True)
  | .handler _, .frame _ _, .threadPerClient => inferInstanceAs (Decidable (_ ∧ _))
  | .handler _, .frame _ _, .reactor => inferInstanceAs (Decidable (_ ∧ _))
  | .acceptor, .frame _ _, _ => inferInstanceAs (Decidable False)
  | .handler _, .accept, _ => inferInstanceAs (Decidable False)

namespace Served
variable (mode : Mode) (h : Served)

/-- The connection is being read; a blocking handler does so between two frames. -/
def Reading (c : Nat) : Prop :=
  Constructed h.pool.shared c ∧ h.ended c = false ∧
    (mode = .threadPerClient → (h.pool.running (.handler c)).isNone = true)

instance (c : Nat) : Decidable (h.Reading mode c) := inferInstanceAs (Decidable (_ ∧ _ ∧ (_ → _)))

def stop (c : Nat) : Served :=
  ⟨{ h.pool with shared := stopped mode c h.pool.shared }, Function.update h.ended c true⟩

/-- The connections whose handling is over after a move of the threads. -/
def endedAfter (m : Move Thread Work) : Nat → Bool :=
  match finishing h.pool m with
  | some (c, result) =>
      Function.update h.ended c (h.ended c || endsAfter mode c result h.pool.shared)
  | none => h.ended

def ready : Move Thread Work → Bool
  | .start t work => decide (mayServe mode h.ended t work h.pool.shared)
  | .turn _ => true

def act : Happening → Option Served
  | .move m =>
      if h.ready mode m then
        (h.pool.move exec code m).map fun pool => ⟨pool, h.endedAfter mode m⟩
      else none
  | .endOfStream c => if h.Reading mode c then some (h.stop mode c) else none
  | .readFails c => if h.Reading mode c then some (h.stop mode c) else none
  | .written c =>
      if mode = .reactor ∧ h.Reading mode c ∧ (h.pool.shared.protocol c).shouldTerminate = true then
        some (h.stop mode c)
      else none
  | .writeFails c => if mode = .reactor ∧ h.Reading mode c then some (h.stop mode c) else none

end Served

/-- Nothing of the connection is left in the shared maps. -/
structure Released (c : Nat) (s : ServerState) : Prop where
  client : c ∉ s.activeClients
  logins : ∀ u, s.loggedInUsers.lookup u ≠ some c
  subscriptions : ∀ ch, s.subscription ch (some ⟨c⟩) = none

/-- A socket that closes without an exception, for a frame that closes it. -/
def Closes : Move Thread Work → Prop
  | .start _ (.frame w _) => w.closeFails = false
  | _ => True

/-- A step that ends no handling but by the cleanup after an ERROR reply, and whose call finds
    what that cleanup needs. -/
structure CleanMove (mode : Mode) (h : Served) (m : Move Thread Work) : Prop where
  closes : Closes m
  thorough : ∀ t work op next, m = .turn t → h.pool.running t = some (work, .call op next) →
    Thorough t op h.pool.shared
  ends : ∀ c result, finishing h.pool m = some (c, result) →
    endsAfter mode c result h.pool.shared = true → h.pool.shared.connected c = false

def Clean (mode : Mode) (h : Served) : Happening → Prop
  | .move m => CleanMove mode h m
  | _ => False

section Run
variable {mode : Mode} {h h' : Served} {m : Move Thread Work} {notes : Notes}

def startable : Thread → Work → ServerState → Prop
  | .acceptor, _, _ => True
  | .handler c, .frame w _, s => Started s c ∧ w.closeFails = false
  | .handler _, .accept, _ => False

theorem startable_of_ready {t : Thread} {work : Work} (ready : h.ready mode (.start t work) = true)
    (closes : Closes (.start t work)) : startable t work h.pool.shared := by
  have may : mayServe mode h.ended t work h.pool.shared := of_decide_eq_true ready
  cases t with
  | acceptor => trivial
  | handler c =>
    cases work with
    | accept => exact may.elim
    | frame w message =>
      cases mode with
      | threadPerClient => exact ⟨Or.inl may.1, closes⟩
      | reactor => exact ⟨may.1, closes⟩

theorem opening_cleans (t : Thread) (work : Work) : ∃ A, cleaning.Stable t A ∧
    (∀ x, cleaning.inv x → rest t x → startable t work x.1 → A x) ∧
      Outlined exec note cleaning rest t (code t work) A := by
  have nowhere : cleaning.Stable t fun _ => False := fun _ _ _ _ _ now => now
  cases t with
  | acceptor =>
    exact ⟨rest .acceptor, stable_rest .acceptor, fun _ _ quiet _ => quiet, cleans_accept⟩
  | handler c =>
    cases work with
    | accept => exact ⟨_, nowhere, fun _ _ _ start => start.elim, fun _ _ now => now.elim⟩
    | frame w message =>
      cases closes : w.closeFails with
      | true =>
        refine ⟨_, nowhere, fun _ _ _ start => ?_, Discipline.outline_unreached _ _⟩
        have quiet : w.closeFails = false := start.2
        rw [closes] at quiet
        cases quiet
      | false =>
        refine ⟨Working c, stable_working, fun x _ quiet start => ⟨start.1, quiet⟩, ?_⟩
        exact Discipline.outline_conclude (cleans_process closes message)
          fun _ _ _ working => working.quiet

/-- The threads keep to their outlines, and a connection whose handling is over is gone. -/
structure Kept (h : Served) (notes : Notes) : Prop where
  upheld : Upheld exec note cleaning rest h.pool notes
  gone : ∀ c, h.ended c = true → Gone c h.pool.shared

theorem coherent_initial : Coherent (ServerState.initial, fun _ => none) := by
  refine ⟨handler_ids_initial, fun ch i current => ?_, fun _ _ _ => rfl, nofun, fun c gone => ?_⟩
  · cases current
  · cases gone.down

theorem kept_initial : Kept Served.initial fun _ => none := by
  refine ⟨upheld_idle coherent_initial fun t => ?_, nofun⟩
  cases t with
  | acceptor =>
    rintro c _ ((before | active) | down)
    · cases before
    · simp [ServerState.initial] at active
    · cases down
  | handler c =>
    intro down
    cases down

theorem move_of_finishing {pool pool' : ServerPool} {c : Nat} {result : Except JavaException Unit}
    (finished : finishing pool m = some (c, result)) (moved : pool.move exec code m = some pool') :
    pool'.shared = pool.shared ∧ pool'.running (.handler c) = none := by
  cases m with
  | start t work => cases finished
  | turn t =>
    cases t with
    | acceptor => cases finished
    | handler c' =>
      simp only [finishing] at finished
      simp only [Pool.move] at moved
      split at finished
      · rename_i busy
        cases finished
        rw [busy] at moved
        cases moved
        exact ⟨rfl, Function.update_self ..⟩
      · rename_i busy
        cases finished
        rw [busy] at moved
        cases moved
        exact ⟨rfl, Function.update_self ..⟩
      · cases finished

theorem move_kept (kept : Kept h notes) (ready : h.ready mode m = true)
    (clean : CleanMove mode h m) {pool : ServerPool} (moved : h.pool.move exec code m = some pool) :
    ∃ notes', Kept ⟨pool, h.endedAfter mode m⟩ notes' := by
  have legal : Legal startable Thorough h.pool m := by
    cases m with
    | start t work => exact startable_of_ready ready clean.closes
    | turn t => exact fun work op next busy => clean.thorough t work op next rfl busy
  obtain ⟨notes', upheld, keeps⟩ := upheld_move opening_cleans stable_rest
    (fun _ _ gone => gone) (fun _ _ _ ok => ok) kept.upheld legal moved
  refine ⟨notes', upheld, fun c ended => ?_⟩
  unfold Served.endedAfter at ended
  cases finished : finishing h.pool m with
  | none =>
    rw [finished] at ended
    exact keeps c (kept.gone c ended)
  | some last =>
    obtain ⟨c', result⟩ := last
    rw [finished] at ended
    by_cases before : h.ended c = true
    · exact keeps c (kept.gone c before)
    · have own : c = c' := by
        by_contra other
        exact before ((Function.update_of_ne other _ _).symm.trans ended)
      subst own
      have ends : endsAfter mode c result h.pool.shared = true := by
        simpa [before] using ended
      have down := clean.ends c result finished ends
      obtain ⟨same, idle⟩ := move_of_finishing finished moved
      have quiet := upheld.idle (.handler c) idle
      rw [← same] at down
      exact ⟨down, quiet down⟩

theorem kept_runs (runs : GuardedRuns.Runs (Served.act mode) (Clean mode) Served.initial h) :
    ∃ notes, Kept h notes := by
  refine GuardedRuns.run_invariant (fun h => ∃ notes, Kept h notes) ⟨_, kept_initial⟩ ?_ runs
  rintro a before after _ ⟨notes, kept⟩ clean acted
  cases a with
  | move m =>
    simp only [Served.act] at acted
    split at acted
    · rename_i ready
      obtain ⟨pool, moved, rfl⟩ := Option.map_eq_some_iff.mp acted
      exact move_kept kept ready clean moved
    · cases acted
  | endOfStream c => exact clean.elim
  | readFails c => exact clean.elim
  | written c => exact clean.elim
  | writeFails c => exact clean.elim

/-- However the threads interleave: in every run of clean steps, a connection whose handling is
    over has left nothing behind, and a login in use is that of a connection still handled. -/
theorem ended_released
    (runs : GuardedRuns.Runs (Served.act mode) (Clean mode) Served.initial h) :
    (∀ c, h.ended c = true → Released c h.pool.shared) ∧
      ∀ u ∈ h.pool.shared.loggedInUsers, ∃ c, h.pool.shared.loggedInUsers.lookup u = some c ∧
        h.ended c = false := by
  obtain ⟨notes, kept⟩ := kept_runs runs
  have released : ∀ c, h.ended c = true → Released c h.pool.shared := by
    intro c ended
    have gone := kept.gone c ended
    have unused := kept.upheld.inv.gone c gone
    exact ⟨gone.removed, unused.logins, unused.subscriptions⟩
  refine ⟨released, fun u member => ?_⟩
  obtain ⟨c, held⟩ := Option.isSome_iff_exists.mp (AList.lookup_isSome.mpr member)
  refine ⟨c, held, ?_⟩
  by_contra ended
  exact (released c (by simpa using ended)).logins u held

end Run

section Example
open ReplyCount MessageRelay GuardedRuns

/-- A sufficient test of `Thorough`. -/
def findsAll : Thread → MapCall → ServerState → Bool
  | .handler c, .loggedInPut _ _, s => decide (c ∈ s.activeClients)
  | .handler _, .loggedInRemoveValue _ _, s => decide (s.loggedInUsers.keys.length ≤ 1)
  | .handler c, .counterGet, s => decide (s.connectionID = c)
  | .handler _, .subsModCount ref expected, s => decide ((s.mapAt ref).modCount = expected)
  | _, _, _ => true

theorem finds_all_sound {t : Thread} {op : MapCall} {s : ServerState}
    (found : findsAll t op s = true) : Thorough t op s := by
  cases t with
  | acceptor => cases op <;> trivial
  | handler c =>
    cases op with
    | loggedInPut u c' =>
      have active : c ∈ s.activeClients := of_decide_eq_true found
      exact active
    | counterGet => exact fun _ => Or.inl (of_decide_eq_true found)
    | subsModCount ref expected => exact fun _ => of_decide_eq_true found
    | loggedInRemoveValue o c' =>
      intro _ u u' held held'
      have few : s.loggedInUsers.keys.length ≤ 1 := of_decide_eq_true found
      have known : ∀ v, s.loggedInUsers.lookup v = some c → v ∈ s.loggedInUsers.keys := by
        intro v there
        exact AList.mem_keys.mp (AList.lookup_isSome.mp (by rw [there]; rfl))
      have first := known u held
      have second := known u' held'
      rcases Nat.le_one_iff_eq_zero_or_eq_one.mp few with zero | one
      · rw [List.length_eq_zero_iff.mp zero] at first
        cases first
      · obtain ⟨v, only⟩ := List.length_eq_one_iff.mp one
        rw [only, List.mem_singleton] at first second
        exact first.trans second.symm
    | _ => trivial

def checkedCall (pool : ServerPool) : Move Thread Work → Bool
  | .turn t =>
      match pool.running t with
      | some (_, .call op _) => findsAll t op pool.shared
      | _ => true
  | .start _ (.frame w _) => !w.closeFails
  | .start _ .accept => true

def checkedEnd (mode : Mode) (pool : ServerPool) (m : Move Thread Work) : Bool :=
  match finishing pool m with
  | some (c, result) => !endsAfter mode c result pool.shared || !pool.shared.connected c
  | none => true

def checked (mode : Mode) (h : Served) : Happening → Bool
  | .move m => checkedCall h.pool m && checkedEnd mode h.pool m
  | _ => false

theorem checked_clean {mode : Mode} (h : Served) (a : Happening) (ok : checked mode h a = true) :
    Clean mode h a := by
  cases a with
  | move m =>
    obtain ⟨call, last⟩ := Bool.and_eq_true_iff.mp ok
    refine ⟨?_, ?_, ?_⟩
    · cases m with
      | start t work =>
        cases work with
        | accept => trivial
        | frame w message => exact (Bool.not_eq_true' _).mp call
      | turn t => trivial
    · rintro t work op next rfl busy
      simp only [checkedCall, busy] at call
      exact finds_all_sound call
    · intro c result finished ends
      simp only [checkedEnd, finished, ends] at last
      simpa using last
  | endOfStream c => cases ok
  | readFails c => cases ok
  | written c => cases ok
  | writeFails c => cases ok

def turnsOf (t : Thread) (n : Nat) : List Happening := List.replicate n (.move (.turn t))

def served (message : Text) (n : Nat) : List Happening :=
  .move (.start (.handler 0) (.frame .plain message)) :: turnsOf (.handler 0) n

/-- A connection that has registered itself, connects a user and subscribes, all before the
    acceptor raises the counter. -/
def joined : List Happening :=
  .move (.start .acceptor .accept) :: turnsOf .acceptor 2 ++
    served (connectText "meni" "films") 9 ++ served (subscribeText "1") 10

/-- Its second SUBSCRIBE is refused in time: nothing of it is left. -/
theorem refused_once_released : ∃ h, GuardedRuns.Runs (Served.act .threadPerClient)
    (Clean .threadPerClient) Served.initial h ∧ h.ended 0 = true ∧
      Released 0 h.pool.shared := by
  have ends : (actsWhere (Served.act .threadPerClient) (checked .threadPerClient)
      (joined ++ served (subscribeText "2") 21 ++ turnsOf .acceptor 2) Served.initial).map
        (fun h => h.ended 0) = some true := by decide +kernel
  obtain ⟨h, acted, ended⟩ := Option.map_eq_some_iff.mp ends
  have runs := run_of_acts_where checked_clean _ acted
  exact ⟨h, runs, ended, (ended_released runs).1 0 ended⟩

/-- A connection that connects a user, subscribes, and is gone. -/
theorem end_of_stream_leaves_all : ∃ h, GuardedRuns.Runs (Served.act .threadPerClient)
    (fun _ _ => True) Served.initial h ∧ h.ended 0 = true ∧ 0 ∈ h.pool.shared.activeClients ∧
      h.pool.shared.loggedInUsers.lookup "meni".toList = some 0 ∧
      h.pool.shared.subscription "police" (some ⟨0⟩) = some 1 := by
  have left : (acts (Served.act .threadPerClient) (joined ++ [.endOfStream 0])
      Served.initial).map (fun h => (h.ended 0, decide (0 ∈ h.pool.shared.activeClients),
        h.pool.shared.loggedInUsers.lookup "meni".toList,
        h.pool.shared.subscription "police" (some ⟨0⟩))) =
      some (true, true, some 0, some 1) := by decide +kernel
  obtain ⟨h, acted, same⟩ := Option.map_eq_some_iff.mp left
  simp only [Prod.mk.injEq, decide_eq_true_eq] at same
  exact ⟨h, run_of_acts _ acted, same⟩

end Example

end EndedHandlings
