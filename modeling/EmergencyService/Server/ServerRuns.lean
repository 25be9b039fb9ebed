import EmergencyService.Foundation.GuardedRuns
import EmergencyService.Server.HandlerThreads

/- The server with its frames processed one at a time. A connection is accepted in two
   steps, since the counter goes up after the handler has been constructed. -/
namespace ServerRuns
open JavaRuntime AtomicProgram ThreadInterleaving MapCalls ConnectionsImpl StompProtocolImpl
open CallFootprint HandlerThreads

structure Server where
  state : ServerState
  accepting : Bool

def Server.initial : Server := ⟨ServerState.initial, false⟩

inductive Action where
  | construct
  | increment
  | frame : Surroundings → Nat → Text → Action

def processed (w : Surroundings) (c : Nat) (message : Text) (s : ServerState) : ServerState :=
  (run exec (process w c message) s).2

def constructed (s : ServerState) : ServerState := (run exec constructHandler s).2

def incremented (s : ServerState) : ServerState := (run exec counter.increment s).2

def accepted (s : ServerState) : ServerState := incremented (constructed s)

def Server.act (server : Server) : Action → Option Server
  | .construct => if server.accepting then none else some ⟨constructed server.state, true⟩
  | .increment => if server.accepting then some ⟨incremented server.state, false⟩ else none
  | .frame w c message =>
      if Constructed server.state c then
        some ⟨processed w c message server.state, server.accepting⟩
      else none

abbrev Server.acts : List Action → Server → Option Server := GuardedRuns.acts Server.act

/-- Runs whose actions all meet a condition on the state that they find. -/
abbrev Runs (condition : ServerState → Action → Prop) (server server' : Server) : Prop :=
  GuardedRuns.Runs Server.act (fun server a => condition server.state a) server server'

variable {condition : ServerState → Action → Prop}

theorem act_cases {server server' : Server} {a : Action} (acted : server.act a = some server') :
    (a = .construct ∧ server.accepting = false ∧
      server' = ⟨constructed server.state, true⟩) ∨
    (a = .increment ∧ server.accepting = true ∧
      server' = ⟨incremented server.state, false⟩) ∨
    ∃ w c message, a = .frame w c message ∧ Constructed server.state c ∧
      server' = ⟨processed w c message server.state, server.accepting⟩ := by
  cases a with
  | construct =>
    simp only [Server.act] at acted
    split at acted
    · cases acted
    · rename_i idle
      exact Or.inl ⟨rfl, by simpa using idle, (Option.some.inj acted).symm⟩
  | increment =>
    simp only [Server.act] at acted
    split at acted
    · rename_i busy
      exact Or.inr (Or.inl ⟨rfl, busy, (Option.some.inj acted).symm⟩)
    · cases acted
  | frame w c message =>
    simp only [Server.act] at acted
    split at acted
    · rename_i known
      exact Or.inr (Or.inr ⟨w, c, message, rfl, known, (Option.some.inj acted).symm⟩)
    · cases acted

section Interleaving

/-- The pool in which no handler thread is at work, and the acceptor is idle or about to
    increment the counter. -/
def Resting (server : Server) (pool : ServerPool) : Prop :=
  pool.shared = server.state ∧ pool.running = fun t =>
    if t = .acceptor ∧ server.accepting = true then some (.accept, counter.increment) else none

theorem resting_construct {server : Server} {pool : ServerPool} (idle : server.accepting = false)
    (resting : Resting server pool) : ∃ pool',
      Reached exec code mayStart (fun _ _ _ => True) pool pool' ∧
        Resting ⟨constructed server.state, true⟩ pool' := by
  obtain ⟨shared, running⟩ := resting
  have free : pool.running .acceptor = none := by simp [running, idle]
  have ready : mayStart .acceptor .accept pool.shared := trivial
  have started := reached_start exec code mayStart free ready
  have busy : (pool.put .acceptor (some (.accept, code .acceptor .accept)) pool.shared).running
      .acceptor = some (.accept, constructHandler >>= fun _ => counter.increment) :=
    put_running pool .acceptor (some (.accept, code .acceptor .accept)) pool.shared
  have registered : run exec constructHandler pool.shared = (.ok (), constructed server.state) := by
    rw [shared]
    rfl
  have waiting : Reached exec code mayStart (fun _ _ _ => True)
      (pool.put .acceptor (some (.accept, code .acceptor .accept)) pool.shared)
      (pool.put .acceptor (some (.accept, counter.increment)) (constructed server.state)) := by
    have moved := solo_bind exec code mayStart busy registered
    rwa [put_put] at moved
  refine ⟨_, started.trans waiting, rfl, ?_⟩
  funext t
  by_cases here : t = .acceptor
  · simp [here, Pool.put]
  · simp [here, Pool.put, running]

theorem resting_increment {server : Server} {pool : ServerPool} (busy : server.accepting = true)
    (resting : Resting server pool) : ∃ pool',
      Reached exec code mayStart (fun _ _ _ => True) pool pool' ∧
        Resting ⟨incremented server.state, false⟩ pool' := by
  obtain ⟨shared, running⟩ := resting
  have waiting : pool.running .acceptor = some (.accept, counter.increment) := by
    simp [running, busy]
  refine ⟨_, solo_run exec code mayStart waiting, by rw [shared]; rfl, ?_⟩
  funext t
  by_cases here : t = .acceptor
  · simp [here, Pool.put]
  · simp [here, Pool.put, running]

theorem resting_frame {server : Server} {pool : ServerPool} {c : Nat} (w : Surroundings)
    (message : Text) (known : Constructed server.state c) (resting : Resting server pool) :
    ∃ pool', Reached exec code mayStart (fun _ _ _ => True) pool pool' ∧
      Resting ⟨processed w c message server.state, server.accepting⟩ pool' := by
  obtain ⟨shared, running⟩ := resting
  have free : pool.running (.handler c) = none := by simp [running]
  have ready : mayStart (.handler c) (.frame w message) pool.shared := by
    rw [shared]
    exact known
  have started := reached_start exec code mayStart free ready
  refine ⟨_, started.trans (solo_run exec code mayStart (put_running ..)), ?_, ?_⟩
  · rw [shared]
    rfl
  · funext t
    by_cases here : t = .handler c
    · simp [here, Pool.put]
    · simp [here, Pool.put, running]

theorem runs_reachable {server : Server}
    (runs : Runs (fun _ _ => True) Server.initial server) : ReachableState server.state := by
  have resting : ∃ pool : ServerPool,
      Reached exec code mayStart (fun _ _ _ => True) (Pool.idle ServerState.initial) pool ∧
        Resting server pool := by
    induction runs with
    | refl =>
      refine ⟨_, Relation.ReflTransGen.refl, rfl, ?_⟩
      funext t
      simp [Pool.idle, Server.initial]
    | tail _ step ih =>
      obtain ⟨pool, reached, resting⟩ := ih
      obtain ⟨a, _, acted⟩ := step
      obtain ⟨rfl, idle, rfl⟩ | ⟨rfl, busy, rfl⟩ | ⟨w, c, message, rfl, known, rfl⟩ :=
        act_cases acted
      · obtain ⟨pool', more, resting⟩ := resting_construct idle resting
        exact ⟨pool', reached.trans more, resting⟩
      · obtain ⟨pool', more, resting⟩ := resting_increment busy resting
        exact ⟨pool', reached.trans more, resting⟩
      · obtain ⟨pool', more, resting⟩ := resting_frame w message known resting
        exact ⟨pool', reached.trans more, resting⟩
  obtain ⟨pool, reached, shared, _⟩ := resting
  exact ⟨pool, reached, shared⟩

theorem runs_handler_ids {server : Server} (runs : Runs condition Server.initial server) :
    HandlerIds server.state := 
  handler_ids_reachable (runs_reachable (GuardedRuns.run_weaken (fun _ _ _ => trivial) runs))

theorem acts_reachable {actions : List Action} {server : Server}
    (acted : Server.acts actions Server.initial = some server) : ReachableState server.state :=
  runs_reachable (GuardedRuns.run_of_acts actions acted)

end Interleaving

end ServerRuns
