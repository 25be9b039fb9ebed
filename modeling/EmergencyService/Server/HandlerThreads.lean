import EmergencyService.Foundation.ThreadInterleaving
import EmergencyService.Server.CallFootprint

/- The server as its threads: one accepts connections, and every connection has one that
   processes its frames. Their map calls interleave in any order. -/
namespace HandlerThreads
open JavaRuntime AtomicProgram ThreadInterleaving MapCalls ConnectionsImpl StompProtocolImpl
open CallFootprint

inductive Thread where
  | acceptor
  | handler : Nat → Thread
  deriving DecidableEq, Repr

inductive Work where
  | accept
  | frame : Surroundings → Text → Work

/-- The constructor of a handler adds it to `activeClients`. -/
def constructHandler : Java Unit := do
  let id ← counter.get
  addConnection id ⟨id⟩

/-- The body of the accept loop; the counter goes up after the handler may have started. -/
def acceptClient : Java Unit := do
  constructHandler
  counter.increment

def code : Thread → Work → Java Unit
  | .acceptor, _ => acceptClient
  | .handler c, .frame w message => process w c message
  | .handler _, .accept => return ()

/-- A handler has been constructed when the counter is past its number, or, before the
    increment, when it is registered. -/
def Constructed (s : ServerState) (c : Nat) : Prop :=
  c < s.connectionID ∨ c ∈ s.activeClients

def mayStart : Thread → Work → ServerState → Prop
  | .acceptor, .accept, _ => True
  | .handler c, .frame _ _, s => Constructed s c
  | _, _, _ => False

instance (s : ServerState) (c : Nat) : Decidable (Constructed s c) :=
  inferInstanceAs (Decidable (_ ∨ _))

instance (t : Thread) (work : Work) (s : ServerState) : Decidable (mayStart t work s) :=
  match t, work with
  | .acceptor, .accept => inferInstanceAs (Decidable True)
  | .handler c, .frame _ _ => inferInstanceAs (Decidable (Constructed s c))
  | .acceptor, .frame _ _ => inferInstanceAs (Decidable False)
  | .handler _, .accept => inferInstanceAs (Decidable False)

abbrev ServerPool := Pool MapCall MapCall.Ret JavaException Unit ServerState Thread Work

/-- Any state that any interleaving of the threads can produce. -/
def ReachableState (s : ServerState) : Prop :=
  ∃ pool : ServerPool,
    Reached exec code mayStart (fun _ _ _ => True) (Pool.idle ServerState.initial) pool ∧
      pool.shared = s

def HandlerIds (s : ServerState) : Prop :=
  ∀ c h, s.activeClients.lookup c = some h → h = ⟨c⟩

/-- A call that puts a handler into `activeClients` puts it under its own number. -/
def OwnKey : MapCall → Prop
  | .activePut c h => h = ⟨c⟩
  | _ => True

theorem process_own_key {c : Nat} {frame : JavaFrame.StompFrame} {op : MapCall}
    (h : ProcessCall c frame op) : OwnKey op := by
  cases op <;> simp_all [ProcessCall, OwnKey]

theorem exec_answer (op : MapCall) {s : ServerState} (ids : HandlerIds s) :
    HandlerAnswer op (exec op s).1 := by
  cases op with
  | activeGet c =>
    change s.activeClients.lookup c = none ∨ s.activeClients.lookup c = some ⟨c⟩
    cases found : s.activeClients.lookup c with
    | none => exact Or.inl rfl
    | some h => exact Or.inr (by rw [ids c h found])
  | channelGet ch =>
    intro ref found
    obtain ⟨i, _, rfl⟩ := Option.map_eq_some_iff.mp found
    rfl
  | newMap ch => rfl
  | _ => trivial

theorem exec_handler_ids (op : MapCall) {s : ServerState} (own : OwnKey op)
    (ids : HandlerIds s) : HandlerIds (exec op s).2 := by
  cases op with
  | activePut c h =>
    intro c' h' found
    change (s.activeClients.insert c h).lookup c' = some h' at found
    by_cases here : c' = c
    · subst here
      rw [AList.lookup_insert] at found
      exact Option.some.inj found ▸ own
    · rw [AList.lookup_insert_ne here] at found
      exact ids c' h' found
  | activeRemove c =>
    intro c' h' found
    change (s.activeClients.erase c).lookup c' = some h' at found
    by_cases here : c' = c
    · subst here
      simp at found
    · rw [AList.lookup_erase_ne here] at found
      exact ids c' h' found
  | _ => exact ids

theorem calls_own_keys (t : Thread) (work : Work) :
    Calls HandlerAnswer OwnKey (code t work) := by
  cases t with
  | acceptor =>
    refine calls_bind ?_ fun _ => (calls_perform _).mpr trivial
    exact calls_perform_bind trivial fun id _ => (calls_perform _).mpr rfl
  | handler c =>
    cases work with
    | accept => trivial
    | frame w message =>
      refine calls_perform_bind trivial fun _ _ => ?_
      refine calls_bind (calls_ofExcept _) fun frame => ?_
      refine calls_perform_bind trivial fun _ _ => ?_
      exact calls_mono (calls_dispatch w c frame) fun _ => process_own_key

theorem handler_ids_initial : HandlerIds ServerState.initial := by
  intro c h found
  simp [ServerState.initial] at found

theorem handler_ids_reachable {s : ServerState} (reachable : ReachableState s) :
    HandlerIds s := by
  obtain ⟨pool, reached, rfl⟩ := reachable
  have each : ∀ (_ : Thread) op s, OwnKey op → HandlerIds s →
      HandlerAnswer op (exec op s).1 ∧ HandlerIds (exec op s).2 :=
    fun _ op _ own ids => ⟨exec_answer op ids, exec_handler_ids op own ids⟩
  exact reached_invariant calls_own_keys each handler_ids_initial reached

end HandlerThreads
