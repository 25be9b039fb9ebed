import EmergencyService.Foundation.CallTraces
import EmergencyService.Server.LoginHistory
import EmergencyService.Server.LoginRaces
import EmergencyService.Server.RelayTraces

/- When the passcode of a login is settled: two CONNECTs can both find a login unregistered and
   register it one after the other, but once no thread stands between the look and the put,
   the passcode stays, and only CONNECTs with it are let in. -/
namespace SettledPasscodes
open JavaRuntime JavaFrame AtomicProgram ThreadInterleaving GuardedRuns RecordedRuns CallTraces
open MapCalls ConnectionsImpl StompProtocolImpl CallFootprint HandlerThreads LoginHistory
open RelayTraces (Call)

/-- The next call is the put of a passcode for the login. -/
def Registers (u : Text) (p : Java Unit) : Prop :=
  ∃ passcode next, p = .call (.usersPut u passcode) next

/-- A passcode is put right behind a look that has not found the login. -/
def Looked (call : Call) (op : MapCall) : Prop :=
  ∀ u passcode, op = .usersPut u passcode → call = ⟨.usersContains u, false⟩

def NoPut (op : MapCall) : Prop := ∀ u passcode, op ≠ .usersPut u passcode

def NoConnected (op : MapCall) : Prop :=
  ∀ h text, op = .handlerSend h text → commandOf text ≠ "CONNECTED"

section Puts
variable {w : Surroundings} {c : Nat} {frame : StompFrame}

theorem looked_free (op : MapCall) (free : NoPut op) (call : Call) : Looked call op :=
  fun u passcode same => absurd same (free u passcode)

theorem no_put_of_process {op : MapCall} (other : frame.command ≠ "CONNECT")
    (call : ProcessCall c frame op) : NoPut op := by
  rintro u passcode rfl
  exact other call.1

theorem no_put_send {msg : Text} : Calls HandlerAnswer NoPut (send c msg) := by
  refine calls_perform_bind nofun fun found _ => ?_
  refine calls_bind (calls_deref found) fun handler => ?_
  exact calls_perform_bind nofun fun _ _ => trivial

theorem no_put_refuse (headers : HashMap Text Text) :
    Calls HandlerAnswer NoPut (refuse w c (errorFrame headers)) := by
  have other : (errorFrame headers).command ≠ "CONNECT" := by
    change "ERROR".toList ≠ _
    decide
  exact calls_mono (calls_refuse w c headers) fun _ => no_put_of_process other

theorem no_put_log_in (login : Option Text) : Calls HandlerAnswer NoPut (logIn login c) :=
  calls_bind (calls_deref login) fun _ => (calls_perform _).mpr nofun

theorem connect_user_looks (login secret : Option Text) :
    Heralded HandlerAnswer Looked (connectUser login secret c) := by
  cases login with
  | none => trivial
  | some u =>
    intro registered _
    cases registered with
    | true =>
      have bounded : Calls HandlerAnswer NoPut (do
          let known ← deref (← users.get u)
          if some known = secret then
            logIn (some u) c
            return true
          else return false) := by
        refine calls_perform_bind nofun fun found _ => ?_
        refine calls_bind (calls_deref found) fun known => ?_
        split
        · exact calls_bind (no_put_log_in _) fun _ => trivial
        · trivial
      refine ⟨?_, heralded_of_calls bounded looked_free⟩
      intro op later same
      change Program.call (MapCall.usersGet u) _ = _ at same
      cases same
      have free : NoPut (.usersGet u) := nofun
      exact looked_free _ free _
    | false =>
      cases secret with
      | none =>
        refine ⟨?_, trivial⟩
        intro op later same
        change Program.raise _ = _ at same
        cases same
      | some passcode =>
        refine ⟨?_, ?_⟩
        · intro op later same
          change Program.call (MapCall.usersPut u passcode) _ = _ at same
          cases same
          rintro u' passcode' same
          cases same
          rfl
        · change Heralded HandlerAnswer Looked
            (perform (MapCall.usersPut u passcode) >>= fun _ => do
              logIn (some u) c
              return true)
          apply heralded_before_calls (heralded_perform _) _ looked_free
          exact fun _ => calls_bind (no_put_log_in _) fun _ => trivial

theorem connect_looks (headers : HashMap Text Text) :
    Heralded HandlerAnswer Looked (processConnect w c headers) := by
  have replied : ∀ frame, Calls HandlerAnswer NoPut (reply w c frame) := fun _ => no_put_send
  have answered : ∀ done : Bool, Calls HandlerAnswer NoPut (if done then do
        let _ ← reply w c connectedFrame
        return ()
      else do
        let _ ← reply w c wrongPassword
        refuse w c wrongPassword) := by
    intro done
    split
    · exact calls_bind (replied _) fun _ => trivial
    · exact calls_bind (replied _) fun _ => no_put_refuse _
  have asked : Heralded HandlerAnswer Looked (userConnectedAlready (header headers "login")) := by
    have bounded : Calls HandlerAnswer NoPut (userConnectedAlready (header headers "login")) :=
      calls_bind (calls_deref _) fun _ => (calls_perform _).mpr nofun
    exact heralded_of_calls bounded looked_free
  have connecting : Heralded HandlerAnswer Looked (do
      let done ← connectUser (header headers "login") (header headers "passcode") c
      if done then
        let _ ← reply w c connectedFrame
        return ()
      else
        let _ ← reply w c wrongPassword
        refuse w c wrongPassword) :=
    heralded_before_calls (connect_user_looks _ _) answered looked_free
  refine heralded_bind asked ?_ ?_
  · intro taken op later same call
    cases taken with
    | true =>
      have refused : Calls HandlerAnswer NoPut (refuse w c alreadyConnected) := no_put_refuse _
      change refuse w c alreadyConnected = _ at same
      rw [same] at refused
      exact looked_free op refused.1 call
    | false =>
      cases named : header headers "login" with
      | none =>
        rw [named] at same
        change Program.raise _ = _ at same
        cases same
      | some u =>
        rw [named] at same
        change Program.call (MapCall.usersContains u) _ = _ at same
        cases same
        have free : NoPut (.usersContains u) := nofun
        exact looked_free _ free call
  · intro taken
    cases taken with
    | true => exact heralded_of_calls (no_put_refuse _) looked_free
    | false => exact connecting

theorem dispatch_looks (frame : StompFrame) :
    Heralded HandlerAnswer Looked (dispatch w c frame) ∧
      ∀ op later, dispatch w c frame = .call op later → NoPut op := by
  by_cases command : frame.command = "CONNECT"
  · rw [FrameEvents.dispatch_connect command]
    refine ⟨connect_looks _, ?_⟩
    intro op later same
    cases named : header frame.headers "login" with
    | none =>
      unfold processConnect at same
      rw [named] at same
      change Program.raise _ = _ at same
      cases same
    | some u =>
      unfold processConnect at same
      rw [named] at same
      change Program.call (MapCall.loggedInContains u) _ = _ at same
      cases same
      exact nofun
  · have bounded : Calls HandlerAnswer NoPut (dispatch w c frame) :=
      calls_mono (calls_dispatch w c frame) fun _ => no_put_of_process command
    refine ⟨heralded_of_calls bounded looked_free, ?_⟩
    intro op later same
    rw [same] at bounded
    exact bounded.1

theorem code_looks (t : Thread) (work : Work) : Heralded HandlerAnswer Looked (code t work) := by
  cases t with
  | acceptor =>
    have bounded : Calls HandlerAnswer NoPut acceptClient := by
      refine calls_bind ?_ fun _ => (calls_perform _).mpr nofun
      exact calls_perform_bind nofun fun id _ => (calls_perform _).mpr nofun
    exact heralded_of_calls bounded looked_free
  | handler c =>
    cases work with
    | accept => trivial
    | frame w message =>
      refine heralded_bind (heralded_perform (MapCall.received c message)) ?_ fun _ => ?_
      · intro _ op later same call
        cases parsed : StompFrame.ofText message with
        | error e =>
          rw [parsed] at same
          change Program.raise _ = _ at same
          cases same
        | ok frame =>
          rw [parsed] at same
          change Program.call (MapCall.setShouldTerminate c _) _ = _ at same
          cases same
          have free : ∀ b, NoPut (.setShouldTerminate c b) := fun b => nofun
          exact looked_free _ (free _) call
      · cases parsed : StompFrame.ofText message with
        | error e => trivial
        | ok frame =>
          obtain ⟨looks, entry⟩ := dispatch_looks (w := w) (c := c) frame
          change Heralded HandlerAnswer Looked (perform (MapCall.setShouldTerminate c
            (decide (frame.command = "DISCONNECT".toList))) >>= fun _ => dispatch w c frame)
          refine heralded_bind (heralded_perform _) ?_ fun _ => looks
          exact fun _ op later same call => looked_free op (entry op later same) call

end Puts

section Moves
variable {origin pool pool' : ServerPool} {u p : Text}

/-- The passcode is registered, and no thread is about to put another one. -/
structure Settled (u p : Text) (pool : ServerPool) : Prop where
  registered : pool.shared.users.lookup u = some p
  alone : ∀ t work q, pool.running t = some (work, q) → ¬ Registers u q

/-- Any interleaving from one state of the server to another. -/
abbrev Interleaved (pool pool' : ServerPool) : Prop :=
  Reached exec code mayStart (fun _ _ _ => True) pool pool'

theorem exec_keeps_passcode {op : MapCall} {s : ServerState} (other : ∀ q, op ≠ .usersPut u q) :
    (exec op s).2.users.lookup u = s.users.lookup u := by
  cases op with
  | usersPut u' q =>
    have away : u ≠ u' := by
      rintro rfl
      exact other q rfl
    exact AList.lookup_insert_ne away
  | _ => rfl

/-- A settled login is found by every look, so that no thread comes to put its passcode. -/
theorem settled_move (held : Settled u p pool)
    (heralded : ∀ t work q, pool.running t = some (work, q) → Heralded HandlerAnswer Looked q)
    (answered : ∀ op, HandlerAnswer op (exec op pool.shared).1) {m : Move Thread Work}
    (moved : pool.move exec code m = some pool') : Settled u p pool' := by
  constructor
  · rcases move_shared moved with same | ⟨t, work, op, next, _, busy, after⟩
    · rw [same]
      exact held.registered
    · rw [after, exec_keeps_passcode]
      · exact held.registered
      · rintro q rfl
        exact held.alone t work _ busy ⟨q, next, rfl⟩
  · rintro t work q busy ⟨passcode, later, rfl⟩
    rcases move_running moved busy with ⟨_, old⟩ | ⟨rfl, fresh⟩ | ⟨op, next, rfl, old, same⟩
    · exact held.alone t work _ old ⟨passcode, later, rfl⟩
    · cases t with
      | acceptor => cases fresh
      | handler c =>
        cases work with
        | accept => cases fresh
        | frame w message => cases fresh
    · obtain ⟨looked, _⟩ := heralded t work _ old _ (answered op)
      have behind := looked _ later same.symm u passcode rfl
      obtain ⟨rfl, absent⟩ := Answered.mk.inj behind
      have here : (exec (.usersContains u) pool.shared).1 = false := eq_of_heq absent
      have known : u ∈ pool.shared.users := AList.lookup_isSome.mp (by simp [held.registered])
      simp [exec, known] at here

theorem settled_reached (reached : Interleaved (Pool.idle ServerState.initial) origin)
    (held : Settled u p origin) (onward : Interleaved origin pool) : Settled u p pool := by
  have answered : ∀ pool, Interleaved (Pool.idle ServerState.initial) pool →
      ∀ op, HandlerAnswer op (exec op pool.shared).1 := by
    intro pool runs op
    exact exec_answer op (handler_ids_reachable ⟨pool, runs, rfl⟩)
  refine run_invariant (Settled u p) held ?_ onward
  intro m before after started settled _ moved
  have whole := reached.trans started
  exact settled_move settled (running_heralded answered code_looks whole) (answered before whole)
    moved

end Moves

section Answers
variable {w : Surroundings} {c : Nat} {calls before after : List Call} {q : Java Unit}
  {message : Text}

/-- A CONNECTED has been sent. -/
def LetIn (calls : List Call) : Prop :=
  ∃ call ∈ calls, ∃ h text, call.op = .handlerSend h text ∧ commandOf text = "CONNECTED"

theorem let_in_append : LetIn (before ++ after) ↔ LetIn before ∨ LetIn after := by
  simp only [LetIn, List.mem_append, or_and_right, exists_or]

theorem not_let_in {α : Type} {p q : Java α} (bounded : Calls HandlerAnswer NoConnected p)
    (trace : Trace HandlerAnswer p calls q) : ¬ LetIn calls := by
  rintro ⟨call, member, h, text, sent, connected⟩
  exact trace_allowed bounded trace call member h text sent connected

theorem no_connected_of_process {frame : StompFrame} {op : MapCall}
    (other : frame.command ≠ "CONNECT") (call : ProcessCall c frame op) : NoConnected op := by
  rintro h text rfl connected
  exact other (call connected).1

theorem error_not_connect (headers : HashMap Text Text) :
    (errorFrame headers).command ≠ "CONNECT" := by
  change "ERROR".toList ≠ _
  decide

theorem no_connected_refuse (headers : HashMap Text Text) :
    Calls HandlerAnswer NoConnected (refuse w c (errorFrame headers)) :=
  calls_mono (calls_refuse w c headers) fun _ =>
    no_connected_of_process (error_not_connect headers)

theorem no_connected_error (headers : HashMap Text Text) :
    Calls HandlerAnswer NoConnected (reply w c (errorFrame headers)) :=
  calls_mono (calls_of_work c (calls_reply_error w c headers)) fun _ =>
    no_connected_of_process (error_not_connect headers)

theorem no_connected_log_in (login : Option Text) :
    Calls HandlerAnswer NoConnected (logIn login c) :=
  calls_bind (calls_deref login) fun _ => (calls_perform _).mpr nofun

theorem no_connected_connect_user (login secret : Option Text) :
    Calls HandlerAnswer NoConnected (connectUser login secret c) := by
  refine calls_bind ?_ fun registered => ?_
  · exact calls_bind (calls_deref login) fun _ => (calls_perform _).mpr nofun
  split
  · refine calls_bind (calls_deref login) fun name => ?_
    refine calls_perform_bind nofun fun found _ => ?_
    refine calls_bind (calls_deref found) fun known => ?_
    split
    · exact calls_bind (no_connected_log_in _) fun _ => trivial
    · trivial
  · refine calls_bind ?_ fun _ => calls_bind (no_connected_log_in _) fun _ => trivial
    refine calls_bind (calls_deref login) fun _ => ?_
    exact calls_bind (calls_deref secret) fun _ => (calls_perform _).mpr nofun

/-- The passcode of the login was got from the table, or put there. -/
def Checked (login passcode : Text) (calls : List Call) : Prop :=
  (⟨.usersGet login, some passcode⟩ : Call) ∈ calls ∨
    (⟨.usersPut login passcode, ()⟩ : Call) ∈ calls

theorem checked_append {login passcode : Text} (checked : Checked login passcode before) :
    Checked login passcode (before ++ after) :=
  checked.imp (List.mem_append_left _) (List.mem_append_left _)

theorem checked_behind {login passcode : Text} (checked : Checked login passcode after) :
    Checked login passcode (before ++ after) :=
  checked.imp (List.mem_append_right _) (List.mem_append_right _)

theorem checked_cons {login passcode : Text} {call : Call}
    (checked : Checked login passcode calls) : Checked login passcode (call :: calls) :=
  checked.imp (List.mem_cons_of_mem _) (List.mem_cons_of_mem _)

theorem connect_user_checks {login secret : Option Text}
    (trace : Trace HandlerAnswer (connectUser login secret c) calls (.done true)) :
    ∃ u p, login = some u ∧ secret = some p ∧ Checked u p calls := by
  cases login with
  | none =>
    obtain ⟨_, impossible⟩ := trace_raise trace
    cases impossible
  | some u =>
    refine ⟨u, ?_⟩
    rcases trace_perform_bind (MapCall.usersContains u) trace with
      ⟨_, running⟩ | ⟨registered, later, _, rfl, looked⟩
    · exact absurd rfl (running true)
    cases registered with
    | true =>
      rcases trace_perform_bind (MapCall.usersGet u) looked with
        ⟨_, running⟩ | ⟨found, rest, _, rfl, got⟩
      · exact absurd rfl (running true)
      cases found with
      | none =>
        obtain ⟨_, impossible⟩ := trace_raise got
        cases impossible
      | some known =>
        change Trace HandlerAnswer (if some known = secret then _ else _) _ _ at got
        split at got
        · rename_i same
          exact ⟨known, rfl, same.symm, Or.inl (by simp)⟩
        · obtain ⟨_, impossible⟩ := trace_done got
          cases impossible
    | false =>
      cases secret with
      | none =>
        obtain ⟨_, impossible⟩ := trace_raise looked
        cases impossible
      | some p =>
        rcases trace_perform_bind (MapCall.usersPut u p) looked with
          ⟨_, running⟩ | ⟨_, rest, _, rfl, _⟩
        · exact absurd rfl (running true)
        · exact ⟨p, rfl, rfl, Or.inr (by simp)⟩

theorem connect_checks {headers : HashMap Text Text}
    (trace : Trace HandlerAnswer (processConnect w c headers) calls q) (letIn : LetIn calls) :
    ∃ u p, header headers "login" = some u ∧ header headers "passcode" = some p ∧
      Checked u p calls := by
  have asking : Calls HandlerAnswer NoConnected
      (userConnectedAlready (header headers "login")) :=
    calls_bind (calls_deref _) fun _ => (calls_perform _).mpr nofun
  rcases trace_bind trace with ⟨⟨_, first⟩, _⟩ | ⟨taken, before, after, rfl, first, later⟩
  · exact absurd letIn (not_let_in asking first)
  have letIn : LetIn after := (let_in_append.mp letIn).resolve_left (not_let_in asking first)
  cases taken with
  | true => exact absurd letIn (not_let_in (no_connected_refuse _) later)
  | false =>
    have connecting := no_connected_connect_user (c := c) (header headers "login")
      (header headers "passcode")
    rcases trace_bind later with ⟨⟨_, inside⟩, _⟩ | ⟨done, during, rest, rfl, inside, answered⟩
    · exact absurd letIn (not_let_in connecting inside)
    cases done with
    | true =>
      obtain ⟨u, p, named, secret, checked⟩ := connect_user_checks inside
      exact ⟨u, p, named, secret, checked_behind (checked_append checked)⟩
    | false =>
      have letIn : LetIn rest :=
        (let_in_append.mp letIn).resolve_left (not_let_in connecting inside)
      have refused : Calls HandlerAnswer NoConnected (do
          let _ ← reply w c wrongPassword
          refuse w c wrongPassword) :=
        calls_bind (no_connected_error _) fun _ => no_connected_refuse _
      exact absurd letIn (not_let_in refused answered)

theorem process_checks (trace : Trace HandlerAnswer (process w c message) calls q)
    (letIn : LetIn calls) :
    ∃ u p, connectOf message = some (u, p) ∧ Checked u p calls := by
  have apart : ∀ {op : MapCall} {r : op.Ret} {rest : List Call}, NoConnected op →
      LetIn (⟨op, r⟩ :: rest) → LetIn rest := by
    rintro op r rest other ⟨call, member, h, text, sent, connected⟩
    rcases List.mem_cons.mp member with rfl | later
    · exact absurd connected (other h text sent)
    · exact ⟨call, later, h, text, sent, connected⟩
  rcases trace_perform_bind _ trace with ⟨rfl, _⟩ | ⟨_, rest, _, rfl, read⟩
  · obtain ⟨_, member, _⟩ := letIn
    cases member
  have unsent : NoConnected (.received c message) := nofun
  have letIn := apart unsent letIn
  cases parsed : StompFrame.ofText message with
  | error e =>
    rw [parsed] at read
    obtain ⟨rfl, rfl⟩ := trace_raise read
    obtain ⟨_, member, _⟩ := letIn
    cases member
  | ok frame =>
    rw [parsed] at read
    rcases trace_perform_bind _ read with ⟨rfl, _⟩ | ⟨_, rest', _, rfl, dispatched⟩
    · obtain ⟨_, member, _⟩ := letIn
      cases member
    have unsent : ∀ b, NoConnected (.setShouldTerminate c b) := fun b => nofun
    have letIn := apart (unsent _) letIn
    by_cases command : frame.command = "CONNECT"
    · rw [FrameEvents.dispatch_connect command] at dispatched
      obtain ⟨u, p, named, secret, checked⟩ := connect_checks dispatched letIn
      exact ⟨u, p, connect_of_parsed parsed command named secret,
        checked_cons (checked_cons checked)⟩
    · have bounded : Calls HandlerAnswer NoConnected (dispatch w c frame) :=
        calls_mono (calls_dispatch w c frame) fun _ => no_connected_of_process command
      exact absurd letIn (not_let_in bounded dispatched)

end Answers

section Interleavings
variable {origin pool : ServerPool} {u p : Text}
  {transcript : List (Observation MapCall MapCall.Ret JavaException Unit Thread Work)}

/-- What can be seen of the threads from one state of the server to another. -/
abbrev ObservedFrom (origin pool : ServerPool)
    (transcript : List (Observation MapCall MapCall.Ret JavaException Unit Thread Work)) : Prop :=
  Recorded (observe exec code) (Legal mayStart fun _ _ _ => True) origin pool transcript

/-- A call as it is made and answered once the passcode is settled. -/
structure Agrees (u p : Text) (op : MapCall) (r : op.Ret) : Prop where
  answer : HandlerAnswer op r
  got : ∀ q, (⟨op, r⟩ : Call) = ⟨.usersGet u, some q⟩ → q = p
  unput : ∀ q, (⟨op, r⟩ : Call) ≠ ⟨.usersPut u q, ()⟩

theorem settled_agrees (held : Settled u p pool) (ids : HandlerIds pool.shared) {t : Thread}
    {work : Work} {op : MapCall} {next : op.Ret → Java Unit}
    (busy : pool.running t = some (work, .call op next)) :
    Agrees u p op (exec op pool.shared).1 := by
  refine ⟨exec_answer op ids, ?_, ?_⟩
  · intro q same
    obtain ⟨rfl, answer⟩ := Answered.mk.inj same
    have found : pool.shared.users.lookup u = some q := eq_of_heq answer
    rw [held.registered] at found
    exact (Option.some.inj found).symm
  · intro q same
    obtain ⟨rfl, _⟩ := Answered.mk.inj same
    exact held.alone t work _ busy ⟨q, next, rfl⟩

/-- Once a login is registered and no thread is about to put its passcode, the passcode stays
    as it is in every interleaving from there; and every connection that is not at work on a
    frame at that moment is answered CONNECTED for the login only with this passcode. -/
theorem settled_passcode_stays
    (reached : Interleaved (Pool.idle ServerState.initial) origin)
    (registered : origin.shared.users.lookup u = some p)
    (alone : ∀ t work q, origin.running t = some (work, q) → ¬ Registers u q)
    (observed : ObservedFrom origin pool transcript) :
    pool.shared.users.lookup u = some p ∧
      ∀ c w message q secret, origin.running (.handler c) = none →
        pool.running (.handler c) = some (.frame w message, q) →
        connectOf message = some (u, secret) → LetIn (current (.handler c) transcript) →
        secret = p := by
  have held : Settled u p origin := ⟨registered, alone⟩
  have runs : Interleaved origin pool := observed_runs observed
  refine ⟨(settled_reached reached held runs).registered, ?_⟩
  intro c w message q secret free busy asked letIn
  have answered : ∀ pool, Interleaved origin pool → ∀ t work op next,
      pool.running t = some (work, .call op next) → Agrees u p op (exec op pool.shared).1 := by
    intro pool onward t work op next busy
    have ids := handler_ids_reachable ⟨pool, reached.trans onward, rfl⟩
    exact settled_agrees (settled_reached reached held onward) ids busy
  rcases traces_since answered observed (.handler c) _ q busy with ⟨_, early, _⟩ | trace
  · rw [free] at early
    cases early
  · have agreed := trace_answered trace
    have known := trace_mono trace fun _ _ agrees => agrees.answer
    obtain ⟨login, passcode, connect, checked⟩ := process_checks known letIn
    obtain ⟨rfl, rfl⟩ : u = login ∧ secret = passcode := by simpa [asked] using connect
    rcases checked with got | put
    · exact (agreed _ got).got secret rfl
    · exact absurd rfl ((agreed _ put).unput secret)

/-- A login that one connection has registered, and another one that tries its own passcode. -/
theorem registered_passcode_stays : ∃ (origin pool : ServerPool) (transcript : List _),
    origin.shared.users.lookup "meni".toList = some "films".toList ∧
      ObservedFrom origin pool transcript ∧
      pool.shared.log.head? = some (.disconnected 1) ∧
      (pool.shared.users.lookup "meni".toList = some "films".toList ∧
        ∀ c w message q secret, origin.running (.handler c) = none →
          pool.running (.handler c) = some (.frame w message, q) →
          connectOf message = some ("meni".toList, secret) →
          LetIn (current (.handler c) transcript) → secret = "films".toList) := by
  have idle : ServerRuns.Resting ServerRuns.Server.initial (Pool.idle ServerState.initial) := by
    refine ⟨rfl, ?_⟩
    funext t
    simp [Pool.idle, ServerRuns.Server.initial]
  obtain ⟨first, reached₁, resting₁⟩ := ServerRuns.resting_construct rfl idle
  obtain ⟨second, reached₂, resting₂⟩ := ServerRuns.resting_increment rfl resting₁
  obtain ⟨origin, reached₃, resting₃⟩ := ServerRuns.resting_frame (c := 0) .plain
    (ReplyCount.connectText "meni" "films") (by decide) resting₂
  obtain ⟨third, reached₄, resting₄⟩ := ServerRuns.resting_construct rfl resting₃
  obtain ⟨fourth, reached₅, resting₅⟩ := ServerRuns.resting_increment rfl resting₄
  obtain ⟨pool, reached₆, resting₆⟩ := ServerRuns.resting_frame (c := 1) .plain
    (ReplyCount.connectText "meni" "music") (by decide) resting₅
  obtain ⟨transcript, observed⟩ := exists_observed ((reached₄.trans reached₅).trans reached₆)
  have registered : origin.shared.users.lookup "meni".toList = some "films".toList := by
    rw [resting₃.1]
    decide +kernel
  have refused : pool.shared.log.head? = some (.disconnected 1) := by
    rw [resting₆.1]
    decide +kernel
  have alone : ∀ t work q, origin.running t = some (work, q) → ¬ Registers "meni" q := by
    intro t work q busy
    rw [resting₃.2] at busy
    simp at busy
  exact ⟨origin, pool, transcript, registered, observed, refused,
    settled_passcode_stays ((reached₁.trans reached₂).trans reached₃) registered alone observed⟩

end Interleavings

end SettledPasscodes
