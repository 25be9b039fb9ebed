import EmergencyService.Server.HandlerThreads
import EmergencyService.Server.LoginHistory
import EmergencyService.Server.ReplyCount

/- CONNECTs of several connections at once. The checks and the puts of `connectUser` are
   separate calls, so a login is exclusive as long as no put finds its key taken. -/
namespace LoginRaces
open JavaRuntime JavaFrame AtomicProgram ThreadInterleaving MapCalls ConnectionsImpl
open StompProtocolImpl CallFootprint HandlerThreads ServerRuns LoginHistory

/-- No other thread has put the key since this one has looked for it; for a passcode the
    same value does no harm. -/
def NoTakeover (_ : Thread) : MapCall → ServerState → Prop
  | .loggedInPut u _, s => u ∉ s.loggedInUsers
  | .usersPut u p, s => s.users.lookup u = none ∨ s.users.lookup u = some p
  | _, _ => True

instance (t : Thread) (op : MapCall) (s : ServerState) : Decidable (NoTakeover t op s) := by
  cases op with
  | loggedInPut u c => exact inferInstanceAs (Decidable (¬ _))
  | usersPut u p => exact inferInstanceAs (Decidable (_ ∨ _))
  | _ => exact inferInstanceAs (Decidable True)

/-- A held login is in `loggedInUsers`, and an accepted passcode is the registered one. -/
structure Consistent (s : ServerState) : Prop where
  ids : HandlerIds s
  logins : ∀ c u, u ∈ (historyOf s.log).held c → s.loggedInUsers.lookup u = some c
  passcodes : ∀ a ∈ (historyOf s.log).accepted, s.users.lookup a.login = some a.passcode

/-- What a handler thread can count on while the others move. -/
structure Relied (t : Thread) (s s' : ServerState) : Prop where
  users : ∀ u p, s.users.lookup u = some p → s'.users.lookup u = some p
  logins : ∀ c u, t = .handler c → s.loggedInUsers.lookup u = some c →
    s'.loggedInUsers.lookup u = some c
  request : ∀ c, t = .handler c → (historyOf s'.log).request c = (historyOf s.log).request c

def connecting : Discipline ServerState Thread MapCall where
  inv := Consistent
  rely := Relied
  keeps _ _ := True
  permitted := NoTakeover

section Calls
variable {t : Thread} {c : Nat} {s s' : ServerState}

theorem safe_same (inv : Consistent s) (ids : HandlerIds s') (users : s'.users = s.users)
    (logins : s'.loggedInUsers = s.loggedInUsers)
    (history : historyOf s'.log = historyOf s.log) : connecting.Safe t s s' := by
  refine ⟨⟨ids, ?_, ?_⟩, trivial, fun t' _ => ⟨?_, ?_, ?_⟩⟩
  · rw [history, logins]
    exact inv.logins
  · rw [history, users]
    exact inv.passcodes
  · intro u p held
    rwa [users]
  · intro c u _ held
    rwa [logins]
  · intro c _
    rw [history]

/-- The calls of a handler thread, without the answer CONNECTED. -/
def OwnCall (c : Nat) : MapCall → Prop
  | .received c' _ | .loggedInRemoveValue _ c' | .loggedInPut _ c' => c' = c
  | .handlerSend _ text => commandOf text ≠ "CONNECTED"
  | .activePut c' h => h = ⟨c'⟩
  | _ => True

theorem other_handler {c c' : Nat} (other : Thread.handler c' ≠ Thread.handler c) : c' ≠ c := by
  rintro rfl
  exact other rfl

theorem safe_received (message : Text) (inv : Consistent s) :
    connecting.Safe (.handler c) s (exec (.received c message) s).2 := by
  refine ⟨⟨inv.ids, inv.logins, inv.passcodes⟩, trivial, fun t' other => ⟨?_, ?_, ?_⟩⟩
  · exact fun _ _ held => held
  · exact fun _ _ _ held => held
  · rintro c' rfl
    have ne := other_handler other
    exact Function.update_of_ne ne _ _

theorem safe_login {u : Text} (free : u ∉ s.loggedInUsers) (inv : Consistent s) :
    connecting.Safe (.handler c) s (exec (.loggedInPut u c) s).2 := by
  have kept : ∀ v c', s.loggedInUsers.lookup v = some c' →
      (s.loggedInUsers.insert u c).lookup v = some c' := by
    intro v c' held
    have ne : v ≠ u := by
      rintro rfl
      exact free (AList.lookup_isSome.mp (by simp [held]))
    rwa [AList.lookup_insert_ne ne]
  refine ⟨⟨inv.ids, ?_, inv.passcodes⟩, trivial, fun t' _ => ⟨?_, ?_, ?_⟩⟩
  · exact fun c' v member => kept v c' (inv.logins c' v member)
  · exact fun _ _ held => held
  · exact fun c' v _ held => kept v c' held
  · exact fun _ _ => rfl

theorem safe_register {u p : Text}
    (same : s.users.lookup u = none ∨ s.users.lookup u = some p) (inv : Consistent s) :
    connecting.Safe t s (exec (.usersPut u p) s).2 := by
  have kept : ∀ v q, s.users.lookup v = some q → (s.users.insert u p).lookup v = some q := by
    intro v q held
    by_cases here : v = u
    · subst here
      rw [AList.lookup_insert]
      rcases same with absent | same
      · rw [absent] at held
        cases held
      · rw [← same, held]
    · rwa [AList.lookup_insert_ne here]
  refine ⟨⟨inv.ids, inv.logins, ?_⟩, trivial, fun t' _ => ⟨kept, ?_, ?_⟩⟩
  · exact fun a member => kept a.login a.passcode (inv.passcodes a member)
  · exact fun _ _ _ held => held
  · exact fun _ _ => rfl

theorem safe_logout (o : IterationOrder Text) (inv : Consistent s) :
    connecting.Safe (.handler c) s (exec (.loggedInRemoveValue o c) s).2 := by
  refine ⟨⟨inv.ids, ?_, inv.passcodes⟩, trivial, fun t' other => ⟨?_, ?_, ?_⟩⟩
  · intro c' u member
    change u ∈ (Function.update (historyOf s.log).held c []) c' at member
    by_cases own : c' = c
    · subst own
      simp at member
    · rw [Function.update_of_ne own] at member
      exact remove_value_keeps_others o c s.loggedInUsers own (inv.logins c' u member)
  · exact fun _ _ held => held
  · rintro c' u rfl held
    exact remove_value_keeps_others o c s.loggedInUsers (other_handler other) held
  · exact fun _ _ => rfl

theorem safe_own_call {op : MapCall} (own : OwnCall c op) (ok : NoTakeover (.handler c) op s)
    (inv : Consistent s) : connecting.Safe (.handler c) s (exec op s).2 := by
  cases op with
  | received c' message =>
    obtain rfl : c' = c := own
    exact safe_received message inv
  | loggedInPut u c' =>
    obtain rfl : c' = c := own
    exact safe_login ok inv
  | usersPut u p => exact safe_register ok inv
  | loggedInRemoveValue o c' =>
    obtain rfl : c' = c := own
    exact safe_logout o inv
  | handlerSend h text => exact safe_same inv inv.ids rfl rfl (observe_other own)
  | activePut c' h => exact safe_same inv (exec_handler_ids _ own inv.ids) rfl rfl rfl
  | activeRemove c' =>
    exact safe_same inv (exec_handler_ids (.activeRemove c') trivial inv.ids) rfl rfl rfl
  | _ => exact safe_same inv inv.ids rfl rfl rfl

theorem own_of_process {frame : StompFrame} {op : MapCall} (other : frame.command ≠ "CONNECT")
    (call : ProcessCall c frame op) : OwnCall c op := by
  cases op with
  | received c' message => exact call.elim
  | activePut c' h => exact call.elim
  | loggedInPut u c' => exact call.1
  | loggedInRemoveValue o c' => exact call
  | handlerSend h text => exact fun connected => other (call connected).1
  | _ => trivial

theorem outline_own {α : Type} {p : Java α} (calls : Calls HandlerAnswer (OwnCall c) p)
    (A : ServerState → Prop) :
    connecting.Outline exec (.handler c) (fun _ _ => True) p A := by
  have anywhere : connecting.Stable (.handler c) fun _ => True := fun _ _ _ _ _ _ => trivial
  refine Discipline.outline_weaken (B := fun _ => True) ?_ fun _ _ _ => trivial
  refine Discipline.outline_of_calls calls anywhere fun op s own inv _ ok => ?_
  exact ⟨exec_answer op inv.ids, safe_own_call own ok inv, trivial⟩

theorem calls_refuse_own (w : Surroundings) (headers : HashMap Text Text) :
    Calls HandlerAnswer (OwnCall c) (refuse w c (errorFrame headers)) := by
  have other : (errorFrame headers).command ≠ "CONNECT" := by
    change "ERROR".toList ≠ _
    decide
  have refusal : Calls HandlerAnswer (ProcessCall c (errorFrame headers)) _ :=
    calls_refuse w c headers
  exact calls_mono refusal fun _ => own_of_process other

end Calls

section Connect
variable {c : Nat} {message login passcode : Text}

/-- The request that the connection has made last is this text. -/
def Asked (c : Nat) (message : Text) (s : ServerState) : Prop :=
  (historyOf s.log).request c = connectOf message

structure Registered (c : Nat) (message login passcode : Text) (s : ServerState) : Prop where
  asked : Asked c message s
  user : s.users.lookup login = some passcode

structure Entered (c : Nat) (message login passcode : Text) (s : ServerState) : Prop extends
    Registered c message login passcode s where
  holder : s.loggedInUsers.lookup login = some c

theorem stable_asked : connecting.Stable (.handler c) (Asked c message) := by
  intro s s' _ _ relied asked
  rw [Asked, relied.request c rfl]
  exact asked

theorem stable_registered :
    connecting.Stable (.handler c) (Registered c message login passcode) := by
  intro s s' inv inv' relied registered
  exact ⟨stable_asked s s' inv inv' relied registered.asked,
    relied.users login passcode registered.user⟩

theorem stable_entered : connecting.Stable (.handler c) (Entered c message login passcode) := by
  intro s s' inv inv' relied entered
  exact ⟨stable_registered s s' inv inv' relied entered.toRegistered,
    relied.logins c login rfl entered.holder⟩

/-- After `connectUser` has returned true the login is entered under its passcode. -/
def Connected (c : Nat) (message login : Text) (secret : Option Text)
    (result : Except JavaException Bool) (s : ServerState) : Prop :=
  result = .ok true → ∃ passcode, secret = some passcode ∧ Entered c message login passcode s

theorem outline_log_in (secret : Option Text) (same : secret = some passcode) :
    connecting.Outline exec (.handler c) (Connected c message login secret) (do
      logIn (some login) c
      return true) (Registered c message login passcode) := by
  refine Discipline.outline_perform_bind _ (fun _ => Entered c message login passcode)
    (fun _ => stable_entered) ?_ ?_
  · intro s inv registered free
    refine ⟨safe_login free inv, ⟨registered.asked, registered.user⟩, ?_⟩
    exact AList.lookup_insert _
  · exact fun _ s _ entered _ => ⟨passcode, same, entered⟩

theorem outline_connect_user (secret : Option Text) :
    connecting.Outline exec (.handler c) (Connected c message login secret)
      (connectUser (some login) secret c) (Asked c message) := by
  refine Discipline.outline_perform_bind (.usersContains login)
    (fun _ => Asked c message) (fun _ => stable_asked) ?_ fun registered => ?_
  · intro s inv asked _
    exact ⟨safe_same inv inv.ids rfl rfl rfl, asked⟩
  cases registered with
  | true =>
    refine Discipline.outline_perform_bind (MapCall.usersGet login)
      (fun (found : Option Text) s => Asked c message s ∧
        ∀ p, found = some p → s.users.lookup login = some p) ?_ ?_ fun found => ?_
    · intro found s s' inv inv' relied h
      refine ⟨stable_asked s s' inv inv' relied h.1, fun p here => ?_⟩
      exact relied.users login p (h.2 p here)
    · intro s inv asked _
      exact ⟨safe_same inv inv.ids rfl rfl rfl, asked, fun p here => here⟩
    cases found with
    | none => exact fun _ _ _ impossible => by cases impossible
    | some known =>
      change connecting.Outline exec (.handler c) _ (if some known = secret then _ else _) _
      split
      · rename_i same
        refine Discipline.outline_weaken (outline_log_in secret same.symm) fun s _ h => ?_
        exact ⟨h.1, h.2 known rfl⟩
      · exact fun _ _ _ impossible => by cases impossible
  | false =>
    cases secret with
    | none => exact fun _ _ _ impossible => by cases impossible
    | some passcode =>
      refine Discipline.outline_perform_bind (.usersPut login passcode)
        (fun _ => Registered c message login passcode) (fun _ => stable_registered) ?_
        fun _ => outline_log_in _ rfl
      intro s inv asked free
      exact ⟨safe_register free inv, asked, AList.lookup_insert _⟩

/-- The answer CONNECTED is sent while the login is entered, so the history agrees. -/
theorem safe_connected (w : Surroundings) {s : ServerState}
    (request : connectOf message = some (login, passcode))
    (entered : Entered c message login passcode s) (inv : Consistent s) :
    connecting.Safe (.handler c) s
      (exec (.handlerSend ⟨c⟩ (connectedFrame.createFrame w.headers)) s).2 := by
  have asked : (historyOf s.log).request c = some (login, passcode) := entered.asked.trans request
  have history : historyOf (exec (.handlerSend ⟨c⟩ (connectedFrame.createFrame w.headers))
      s).2.log = { historyOf s.log with
        accepted := ⟨c, login, passcode⟩ :: (historyOf s.log).accepted
        held := Function.update (historyOf s.log).held c
          (login :: (historyOf s.log).held c) } :=
    (observe_connected (connected_command w.headers)).trans (grant_of_request asked)
  refine ⟨⟨inv.ids, ?_, ?_⟩, trivial, fun t' _ => ⟨?_, ?_, ?_⟩⟩
  · rw [history]
    intro c' u member
    by_cases own : c' = c
    · subst own
      simp only [Function.update_self] at member
      rcases List.mem_cons.mp member with rfl | before
      · exact entered.holder
      · exact inv.logins c' u before
    · simp only [Function.update_of_ne own] at member
      exact inv.logins c' u member
  · rw [history]
    intro a member
    rcases List.mem_cons.mp member with rfl | before
    · exact entered.user
    · exact inv.passcodes a before
  · exact fun _ _ held => held
  · exact fun _ _ _ held => held
  · intro c' _
    rw [history]

theorem outline_reply_connected (w : Surroundings)
    (request : connectOf message = some (login, passcode)) :
    connecting.Outline exec (.handler c) (fun _ _ => True) (do
      let _ ← reply w c connectedFrame
      return ()) (Entered c message login passcode) := by
  refine Discipline.outline_perform_bind (MapCall.activeGet c)
    (fun (found : HandlerRef) s =>
      (found = none ∨ found = some ⟨c⟩) ∧ Entered c message login passcode s)
    ?_ ?_ fun found => ?_
  · exact fun found s s' inv inv' relied h => ⟨h.1, stable_entered s s' inv inv' relied h.2⟩
  · intro s inv entered _
    have answer : _ = none ∨ _ = some _ := exec_answer (.activeGet c) inv.ids
    exact ⟨safe_same inv inv.ids rfl rfl rfl, answer, entered⟩
  cases found with
  | none => exact fun _ _ _ => trivial
  | some h =>
    refine Discipline.outline_perform_bind
      (MapCall.handlerSend h (connectedFrame.createFrame w.headers)) (fun _ _ => True)
      (fun _ _ _ _ _ _ _ => trivial) ?_ fun _ => ?_
    · intro s inv holds _
      obtain rfl : h = ⟨c⟩ := by simpa using holds.1
      exact ⟨safe_connected w request holds.2 inv, trivial⟩
    · exact fun _ _ _ => trivial

theorem outline_connect (w : Surroundings) {frame : StompFrame}
    (parsed : StompFrame.ofText message = .ok frame) (command : frame.command = "CONNECT") :
    connecting.Outline exec (.handler c) (fun _ _ => True)
      (processConnect w c frame.headers) (Asked c message) := by
  cases named : header frame.headers "login" with
  | none =>
    unfold processConnect
    rw [named]
    exact fun _ _ _ => trivial
  | some login =>
    unfold processConnect
    rw [named]
    refine Discipline.outline_perform_bind (.loggedInContains login)
      (fun _ => Asked c message) (fun _ => stable_asked) ?_ fun taken => ?_
    · intro s inv asked _
      exact ⟨safe_same inv inv.ids rfl rfl rfl, asked⟩
    cases taken with
    | true => exact outline_own (calls_refuse_own w _) _
    | false =>
      refine Discipline.outline_bind (outline_connect_user (header frame.headers "passcode"))
        (fun done => ?_) fun _ _ _ _ => trivial
      cases done with
      | false =>
        have calls : Calls HandlerAnswer (OwnCall c) (do
            let _ ← reply w c wrongPassword
            refuse w c wrongPassword) := by
          refine calls_bind ?_ fun _ => calls_refuse_own w _
          have replied : Calls HandlerAnswer (ProcessCall c wrongPassword) _ :=
            calls_of_work c (calls_reply_error w c (put ∅ "message" "Wrong password"))
          exact calls_mono replied fun _ => own_of_process (by decide)
        exact outline_own calls _
      | true =>
        cases secret : header frame.headers "passcode" with
        | none =>
          refine Discipline.outline_weaken (Discipline.outline_unreached _ _) fun s _ done => ?_
          obtain ⟨passcode, absent, _⟩ := done rfl
          cases absent
        | some passcode =>
          have request := connect_of_parsed parsed command named secret
          refine Discipline.outline_weaken (outline_reply_connected w request) fun s _ done => ?_
          obtain ⟨p, same, entered⟩ := done rfl
          cases same
          exact entered

theorem outline_process (w : Surroundings) (c : Nat) (message : Text) :
    connecting.Outline exec (.handler c) (fun _ _ => True) (process w c message)
      fun _ => True := by
  refine Discipline.outline_perform_bind (.received c message)
    (fun _ => Asked c message) (fun _ => stable_asked) ?_ fun _ => ?_
  · intro s inv _ _
    refine ⟨safe_received message inv, ?_⟩
    exact Function.update_self _ _ _
  cases parsed : StompFrame.ofText message with
  | error e => exact fun _ _ _ => trivial
  | ok frame =>
    refine Discipline.outline_perform_bind
      (.setShouldTerminate c (decide (frame.command = "DISCONNECT")))
      (fun _ => Asked c message) (fun _ => stable_asked) ?_ fun _ => ?_
    · intro s inv asked _
      exact ⟨safe_same inv inv.ids rfl rfl rfl, asked⟩
    by_cases command : frame.command = "CONNECT"
    · rw [FrameEvents.dispatch_connect command]
      exact outline_connect w parsed command
    · refine outline_own (calls_mono (calls_dispatch w c frame) fun _ => ?_) _
      exact own_of_process command

end Connect

section Pools

theorem outline_code (t : Thread) (work : Work) :
    connecting.Outline exec t (fun _ _ => True) (code t work) fun _ => True := by
  have anywhere : ∀ t, connecting.Stable t fun _ => True := fun _ _ _ _ _ _ _ => trivial
  cases t with
  | acceptor =>
    refine Discipline.outline_perform_bind (.counterGet) (fun _ _ => True)
      (fun _ => anywhere _) ?_ fun id => ?_
    · exact fun s inv _ _ => ⟨safe_same inv inv.ids rfl rfl rfl, trivial⟩
    refine Discipline.outline_perform_bind (.activePut id ⟨id⟩) (fun _ _ => True)
      (fun _ => anywhere _) ?_ fun _ => ?_
    · intro s inv _ _
      have ids := exec_handler_ids (.activePut id ⟨id⟩) rfl inv.ids
      exact ⟨safe_same inv ids rfl rfl rfl, trivial⟩
    refine ⟨fun _ _ => True, fun _ => anywhere _, ?_, fun _ _ _ _ => trivial⟩
    exact fun s inv _ _ => ⟨safe_same inv inv.ids rfl rfl rfl, trivial⟩
  | handler c =>
    cases work with
    | accept => exact fun _ _ _ => trivial
    | frame w message => exact outline_process w c message

theorem consistent_initial : Consistent ServerState.initial := by
  refine ⟨handler_ids_initial, ?_, ?_⟩
  · intro c u member
    cases member
  · intro a member
    cases member

theorem consistent_reached {pool : ServerPool}
    (reached : Reached exec code mayStart NoTakeover (Pool.idle ServerState.initial) pool) :
    Consistent pool.shared := by
  have opening : ∀ t work, ∃ A, connecting.Stable t A ∧
      (∀ s, connecting.inv s → mayStart t work s → A s) ∧
      connecting.Outline exec t (fun _ _ => True) (code t work) A :=
    fun t work => ⟨fun _ => True, fun _ _ _ _ _ _ => trivial, fun _ _ _ => trivial,
      outline_code t work⟩
  have sound : Sound exec connecting (fun _ _ _ _ => True) pool := by
    refine sound_reached opening ?_ (sound_idle consistent_initial) reached
    exact fun _ _ _ _ _ _ _ => trivial
  exact sound.inv

/-- No two connections hold one login, and all accepted CONNECTs of a login gave the same
    passcode. -/
structure ExclusiveLogins (s : ServerState) : Prop where
  holders : ∀ u c c', u ∈ (historyOf s.log).held c → u ∈ (historyOf s.log).held c' → c = c'
  passcodes : ∀ a ∈ (historyOf s.log).accepted, ∀ b ∈ (historyOf s.log).accepted,
    a.login = b.login → a.passcode = b.passcode

/-- In every interleaving in which no put finds that another thread was faster. -/
theorem logins_exclusive {pool : ServerPool}
    (reached : Reached exec code mayStart NoTakeover (Pool.idle ServerState.initial) pool) :
    ExclusiveLogins pool.shared := by
  have inv := consistent_reached reached
  constructor
  · intro u c c' held held'
    have first := inv.logins c u held
    rw [inv.logins c' u held'] at first
    exact (Option.some.inj first).symm
  · intro a member b member' same
    have first := inv.passcodes a member
    rw [same, inv.passcodes b member'] at first
    exact (Option.some.inj first).symm

end Pools

section Schedules
open ReplyCount

def turns (t : Thread) (n : Nat) : List (Move Thread Work) := List.replicate n (.turn t)

def accept : List (Move Thread Work) := .start .acceptor .accept :: turns .acceptor 4

def connect (c : Nat) (login passcode : Text) : Move Thread Work :=
  .start (.handler c) (.frame .plain (connectText login passcode))

def onePool : Option ServerPool :=
  Pool.moves exec code mayStart NoTakeover
    (accept ++ connect 0 "meni" "films" :: turns (.handler 0) 9) (Pool.idle ServerState.initial)

theorem one_login_exclusive : ∃ pool, onePool = some pool ∧
    "meni".toList ∈ (historyOf pool.shared.log).held 0 ∧ ExclusiveLogins pool.shared := by
  have held : onePool.map (fun pool => (historyOf pool.shared.log).held 0) =
    some ["meni".toList] := by decide
  obtain ⟨pool, ran, logins⟩ := Option.map_eq_some_iff.mp held
  exact ⟨pool, ran, by simp [logins], logins_exclusive (reached_of_moves exec code mayStart ran)⟩

/-- Two connections look for the login and the user before either of them puts it. -/
def racePool : Option ServerPool :=
  Pool.moves exec code mayStart (fun _ _ _ => True)
    (accept ++ accept ++
      connect 0 "meni" "films" :: turns (.handler 0) 4 ++
      connect 1 "meni" "music" :: turns (.handler 1) 4 ++
      turns (.handler 0) 5 ++ turns (.handler 1) 5) (Pool.idle ServerState.initial)

theorem both_connected : ∃ pool : ServerPool,
    Reached exec code mayStart (fun _ _ _ => True) (Pool.idle ServerState.initial) pool ∧
      "meni".toList ∈ (historyOf pool.shared.log).held 0 ∧
      "meni".toList ∈ (historyOf pool.shared.log).held 1 ∧
      ⟨0, "meni", "films"⟩ ∈ (historyOf pool.shared.log).accepted ∧
      ⟨1, "meni", "music"⟩ ∈ (historyOf pool.shared.log).accepted := by
  have ends : racePool.map (fun pool => ((historyOf pool.shared.log).held 0,
      (historyOf pool.shared.log).held 1, (historyOf pool.shared.log).accepted)) =
    some (["meni".toList], ["meni".toList],
      [⟨1, "meni", "music"⟩, ⟨0, "meni", "films"⟩]) := by decide
  obtain ⟨pool, ran, same⟩ := Option.map_eq_some_iff.mp ends
  obtain ⟨first, second, accepted⟩ : _ = _ ∧ _ = _ ∧ _ = _ := by simpa using same
  refine ⟨pool, reached_of_moves exec code mayStart ran, ?_, ?_, ?_, ?_⟩
  · simp [first]
  · simp [second]
  · simp [accepted]
  · simp [accepted]

end Schedules

end LoginRaces
