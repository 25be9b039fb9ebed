import EmergencyService.Server.LoginHistory
import EmergencyService.Server.ReplyCount

/- When a CONNECT is answered CONNECTED, in runs whose frames come one at a time from
   connections that are still in `activeClients`. -/
namespace ConnectAnswers
open JavaRuntime JavaFrame AtomicProgram MapCalls ConnectionsImpl StompProtocolImpl
open SubscriptionSweep ProcessRun FrameEvents CallFootprint BranchOutcomes HandlerThreads ServerRuns
open ReplyCount LoginHistory FrameOutcome

/-- A frame is processed only for a connection in `activeClients`. -/
def OnlyActive (s : ServerState) : Action → Prop
  | .frame _ c _ => c ∈ s.activeClients
  | _ => True

/-- The passcode registered for a login is that of its first accepted CONNECT. -/
def RegisteredFirst (s : ServerState) : Prop :=
  ∀ login, s.users.lookup login = firstPasscode login (historyOf s.log).accepted

/-- Nobody has registered and no CONNECT has been accepted in between. -/
structure SameAccounts (s s' : ServerState) : Prop where
  users : s'.users = s.users
  accepted : (historyOf s'.log).accepted = (historyOf s.log).accepted

theorem registered_of_same {s s' : ServerState} (same : SameAccounts s s')
    (registered : RegisteredFirst s) : RegisteredFirst s' := by
  intro login
  rw [same.users, same.accepted]
  exact registered login

theorem cleaned_up_users (w : Surroundings) (c : Nat) (s : ServerState) :
    (cleanedUp w c s).users = s.users := by
  rcases cleaned_up_cases w with ⟨_, same⟩ | ⟨_, s', effect, same⟩ | ⟨_, e, s', effect, same⟩
  · rw [same]
    rfl
  · rw [same]
    change s'.users = s.users
    rw [effect.frame]
    rfl
  · rw [same, effect.frame]
    rfl

theorem cleaned_up_accounts (w : Surroundings) (c : Nat) (s : ServerState) :
    SameAccounts s (cleanedUp w c s) := by
  refine ⟨cleaned_up_users w c s, ?_⟩
  rw [history_cleaned_up]
  split <;> rfl

theorem cleaned_up_logins (w : Surroundings) {c c' : Nat} (other : c' ≠ c) (s : ServerState)
    (u : Text) : (cleanedUp w c s).loggedInUsers.lookup u = some c' ↔
      s.loggedInUsers.lookup u = some c' := by
  rcases cleaned_up_cases w with ⟨_, same⟩ | ⟨_, s', effect, same⟩ | ⟨_, e, s', effect, same⟩
  · rw [same]
    rfl
  · rw [same]
    change s'.loggedInUsers.lookup u = some c' ↔ _
    rw [effect.frame]
    exact remove_value_other_iff w.logins c s.loggedInUsers other
  · rw [same, effect.frame]
    exact remove_value_other_iff w.logins c s.loggedInUsers other

section Connect
variable {w : Surroundings} {c : Nat} {message login passcode : Text} {frame : StompFrame}
  {s : ServerState}

theorem accepted_history (connect : connectOf message = some (login, passcode)) :
    (historyOf (answered w c connectedFrame (loggedIn login passcode c
      (begun c message frame s))).log).accepted =
        ⟨c, login, passcode⟩ :: (historyOf s.log).accepted := by
  rw [history_connected]
  change ((historyOf (begun c message frame s).log).grant c).accepted = _
  rw [history_begun]
  simp [History.observe, History.grant, connect]

theorem registered_accepted (connect : connectOf message = some (login, passcode))
    (registered : RegisteredFirst s)
    (known : ∀ p, s.users.lookup login = some p → p = passcode) :
    RegisteredFirst (answered w c connectedFrame (loggedIn login passcode c
      (begun c message frame s))) := by
  intro u
  rw [accepted_history connect, firstPasscode, ← registered u]
  change (if login ∈ s.users then s.users else s.users.insert login passcode).lookup u = _
  by_cases first : login ∈ s.users
  · rw [if_pos first]
    cases held : s.users.lookup u with
    | some p => rfl
    | none =>
      have ne : login ≠ u := by
        rintro rfl
        exact AList.lookup_eq_none.mp held first
      simp [ne]
  · rw [if_neg first]
    by_cases same : u = login
    · subst same
      rw [AList.lookup_insert, AList.lookup_eq_none.mpr first]
      simp
    · rw [AList.lookup_insert_ne same]
      cases held : s.users.lookup u with
      | some p => rfl
      | none => simp [Ne.symm same]

end Connect

section Steps
variable {w : Surroundings} {c : Nat} {message : Text} {frame : StompFrame} {s s' : ServerState}

theorem error_not_connected (o : IterationOrder Text) (headers : HashMap Text Text) :
    commandOf ((errorFrame headers).createFrame o) ≠ "CONNECTED" := by
  rw [error_command]
  decide

theorem receipt_not_connected (o : IterationOrder Text) (receiptID : Option Text) :
    commandOf ((receiptFrame receiptID).createFrame o) ≠ "CONNECTED" := by
  rw [receipt_command]
  decide

theorem outcome_accounts (outcome : Outcome w c frame s s') :
    SameAccounts s s' ∨ ∃ login passcode, frame.command = "CONNECT" ∧
      header frame.headers "login" = some login ∧
      header frame.headers "passcode" = some passcode ∧
      (∀ p, s.users.lookup login = some p → p = passcode) ∧
      s' = reported w c connectedFrame (loggedIn login passcode c s) := by
  cases outcome with
  | idle => exact Or.inl ⟨rfl, rfl⟩
  | connected login passcode command named secret free known =>
    exact Or.inr ⟨login, passcode, command, named, secret, known, rfl⟩
  | refused headers refusal active =>
    have same := cleaned_up_accounts w c (answered w c (errorFrame headers) s)
    refine Or.inl ⟨same.users, ?_⟩
    rw [same.accepted, history_answered w (error_not_connected _ headers)]
  | refusedTwice headers refusal active =>
    have same := cleaned_up_accounts w c (answered w c (errorFrame headers)
      (answered w c (errorFrame headers) s))
    refine Or.inl ⟨same.users, ?_⟩
    rw [same.accepted, history_answered w (error_not_connected _ headers),
      history_answered w (error_not_connected _ headers)]
  | disconnected result _ command active effect =>
    refine Or.inl ⟨by rw [effect.frame]; rfl, ?_⟩
    rw [history_disconnected w effect]
    change (historyOf (answered w c _ s).log).accepted = _
    rw [history_answered w (receipt_not_connected _ _)]
  | subscribed channel id s₁ command target number absent added =>
    refine Or.inl ⟨?_, ?_⟩
    · rw [reported_users, added.frame]
    · rw [history_reported w (receipt_not_connected _ _), added.frame]
  | unsubscribed channel id i command number found current =>
    refine Or.inl ⟨?_, ?_⟩
    · rw [reported_users]
      rfl
    · rw [history_reported w (receipt_not_connected _ _)]
      rfl
  | relayed channel id messageID command target held valid =>
    refine Or.inl ⟨rfl, ?_⟩
    have other : commandOf ((messageFrame id (s.protocol c).messageID channel
        frame.body).createFrame w.headers) ≠ "CONNECTED" := by
      rw [message_command]
      decide
    rw [history_deliver other]
    rfl

theorem registered_step (ids : HandlerIds s) (registered : RegisteredFirst s)
    (active : c ∈ s.activeClients) : RegisteredFirst (processed w c message s) := by
  rcases process_outcome w c message ids with ⟨e, _, same⟩ | ⟨frame, parsed, outcome⟩
  · rw [same]
    exact registered
  · rcases outcome_accounts outcome with same | ⟨login, passcode, command, named, secret, known, eq⟩
    · have start : SameAccounts s (begun c message frame s) := ⟨rfl, rfl⟩
      exact registered_of_same same (registered_of_same start registered)
    · have here : c ∈ (loggedIn login passcode c (begun c message frame s)).activeClients := active
      rw [eq, reported, if_pos here]
      exact registered_accepted (connect_of_parsed parsed command named secret) registered known

theorem registered_runs {server : Server} (runs : Runs OnlyActive Server.initial server) :
    RegisteredFirst server.state := by
  refine GuardedRuns.run_invariant (fun server => RegisteredFirst server.state) ?_ ?_ runs
  · intro login
    rfl
  · intro a before after reached registered admitted acted
    obtain ⟨rfl, _, rfl⟩ | ⟨rfl, _, rfl⟩ | ⟨w, c, message, rfl, _, rfl⟩ := act_cases acted
    · exact registered
    · exact registered
    · exact registered_step (runs_handler_ids reached) registered admitted

end Steps

section Answers
variable {w : Surroundings} {c : Nat} {message login passcode : Text}

/-- The login is free, and its passcode, if it has one, is the one of its first CONNECT. -/
def Admitted (login passcode : Text) (s : ServerState) : Prop :=
  login ∉ s.loggedInUsers ∧
    (firstPasscode login (historyOf s.log).accepted = none ∨
      firstPasscode login (historyOf s.log).accepted = some passcode)

def AnsweredConnected (c : Nat) (events : List Event) : Prop :=
  ∃ text, framesTo c events = [text] ∧ commandOf text = "CONNECTED"

def AnsweredError (c : Nat) (events : List Event) : Prop :=
  framesTo c events ≠ [] ∧ ∀ text ∈ framesTo c events, commandOf text = "ERROR"

structure OthersUntouched (c : Nat) (s s' : ServerState) : Prop where
  passcodes : s'.users = s.users
  logins : ∀ u c', c' ≠ c →
    (s'.loggedInUsers.lookup u = some c' ↔ s.loggedInUsers.lookup u = some c')

theorem not_both_answers {c : Nat} {events : List Event} (error : AnsweredError c events) :
    ¬ AnsweredConnected c events := by
  rintro ⟨text, only, connected⟩
  have refused := error.2 text (by simp [only])
  rw [connected] at refused
  exact absurd refused (by decide)

theorem error_answer {events : List Event} {sent : List (ConnectionHandler × Text)} {text : Text}
    (error : commandOf text = "ERROR") (frames : sentFrames events = sent) (some_frame : sent ≠ [])
    (each : ∀ frame ∈ sent, frame = (⟨c⟩, text)) : AnsweredError c events := by
  unfold AnsweredError framesTo
  rw [frames]
  constructor
  · cases sent with
    | nil => exact absurd rfl some_frame
    | cons frame rest => simp [each frame List.mem_cons_self]
  · intro text' member
    obtain ⟨frame, here, rfl⟩ := List.mem_map.mp member
    rw [each frame (List.mem_of_mem_filter here)]
    exact error

theorem connect_answer {s : ServerState} (ids : HandlerIds s) (registered : RegisteredFirst s)
    (active : c ∈ s.activeClients) (connect : connectOf message = some (login, passcode)) :
    (Admitted login passcode s ∧
      AnsweredConnected c (newEvents s (processed w c message s))) ∨
    (¬ Admitted login passcode s ∧ AnsweredError c (newEvents s (processed w c message s)) ∧
      OthersUntouched c s (processed w c message s)) := by
  obtain ⟨frame, parsed, command, named, secret⟩ := connect_of_some connect
  have own := own_handler ids active
  have start : (begun c message frame s).log = .received c message :: s.log := rfl
  have branch := dispatch_connect (w := w) (c := c) command
  by_cases taken : login ∈ s.loggedInUsers
  · have ran := connect_taken w (s := begun c message frame s) named taken own
    rw [processed_eq parsed (branch ▸ ran)]
    refine Or.inr ⟨fun admitted => admitted.1 taken, ?_, ?_⟩
    · have error : commandOf (alreadyConnected.createFrame w.headers) = "ERROR" :=
        error_command w.headers _
      exact error_answer error (once_refused_frames w start) (by simp) (by simp)
    · exact ⟨cleaned_up_users w c _, fun u c' other => cleaned_up_logins w other _ u⟩
  · by_cases known : ∀ p, s.users.lookup login = some p → p = passcode
    · have ran := connect_accepted w (s := begun c message frame s) named taken secret known own
      rw [processed_eq parsed (branch ▸ ran)]
      refine Or.inl ⟨⟨taken, ?_⟩, ?_⟩
      · rw [← registered login]
        cases held : s.users.lookup login with
        | none => exact Or.inl rfl
        | some p => exact Or.inr (by rw [known p held])
      · rw [answered_events w (by exact start)]
        exact ⟨_, by simp [framesTo, sentFrames], connected_command w.headers⟩
    · simp only [not_forall] at known
      obtain ⟨p, held, wrong⟩ := known
      have refused : some p ≠ header frame.headers "passcode" := by
        rw [secret]
        exact fun same => wrong (Option.some.inj same)
      have ran := connect_rejected w (s := begun c message frame s) named taken held refused own
      rw [processed_eq parsed (branch ▸ ran)]
      refine Or.inr ⟨?_, ?_, ?_⟩
      · rintro ⟨_, fresh | same⟩
        · rw [← registered login, held] at fresh
          cases fresh
        · rw [← registered login, held] at same
          exact wrong (Option.some.inj same)
      · have error : commandOf (wrongPassword.createFrame w.headers) = "ERROR" :=
          error_command w.headers _
        exact error_answer error (twice_refused w start) (by simp) (by simp)
      · exact ⟨cleaned_up_users w c _, fun u c' other => cleaned_up_logins w other _ u⟩

/-- In every run whose frames come from active connections, a CONNECT is answered CONNECTED
    exactly when it is admitted, and otherwise ERROR without touching anyone else. -/
theorem connect_answered_iff_admitted {server : Server}
    (runs : Runs OnlyActive Server.initial server) (active : c ∈ server.state.activeClients)
    (connect : connectOf message = some (login, passcode)) :
    (AnsweredConnected c (newEvents server.state (processed w c message server.state)) ↔
      Admitted login passcode server.state) ∧
    (¬ Admitted login passcode server.state →
      AnsweredError c (newEvents server.state (processed w c message server.state)) ∧
        OthersUntouched c server.state (processed w c message server.state)) := by
  rcases connect_answer (w := w) (runs_handler_ids runs) (registered_runs runs) active connect with
    ⟨admitted, connected⟩ | ⟨refused, error, untouched⟩
  · exact ⟨iff_of_true connected admitted, fun refused => absurd admitted refused⟩
  · exact ⟨iff_of_false (not_both_answers error) refused, fun _ => ⟨error, untouched⟩⟩

theorem first_connect_answered : AnsweredConnected 0 (newEvents (accepted ServerState.initial)
    (processed .plain 0 (connectText "meni" "films") (accepted ServerState.initial))) := by
  have first : Runs OnlyActive Server.initial ⟨constructed ServerState.initial, true⟩ :=
    Relation.ReflTransGen.single ⟨.construct, trivial, rfl⟩
  have runs : Runs OnlyActive Server.initial ⟨accepted ServerState.initial, false⟩ :=
    first.tail ⟨.increment, trivial, rfl⟩
  have connect : connectOf (connectText "meni" "films") = some ("meni".toList, "films".toList) :=
    rfl
  have admitted : Admitted "meni" "films" (accepted ServerState.initial) :=
    ⟨by decide, Or.inl rfl⟩
  exact (connect_answered_iff_admitted runs (by decide) connect).1.mpr admitted

end Answers

end ConnectAnswers
