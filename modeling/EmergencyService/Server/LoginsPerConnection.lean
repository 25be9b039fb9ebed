import EmergencyService.Server.HandlerLoops
import EmergencyService.Server.ReplyCount

/- How many logins `loggedInUsers` has for one connection: a CONNECT is not asked whether its
   connection has a user already, and a disconnection removes a single value. -/
namespace LoginsPerConnection
open JavaRuntime JavaFrame AtomicProgram MapCalls ConnectionsImpl StompProtocolImpl
open SubscriptionSweep ProcessRun FrameEvents BranchOutcomes FrameOutcome HandlerThreads ServerRuns
open DisconnectEffect HandlerLoops ReplyCount

def OneEach (s : ServerState) : Prop := ∀ c, SingleLogin c s

def HoldsNone (c : Nat) (s : ServerState) : Prop := ∀ u, s.loggedInUsers.lookup u ≠ some c

/-- A CONNECT that would be entered comes from a connection without a user. -/
def OneAtATime (s : ServerState) : Action → Prop
  | .frame _ c message =>
      ∀ frame, StompFrame.ofText message = .ok frame → Admits frame s → HoldsNone c s
  | _ => True

/-- Logins may have gone, but none has come. -/
def NoNewLogin (s s' : ServerState) : Prop :=
  ∀ u c, s'.loggedInUsers.lookup u = some c → s.loggedInUsers.lookup u = some c

section Steps
variable {w : Surroundings} {c : Nat} {message login : Text} {frame : StompFrame}
  {s s' : ServerState}

theorem one_each_fewer (fewer : NoNewLogin s s') (one : OneEach s) : OneEach s' := by
  intro c u u' first second
  exact one c u u' (fewer u c first) (fewer u' c second)

theorem one_each_insert_iff (free : login ∉ s.loggedInUsers)
    (entered : s'.loggedInUsers = s.loggedInUsers.insert login c) (one : OneEach s) :
    OneEach s' ↔ HoldsNone c s := by
  have here : s'.loggedInUsers.lookup login = some c := by
    rw [entered, AList.lookup_insert]
  have other : ∀ u, u ≠ login → s'.loggedInUsers.lookup u = s.loggedInUsers.lookup u := by
    intro u differs
    rw [entered, AList.lookup_insert_ne differs]
  have held : ∀ u d, s.loggedInUsers.lookup u = some d → u ≠ login := by
    intro u d found same
    rw [same, AList.lookup_eq_none.mpr free] at found
    cases found
  constructor
  · intro each u found
    have differs := held u c found
    exact differs (each c u login ((other u differs).trans found) here)
  · intro none d u u' first second
    by_cases fresh : u = login
    · by_cases fresh' : u' = login
      · rw [fresh, fresh']
      · rw [other u' fresh'] at second
        rw [fresh, here] at first
        cases first
        exact absurd second (none u')
    · rw [other u fresh] at first
      by_cases fresh' : u' = login
      · rw [fresh', here] at second
        cases second
        exact absurd first (none u)
      · rw [other u' fresh'] at second
        exact one d u u' first second

theorem cleaned_up_no_login (w : Surroundings) (c : Nat) (s : ServerState) :
    NoNewLogin s (cleanedUp w c s) :=
  fun u c' held => cleaned_up_effect.logins u c' held

theorem outcome_logins (outcome : Outcome w c frame s s') :
    NoNewLogin s s' ∨ Admits frame s := by
  cases outcome with
  | idle => exact Or.inl fun _ _ held => held
  | connected login passcode command named secret free known =>
    exact Or.inr ⟨command, login, passcode, named, secret, free, known⟩
  | refused headers refusal active => exact Or.inl (cleaned_up_no_login w c _)
  | refusedTwice headers refusal active => exact Or.inl (cleaned_up_no_login w c _)
  | disconnected result _ command active effect =>
    left
    intro u c' held
    rw [effect.frame] at held
    exact remove_value_subset w.logins c s.loggedInUsers held
  | subscribed channel id s₁ command target number absent added =>
    left
    intro u c' held
    rw [reported_logins, added.frame] at held
    exact held
  | unsubscribed channel id i command number found current =>
    left
    intro u c' held
    rw [reported_logins] at held
    exact held
  | relayed channel id messageID command target held valid => exact Or.inl fun _ _ held => held

theorem admitted_entered (ids : HandlerIds s) (parsed : StompFrame.ofText message = .ok frame)
    (admits : Admits frame s) : ∃ login, login ∉ s.loggedInUsers ∧
      (processed w c message s).loggedInUsers = s.loggedInUsers.insert login c := by
  obtain ⟨command, login, passcode, named, secret, free, known⟩ := admits
  have same : HandlerIds (loggedIn login passcode c (begun c message frame s)) := ids
  have after := reply_only_run (w := w) (c := c) same connectedFrame
  have entered := connect_user_accepted (s := begun c message frame s) (c := c) known
  have absent : login ∉ (begun c message frame s).loggedInUsers := free
  apply Exists.intro login
  apply And.intro free
  unfold processed
  rw [process_parsed parsed, dispatch_connect command]
  simp only [processConnect, named, secret, userConnectedAlready, run_bind, run_deref_some,
    run_loggedInUsers_containsKey, absent, decide_false, Bool.false_eq_true, if_false, entered,
    if_true]
  rw [run_bind] at after
  rw [after, reported_logins]
  rfl

theorem processed_logins (w : Surroundings) (c : Nat) (message : Text) (ids : HandlerIds s) :
    NoNewLogin s (processed w c message s) ∨
      ∃ frame, StompFrame.ofText message = .ok frame ∧ Admits frame s := by
  rcases process_outcome w c message ids with ⟨e, _, same⟩ | ⟨frame, parsed, outcome⟩
  · rw [same]
    exact Or.inl fun _ _ held => held
  · rcases outcome_logins outcome with none | admits
    · exact Or.inl none
    · exact Or.inr ⟨frame, parsed, admits⟩

/-- A frame keeps one login for each connection exactly when it is no CONNECT of a
    connection that has a user, or not an admitted one. -/
theorem one_each_frame_iff (ids : HandlerIds s) (one : OneEach s) :
    OneEach (processed w c message s) ↔ OneAtATime s (.frame w c message) := by
  by_cases admitted : ∃ frame, StompFrame.ofText message = .ok frame ∧ Admits frame s
  · obtain ⟨frame, parsed, admits⟩ := admitted
    obtain ⟨login, free, entered⟩ := admitted_entered (w := w) (c := c) ids parsed admits
    rw [one_each_insert_iff free entered one]
    constructor
    · intro none _ _ _
      exact none
    · intro single
      exact single frame parsed admits
  · constructor
    · intro _ frame parsed admits
      exact absurd ⟨frame, parsed, admits⟩ admitted
    · intro _
      exact one_each_fewer ((processed_logins w c message ids).resolve_right admitted) one

end Steps

section Runs

/-- One login for each connection at most, and all of them gone after the removal of one
    value, whichever the iterator comes to first. -/
structure FreedByOne (s : ServerState) : Prop where
  single : ∀ c u u', s.loggedInUsers.lookup u = some c → s.loggedInUsers.lookup u' = some c →
    u = u'
  freed : ∀ (w : Surroundings) c u, (removeValue w.logins c s.loggedInUsers).lookup u ≠ some c

/-- In every run in which no connection with a user connects another one, a connection has
    one login at most. -/
theorem one_login_each {server : Server} (runs : Runs OneAtATime Server.initial server) :
    FreedByOne server.state := by
  have one : OneEach server.state := by
    apply GuardedRuns.run_invariant (fun server : Server => OneEach server.state) _ _ runs
    · intro c u u' held
      cases held
    · intro a before after earlier one admitted acted
      obtain ⟨rfl, _, rfl⟩ | ⟨rfl, _, rfl⟩ | ⟨w, c, message, rfl, _, rfl⟩ := act_cases acted
      · exact one
      · exact one
      · exact (one_each_frame_iff (runs_handler_ids earlier) one).mpr admitted
  constructor
  · exact one
  · intro w c
    exact (remove_value_clears_iff w.logins c server.state.loggedInUsers).mpr (one c)

/-- Enough for one at a time: the connection has no login in the map. -/
def check (server : Server) : Action → Bool
  | .frame _ c _ => server.state.loggedInUsers.entries.all fun entry => entry.2 ≠ c
  | _ => true

theorem check_sound (server : Server) (a : Action) (checked : check server a = true) :
    OneAtATime server.state a := by
  cases a with
  | construct => trivial
  | increment => trivial
  | frame w c message =>
    intro frame parsed admits u held
    have entry := AList.mem_lookup_iff.mp (Option.mem_def.mpr held)
    have other := List.all_eq_true.mp checked _ entry
    simp at other

def twoUsers : List Action :=
  [.construct, .increment, .construct, .increment,
    .frame .plain 0 (connectText "meni" "films"), .frame .plain 1 (connectText "yossi" "films")]

theorem two_users_freed :
    ∃ server, GuardedRuns.actsWhere Server.act check twoUsers Server.initial = some server ∧
      FreedByOne server.state := by
  obtain ⟨server, acted⟩ : ∃ server,
      GuardedRuns.actsWhere Server.act check twoUsers Server.initial = some server :=
    Option.isSome_iff_exists.mp (by decide +kernel)
  have runs := GuardedRuns.run_of_acts_where check_sound twoUsers acted
  exact ⟨server, acted, one_login_each runs⟩

def twiceConnected : ServerState :=
  processed .plain 0 (connectText "yossi" "films")
    (processed .plain 0 (connectText "meni" "films") (accepted ServerState.initial))

theorem second_login_left :
    Runs (fun _ _ => True) Server.initial ⟨twiceConnected, false⟩ ∧
      twiceConnected.loggedInUsers.lookup "meni".toList = some 0 ∧
      twiceConnected.loggedInUsers.lookup "yossi".toList = some 0 ∧
      (removeValue .stored 0 twiceConnected.loggedInUsers).lookup "meni".toList = some 0 := by
  have acted : Server.acts [.construct, .increment, .frame .plain 0 (connectText "meni" "films"),
      .frame .plain 0 (connectText "yossi" "films")] Server.initial =
        some ⟨twiceConnected, false⟩ := rfl
  apply And.intro (GuardedRuns.run_of_acts _ acted)
  decide +kernel

end Runs
end LoginsPerConnection
