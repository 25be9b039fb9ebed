import EmergencyService.Server.AnswerSource
import EmergencyService.Server.ConnectAnswers
import EmergencyService.Server.MessageRelay

/- When every subscribed handler is that of a connection with a logged-in user: in runs in
   which nobody subscribes before CONNECTED, and a disconnection finds all that it has to
   remove. -/
namespace SubscriberLogins
open JavaRuntime JavaFrame AtomicProgram MapCalls ConnectionsImpl StompProtocolImpl
open SubscriptionSweep ProcessRun FrameEvents CallFootprint BranchOutcomes HandlerThreads ServerRuns
open LoginHistory FrameOutcome AnswerSource ConnectAnswers

/-- The connection was answered CONNECTED and has not been disconnected since. -/
def LoggedIn (c : Nat) (s : ServerState) : Prop := (historyOf s.log).held c ≠ []

/-- The call of `disconnect` for `c` gets to every subscription of its handler. -/
def Clears (w : Surroundings) (c : Nat) (s : ServerState) : Prop :=
  ∀ ch, s.subscription ch (some ⟨c⟩) ≠ none → s.counted = some ⟨c⟩ ∧
    Reaches w (w.channels.order s.channelsSubscriptions.keys) s ch

/-- The branch of the frame comes to the call of `disconnect`. -/
def Disconnects (w : Surroundings) (c : Nat) (s : ServerState) (frame : StompFrame) : Prop :=
  c ∈ s.activeClients ∧
    (frame.command = "DISCONNECT" ∨ (Refused w c s frame ∧ w.closeFails = false))

structure Careful (w : Surroundings) (c : Nat) (s : ServerState) (frame : StompFrame) : Prop where
  subscribes : ∀ channel id, frame.command = "SUBSCRIBE" →
    header frame.headers "destination" = some channel →
    parseIntOf (header frame.headers "id") = .done id →
    s.subscription channel (s.activeClients.lookup c) = none → LoggedIn c s
  disconnects : Disconnects w c s frame → Clears w c s

def Orderly (s : ServerState) : Action → Prop
  | .frame w c message => ∀ frame, StompFrame.ofText message = .ok frame → Careful w c s frame
  | _ => True

/-- Subscribed handlers belong to connections that hold a login, in `loggedInUsers` too,
    and these are all in `activeClients`. -/
structure OnlyLoggedIn (s : ServerState) : Prop where
  subscribers : ∀ ch h, s.subscription ch h ≠ none → ∃ c, h = some ⟨c⟩ ∧ LoggedIn c s
  logins : ∀ c u, u ∈ (historyOf s.log).held c → s.loggedInUsers.lookup u = some c
  active : ∀ c, LoggedIn c s → s.activeClients.lookup c = some ⟨c⟩

section Keep
variable {w : Surroundings} {c : Nat} {frame : StompFrame} {s s' : ServerState}

theorem keep_initial : OnlyLoggedIn ServerState.initial := by
  constructor
  · intro ch h held
    exact absurd rfl held
  · intro c u member
    cases member
  · intro c logged
    exact absurd rfl logged

theorem keep_fewer (inv : OnlyLoggedIn s)
    (history : (historyOf s'.log).held = (historyOf s.log).held)
    (fewer : ∀ ch h, s'.subscription ch h ≠ none → s.subscription ch h ≠ none)
    (logins : ∀ u c, s.loggedInUsers.lookup u = some c → s'.loggedInUsers.lookup u = some c)
    (clients : ∀ c, LoggedIn c s → s.activeClients.lookup c = some ⟨c⟩ →
      s'.activeClients.lookup c = some ⟨c⟩) : OnlyLoggedIn s' := by
  have same : ∀ c, LoggedIn c s' ↔ LoggedIn c s := fun c => by rw [LoggedIn, history, LoggedIn]
  constructor
  · intro ch h held
    obtain ⟨c, own, logged⟩ := inv.subscribers ch h (fewer ch h held)
    exact ⟨c, own, (same c).mpr logged⟩
  · intro c u member
    rw [history] at member
    exact logins u c (inv.logins c u member)
  · intro c logged
    have before := (same c).mp logged
    exact clients c before (inv.active c before)

theorem keep_reported (inv : OnlyLoggedIn s)
    (other : commandOf (frame.createFrame w.headers) ≠ "CONNECTED") :
    OnlyLoggedIn (reported w c frame s) := by
  refine keep_fewer inv ?_ ?_ ?_ ?_
  · rw [history_reported w other]
  · intro ch h held
    rwa [reported_subscription] at held
  · intro u c' held
    rwa [reported_logins]
  · intro c' _ active
    rwa [reported_clients]

theorem keep_answered (inv : OnlyLoggedIn s)
    (other : commandOf (frame.createFrame w.headers) ≠ "CONNECTED") :
    OnlyLoggedIn (answered w c frame s) := by
  refine keep_fewer inv ?_ (fun _ _ held => held) (fun _ _ held => held) fun _ _ active => active
  rw [history_answered w other]

theorem keep_disconnected {result : Except JavaException Unit} (inv : OnlyLoggedIn s)
    (clears : Clears w c s) (effect : Disconnected w c s result s') :
    OnlyLoggedIn s' ∧ ¬ LoggedIn c s' := by
  have history := history_disconnected w effect
  have out : (historyOf s'.log).held c = [] := by simp [history, History.observe]
  have rest : ∀ c', c' ≠ c → (historyOf s'.log).held c' = (historyOf s.log).held c' :=
    fun c' other => by simp [history, History.observe, other]
  have inside : ∀ c', LoggedIn c' s' → c' ≠ c ∧ LoggedIn c' s := by
    intro c' logged
    have other : c' ≠ c := by
      rintro rfl
      exact logged out
    refine ⟨other, ?_⟩
    unfold LoggedIn at logged ⊢
    rwa [rest c' other] at logged
  refine ⟨?_, fun logged => logged out⟩
  constructor
  · intro ch h held
    rcases effect.fewer ch h with gone | kept
    · exact absurd gone held
    · obtain ⟨c', own, logged⟩ := inv.subscribers ch h (kept ▸ held)
      have other : c' ≠ c := by
        rintro rfl
        obtain ⟨counted, reaches⟩ := clears ch (by rw [← own, ← kept]; exact held)
        have gone := effect.reached ch reaches
        rw [counted, ← own] at gone
        exact held gone
      refine ⟨c', own, ?_⟩
      unfold LoggedIn at logged ⊢
      rwa [rest c' other]
  · intro c' u member
    have other : c' ≠ c := (inside c' (List.ne_nil_of_mem member)).1
    rw [rest c' other] at member
    have held := inv.logins c' u member
    rw [effect.frame]
    exact remove_value_keeps_others w.logins c s.loggedInUsers other held
  · intro c' logged
    have before := inv.active c' (inside c' logged).2
    rw [effect.frame]
    exact before

theorem keep_removed (inv : OnlyLoggedIn s) (out : ¬ LoggedIn c s) :
    OnlyLoggedIn (removed c s) := by
  refine keep_fewer inv rfl (fun _ _ held => held) (fun _ _ held => held) ?_
  intro c' logged active
  have other : c' ≠ c := by
    rintro rfl
    exact out logged
  change (s.activeClients.erase c).lookup c' = _
  rwa [AList.lookup_erase_ne other]

theorem keep_cleaned_up (inv : OnlyLoggedIn s) (clears : w.closeFails = false → Clears w c s) :
    OnlyLoggedIn (cleanedUp w c s) := by
  have start : OnlyLoggedIn (closed c s) := ⟨inv.subscribers, inv.logins, inv.active⟩
  rcases cleaned_up_cases w with ⟨_, same⟩ | ⟨fine, s', effect, same⟩ | ⟨fine, e, s', effect, same⟩
  · rw [same]
    exact start
  · obtain ⟨kept, out⟩ := keep_disconnected start (clears fine) effect
    rw [same]
    exact keep_removed kept out
  · rw [same]
    exact (keep_disconnected start (clears fine) effect).1

/-- The sender of the SUBSCRIBE is logged in, so its new entry is that of a logged-in one. -/
theorem keep_subscribed {channel : Text} {id : Int} (inv : OnlyLoggedIn s) (logged : LoggedIn c s)
    (added : Subscribed channel id (s.activeClients.lookup c) s s') : OnlyLoggedIn s' := by
  have own : s.activeClients.lookup c = some ⟨c⟩ := inv.active c logged
  have same : (historyOf s'.log).held = (historyOf s.log).held := by
    rw [added.frame]
  constructor
  · intro ch h held
    by_cases new : ch = channel ∧ h = s.activeClients.lookup c
    · refine ⟨c, new.2.trans own, ?_⟩
      rwa [LoggedIn, same]
    · have view := added.view ch h
      rw [if_neg new] at view
      rw [view] at held
      obtain ⟨c', mine, before⟩ := inv.subscribers ch h held
      refine ⟨c', mine, ?_⟩
      rw [LoggedIn, same]
      exact before
  · intro c' u member
    rw [same] at member
    rw [added.frame]
    exact inv.logins c' u member
  · intro c' before
    rw [LoggedIn, same] at before
    rw [added.frame]
    exact inv.active c' before

theorem keep_unsubscribed {channel : Text} {i : Nat} {h : HandlerRef} (inv : OnlyLoggedIn s)
    (current : s.channelsSubscriptions.lookup channel = some i) :
    OnlyLoggedIn (s.removeSubscription ⟨channel, i⟩ h) := by
  refine keep_fewer inv rfl ?_ (fun _ _ held => held) fun _ _ active => active
  intro ch h' held none'
  rw [ServerState.subscription_remove current] at held
  refine held ?_
  split
  · rfl
  · exact none'

theorem login_granted (w : Surroundings) (frame : StompFrame) {message login passcode : Text}
    (connect : connectOf message = some (login, passcode)) :
    (historyOf (answered w c connectedFrame
        (loggedIn login passcode c (begun c message frame s))).log).held =
      Function.update (historyOf (begun c message frame s).log).held c
        (login :: (historyOf (begun c message frame s).log).held c) := by
  rw [history_connected w]
  change ((historyOf (begun c message frame s).log).grant c).held = _
  rw [history_begun]
  simp [History.observe, History.grant, connect]

theorem keep_connected {message login passcode : Text} (ids : HandlerIds s)
    (inv : OnlyLoggedIn (begun c message frame s)) (free : login ∉ s.loggedInUsers)
    (connect : connectOf message = some (login, passcode)) :
    OnlyLoggedIn (reported w c connectedFrame
      (loggedIn login passcode c (begun c message frame s))) := by
  have fresh : ∀ c' u, u ∈ (historyOf (begun c message frame s).log).held c' →
      (s.loggedInUsers.insert login c).lookup u = some c' := by
    intro c' u member
    have held : s.loggedInUsers.lookup u = some c' := inv.logins c' u member
    have other : u ≠ login := by
      rintro rfl
      exact free (AList.lookup_isSome.mp (by simp [held]))
    rwa [AList.lookup_insert_ne other]
  by_cases active : c ∈ s.activeClients
  · have here : c ∈ (loggedIn login passcode c (begun c message frame s)).activeClients := active
    rw [reported, if_pos here]
    have granted := login_granted w (c := c) (s := s) frame connect
    have more : ∀ c', c' = c ∨ LoggedIn c' (begun c message frame s) ↔
        LoggedIn c' (answered w c connectedFrame
          (loggedIn login passcode c (begun c message frame s))) := by
      intro c'
      unfold LoggedIn
      rw [granted]
      by_cases own : c' = c
      · subst own
        simp
      · simp [own]
    constructor
    · intro ch h held
      obtain ⟨c', own, logged⟩ := inv.subscribers ch h held
      exact ⟨c', own, (more c').mp (Or.inr logged)⟩
    · intro c' u member
      rw [granted] at member
      by_cases own : c' = c
      · subst own
        rw [Function.update_self] at member
        rcases List.mem_cons.mp member with rfl | before
        · exact AList.lookup_insert _
        · exact fresh c' u before
      · rw [Function.update_of_ne own] at member
        exact fresh c' u member
    · intro c' logged
      rcases (more c').mpr logged with rfl | before
      · exact own_handler ids active
      · exact inv.active c' before
  · have here : c ∉ (loggedIn login passcode c (begun c message frame s)).activeClients := active
    rw [reported, if_neg here]
    exact ⟨inv.subscribers, fresh, inv.active⟩

end Keep

section Steps
variable {w : Surroundings} {c : Nat} {message : Text} {frame : StompFrame} {s s' : ServerState}

theorem keep_outcome (parsed : StompFrame.ofText message = .ok frame) (ids : HandlerIds s)
    (careful : Careful w c s frame) (inv : OnlyLoggedIn (begun c message frame s))
    (outcome : Outcome w c frame (begun c message frame s) s') : OnlyLoggedIn s' := by
  have cleared : Refused w c (begun c message frame s) frame → c ∈ s.activeClients →
      w.closeFails = false → Clears w c s := fun refusal active fine =>
    careful.disconnects ⟨active, Or.inr ⟨refused_of_begun refusal, fine⟩⟩
  cases outcome with
  | idle => exact inv
  | connected login passcode command named secret free known =>
    exact keep_connected ids inv free (connect_of_parsed parsed command named secret)
  | refused headers refusal active =>
    have error := error_not_connected w.headers headers
    exact keep_cleaned_up (keep_answered inv error) (cleared refusal active)
  | refusedTwice headers refusal active =>
    have error := error_not_connected w.headers headers
    exact keep_cleaned_up (keep_answered (keep_answered inv error) error)
      (cleared refusal active)
  | disconnected result _ command active effect =>
    have receipt := receipt_not_connected w.headers (header frame.headers "receipt")
    have clears : Clears w c s := careful.disconnects ⟨active, Or.inl command⟩
    exact (keep_disconnected (keep_answered inv receipt) clears effect).1
  | subscribed channel id s₁ command target number absent added =>
    have logged : LoggedIn c s := careful.subscribes channel id command target number absent
    exact keep_reported (keep_subscribed inv logged added) (receipt_not_connected w.headers _)
  | unsubscribed channel id i command number found current =>
    exact keep_reported (keep_unsubscribed inv current) (receipt_not_connected w.headers _)
  | relayed channel id messageID command target held valid =>
    have other : commandOf ((messageFrame id ((begun c message frame s).protocol c).messageID
        channel frame.body).createFrame w.headers) ≠ "CONNECTED" := by
      rw [message_command]
      decide
    refine keep_fewer inv ?_ (fun _ _ held => held) (fun _ _ held => held) fun _ _ active => active
    rw [history_deliver other]
    rfl

theorem keep_processed (ids : HandlerIds s) (inv : OnlyLoggedIn s)
    (careful : ∀ frame, StompFrame.ofText message = .ok frame → Careful w c s frame) :
    OnlyLoggedIn (processed w c message s) := by
  have recorded : (historyOf (s.record (.received c message)).log).held = (historyOf s.log).held :=
    rfl
  rcases process_outcome w c message ids with ⟨e, _, same⟩ | ⟨frame, parsed, outcome⟩
  · rw [same]
    exact keep_fewer inv recorded (fun _ _ held => held) (fun _ _ held => held)
      fun _ _ active => active
  · refine keep_outcome parsed ids (careful frame parsed) ?_ outcome
    exact keep_fewer inv recorded (fun _ _ held => held) (fun _ _ held => held)
      fun _ _ active => active

theorem keep_constructed (inv : OnlyLoggedIn s) : OnlyLoggedIn (constructed s) := by
  refine keep_fewer inv rfl (fun _ _ held => held) (fun _ _ held => held) ?_
  intro c _ active
  change (s.activeClients.insert s.connectionID ⟨s.connectionID⟩).lookup c = _
  by_cases own : c = s.connectionID
  · subst own
    exact AList.lookup_insert _
  · rwa [AList.lookup_insert_ne own]

theorem only_logged_in_runs {server : Server} (runs : Runs Orderly Server.initial server) :
    OnlyLoggedIn server.state := by
  refine GuardedRuns.run_invariant (fun server => OnlyLoggedIn server.state) keep_initial ?_ runs
  intro a before after reached inv admitted acted
  obtain ⟨rfl, _, rfl⟩ | ⟨rfl, _, rfl⟩ | ⟨w, c, message, rfl, _, rfl⟩ := act_cases acted
  · exact keep_constructed inv
  · exact ⟨inv.subscribers, inv.logins, inv.active⟩
  · exact keep_processed (runs_handler_ids reached) inv admitted

end Steps

section Messages
variable {w : Surroundings} {c : Nat} {message : Text} {frame : StompFrame} {s s' : ServerState}

/-- Nothing but frames with other commands than MESSAGE was sent. -/
def NoMessage (s s' : ServerState) : Prop :=
  ∃ new, s'.log = new ++ s.log ∧ ∀ r text, .sent r text ∈ new → commandOf text ≠ "MESSAGE"

theorem reached_handlers_mem {r : ConnectionHandler} {keys : List HandlerRef}
    (member : r ∈ reachedHandlers keys) : some r ∈ keys := by
  induction keys with
  | nil => cases member
  | cons key rest ih =>
    cases key with
    | none => cases member
    | some h =>
      rcases List.mem_cons.mp member with rfl | later
      · exact List.mem_cons_self
      · exact List.mem_cons_of_mem _ (ih later)

theorem recipient_subscribed {channel : Text} {r : ConnectionHandler}
    (member : r ∈ recipients w s channel) : s.subscription channel (some r) ≠ none := by
  unfold recipients at member
  cases current : s.channelsSubscriptions.lookup channel with
  | none => simp [current] at member
  | some i =>
    rw [current] at member
    have key := reached_handlers_mem member
    rw [IterationOrder.mem_order, ← AList.mem_keys] at key
    exact (subscription_iff_mem current).mpr key

theorem outcome_messages (outcome : Outcome w c frame s s') :
    NoMessage s s' ∨ ∃ channel id, frame.command = "SEND" ∧
      header frame.headers "destination" = some channel ∧
      s.subscription channel (s.activeClients.lookup c) = some id ∧ id ≠ -1 ∧
      s'.log = ((recipients w s channel).map fun h => Event.sent h
        ((messageFrame id (s.protocol c).messageID channel frame.body).createFrame
          w.headers)).reverse ++ s.log := by
  have other : ∀ {f : StompFrame} {command : Text},
      commandOf (f.createFrame w.headers) = command → command ≠ "MESSAGE".toList →
        commandOf (f.createFrame w.headers) ≠ "MESSAGE".toList := by
    intro f command named differs
    rwa [named]
  exact outcome_sends (P := fun _ text => commandOf text ≠ "MESSAGE") outcome
    (fun headers => other (error_command w.headers headers) (by decide))
    (other (connected_command w.headers) (by decide))
    fun _ => other (receipt_command w.headers _) (by decide)

theorem message_source (ids : HandlerIds s) {r : ConnectionHandler} {text : Text}
    (sent : .sent r text ∈ newEvents s (processed w c message s))
    (named : commandOf text = "MESSAGE") :
    ∃ frame channel id, StompFrame.ofText message = .ok frame ∧ frame.command = "SEND" ∧
      header frame.headers "destination" = some channel ∧
      s.subscription channel (s.activeClients.lookup c) = some id ∧ id ≠ -1 ∧
      r ∈ recipients w s channel ∧
      text = (messageFrame id (s.protocol c).messageID channel frame.body).createFrame
        w.headers := by
  have quiet : ∀ {s' : ServerState}, processed w c message s = s' →
      NoMessage (s.record (.received c message)) s' → False := by
    rintro s' same ⟨new, grown, others⟩
    have events : newEvents s s' = new ++ [.received c message] :=
      new_events_of_log (by rw [grown, List.append_assoc]; rfl)
    rw [same, events] at sent
    rcases List.mem_append.mp sent with member | member
    · exact others r text member named
    · simp at member
  rcases process_outcome w c message ids with ⟨e, _, same⟩ | ⟨frame, parsed, outcome⟩
  · exact (quiet same (only_sends_refl _)).elim
  · rcases outcome_messages outcome with none' |
      ⟨channel, id, command, target, held, valid, grown⟩
    · exact (quiet rfl none').elim
    · have begun_id : ((begun c message frame s).protocol c).messageID =
          (s.protocol c).messageID := by
        simp [begun, ServerState.setProtocol]
      have events : newEvents s (processed w c message s) =
          ((recipients w s channel).map fun h => Event.sent h ((messageFrame id
            (s.protocol c).messageID channel frame.body).createFrame w.headers)).reverse ++
              [.received c message] :=
        new_events_of_log (by rw [grown, begun_id, List.append_assoc]; rfl)
      rw [events] at sent
      simp only [List.mem_append, List.mem_reverse, List.mem_map, List.mem_singleton,
        reduceCtorEq, or_false, Event.sent.injEq] at sent
      obtain ⟨h, member, rfl, rfl⟩ := sent
      exact ⟨frame, channel, id, parsed, command, target, held, valid, member, rfl⟩

theorem processed_messages (ids : HandlerIds s) {r : ConnectionHandler} {text : Text}
    (sent : .sent r text ∈ newEvents s (processed w c message s))
    (named : commandOf text = "MESSAGE") : ∃ channel, s.subscription channel (some r) ≠ none := by
  obtain ⟨_, channel, _, _, _, _, _, _, member, _⟩ := message_source ids sent named
  exact ⟨channel, recipient_subscribed member⟩

end Messages

section Users

def HasUser (c : Nat) (s : ServerState) : Prop := ∃ u, s.loggedInUsers.lookup u = some c

/-- A SEND whose sender is found in the map of its destination. -/
def AcceptedSend (c : Nat) (message : Text) (s : ServerState) : Prop :=
  ∃ frame channel, StompFrame.ofText message = .ok frame ∧ frame.command = "SEND" ∧
    header frame.headers "destination" = some channel ∧
    (s.subscription channel (s.activeClients.lookup c)).getD (-1) ≠ -1

structure OnlyUsersServed (w : Surroundings) (c : Nat) (message : Text) (s : ServerState) :
    Prop where
  messages : ∀ r text, .sent r text ∈ newEvents s (processed w c message s) →
    commandOf text = "MESSAGE" → HasUser r.connectionID s
  sends : AcceptedSend c message s → HasUser c s

def SubscribersLoggedIn (s : ServerState) : Prop :=
  ∀ ch h, s.subscription ch h ≠ none → ∃ c, h = some ⟨c⟩ ∧ LoggedIn c s

theorem user_of_logged_in {c : Nat} {s : ServerState} (inv : OnlyLoggedIn s)
    (logged : LoggedIn c s) : HasUser c s := by
  obtain ⟨u, member⟩ := List.exists_mem_of_ne_nil _ logged
  exact ⟨u, inv.logins c u member⟩

theorem only_users_served {s : ServerState} (ids : HandlerIds s) (inv : OnlyLoggedIn s)
    (w : Surroundings) (c : Nat) (message : Text) : OnlyUsersServed w c message s := by
  constructor
  · intro r text sent named
    obtain ⟨channel, held⟩ := processed_messages ids sent named
    obtain ⟨c', own, logged⟩ := inv.subscribers channel _ held
    cases own
    exact user_of_logged_in inv logged
  · rintro ⟨frame, channel, _, _, _, accepted⟩
    have held : s.subscription channel (s.activeClients.lookup c) ≠ none := by
      intro none'
      exact accepted (by rw [none']; rfl)
    obtain ⟨c', own, logged⟩ := inv.subscribers channel _ held
    have mine : (⟨c'⟩ : ConnectionHandler) = ⟨c⟩ := ids c _ own
    cases mine
    exact user_of_logged_in inv logged

/-- In every run of orderly steps the subscribed handlers belong to logged-in connections,
    and the next frame, whatever it is, serves only users. -/
theorem subscribers_logged_in {server : Server} (runs : Runs Orderly Server.initial server) :
    SubscribersLoggedIn server.state ∧
      ∀ w c message, OnlyUsersServed w c message server.state := by
  have inv := only_logged_in_runs runs
  exact ⟨inv.subscribers, only_users_served (runs_handler_ids runs) inv⟩

end Users

section Example
open ReplyCount MessageRelay

def connectedOnce : ServerState :=
  processed .plain 0 (connectText "meni" "films") (accepted ServerState.initial)

def subscribedUser : ServerState := processed .plain 0 (subscribeText "1") connectedOnce

theorem connect_careful : Orderly (accepted ServerState.initial)
    (.frame .plain 0 (connectText "meni" "films")) := by
  intro frame parsed
  have same : StompFrame.ofText (connectText "meni" "films") =
    .ok (connectFrame "meni" "films") := rfl
  cases parsed.symm.trans same
  refine ⟨?_, fun _ ch held => absurd rfl held⟩
  intro channel id command
  exact absurd command (by decide)

theorem subscribe_careful : Orderly connectedOnce (.frame .plain 0 (subscribeText "1")) := by
  intro frame parsed
  refine ⟨fun _ _ _ _ _ _ => ?_, fun _ ch held => absurd rfl held⟩
  unfold LoggedIn
  decide

theorem subscribed_user_served : SubscribersLoggedIn subscribedUser := by
  have first : Runs Orderly Server.initial ⟨constructed ServerState.initial, true⟩ :=
    Relation.ReflTransGen.single ⟨.construct, trivial, rfl⟩
  have runs : Runs Orderly Server.initial ⟨accepted ServerState.initial, false⟩ :=
    first.tail ⟨.increment, trivial, rfl⟩
  have connected : Runs Orderly Server.initial ⟨connectedOnce, false⟩ :=
    runs.tail ⟨_, connect_careful, rfl⟩
  have subscribed : Runs Orderly Server.initial ⟨subscribedUser, false⟩ :=
    connected.tail ⟨_, subscribe_careful, rfl⟩
  exact (subscribers_logged_in subscribed).1

/-- A connection that subscribes before it has connected a user. -/
def subscribedFirst : ServerState :=
  processed .plain 0 (subscribeText "1") (accepted ServerState.initial)

theorem subscribed_without_user :
    Runs (fun _ _ => True) Server.initial ⟨subscribedFirst, false⟩ ∧
      ¬ SubscribersLoggedIn subscribedFirst ∧
      ¬ OnlyUsersServed .plain 0 sendText subscribedFirst := by
  refine ⟨?_, ?_, ?_⟩
  · exact GuardedRuns.run_of_acts [.construct, .increment,
      .frame .plain 0 (subscribeText "1")] rfl
  · intro logged
    obtain ⟨c, own, member⟩ := logged "police" (some ⟨0⟩) (by decide)
    cases own
    exact member (by decide)
  · intro served
    obtain ⟨u, held⟩ := served.sends ⟨sentFrame, "police", rfl, rfl, rfl, by decide⟩
    cases held

end Example

end SubscriberLogins
