import EmergencyService.Server.FrameEvents
import EmergencyService.Server.ServerRuns

/- The outcomes of the branches of `process` for a connection in `activeClients`: the
   state each one leaves behind, and which state it finds decides between them. -/
namespace BranchOutcomes
open JavaRuntime JavaFrame AtomicProgram MapCalls ConnectionsImpl StompProtocolImpl
open SubscriptionSweep ProcessRun FrameEvents ServerRuns

theorem processed_eq {w : Surroundings} {c : Nat} {message : Text} {frame : StompFrame}
    {result : Except JavaException Unit}
    {s s' : ServerState} (parsed : StompFrame.ofText message = .ok frame)
    (ran : run exec (dispatch w c frame) (begun c message frame s) = (result, s')) :
    processed w c message s = s' := by
  unfold processed
  rw [process_parsed parsed, ran]

variable (w : Surroundings) {c : Nat} {s : ServerState} {headers : HashMap Text Text}

/-- A frame has been handed to the handler of the connection. -/
def answered (c : Nat) (frame : StompFrame) (s : ServerState) : ServerState :=
  s.record (.sent ⟨c⟩ (frame.createFrame w.headers))

section Connect
variable {login passcode : Text}

/-- The maps after `connectUser` has returned true. -/
def loggedIn (login passcode : Text) (c : Nat) (s : ServerState) : ServerState :=
  { s with
    users := if login ∈ s.users then s.users else s.users.insert login passcode
    loggedInUsers := s.loggedInUsers.insert login c }

theorem connect_user_accepted (known : ∀ p, s.users.lookup login = some p → p = passcode) :
    run exec (connectUser (some login) (some passcode) c) s =
      (.ok true, loggedIn login passcode c s) := by
  by_cases registered : login ∈ s.users
  · obtain ⟨p, held⟩ := Option.isSome_iff_exists.mp (AList.lookup_isSome.mpr registered)
    have same := known p held
    simp [connectUser, hasRegistered, logIn, run_bind, registered, held, same, loggedIn]
  · simp [connectUser, hasRegistered, addUser, logIn, run_bind, registered, loggedIn]

theorem connect_user_rejected {p : Text} {secret : Option Text}
    (held : s.users.lookup login = some p) (wrong : some p ≠ secret) :
    run exec (connectUser (some login) secret c) s = (.ok false, s) := by
  have registered : login ∈ s.users := AList.lookup_isSome.mp (by simp [held])
  simp only [connectUser, hasRegistered, run_bind, run_deref_some, run_users_containsKey,
    registered, decide_true, if_true, run_users_get, held, wrong, if_false, run_pure]

variable (named : header headers "login" = some login)
include named

theorem connect_taken (taken : login ∈ s.loggedInUsers)
    (active : s.activeClients.lookup c = some ⟨c⟩) :
    run exec (processConnect w c headers) s =
      (.ok (), cleanedUp w c (answered w c alreadyConnected s)) := by
  simp only [processConnect, named, userConnectedAlready, run_bind, run_deref_some,
    run_loggedInUsers_containsKey, taken, decide_true, if_true, refuse_run w active, answered]

variable (free : login ∉ s.loggedInUsers)
include free

theorem connect_accepted (secret : header headers "passcode" = some passcode)
    (known : ∀ p, s.users.lookup login = some p → p = passcode)
    (active : s.activeClients.lookup c = some ⟨c⟩) :
    run exec (processConnect w c headers) s =
      (.ok (), answered w c connectedFrame (loggedIn login passcode c s)) := by
  have after : (loggedIn login passcode c s).activeClients.lookup c = some ⟨c⟩ := active
  simp only [processConnect, named, secret, userConnectedAlready, run_bind, run_deref_some,
    run_loggedInUsers_containsKey, free, decide_false, Bool.false_eq_true, if_false,
    connect_user_accepted known, if_true, reply, send_run after, run_pure, answered]

theorem connect_rejected {p : Text} (held : s.users.lookup login = some p)
    (wrong : some p ≠ header headers "passcode") (active : s.activeClients.lookup c = some ⟨c⟩) :
    run exec (processConnect w c headers) s =
      (.ok (), cleanedUp w c (answered w c wrongPassword (answered w c wrongPassword s))) := by
  have after : (answered w c wrongPassword s).activeClients.lookup c = some ⟨c⟩ := active
  have error : ∀ (frame : StompFrame) (s : ServerState),
      s.record (.sent ⟨c⟩ (frame.createFrame w.headers)) = answered w c frame s := fun _ _ => rfl
  simp only [processConnect, named, userConnectedAlready, run_bind, run_deref_some,
    run_loggedInUsers_containsKey, free, decide_false, Bool.false_eq_true, if_false,
    connect_user_rejected held wrong, reply, send_run active, error, refuse_run w after]

end Connect

section Disconnect

theorem process_disconnect_run (active : s.activeClients.lookup c = some ⟨c⟩) :
    run exec (processDisconnect w c headers) s =
      run exec (disconnect w c) (answered w c (receiptFrame (header headers "receipt")) s) := by
  simp only [processDisconnect, reply, run_bind, send_run active, answered]

end Disconnect

section Subscribe
variable {channel : Text} {id : Int}
  (target : header headers "destination" = some channel)
  (number : parseIntOf (header headers "id") = .done id)
  (active : s.activeClients.lookup c = some ⟨c⟩)
include target number active

theorem subscribe_done (absent : s.subscription channel (some ⟨c⟩) = none) :
    ∃ s', Subscribed channel id (some ⟨c⟩) s s' ∧
      run exec (processSubscribe w c headers) s =
        (.ok (), answered w c (receiptFrame (header headers "receipt")) s') := by
  obtain ⟨s', added, subscribed⟩ := add_subscription_run id absent
  have after : s'.activeClients.lookup c = some ⟨c⟩ := by
    rw [subscribed.frame]
    exact active
  refine ⟨s', subscribed, ?_⟩
  simp only [processSubscribe, target, number, getConnection, run_bind, run_done,
    run_activeClients_get, active, added, if_true, reply, send_run after, run_pure, answered]

theorem subscribe_refused (held : s.subscription channel (some ⟨c⟩) ≠ none) :
    run exec (processSubscribe w c headers) s =
      (.ok (), cleanedUp w c (answered w c
        (alreadySubscribed (header headers "receipt") (some channel)) s)) := by
  simp only [processSubscribe, target, number, getConnection, run_bind, run_done,
    run_activeClients_get, active, add_subscription_refused id held, Bool.false_eq_true,
    if_false, refuse_run w active, answered]

end Subscribe

section Unsubscribe
variable {id : Int} (number : parseIntOf (header headers "id") = .done id)
  (active : s.activeClients.lookup c = some ⟨c⟩)
include number active

/-- The first channel, in the order of the map, with a subscription of the handler under
    the id, as the comparison of boxed integers sees it. -/
def firstMatch (w : Surroundings) (id : Int) (h : HandlerRef) (s : ServerState) : Option Text :=
  (w.channels.order s.channelsSubscriptions.keys).find? (matching id h s)

theorem unsubscribe_cases :
    (firstMatch w id (some ⟨c⟩) s = none ∧ run exec (processUnsubscribe w c headers) s =
      (.ok (), cleanedUp w c (answered w c
        (notSubscribedId (header headers "receipt") (header headers "id")) s))) ∨
    ∃ ch i, firstMatch w id (some ⟨c⟩) s = some ch ∧
      s.channelsSubscriptions.lookup ch = some i ∧
      run exec (processUnsubscribe w c headers) s =
        (.ok (), answered w c (receiptFrame (header headers "receipt"))
          (s.removeSubscription ⟨ch, i⟩ (some ⟨c⟩))) := by
  have known : ∀ ch ∈ w.channels.order s.channelsSubscriptions.keys,
      ch ∈ s.channelsSubscriptions :=
    fun ch member => AList.mem_keys.mpr (w.channels.mem_order.mp member)
  rcases remove_from_run id (some ⟨c⟩) _ known with ⟨nothing, ran⟩ | ⟨ch, i, found, current, ran⟩
  · refine Or.inl ⟨nothing, ?_⟩
    simp only [processUnsubscribe, number, getConnection, removeChannelSubscription, run_bind,
      run_done, run_activeClients_get, active, run_channelsSubscriptions_keySet, ran,
      Bool.false_eq_true, if_false, refuse_run w active, answered]
  · refine Or.inr ⟨ch, i, found, current, ?_⟩
    have after : (s.removeSubscription ⟨ch, i⟩ (some ⟨c⟩)).activeClients.lookup c =
      some ⟨c⟩ := active
    simp only [processUnsubscribe, number, getConnection, removeChannelSubscription, run_bind,
      run_done, run_activeClients_get, active, run_channelsSubscriptions_keySet, ran, if_true,
      reply, send_run after, run_pure, answered]

end Unsubscribe

section Send
variable {channel : Text} (body : Text)

theorem process_send_accepted (target : header headers "destination" = some channel) {id : Int}
    (held : s.subscription channel (s.activeClients.lookup c) = some id) (valid : id ≠ -1) :
    ∃ result s₁, s₁ = s.setProtocol c ⟨(s.protocol c).shouldTerminate,
        wrapInt ((s.protocol c).messageID + 1)⟩ ∧
      run exec (processSend w c headers body) s =
        (result, deliver ((messageFrame id (s.protocol c).messageID channel body).createFrame
          w.headers) (recipients w s channel) s₁) := by
  obtain ⟨result, relayed⟩ := send_channel_run w channel
    ((messageFrame id (s.protocol c).messageID channel body).createFrame w.headers)
    (s.setProtocol c ⟨(s.protocol c).shouldTerminate, wrapInt ((s.protocol c).messageID + 1)⟩)
  refine ⟨result, _, rfl, ?_⟩
  simp only [processSend, run_bind, target, get_user_sub_id_run, held, Option.getD_some, valid,
    if_false, run_deref_some, run_messageID_get, run_messageID_increment]
  exact relayed

theorem process_send_refused (target : header headers "destination" = some channel)
    (refused : (s.subscription channel (s.activeClients.lookup c)).getD (-1) = -1)
    (active : s.activeClients.lookup c = some ⟨c⟩) :
    run exec (processSend w c headers body) s =
      (.ok (), cleanedUp w c (answered w c (notSubscribedTo (some channel))
        (answered w c (notSubscribedTo (some channel)) s))) := by
  have after : (s.record (.sent ⟨c⟩ ((notSubscribedTo (some channel)).createFrame
      w.headers))).activeClients.lookup c = some ⟨c⟩ := active
  simp only [processSend, reply, run_bind, target, get_user_sub_id_run, refused, if_true,
    send_run active, refuse_run w after, answered]

theorem process_send_missing (target : header headers "destination" = some channel)
    (refused : (s.subscription channel (s.activeClients.lookup c)).getD (-1) = -1)
    (missing : s.activeClients.lookup c = none) :
    run exec (processSend w c headers body) s = (.error .nullPointer, s) := by
  simp only [processSend, reply, run_bind, target, get_user_sub_id_run, refused, if_true,
    send_missing missing]

end Send

end BranchOutcomes
