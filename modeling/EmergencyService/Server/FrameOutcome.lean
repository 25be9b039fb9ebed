import EmergencyService.Server.BranchOutcomes

/- Everything one call of `process` can do to the state, whether its connection is still
   in `activeClients` or not. -/
namespace FrameOutcome
open JavaRuntime JavaFrame AtomicProgram MapCalls ConnectionsImpl StompProtocolImpl
open SubscriptionSweep ProcessRun FrameEvents BranchOutcomes HandlerThreads ServerRuns

/-- The state after `reply`: without a handler it raises and nothing has been sent. -/
def reported (w : Surroundings) (c : Nat) (frame : StompFrame) (s : ServerState) : ServerState :=
  if c ∈ s.activeClients then answered w c frame s else s

section Reported
variable (w : Surroundings) (c : Nat) (frame : StompFrame) (s : ServerState)

@[simp] theorem reported_users : (reported w c frame s).users = s.users := by
  unfold reported
  split <;> rfl

@[simp] theorem reported_logins : (reported w c frame s).loggedInUsers = s.loggedInUsers := by
  unfold reported
  split <;> rfl

@[simp] theorem reported_clients : (reported w c frame s).activeClients = s.activeClients := by
  unfold reported
  split <;> rfl

@[simp] theorem reported_subscription (channel : Text) (h : HandlerRef) :
    (reported w c frame s).subscription channel h = s.subscription channel h := by
  unfold reported
  split <;> rfl

end Reported

inductive Refused (w : Surroundings) (c : Nat) (s : ServerState) (frame : StompFrame) : Prop where
  | taken (login : Text) : frame.command = "CONNECT" →
      header frame.headers "login" = some login → login ∈ s.loggedInUsers → Refused w c s frame
  | wrong (login known : Text) : frame.command = "CONNECT" →
      header frame.headers "login" = some login → login ∉ s.loggedInUsers →
      s.users.lookup login = some known → some known ≠ header frame.headers "passcode" →
      Refused w c s frame
  | unmatched (id : Int) : frame.command = "UNSUBSCRIBE" →
      parseIntOf (header frame.headers "id") = .done id →
      firstMatch w id (s.activeClients.lookup c) s = none → Refused w c s frame
  | repeated (channel : Text) (id : Int) : frame.command = "SUBSCRIBE" →
      header frame.headers "destination" = some channel →
      parseIntOf (header frame.headers "id") = .done id →
      s.subscription channel (s.activeClients.lookup c) ≠ none → Refused w c s frame
  | unsubscribed (channel : Text) : frame.command = "SEND" →
      header frame.headers "destination" = some channel →
      (s.subscription channel (s.activeClients.lookup c)).getD (-1) = -1 → Refused w c s frame

theorem refused_of_begun {w : Surroundings} {c : Nat} {message : Text} {frame : StompFrame}
    {s : ServerState} (refusal : Refused w c (begun c message frame s) frame) :
    Refused w c s frame := by
  cases refusal with
  | taken login command named taken => exact .taken login command named taken
  | wrong login known command named free held wrong =>
    exact .wrong login known command named free held wrong
  | unmatched id command number nothing => exact .unmatched id command number nothing
  | repeated channel id command target number held =>
    exact .repeated channel id command target number held
  | unsubscribed channel command target refused =>
    exact .unsubscribed channel command target refused

/-- The states that the branch of a frame can leave behind, from the state it starts in. -/
inductive Outcome (w : Surroundings) (c : Nat) (frame : StompFrame) (s : ServerState) :
    ServerState → Prop where
  | idle : Outcome w c frame s s
  | connected (login passcode : Text) : frame.command = "CONNECT" →
      header frame.headers "login" = some login →
      header frame.headers "passcode" = some passcode → login ∉ s.loggedInUsers →
      (∀ p, s.users.lookup login = some p → p = passcode) →
      Outcome w c frame s (reported w c connectedFrame (loggedIn login passcode c s))
  | refused (headers : HashMap Text Text) : Refused w c s frame → c ∈ s.activeClients →
      Outcome w c frame s (cleanedUp w c (answered w c (errorFrame headers) s))
  | refusedTwice (headers : HashMap Text Text) : Refused w c s frame → c ∈ s.activeClients →
      Outcome w c frame s (cleanedUp w c (answered w c (errorFrame headers)
        (answered w c (errorFrame headers) s)))
  | disconnected (result : Except JavaException Unit) (s' : ServerState) :
      frame.command = "DISCONNECT" → c ∈ s.activeClients →
      Disconnected w c (answered w c (receiptFrame (header frame.headers "receipt")) s)
        result s' → Outcome w c frame s s'
  | subscribed (channel : Text) (id : Int) (s' : ServerState) : frame.command = "SUBSCRIBE" →
      header frame.headers "destination" = some channel →
      parseIntOf (header frame.headers "id") = .done id →
      s.subscription channel (s.activeClients.lookup c) = none →
      Subscribed channel id (s.activeClients.lookup c) s s' →
      Outcome w c frame s (reported w c (receiptFrame (header frame.headers "receipt")) s')
  | unsubscribed (channel : Text) (id : Int) (i : Nat) : frame.command = "UNSUBSCRIBE" →
      parseIntOf (header frame.headers "id") = .done id →
      firstMatch w id (s.activeClients.lookup c) s = some channel →
      s.channelsSubscriptions.lookup channel = some i →
      Outcome w c frame s (reported w c (receiptFrame (header frame.headers "receipt"))
        (s.removeSubscription ⟨channel, i⟩ (s.activeClients.lookup c)))
  | relayed (channel : Text) (id messageID : Int) : frame.command = "SEND" →
      header frame.headers "destination" = some channel →
      s.subscription channel (s.activeClients.lookup c) = some id → id ≠ -1 →
      Outcome w c frame s (deliver ((messageFrame id (s.protocol c).messageID channel
        frame.body).createFrame w.headers) (recipients w s channel)
          (s.setProtocol c ⟨(s.protocol c).shouldTerminate, messageID⟩))

section Replies
variable {w : Surroundings} {c : Nat} {s : ServerState} (ids : HandlerIds s)

include ids in
theorem own_handler (active : c ∈ s.activeClients) : s.activeClients.lookup c = some ⟨c⟩ := by
  obtain ⟨h, found⟩ := Option.isSome_iff_exists.mp (AList.lookup_isSome.mpr active)
  rw [found, ids c h found]

include ids in
theorem reply_run (frame : StompFrame) :
    run exec (reply w c frame) s =
      (if c ∈ s.activeClients then .ok true else .error .nullPointer, reported w c frame s) := by
  unfold reply reported
  by_cases active : c ∈ s.activeClients
  · rw [send_run (own_handler ids active), if_pos active, if_pos active]
    rfl
  · rw [send_missing (AList.lookup_eq_none.mpr active), if_neg active, if_neg active]

theorem reply_only_run (ids : HandlerIds s) (frame : StompFrame) :
    (run exec (do
      let _ ← reply w c frame
      return ()) s).2 = reported w c frame s := by
  rw [run_bind, reply_run ids]
  by_cases active : c ∈ s.activeClients
  · simp [active]
  · simp [active]

theorem refuse_missing (frame : StompFrame) (missing : c ∉ s.activeClients) :
    run exec (refuse w c frame) s = (.error .nullPointer, s) := by
  simp [refuse, reply, run_bind, send_missing (AList.lookup_eq_none.mpr missing)]

end Replies

theorem parse_int_no_call (text : Option Text) (op : MapCall) (next : op.Ret → Java Int) :
    parseIntOf text ≠ .call op next := by
  unfold parseIntOf
  split
  · split <;> simp
  · simp

section Branches
variable (w : Surroundings) {c : Nat} {s : ServerState} {frame : StompFrame}
  (ids : HandlerIds s)
include ids

theorem refuse_outcome {headers : HashMap Text Text} (refusal : Refused w c s frame) :
    Outcome w c frame s (run exec (refuse w c (errorFrame headers)) s).2 := by
  by_cases active : c ∈ s.activeClients
  · rw [refuse_run w (own_handler ids active)]
    exact .refused headers refusal active
  · rw [refuse_missing _ active]
    exact .idle

theorem refuse_twice_outcome {headers : HashMap Text Text} (refusal : Refused w c s frame) :
    Outcome w c frame s (run exec (do
      let _ ← reply w c (errorFrame headers)
      refuse w c (errorFrame headers)) s).2 := by
  rw [run_bind, reply_run ids]
  by_cases active : c ∈ s.activeClients
  · have own := own_handler ids active
    have after : (answered w c (errorFrame headers) s).activeClients.lookup c = some ⟨c⟩ := own
    simp only [active, if_true, reported, refuse_run w after]
    exact .refusedTwice headers refusal active
  · simp only [active, if_false, reported]
    exact .idle

theorem connect_user_outcome {login : Text} (command : frame.command = "CONNECT")
    (named : header frame.headers "login" = some login) (free : login ∉ s.loggedInUsers) :
    Outcome w c frame s (run exec (do
      let done ← connectUser (some login) (header frame.headers "passcode") c
      if done then
        let _ ← reply w c connectedFrame
        return ()
      else
        let _ ← reply w c wrongPassword
        refuse w c wrongPassword) s).2 := by
  cases held : s.users.lookup login with
  | none =>
    have unregistered : login ∉ s.users := AList.lookup_eq_none.mp held
    cases secret : header frame.headers "passcode" with
    | none =>
      simp only [connectUser, hasRegistered, addUser, run_bind, run_deref_some, run_deref_none,
        run_users_containsKey, unregistered, decide_false, Bool.false_eq_true, if_false]
      exact .idle
    | some passcode =>
      have known : ∀ p, s.users.lookup login = some p → p = passcode := by simp [held]
      have same : HandlerIds (loggedIn login passcode c s) := ids
      rw [run_bind, connect_user_accepted known]
      have after := reply_only_run (w := w) (c := c) same connectedFrame
      dsimp only
      rw [if_pos rfl, after]
      exact .connected login passcode command named secret free known
  | some p =>
    by_cases right : some p = header frame.headers "passcode"
    · have known : ∀ q, s.users.lookup login = some q → q = p := by simp [held]
      have same : HandlerIds (loggedIn login p c s) := ids
      rw [← right, run_bind, connect_user_accepted known]
      have after := reply_only_run (w := w) (c := c) same connectedFrame
      dsimp only
      rw [if_pos rfl, after]
      exact .connected login p command named right.symm free known
    · rw [run_bind, connect_user_rejected held right]
      exact refuse_twice_outcome w ids (.wrong login p command named free held right)

theorem connect_outcome (command : frame.command = "CONNECT") :
    Outcome w c frame s (run exec (processConnect w c frame.headers) s).2 := by
  cases named : header frame.headers "login" with
  | none =>
    simp only [processConnect, named, userConnectedAlready, run_bind, run_deref_none]
    exact .idle
  | some login =>
    by_cases taken : login ∈ s.loggedInUsers
    · simp only [processConnect, named, userConnectedAlready, run_bind, run_deref_some,
        run_loggedInUsers_containsKey, taken, decide_true, if_true]
      exact refuse_outcome w ids (.taken login command named taken)
    · simp only [processConnect, named, userConnectedAlready, run_bind, run_deref_some,
        run_loggedInUsers_containsKey, taken, decide_false, Bool.false_eq_true, if_false]
      have branch := connect_user_outcome w (c := c) ids command named taken
      rwa [run_bind] at branch

theorem disconnect_outcome (command : frame.command = "DISCONNECT") :
    Outcome w c frame s (run exec (processDisconnect w c frame.headers) s).2 := by
  unfold processDisconnect
  rw [run_bind, reply_run ids]
  by_cases active : c ∈ s.activeClients
  · obtain ⟨result, s', ran, effect⟩ := disconnect_run w c
      (answered w c (receiptFrame (header frame.headers "receipt")) s)
    simp only [active, if_true, reported, ran]
    exact .disconnected result s' command active effect
  · simp only [active, if_false, reported]
    exact .idle

theorem unsubscribe_outcome (command : frame.command = "UNSUBSCRIBE") :
    Outcome w c frame s (run exec (processUnsubscribe w c frame.headers) s).2 := by
  cases number : parseIntOf (header frame.headers "id") with
  | call op next => exact absurd number (parse_int_no_call _ op next)
  | raise e =>
    simp only [processUnsubscribe, number, run_bind, run_raise]
    exact .idle
  | done id =>
    have known : ∀ ch ∈ w.channels.order s.channelsSubscriptions.keys,
        ch ∈ s.channelsSubscriptions :=
      fun ch member => AList.mem_keys.mpr (w.channels.mem_order.mp member)
    simp only [processUnsubscribe, number, getConnection, removeChannelSubscription, run_bind,
      run_done, run_activeClients_get, run_channelsSubscriptions_keySet]
    rcases remove_from_run id (s.activeClients.lookup c) _ known with
      ⟨nothing, ran⟩ | ⟨channel, i, found, current, ran⟩
    · simp only [ran, Bool.false_eq_true, if_false]
      exact refuse_outcome w ids (.unmatched id command number nothing)
    · simp only [ran, if_true]
      have same : HandlerIds (s.removeSubscription ⟨channel, i⟩ (s.activeClients.lookup c)) := ids
      have after := reply_only_run (w := w) (c := c) same
        (receiptFrame (header frame.headers "receipt"))
      rw [after]
      exact .unsubscribed channel id i command number found current

theorem subscribe_outcome (command : frame.command = "SUBSCRIBE") :
    Outcome w c frame s (run exec (processSubscribe w c frame.headers) s).2 := by
  cases number : parseIntOf (header frame.headers "id") with
  | call op next => exact absurd number (parse_int_no_call _ op next)
  | raise e =>
    simp only [processSubscribe, number, run_bind, run_raise]
    exact .idle
  | done id =>
    simp only [processSubscribe, number, getConnection, run_bind, run_done,
      run_activeClients_get]
    cases target : header frame.headers "destination" with
    | none =>
      simp only [addChannelSubscription, run_bind, run_deref_none]
      exact .idle
    | some channel =>
      by_cases absent : s.subscription channel (s.activeClients.lookup c) = none
      · obtain ⟨s', added, subscribed⟩ := add_subscription_run id absent
        have same : HandlerIds s' := by
          rw [subscribed.frame]
          exact ids
        have after := reply_only_run (w := w) (c := c) same
          (receiptFrame (header frame.headers "receipt"))
        simp only [added, if_true, after]
        exact .subscribed channel id s' command target number absent subscribed
      · simp only [add_subscription_refused id absent, Bool.false_eq_true, if_false]
        exact refuse_outcome w ids (.repeated channel id command target number absent)

theorem send_outcome (command : frame.command = "SEND") :
    Outcome w c frame s (run exec (processSend w c frame.headers frame.body) s).2 := by
  cases target : header frame.headers "destination" with
  | none =>
    simp only [processSend, target, getUserSubID, run_bind, run_deref_none]
    exact .idle
  | some channel =>
    by_cases refused : (s.subscription channel (s.activeClients.lookup c)).getD (-1) = -1
    · simp only [processSend, run_bind, target, get_user_sub_id_run, refused, if_true]
      have twice : Outcome w c frame s (run exec (do
          let _ ← reply w c (notSubscribedTo (some channel))
          refuse w c (notSubscribedTo (some channel))) s).2 :=
        refuse_twice_outcome w ids (.unsubscribed channel command target refused)
      rwa [run_bind] at twice
    · obtain ⟨id, held, valid⟩ := held_of_accepted refused
      obtain ⟨result, s₁, moved, ran⟩ := process_send_accepted w frame.body target held valid
      rw [ran, moved]
      exact .relayed channel id _ command target held valid

theorem dispatch_outcome : Outcome w c frame s (run exec (dispatch w c frame) s).2 := by
  unfold dispatch
  split
  · rename_i command
    exact connect_outcome w ids command
  split
  · rename_i command
    exact disconnect_outcome w ids command
  split
  · rename_i command
    exact unsubscribe_outcome w ids command
  split
  · rename_i command
    exact subscribe_outcome w ids command
  split
  · rename_i command
    exact send_outcome w ids command
  · exact .idle

end Branches

theorem process_outcome (w : Surroundings) (c : Nat) (message : Text) {s : ServerState}
    (ids : HandlerIds s) :
    (∃ e, StompFrame.ofText message = .error e ∧
      processed w c message s = s.record (.received c message)) ∨
    ∃ frame, StompFrame.ofText message = .ok frame ∧
      Outcome w c frame (begun c message frame s) (processed w c message s) := by
  cases parsed : StompFrame.ofText message with
  | error e =>
    refine Or.inl ⟨e, rfl, ?_⟩
    unfold processed
    rw [process_malformed parsed]
  | ok frame =>
    refine Or.inr ⟨frame, rfl, ?_⟩
    unfold processed
    rw [process_parsed parsed]
    have same : HandlerIds (begun c message frame s) := ids
    exact dispatch_outcome w same

end FrameOutcome
