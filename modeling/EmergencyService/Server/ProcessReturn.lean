import EmergencyService.Server.FrameOutcome

/- When the branches of `process` return and do not raise an exception, for a connection in
   `activeClients`. A SEND returns when nothing is subscribed under the null handler. -/
namespace ProcessReturn
open JavaRuntime JavaFrame AtomicProgram MapCalls ConnectionsImpl StompProtocolImpl
open SubscriptionSweep ProcessRun FrameEvents BranchOutcomes FrameOutcome HandlerThreads

/-- The branch of the frame raises an exception before it has sent anything. -/
inductive Malformed (s : ServerState) (frame : StompFrame) : Prop where
  | login : frame.command = "CONNECT" → header frame.headers "login" = none → Malformed s frame
  | passcode (login : Text) : frame.command = "CONNECT" →
      header frame.headers "login" = some login → login ∉ s.loggedInUsers → login ∉ s.users →
      header frame.headers "passcode" = none → Malformed s frame
  | number : frame.command = "UNSUBSCRIBE" ∨ frame.command = "SUBSCRIBE" →
      (∀ id, parseIntOf (header frame.headers "id") ≠ .done id) → Malformed s frame
  | destination : frame.command = "SUBSCRIBE" ∨ frame.command = "SEND" →
      header frame.headers "destination" = none → Malformed s frame

def NoNullHandler (s : ServerState) : Prop := ∀ ch, s.subscription ch none = none

section Send
variable (w : Surroundings) {s : ServerState}

theorem send_loop_returns_iff (msg : Text) (subs : MapRef) (keys : List HandlerRef)
    (s : ServerState) :
    (run exec (forEachKey subs (s.mapAt subs).modCount (fun connection => do
        let handler ← deref connection
        handler.send msg) keys) s).1 = .ok () ↔ none ∉ keys := by
  induction keys generalizing s with
  | nil => simp [forEachKey]
  | cons key rest ih =>
    cases key with
    | none => simp [forEachKey, run_bind]
    | some h =>
      have later := ih (s.record (.sent h msg))
      have same : ((s.record (.sent h msg)).mapAt subs).modCount = (s.mapAt subs).modCount := rfl
      rw [same] at later
      simpa [forEachKey, run_bind] using later

theorem send_channel_returns_iff {channel : Text} (msg : Text)
    (known : s.channelsSubscriptions.lookup channel ≠ none) :
    (run exec (sendChannel w channel msg) s).1 = .ok () ↔ s.subscription channel none = none := by
  obtain ⟨i, current⟩ := Option.ne_none_iff_exists'.mp known
  have member : none ∈ (w.subscribers channel).order (s.subscriptionMaps channel i).entries.keys ↔
      s.subscription channel none ≠ none := by
    rw [IterationOrder.mem_order, ← AList.mem_keys, subscription_iff_mem current]
  have loop := send_loop_returns_iff msg ⟨channel, i⟩
    ((w.subscribers channel).order (s.subscriptionMaps channel i).entries.keys) s
  rw [member, not_not] at loop
  simp only [sendChannel, run_bind, run_channelsSubscriptions_get, current, Option.map_some,
    run_deref_some, run_map_iterator]
  exact loop

theorem process_send_returns_iff {headers : HashMap Text Text} {channel : Text} {c : Nat}
    {id : Int} (body : Text) (target : header headers "destination" = some channel)
    (held : s.subscription channel (s.activeClients.lookup c) = some id) (valid : id ≠ -1) :
    (run exec (processSend w c headers body) s).1 = .ok () ↔
      s.subscription channel none = none := by
  have known : s.channelsSubscriptions.lookup channel ≠ none := by
    intro absent
    simp [ServerState.subscription, absent] at held
  have relayed := send_channel_returns_iff w (s := s.setProtocol c
    ⟨(s.protocol c).shouldTerminate, wrapInt ((s.protocol c).messageID + 1)⟩)
    ((messageFrame id (s.protocol c).messageID channel body).createFrame w.headers) known
  simp only [processSend, run_bind, target, get_user_sub_id_run, held, Option.getD_some, valid,
    if_false, run_deref_some, run_messageID_get, run_messageID_increment]
  exact relayed

end Send

section Branches
variable (w : Surroundings) {c : Nat} {s : ServerState} {frame : StompFrame}
  (own : s.activeClients.lookup c = some ⟨c⟩) (sound : ¬ Malformed s frame)
include own sound

theorem connect_returns (command : frame.command = "CONNECT") :
    (run exec (processConnect w c frame.headers) s).1 = .ok () := by
  cases named : header frame.headers "login" with
  | none => exact absurd (.login command named) sound
  | some login =>
    by_cases taken : login ∈ s.loggedInUsers
    · rw [connect_taken w named taken own]
    · cases held : s.users.lookup login with
      | some p =>
        by_cases right : some p = header frame.headers "passcode"
        · have known : ∀ q, s.users.lookup login = some q → q = p := by simp [held]
          rw [connect_accepted w named taken right.symm known own]
        · rw [connect_rejected w named taken held right own]
      | none =>
        cases secret : header frame.headers "passcode" with
        | none =>
          have new : login ∉ s.users := AList.lookup_eq_none.mp held
          exact absurd (.passcode login command named taken new secret) sound
        | some passcode =>
          have known : ∀ p, s.users.lookup login = some p → p = passcode := by simp [held]
          rw [connect_accepted w named taken secret known own]

omit own sound in
theorem number_of_sound (command : frame.command = "UNSUBSCRIBE" ∨ frame.command = "SUBSCRIBE")
    (sound : ¬ Malformed s frame) : ∃ id, parseIntOf (header frame.headers "id") = .done id := by
  by_contra none'
  simp only [not_exists] at none'
  exact sound (.number command none')

theorem unsubscribe_returns (command : frame.command = "UNSUBSCRIBE") :
    (run exec (processUnsubscribe w c frame.headers) s).1 = .ok () := by
  obtain ⟨id, number⟩ := number_of_sound (Or.inl command) sound
  rcases unsubscribe_cases w number own with ⟨_, ran⟩ | ⟨ch, i, _, _, ran⟩
  · rw [ran]
  · rw [ran]

theorem subscribe_returns (command : frame.command = "SUBSCRIBE") :
    (run exec (processSubscribe w c frame.headers) s).1 = .ok () := by
  obtain ⟨id, number⟩ := number_of_sound (Or.inr command) sound
  cases target : header frame.headers "destination" with
  | none => exact absurd (.destination (Or.inl command) target) sound
  | some channel =>
    by_cases absent : s.subscription channel (some ⟨c⟩) = none
    · obtain ⟨s', _, ran⟩ := subscribe_done w target number own absent
      rw [ran]
    · rw [subscribe_refused w target number own absent]

end Branches

theorem malformed_of_same {s s' : ServerState} {frame : StompFrame}
    (logins : s'.loggedInUsers = s.loggedInUsers) (users : s'.users = s.users)
    (malformed : Malformed s frame) : Malformed s' frame := by
  cases malformed with
  | login command named => exact .login command named
  | passcode login command named free new secret =>
    exact .passcode login command named (logins ▸ free) (users ▸ new) secret
  | number command none' => exact .number command none'
  | destination command target => exact .destination command target

theorem malformed_begun {frame : StompFrame} (c : Nat) (message : Text) (s : ServerState) :
    Malformed (begun c message frame s) frame ↔ Malformed s frame := by
  constructor
  · exact malformed_of_same rfl rfl
  · exact malformed_of_same rfl rfl

end ProcessReturn
