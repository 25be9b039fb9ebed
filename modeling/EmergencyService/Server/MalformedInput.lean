import EmergencyService.Frames.FrameShape
import EmergencyService.Server.ProcessReturn

/- When `process` returns, for any text at all: the text has to be a frame, the headers that
   its command reads have to be there, and no loop over the handlers may fail. -/
namespace MalformedInput
open JavaRuntime JavaFrame FrameShape AtomicProgram MapCalls ConnectionsImpl StompProtocolImpl
open SubscriptionSweep ProcessRun FrameEvents BranchOutcomes FrameOutcome HandlerThreads ServerRuns
open ProcessReturn

/-- A command line, and a colon in every header line. -/
def IsFrame (text : Text) : Prop :=
  frameHead text ≠ [] ∧ ∀ line ∈ (frameHead text).tail, ':' ∈ line

/-- The frame does not make its branch fail in the state that it finds. -/
structure Served (w : Surroundings) (c : Nat) (s : ServerState) (frame : StompFrame) : Prop where
  headers : ¬ Malformed s frame
  sweep : frame.command = "DISCONNECT" → ∀ ch, LastIfPresent w s ch
  recipients : frame.command = "SEND" → ∀ channel id,
    header frame.headers "destination" = some channel →
      s.subscription channel (s.activeClients.lookup c) = some id → id ≠ -1 →
        s.subscription channel none = none

section Failures
variable (w : Surroundings) {c : Nat} {s : ServerState} {frame : StompFrame}

theorem connect_without_login (absent : header frame.headers "login" = none) :
    (run exec (processConnect w c frame.headers) s).1 ≠ .ok () := by
  have raised : run exec (userConnectedAlready none) s = (.error .nullPointer, s) := rfl
  unfold processConnect
  rw [absent, run_bind_error exec s raised]
  simp

theorem connect_without_passcode {login : Text} (named : header frame.headers "login" = some login)
    (free : login ∉ s.loggedInUsers) (new : login ∉ s.users)
    (absent : header frame.headers "passcode" = none) :
    (run exec (processConnect w c frame.headers) s).1 ≠ .ok () := by
  have asked : run exec (userConnectedAlready (some login)) s = (.ok false, s) := by
    simp [userConnectedAlready, run_bind, free]
  have raised : run exec (connectUser (some login) none c) s = (.error .nullPointer, s) := by
    simp [connectUser, hasRegistered, addUser, run_bind, new]
  unfold processConnect
  rw [named, absent, run_bind_ok exec s asked]
  simp only [Bool.false_eq_true, if_false, run_bind_error exec s raised]
  simp

theorem number_raises (s : ServerState) {text : Option Text}
    (bad : ∀ id, parseIntOf text ≠ .done id) :
    run exec (parseIntOf text) s = (.error .numberFormat, s) := by
  unfold parseIntOf at bad ⊢
  split
  · rename_i t
    cases number : parseInt t with
    | none => rfl
    | some n => simp [number] at bad
  · rfl

theorem unsubscribe_without_number
    (bad : ∀ id, parseIntOf (header frame.headers "id") ≠ .done id) :
    (run exec (processUnsubscribe w c frame.headers) s).1 ≠ .ok () := by
  simp only [processUnsubscribe]
  rw [run_bind_error exec s (number_raises s bad)]
  simp

theorem subscribe_without_number (bad : ∀ id, parseIntOf (header frame.headers "id") ≠ .done id) :
    (run exec (processSubscribe w c frame.headers) s).1 ≠ .ok () := by
  simp only [processSubscribe]
  rw [run_bind_error exec s (number_raises s bad)]
  simp

theorem subscribe_without_destination (absent : header frame.headers "destination" = none) :
    (run exec (processSubscribe w c frame.headers) s).1 ≠ .ok () := by
  by_cases bad : ∀ id, parseIntOf (header frame.headers "id") ≠ .done id
  · exact subscribe_without_number w bad
  · obtain ⟨id, number⟩ : ∃ id, parseIntOf (header frame.headers "id") = .done id := by
      simpa using bad
    have parsed : run exec (parseIntOf (header frame.headers "id")) s = (.ok id, s) := by
      rw [number, run_done]
    have found : run exec (getConnection c) s = (.ok (s.activeClients.lookup c), s) := by
      simp [getConnection]
    have raised (h : HandlerRef) :
        run exec (addChannelSubscription none id h) s = (.error .nullPointer, s) := rfl
    simp only [processSubscribe]
    rw [absent, run_bind_ok exec s parsed, run_bind_ok exec s found,
      run_bind_error exec s (raised _)]
    simp

theorem send_without_destination (absent : header frame.headers "destination" = none) :
    (run exec (processSend w c frame.headers frame.body) s).1 ≠ .ok () := by
  have raised : run exec (getUserSubID none c) s = (.error .nullPointer, s) := rfl
  simp only [processSend]
  rw [absent, run_bind_error exec s raised]
  simp

theorem malformed_fails (malformed : Malformed s frame) :
    (run exec (dispatch w c frame) s).1 ≠ .ok () := by
  cases malformed with
  | login command absent =>
    rw [dispatch_connect command]
    exact connect_without_login w absent
  | passcode login command named free new absent =>
    rw [dispatch_connect command]
    exact connect_without_passcode w named free new absent
  | number command bad =>
    rcases command with command | command
    · rw [dispatch_unsubscribe command]
      exact unsubscribe_without_number w bad
    · rw [dispatch_subscribe command]
      exact subscribe_without_number w bad
  | destination command absent =>
    rcases command with command | command
    · rw [dispatch_subscribe command]
      exact subscribe_without_destination w absent
    · rw [dispatch_send command]
      exact send_without_destination w absent

end Failures

section Returns
variable {w : Surroundings} {c : Nat} {s : ServerState} {frame : StompFrame}
  (own : s.activeClients.lookup c = some ⟨c⟩)
include own

theorem disconnect_returns_iff (command : frame.command = "DISCONNECT") :
    (run exec (dispatch w c frame) s).1 = .ok () ↔ ∀ ch, LastIfPresent w s ch := by
  obtain ⟨result, s', ran, effect⟩ := disconnect_run w c
    (answered w c (receiptFrame (header frame.headers "receipt")) s)
  rw [dispatch_disconnect command, process_disconnect_run w own, ran]
  exact effect.quiet

theorem send_returns_iff (command : frame.command = "SEND") (sound : ¬ Malformed s frame) :
    (run exec (dispatch w c frame) s).1 = .ok () ↔
      ∀ channel id, header frame.headers "destination" = some channel →
        s.subscription channel (s.activeClients.lookup c) = some id → id ≠ -1 →
          s.subscription channel none = none := by
  rw [dispatch_send command]
  cases target : header frame.headers "destination" with
  | none => exact absurd (.destination (Or.inr command) target) sound
  | some channel =>
    by_cases refused : (s.subscription channel (s.activeClients.lookup c)).getD (-1) = -1
    · rw [process_send_refused w frame.body target refused own]
      simp only [true_iff]
      rintro channel' id ⟨⟩ held valid
      rw [held] at refused
      exact absurd refused valid
    · obtain ⟨id, held, valid⟩ := held_of_accepted refused
      rw [process_send_returns_iff w frame.body target held valid]
      constructor
      · rintro dark channel' id' ⟨⟩ held' valid'
        exact dark
      · intro all
        exact all channel id rfl held valid

theorem dispatch_returns_iff :
    (run exec (dispatch w c frame) s).1 = .ok () ↔ Served w c s frame := by
  by_cases malformed : Malformed s frame
  · have failed := malformed_fails w (c := c) malformed
    exact ⟨fun returned => absurd returned failed, fun served => absurd malformed served.headers⟩
  · constructor
    · intro returned
      refine ⟨malformed, fun command => ?_, fun command => ?_⟩
      · exact (disconnect_returns_iff own command).mp returned
      · exact (send_returns_iff own command malformed).mp returned
    · intro served
      by_cases leaves : frame.command = "DISCONNECT"
      · exact (disconnect_returns_iff own leaves).mpr (served.sweep leaves)
      by_cases sends : frame.command = "SEND"
      · exact (send_returns_iff own sends malformed).mpr (served.recipients sends)
      by_cases connects : frame.command = "CONNECT"
      · rw [dispatch_connect connects]
        exact connect_returns w own malformed connects
      by_cases unsubscribes : frame.command = "UNSUBSCRIBE"
      · rw [dispatch_unsubscribe unsubscribes]
        exact unsubscribe_returns w own malformed unsubscribes
      by_cases subscribes : frame.command = "SUBSCRIBE"
      · rw [dispatch_subscribe subscribes]
        exact subscribe_returns w own malformed subscribes
      · simp only [dispatch, leaves, sends, connects, unsubscribes, subscribes, if_false, run_pure]

end Returns

theorem served_begun {w : Surroundings} {c : Nat} {s : ServerState} {message : Text}
    {frame : StompFrame} : Served w c (begun c message frame s) frame ↔ Served w c s frame := by
  constructor
  · rintro ⟨headers, sweep, recipients⟩
    exact ⟨(malformed_begun c message s).not.mp headers, sweep, recipients⟩
  · rintro ⟨headers, sweep, recipients⟩
    exact ⟨(malformed_begun c message s).not.mpr headers, sweep, recipients⟩

/-- A call of `process` for a connection in `activeClients` returns normally exactly when the
    text is a frame that its branch can serve. -/
theorem process_returns_iff {s : ServerState} (reachable : ReachableState s) {c : Nat}
    (active : c ∈ s.activeClients) (w : Surroundings) (text : Text) :
    (run exec (process w c text) s).1 = .ok () ↔
      IsFrame text ∧ ∀ frame, StompFrame.ofText text = .ok frame → Served w c s frame := by
  unfold IsFrame
  rw [← java_accepts_iff]
  cases parsed : StompFrame.ofText text with
  | error e =>
    rw [process_malformed parsed]
    simp
  | ok frame =>
    have own := own_handler (handler_ids_reachable reachable) active
    have own' : (begun c text frame s).activeClients.lookup c = some ⟨c⟩ := own
    rw [process_parsed parsed, dispatch_returns_iff own', served_begun]
    simp

def subscribeText : Text := "SUBSCRIBE\ndestination:police\nid:1\nreceipt:0\n\n"

def subscribeFrame : StompFrame :=
  ⟨"SUBSCRIBE", put (put (put ∅ "destination" "police") "id" "1") "receipt" "0", []⟩

theorem subscribe_sound (s : ServerState) : ¬ Malformed s subscribeFrame := by
  intro malformed
  cases malformed with
  | login command _ => exact absurd command (by decide)
  | passcode login command _ _ _ _ => exact absurd command (by decide)
  | number command bad => exact bad 1 rfl
  | destination command absent => exact absurd absent (by decide)

theorem subscribe_processed :
    (run exec (process .plain 0 subscribeText) (accepted ServerState.initial)).1 = .ok () := by
  have acted : Server.acts [.construct, .increment] Server.initial =
      some ⟨accepted ServerState.initial, false⟩ := rfl
  have parsed : StompFrame.ofText subscribeText = .ok subscribeFrame := rfl
  refine (process_returns_iff (acts_reachable acted) (by decide) .plain subscribeText).mpr
    ⟨(java_accepts_iff _).mp ⟨_, parsed⟩, fun frame same => ?_⟩
  obtain rfl : subscribeFrame = frame := Except.ok.inj (parsed.symm.trans same)
  refine ⟨subscribe_sound _, fun command => ?_, fun command => ?_⟩
  · exact absurd command (by decide)
  · exact absurd command (by decide)

/-- Texts that a new connection may send: nothing, newlines only, a header line without a
    colon, and frames whose command reads a header that is not there or no number. -/
def hostileTexts : List Text :=
  ["", "\n\n", "SEND\npolice\n\nfire", "CONNECT\nlogin:meni\n\n", "UNSUBSCRIBE\nid:one\n\n",
    "SUBSCRIBE\nid:1\n\n", "SEND\n\n\nfire"]

theorem hostile_texts_raise :
    ReachableState (accepted ServerState.initial) ∧
      0 ∈ (accepted ServerState.initial).activeClients ∧
        ∀ text ∈ hostileTexts,
          (run exec (process .plain 0 text) (accepted ServerState.initial)).1 ≠ .ok () := by
  have acted : Server.acts [.construct, .increment] Server.initial =
      some ⟨accepted ServerState.initial, false⟩ := rfl
  refine ⟨acts_reachable acted, by decide, ?_⟩
  simp only [hostileTexts, List.forall_mem_cons]
  refine ⟨?_, ?_, ?_, ?_, ?_, ?_, ?_, by simp⟩
  all_goals
    intro returned
    cases returned

end MalformedInput
