import EmergencyService.Server.BranchOutcomes

/- How many frames a connection gets in answer to one of its frames. -/
namespace ReplyCount
open JavaRuntime JavaFrame AtomicProgram MapCalls ConnectionsImpl StompProtocolImpl
open FrameExchange SubscriptionSweep ProcessRun FrameEvents CallFootprint BranchOutcomes
open HandlerThreads ServerRuns

def sentFrames : List Event → List (ConnectionHandler × Text) :=
  List.filterMap fun
    | .sent h text => some (h, text)
    | _ => none

def framesTo (c : Nat) (events : List Event) : List Text :=
  ((sentFrames events).filter fun sent => sent.1 = ⟨c⟩).map Prod.snd

def Present (frame : StompFrame) (name : Text) : Prop :=
  ∃ value, header frame.headers name = some value

def NumberedId (frame : StompFrame) : Prop :=
  ∃ text id, header frame.headers "id" = some text ∧ parseInt text = some id

/-- The headers that the branch of the command reads are present, and an id is a number. -/
structure WellFormed (frame : StompFrame) : Prop where
  connect : frame.command = "CONNECT" → Present frame "login" ∧ Present frame "passcode"
  disconnect : frame.command = "DISCONNECT" → Present frame "receipt"
  unsubscribe : frame.command = "UNSUBSCRIBE" → Present frame "receipt" ∧ NumberedId frame
  subscribe : frame.command = "SUBSCRIBE" →
    Present frame "receipt" ∧ NumberedId frame ∧ Present frame "destination"
  send : frame.command = "SEND" → Present frame "destination"

def IsReply (frame : StompFrame) (text : Text) : Prop :=
  commandOf text = "CONNECTED" ∨
  (commandOf text = "RECEIPT" ∧
    receivedHeader "receipt-id" text = header frame.headers "receipt") ∨
  commandOf text = "ERROR"

def AnsweredOnce (c : Nat) (frame : StompFrame) (events : List Event) : Prop :=
  ∃ text, framesTo c events = [text] ∧ IsReply frame text

def ErrorOnly (c : Nat) (events : List Event) : Prop :=
  ∃ text, sentFrames events = [(⟨c⟩, text)] ∧ commandOf text = "ERROR"

def Request (command : Text) : Prop :=
  command = "CONNECT" ∨ command = "DISCONNECT" ∨ command = "UNSUBSCRIBE" ∨
    command = "SUBSCRIBE"

/-- One answer to a request, and one error for a SEND without a subscription. -/
def RepliesOnce (w : Surroundings) (c : Nat) (message : Text) (frame : StompFrame)
    (s : ServerState) : Prop :=
  (Request frame.command →
    AnsweredOnce c frame (newEvents s (processed w c message s))) ∧
  ∀ channel, frame.command = "SEND" → header frame.headers "destination" = some channel →
    s.subscription channel (some ⟨c⟩) = none →
      ErrorOnly c (newEvents s (processed w c message s))

def WrongPassword (frame : StompFrame) (s : ServerState) : Prop :=
  frame.command = "CONNECT" ∧ ∃ login passcode known,
    header frame.headers "login" = some login ∧
    header frame.headers "passcode" = some passcode ∧ login ∉ s.loggedInUsers ∧
    s.users.lookup login = some known ∧ known ≠ passcode

def UnsubscribedSend (c : Nat) (frame : StompFrame) (s : ServerState) : Prop :=
  frame.command = "SEND" ∧ ∃ channel, header frame.headers "destination" = some channel ∧
    s.subscription channel (some ⟨c⟩) = none

section Sent

theorem sent_iff_frame (h : ConnectionHandler) (text : Text) (events : List Event) :
    .sent h text ∈ events ↔ (h, text) ∈ sentFrames events := by
  unfold sentFrames
  rw [List.mem_filterMap]
  constructor
  · intro member
    exact ⟨_, member, rfl⟩
  · rintro ⟨event, member, found⟩
    cases event with
    | sent h' text' =>
      cases found
      exact member
    | received c' message' => cases found
    | disconnected c' => cases found

theorem mem_frames_to_iff {c : Nat} {text : Text} {events : List Event} :
    text ∈ framesTo c events ↔ .sent ⟨c⟩ text ∈ events := by
  unfold framesTo
  rw [sent_iff_frame, List.mem_map]
  constructor
  · rintro ⟨⟨h, t⟩, member, rfl⟩
    obtain ⟨inside, own⟩ := List.mem_filter.mp member
    obtain rfl : h = ⟨c⟩ := of_decide_eq_true own
    exact inside
  · intro member
    exact ⟨_, List.mem_filter.mpr ⟨member, decide_eq_true rfl⟩, rfl⟩

end Sent

section Texts
variable (o : IterationOrder Text)

theorem receipt_headers_clean {value : Text} (free : LineFree value) :
    CleanHeaders (receiptFrame (some value)).headers := by
  have name : ':' ∉ "receipt-id".toList ∧ LineFree "receipt-id" := by decide
  refine clean_insert ?_ ⟨name.1, name.2, free⟩
  intro k v missing
  simp at missing

theorem receipt_reply {frame : StompFrame} (clean : CleanHeaders frame.headers)
    (present : Present frame "receipt") :
    IsReply frame ((receiptFrame (header frame.headers "receipt")).createFrame o) := by
  obtain ⟨value, found⟩ := present
  have line : LineFree "RECEIPT" := by decide
  have named : ("RECEIPT".toList : Text) ≠ [] := by decide
  have headers := receipt_headers_clean (clean _ _ found).2.2
  refine Or.inr (Or.inl ⟨?_, ?_⟩)
  · exact receipt_command o _
  · rw [found, received_header (f := receiptFrame (some value)) named line headers]
    exact AList.lookup_insert _

theorem connected_reply (frame : StompFrame) :
    IsReply frame (connectedFrame.createFrame o) := by
  exact Or.inl (connected_command o)

theorem error_reply (frame : StompFrame) (headers : HashMap Text Text) :
    IsReply frame ((errorFrame headers).createFrame o) :=
  Or.inr (Or.inr (error_command o headers))

end Texts

section Counting
variable {c : Nat} {message : Text} {new : List Event} {s s' : ServerState}

theorem sent_frames_disconnected (c' : Nat) :
    sentFrames (.disconnected c' :: new) = sentFrames new := rfl

/-- Whether the cleanup ran or not, the frames sent are those sent before it. -/
theorem sent_frames_cleaned_up (w : Surroundings) (grown : s'.log = new ++ s.log) :
    sentFrames (newEvents s (cleanedUp w c s')) = sentFrames new := by
  rcases cleaned_up_events w c grown with same | more
  · rw [same]
  · rw [more, sent_frames_disconnected]

variable {frame f : StompFrame} (w : Surroundings)
  (grown : s'.log = .received c message :: s.log)
include grown

theorem answered_events :
    newEvents s (answered w c f s') =
      [.sent ⟨c⟩ (f.createFrame w.headers), .received c message] := by
  apply new_events_of_log
  simp [answered, ServerState.record, grown]

theorem once_answered (reply : IsReply frame (f.createFrame w.headers)) :
    AnsweredOnce c frame (newEvents s (answered w c f s')) := by
  refine ⟨_, ?_, reply⟩
  rw [answered_events w grown]
  simp [framesTo, sentFrames]

theorem once_refused_frames :
    sentFrames (newEvents s (cleanedUp w c (answered w c f s'))) =
      [(⟨c⟩, f.createFrame w.headers)] := by
  have log : (answered w c f s').log =
      [.sent ⟨c⟩ (f.createFrame w.headers), .received c message] ++ s.log := by
    simp [answered, ServerState.record, grown]
  rw [sent_frames_cleaned_up w log]
  simp [sentFrames]

theorem once_refused (reply : IsReply frame (f.createFrame w.headers)) :
    AnsweredOnce c frame (newEvents s (cleanedUp w c (answered w c f s'))) := by
  refine ⟨_, ?_, reply⟩
  unfold framesTo
  rw [once_refused_frames w grown]
  simp

theorem twice_refused :
    sentFrames (newEvents s (cleanedUp w c (answered w c f (answered w c f s')))) =
      [(⟨c⟩, f.createFrame w.headers), (⟨c⟩, f.createFrame w.headers)] := by
  have log : (answered w c f (answered w c f s')).log =
      [.sent ⟨c⟩ (f.createFrame w.headers), .sent ⟨c⟩ (f.createFrame w.headers),
        .received c message] ++ s.log := by
    simp [answered, ServerState.record, grown]
  rw [sent_frames_cleaned_up w log]
  simp [sentFrames]

end Counting

section Branches
variable {w : Surroundings} {c : Nat} {message : Text} {frame : StompFrame} {s : ServerState}
  (parsed : StompFrame.ofText message = .ok frame) (active : s.activeClients.lookup c = some ⟨c⟩)
include parsed active

theorem connect_replies (command : frame.command = "CONNECT") {login passcode : Text}
    (named : header frame.headers "login" = some login)
    (secret : header frame.headers "passcode" = some passcode) :
    AnsweredOnce c frame (newEvents s (processed w c message s)) ↔ ¬ WrongPassword frame s := by
  have start : (begun c message frame s).log = .received c message :: s.log := rfl
  have branch := dispatch_connect (w := w) (c := c) command
  by_cases taken : login ∈ s.loggedInUsers
  · have ran := connect_taken w (s := begun c message frame s) named taken active
    rw [processed_eq parsed (branch ▸ ran)]
    have allowed : ¬ WrongPassword frame s := by
      rintro ⟨_, login', _, _, named', _, free, _⟩
      obtain rfl := Option.some.inj (named.symm.trans named')
      exact free taken
    exact iff_of_true (once_refused w start (error_reply _ _ _)) allowed
  · by_cases known : ∀ p, s.users.lookup login = some p → p = passcode
    · have ran := connect_accepted w (s := begun c message frame s) named taken secret known active
      rw [processed_eq parsed (branch ▸ ran)]
      have allowed : ¬ WrongPassword frame s := by
        rintro ⟨_, login', passcode', p, named', secret', _, held, wrong⟩
        obtain rfl := Option.some.inj (named.symm.trans named')
        obtain rfl := Option.some.inj (secret.symm.trans secret')
        exact wrong (known p held)
      exact iff_of_true (once_answered w start (connected_reply _ _)) allowed
    · simp only [not_forall] at known
      obtain ⟨p, held, wrong⟩ := known
      have refused : some p ≠ header frame.headers "passcode" := by
        rw [secret]
        exact fun same => wrong (Option.some.inj same)
      have ran := connect_rejected w (s := begun c message frame s) named taken held refused active
      rw [processed_eq parsed (branch ▸ ran)]
      refine iff_of_false ?_ (not_not.mpr ⟨command, login, passcode, p, named, secret, taken,
        held, wrong⟩)
      rintro ⟨text, only, _⟩
      unfold framesTo at only
      rw [twice_refused w start] at only
      simp at only

theorem disconnect_replies (command : frame.command = "DISCONNECT")
    (receipt : Present frame "receipt") :
    AnsweredOnce c frame (newEvents s (processed w c message s)) := by
  have ran : run exec (processDisconnect w c frame.headers) (begun c message frame s) = _ :=
    process_disconnect_run w active
  obtain ⟨result, s', swept, effect⟩ := disconnect_run w c
    (answered w c (receiptFrame (header frame.headers "receipt")) (begun c message frame s))
  rw [swept, ← dispatch_disconnect command] at ran
  rw [processed_eq parsed ran]
  refine ⟨_, ?_, receipt_reply w.headers (parsed_headers_clean parsed) receipt⟩
  have log : newEvents s s' = [.disconnected c, .sent ⟨c⟩
      ((receiptFrame (header frame.headers "receipt")).createFrame w.headers),
        .received c message] := by
    apply new_events_of_log
    rw [effect.frame]
    rfl
  rw [log]
  simp [framesTo, sentFrames]

omit parsed active in
theorem parse_int_of_id (numbered : NumberedId frame) :
    ∃ id, parseIntOf (header frame.headers "id") = .done id := by
  obtain ⟨text, id, found, number⟩ := numbered
  exact ⟨id, by simp only [found, parseIntOf, number]⟩

theorem unsubscribe_replies (command : frame.command = "UNSUBSCRIBE")
    (receipt : Present frame "receipt") (numbered : NumberedId frame) :
    AnsweredOnce c frame (newEvents s (processed w c message s)) := by
  have start : (begun c message frame s).log = .received c message :: s.log := rfl
  have branch := dispatch_unsubscribe (w := w) (c := c) command
  obtain ⟨id, number⟩ := parse_int_of_id numbered
  rcases unsubscribe_cases w (s := begun c message frame s) number active with
    ⟨_, ran⟩ | ⟨ch, i, _, _, ran⟩
  · rw [processed_eq parsed (branch ▸ ran)]
    exact once_refused w start (error_reply _ _ _)
  · rw [processed_eq parsed (branch ▸ ran)]
    exact once_answered w start (receipt_reply _ (parsed_headers_clean parsed) receipt)

theorem subscribe_replies (command : frame.command = "SUBSCRIBE")
    (receipt : Present frame "receipt") (numbered : NumberedId frame)
    (target : Present frame "destination") :
    AnsweredOnce c frame (newEvents s (processed w c message s)) := by
  have start : (begun c message frame s).log = .received c message :: s.log := rfl
  have branch := dispatch_subscribe (w := w) (c := c) command
  obtain ⟨id, number⟩ := parse_int_of_id numbered
  obtain ⟨channel, target⟩ := target
  by_cases absent : s.subscription channel (some ⟨c⟩) = none
  · obtain ⟨s', subscribed, ran⟩ := subscribe_done w (s := begun c message frame s) target
      number active absent
    rw [processed_eq parsed (branch ▸ ran)]
    have log : s'.log = .received c message :: s.log := by
      rw [subscribed.frame]
      rfl
    exact once_answered w log (receipt_reply _ (parsed_headers_clean parsed) receipt)
  · have ran := subscribe_refused w (s := begun c message frame s) target number active absent
    rw [processed_eq parsed (branch ▸ ran)]
    exact once_refused w start (error_reply _ _ _)

theorem unsubscribed_send_doubles (command : frame.command = "SEND") {channel : Text}
    (target : header frame.headers "destination" = some channel)
    (absent : s.subscription channel (some ⟨c⟩) = none) :
    ¬ ErrorOnly c (newEvents s (processed w c message s)) := by
  have start : (begun c message frame s).log = .received c message :: s.log := rfl
  have refused : (s.subscription channel (s.activeClients.lookup c)).getD (-1) = -1 := by
    rw [active, absent]
    rfl
  have ran := process_send_refused w frame.body (s := begun c message frame s) target refused
    active
  rw [processed_eq parsed (dispatch_send (w := w) (c := c) command ▸ ran)]
  rintro ⟨text, only, _⟩
  rw [twice_refused w start] at only
  simp at only

end Branches

/-- A well-formed frame gets the one reply it should get, except for the two branches that
    send their error a second time. -/
theorem replies_once_iff {w : Surroundings} {c : Nat} {message : Text} {frame : StompFrame}
    {s : ServerState} (reachable : ReachableState s)
    (parsed : StompFrame.ofText message = .ok frame) (wellFormed : WellFormed frame)
    (active : c ∈ s.activeClients) :
    RepliesOnce w c message frame s ↔ ¬ WrongPassword frame s ∧ ¬ UnsubscribedSend c frame s := by
  obtain ⟨h, found⟩ := Option.isSome_iff_exists.mp (AList.lookup_isSome.mpr active)
  have own : s.activeClients.lookup c = some ⟨c⟩ := by
    rw [found, handler_ids_reachable reachable c h found]
  constructor
  · intro once
    constructor
    · intro wrong
      obtain ⟨command, login, passcode, _, named, secret, _⟩ := id wrong
      exact (connect_replies parsed own command named secret).mp (once.1 (Or.inl command)) wrong
    · rintro ⟨command, channel, target, absent⟩
      exact unsubscribed_send_doubles parsed own command target absent
        (once.2 channel command target absent)
  · rintro ⟨right, subscribed⟩
    constructor
    · rintro (command | command | command | command)
      · obtain ⟨⟨login, named⟩, ⟨passcode, secret⟩⟩ := wellFormed.connect command
        exact (connect_replies parsed own command named secret).mpr right
      · exact disconnect_replies parsed own command (wellFormed.disconnect command)
      · obtain ⟨receipt, numbered⟩ := wellFormed.unsubscribe command
        exact unsubscribe_replies parsed own command receipt numbered
      · obtain ⟨receipt, numbered, target⟩ := wellFormed.subscribe command
        exact subscribe_replies parsed own command receipt numbered target
    · intro channel command target absent
      exact absurd ⟨command, channel, target, absent⟩ subscribed

section Example

def connectText (login passcode : Text) : Text :=
  "CONNECT\naccept-version:1.2\nhost:stomp.cs.bgu.ac.il\nlogin:".toList ++ login ++
    "\npasscode:".toList ++ passcode ++ "\n\n\n".toList

def connectFrame (login passcode : Text) : StompFrame :=
  ⟨"CONNECT", put (put (put (put ∅ "accept-version" "1.2") "host" "stomp.cs.bgu.ac.il") "login"
    login) "passcode" passcode, []⟩

theorem first_connect_answered_once :
    RepliesOnce .plain 0 (connectText "meni" "films") (connectFrame "meni" "films")
      (accepted ServerState.initial) := by
  have acted : Server.acts [.construct, .increment] Server.initial =
      some ⟨accepted ServerState.initial, false⟩ := rfl
  have parsed : StompFrame.ofText (connectText "meni" "films") =
      .ok (connectFrame "meni" "films") := rfl
  have wellFormed : WellFormed (connectFrame "meni" "films") := by
    refine ⟨fun _ => ⟨⟨_, rfl⟩, ⟨_, rfl⟩⟩, ?_, ?_, ?_, ?_⟩
    all_goals
      intro command
      exact absurd command (by decide)
  refine (replies_once_iff (acts_reachable acted) parsed wellFormed (by decide)).mpr ⟨?_, ?_⟩
  · rintro ⟨_, login, _, known, _, _, _, held, _⟩
    simp [accepted, incremented, constructed, ServerState.initial, constructHandler,
      ConnectionsImpl.addConnection, run_bind] at held
  · rintro ⟨command, _⟩
    exact absurd command (by decide)

def unsubscribedText : Text := "SEND\ndestination:police\n\n\nuser:meni\n\n"

def unsubscribedFrame : StompFrame :=
  ⟨"SEND", put ∅ "destination" "police", "user:meni\n\n"⟩

theorem unsubscribed_send_two_errors :
    ReachableState (accepted ServerState.initial) ∧
      StompFrame.ofText unsubscribedText = .ok unsubscribedFrame ∧
      WellFormed unsubscribedFrame ∧ 0 ∈ (accepted ServerState.initial).activeClients ∧
      ¬ RepliesOnce .plain 0 unsubscribedText unsubscribedFrame
        (accepted ServerState.initial) := by
  have acted : Server.acts [.construct, .increment] Server.initial =
      some ⟨accepted ServerState.initial, false⟩ := rfl
  refine ⟨acts_reachable acted, rfl, ?_, by decide, ?_⟩
  · refine ⟨?_, ?_, ?_, ?_, fun _ => ⟨_, rfl⟩⟩
    all_goals
      intro command
      exact absurd command (by decide)
  · intro once
    obtain ⟨text, only, _⟩ := once.2 "police" rfl rfl (by decide)
    have two : (sentFrames (newEvents (accepted ServerState.initial) (processed .plain 0
        unsubscribedText (accepted ServerState.initial)))).length = 2 := by decide
    rw [only] at two
    simp at two

end Example

end ReplyCount
