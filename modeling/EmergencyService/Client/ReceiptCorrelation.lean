import EmergencyService.Client.KeyboardLoop
import EmergencyService.Client.SubscriptionAgreement
import EmergencyService.Server.AnswerSource

/- Receipts: which command the client finds under the receipt-id of a RECEIPT, and which
   frame the RECEIPT answers. -/
namespace ReceiptCorrelation
open JavaRuntime CppRuntime JavaFrame FrameExchange FrameStream EventReport ReportLines
open ChannelCommands SubscriptionRequests ServerResponses KeyboardLoop
open MapCalls ConnectionsImpl StompProtocolImpl FrameEvents CallFootprint HandlerThreads ServerRuns
open AnswerSource
open ReplyCount (framesTo mem_frames_to_iff receipt_headers_clean)
open SubscriptionAgreement (Foreign)

section Receipts

/-- The receipts issued so far: each is entered under a number of its own. -/
def issued (client : Client) : Nat := client.receipts.keys.length

structure Numbered (client : Client) : Prop where
  counter : client.receiptNumber = (issued client : Int)
  keys : ∀ r, r ∈ client.receipts ↔ ∃ n : Nat, n < issued client ∧ r = decimal n

/-- What is found under a receipt stays. -/
def Grows (client client' : Client) : Prop :=
  ∀ r command, client.receipts.lookup r = some command → client'.receipts.lookup r = some command

theorem numbered_connected (user : Text) : Numbered (Client.connected user) where
  counter := rfl
  keys := by
    intro r
    simp [Client.connected, issued]

theorem grows_refl (client : Client) : Grows client client := fun _ _ found => found

theorem grows_trans {first second third : Client} (before : Grows first second)
    (after : Grows second third) : Grows first third :=
  fun r command found => after r command (before r command found)

theorem grows_mem {client client' : Client} (grows : Grows client client') {r : Text}
    (known : r ∈ client.receipts) : r ∈ client'.receipts := by
  obtain ⟨command, found⟩ := Option.isSome_iff_exists.mp (AList.lookup_isSome.mpr known)
  exact AList.lookup_isSome.mp (Option.isSome_iff_exists.mpr ⟨command, grows r command found⟩)

theorem grows_issued {client client' : Client} (grows : Grows client client') :
    issued client ≤ issued client' := by
  have inside : client.receipts.keys ⊆ client'.receipts.keys := fun r known =>
    AList.mem_keys.mp (grows_mem grows (AList.mem_keys.mpr known))
  exact (List.subperm_of_subset client.receipts.keys_nodup inside).length_le

variable {client : Client} (name : Text)

theorem produce_grows : Grows client (client.produceReceipt name).2 := by
  intro r command found
  change (insertNew (decimal client.receiptNumber) name client.receipts).lookup r = some command
  unfold insertNew
  split
  · exact found
  · rename_i absent
    have other : r ≠ decimal client.receiptNumber := by
      rintro rfl
      exact absent (AList.lookup_isSome.mp (by rw [found]; rfl))
    rw [AList.lookup_insert_ne other, found]

theorem produce_fresh (numbered : Numbered client) :
    decimal client.receiptNumber ∉ client.receipts := by
  intro known
  obtain ⟨n, below, same⟩ := (numbered.keys _).mp known
  have equal := decimal_injective same
  rw [numbered.counter] at equal
  omega

theorem produce_found (numbered : Numbered client) :
    (client.produceReceipt name).2.receipts.lookup (decimal client.receiptNumber) =
      some name :=
  insert_new_lookup (produce_fresh numbered) name

theorem produce_issued (numbered : Numbered client) :
    issued (client.produceReceipt name).2 = issued client + 1 := by
  have absent := produce_fresh numbered
  change (insertNew (decimal client.receiptNumber) name client.receipts).keys.length = _
  unfold insertNew AList.keys
  rw [if_neg absent, AList.entries_insert_of_notMem absent]
  rfl

theorem produce_numbered (numbered : Numbered client)
    (few : issued (client.produceReceipt name).2 < 2 ^ 31) :
    Numbered (client.produceReceipt name).2 := by
  have more := produce_issued name numbered
  have absent := produce_fresh numbered
  constructor
  · change wrapInt (client.receiptNumber + 1) = _
    rw [numbered.counter, wrap_int_range ⟨by omega, by omega⟩]
    omega
  · intro r
    rw [more]
    change r ∈ insertNew (decimal client.receiptNumber) name client.receipts ↔ _
    unfold insertNew
    rw [if_neg absent, AList.mem_insert, numbered.keys, numbered.counter]
    constructor
    · rintro (rfl | ⟨n, below, rfl⟩)
      · exact ⟨issued client, by omega, rfl⟩
      · exact ⟨n, by omega, rfl⟩
    · rintro ⟨n, below, rfl⟩
      by_cases last : n = issued client
      · exact Or.inl (by rw [last])
      · exact Or.inr ⟨n, by omega, rfl⟩

end Receipts

section Frames

instance (command : Text) : Decidable (AsksReceipt command) :=
  inferInstanceAs (Decidable (_ ∨ _ ∨ _))

def receiptOf (f : CppFrame.StompFrame) : Option Text := f.headers.lookup "receipt".toList

/-- What a command puts on the wire: its receipts are new and distinct, and are kept for
    the commands of their frames. -/
structure Issued (client client' : Client) (frames : List CppFrame.StompFrame) : Prop where
  grows : Grows client client'
  numbered : Numbered client'
  fresh : ∀ f ∈ frames, ∀ r, receiptOf f = some r →
    r ∉ client.receipts ∧ client'.receipts.lookup r = some f.command
  distinct : (frames.filterMap receiptOf).Nodup
  sendable : ∀ f ∈ frames, Sendable f
  asked : ∀ f ∈ frames, AsksReceipt f.command → receiptOf f ≠ none

theorem subscribe_receipt (channel : Text) (id receipt : Int) :
    receiptOf (Client.subscribeFrame channel id receipt) = some (decimal receipt) := by
  have first : "receipt".toList ≠ "id".toList := by decide
  have second : "receipt".toList ≠ "destination".toList := by decide
  apply insert_new_lookup
  rw [← AList.lookup_eq_none, insert_new_lookup_ne first, insert_new_lookup_ne second,
    AList.lookup_empty]

theorem unsubscribe_receipt (id receipt : Int) :
    receiptOf (Client.unsubscribeFrame id receipt) = some (decimal receipt) := by
  have first : "receipt".toList ≠ "id".toList := by decide
  apply insert_new_lookup
  rw [← AList.lookup_eq_none, insert_new_lookup_ne first, AList.lookup_empty]

theorem disconnect_receipt (receipt : Int) :
    receiptOf (disconnectFrame receipt) = some (decimal receipt) :=
  insert_new_lookup (AList.notMem_empty _) _

theorem disconnect_sendable (receipt : Int) : Sendable (disconnectFrame receipt) := by
  have named : ("DISCONNECT".toList : Text) ≠ [] := by decide
  have line : LineFree "DISCONNECT" ∧ NulFree "DISCONNECT" := by decide
  have empty : NulFree [] := by decide
  exact ⟨named, line.1, line.2,
    safe_insert_new safe_empty (number_header receipt receipt_title), empty⟩

theorem send_receipt (channel body : Text) :
    receiptOf ⟨"SEND", insertNew "destination" channel ∅, body⟩ = none := by
  have other : "receipt".toList ≠ "destination".toList := by decide
  unfold receiptOf
  rw [insert_new_lookup_ne other, AList.lookup_empty]

variable {client client' : Client} {frames : List CppFrame.StompFrame}

theorem issued_nothing (grows : Grows client client') (numbered : Numbered client') :
    Issued client client' [] where
  grows := grows
  numbered := numbered
  fresh := nofun
  distinct := List.nodup_nil
  sendable := nofun
  asked := nofun

theorem issued_one {f : CppFrame.StompFrame} (numbered : Numbered client)
    (few : issued (client.produceReceipt f.command).2 < 2 ^ 31)
    (receipt : receiptOf f = some (decimal client.receiptNumber)) (sendable : Sendable f) :
    Issued client (client.produceReceipt f.command).2 [f] where
  grows := produce_grows f.command
  numbered := produce_numbered f.command numbered few
  fresh := by
    intro f' member r held
    obtain rfl := List.mem_singleton.mp member
    obtain rfl := Option.some.inj (receipt.symm.trans held)
    exact ⟨produce_fresh numbered, produce_found f'.command numbered⟩
  distinct := by simp [receipt]
  sendable := by
    intro f' member
    rwa [List.mem_singleton.mp member]
  asked := by
    intro f' member _
    rw [List.mem_singleton.mp member, receipt]
    nofun

theorem issued_behind {middle : Client} (grows : Grows client middle)
    (later : Issued middle client' frames) : Issued client client' frames where
  grows := grows_trans grows later.grows
  numbered := later.numbered
  fresh := by
    intro f member r held
    obtain ⟨absent, found⟩ := later.fresh f member r held
    exact ⟨fun known => absent (grows_mem grows known), found⟩
  distinct := later.distinct
  sendable := later.sendable
  asked := later.asked

theorem issued_same {client'' : Client} (later : Issued client client' frames)
    (receipts : client''.receipts = client'.receipts)
    (counter : client''.receiptNumber = client'.receiptNumber) :
    Issued client client'' frames := by
  obtain ⟨grows, ⟨counted, keys⟩, fresh, distinct, sendable, asked⟩ := later
  unfold Grows at grows
  unfold issued at counted keys
  rw [← receipts] at grows counted keys fresh
  rw [← counter] at counted
  exact ⟨grows, ⟨counted, keys⟩, fresh, distinct, sendable, asked⟩

theorem issued_take (later : Issued client client' frames) (taken : Nat) :
    Issued client client' (frames.take taken) where
  grows := later.grows
  numbered := later.numbered
  fresh := fun f member => later.fresh f (List.mem_of_mem_take member)
  distinct := later.distinct.sublist ((List.take_sublist taken frames).filterMap receiptOf)
  sendable := fun f member => later.sendable f (List.mem_of_mem_take member)
  asked := fun f member => later.asked f (List.mem_of_mem_take member)

theorem report_issues {channel : Text} {events : List EventReport.Event}
    (numbered : Numbered client) (own : OwnWords client)
    (free : ∀ e ∈ events, NulFreeEvent e) :
    Issued client (client.report channel events).1 (client.report channel events).2 := by
  unfold Client.report
  cases held : client.subscriptions.lookup channel with
  | none => exact issued_nothing (grows_refl client) numbered
  | some id =>
    have made : ∀ f ∈ reportFrames client.currentUser channel ∅ events, ∃ body, NulFree body ∧
        f = ⟨"SEND", insertNew "destination" channel ∅, body⟩ := by
      intro f member
      rw [report_frames_eq _ _ _ rfl] at member
      obtain ⟨e, inside, reported⟩ := List.mem_filterMap.mp member
      obtain ⟨body, written, rfl⟩ := Option.map_eq_some_iff.mp reported
      exact ⟨body, report_body_nul_free own.user (free e inside) written, rfl⟩
    have without : ∀ f ∈ reportFrames client.currentUser channel ∅ events,
        receiptOf f = none := by
      intro f member
      obtain ⟨body, _, rfl⟩ := made f member
      exact send_receipt channel body
    constructor
    · exact grows_refl client
    · exact numbered
    · intro f member r found
      rw [without f member] at found
      cases found
    · rw [List.filterMap_eq_nil_iff.mpr without]
      exact List.nodup_nil
    · intro f member
      obtain ⟨body, clean, rfl⟩ := made f member
      exact send_sendable (own.channels channel id held) clean
    · intro f member asks
      obtain ⟨body, _, rfl⟩ := made f member
      have other : ¬ AsksReceipt "SEND" := by decide
      exact absurd asks other

theorem join_issues {channel : Text} (numbered : Numbered client) (word : Word channel)
    (few : issued (client.join channel).1 < 2 ^ 31) :
    Issued client (client.join channel).1 (client.join channel).2 := by
  cases held : client.subscriptions.lookup channel with
  | some id =>
    rw [Client.join_again held] at few ⊢
    exact issued_nothing (produce_grows _) (produce_numbered _ numbered few)
  | none =>
    rw [Client.join_new held] at few ⊢
    have receipt := subscribe_receipt channel client.subscriptionId client.receiptNumber
    exact issued_same (issued_one numbered few receipt (subscribe_sendable word _ _)) rfl rfl

theorem exit_issues {channel : Text} (numbered : Numbered client)
    (few : issued (client.exit channel).1 < 2 ^ 31) :
    Issued client (client.exit channel).1 (client.exit channel).2 := by
  cases held : client.subscriptions.lookup channel with
  | none =>
    rw [Client.exit_unknown held] at few ⊢
    exact issued_nothing (produce_grows _) (produce_numbered _ numbered few)
  | some id =>
    rw [Client.exit_joined held] at few ⊢
    have more : issued (client.produceReceipt "UNSUBSCRIBE").2 < 2 ^ 31 :=
      Nat.lt_of_le_of_lt (grows_issued (produce_grows "UNSUBSCRIBE")) few
    have again := produce_numbered "UNSUBSCRIBE" numbered more
    have receipt := unsubscribe_receipt id (client.produceReceipt "UNSUBSCRIBE").2.receiptNumber
    exact issued_same (issued_behind (produce_grows "UNSUBSCRIBE")
      (issued_one again few receipt (unsubscribe_sendable _ _))) rfl rfl

/-- The files that the commands read have no NUL characters in their events. -/
def CleanFiles (files : EventsFiles) : Prop :=
  ∀ path channelName events, files path = some (channelName, events) →
    ∀ e ∈ events, NulFreeEvent e

variable {files : EventsFiles} {line : Text}

theorem words_issue {after : Client × List CppFrame.StompFrame} (numbered : Numbered client)
    (own : OwnWords client) (lineFree : LineFree line) (nulFree : NulFree line)
    (clean : CleanFiles files) (ran : runWords files client (split line ' ') = some after)
    (few : issued after.1 < 2 ^ 31) : Issued client after.1 after.2 := by
  rcases words_cases ran with ⟨channel, words, rfl⟩ | ⟨channel, words, rfl⟩ |
    ⟨path, channel, events, words, parsed, rfl⟩ | rfl
  · exact join_issues numbered (word_of_split lineFree nulFree (by simp [words])) few
  · exact exit_issues numbered few
  · exact report_issues numbered own (clean path channel events parsed)
  · exact issued_nothing (grows_refl client) numbered

theorem words_grow {after : Client × List CppFrame.StompFrame}
    (ran : runWords files client (split line ' ') = some after) : Grows client after.1 := by
  rcases words_cases ran with ⟨channel, words, rfl⟩ | ⟨channel, words, rfl⟩ |
    ⟨path, channel, events, words, parsed, rfl⟩ | rfl
  · cases held : client.subscriptions.lookup channel with
    | some id =>
      rw [Client.join_again held]
      exact produce_grows "SUBSCRIBE"
    | none =>
      rw [Client.join_new held]
      exact produce_grows "SUBSCRIBE"
  · cases held : client.subscriptions.lookup channel with
    | none =>
      rw [Client.exit_unknown held]
      exact produce_grows "UNSUBSCRIBE"
    | some id =>
      rw [Client.exit_joined held]
      exact grows_trans (produce_grows "UNSUBSCRIBE") (produce_grows "UNSUBSCRIBE")
  · unfold Client.report
    split <;> exact grows_refl client
  · exact grows_refl client

variable {console : Console} {taken : Nat} {after : Console × List CppFrame.StompFrame}

theorem carry_out_grows (ran : console.carryOut files taken line = some after) :
    Grows console.client after.1.client := by
  obtain ⟨n, ⟨words, found, rfl⟩ | rfl | rfl⟩ := carry_out_cases ran
  · have later := words_grow found
    unfold Console.put
    split <;> exact later
  · exact produce_grows "DISCONNECT"
  · exact grows_refl console.client

theorem carry_out_issues (numbered : Numbered console.client) (own : OwnWords console.client)
    (lineFree : LineFree line) (nulFree : NulFree line) (clean : CleanFiles files)
    (ran : console.carryOut files taken line = some after)
    (few : issued after.1.client < 2 ^ 31) :
    Issued console.client after.1.client after.2 := by
  obtain ⟨n, ⟨words, found, rfl⟩ | rfl | rfl⟩ := carry_out_cases ran
  · unfold Console.put at few ⊢
    split at few
    · rename_i all
      rw [if_pos all]
      exact words_issue numbered own lineFree nulFree clean found few
    · rename_i some'
      rw [if_neg some']
      have later := words_issue numbered own lineFree nulFree clean found few
      exact issued_same (issued_take later n) rfl rfl
  · have receipt := disconnect_receipt console.client.receiptNumber
    have counted : issued (console.client.produceReceipt
        (disconnectFrame console.client.receiptNumber).command).2 < 2 ^ 31 := few
    exact issued_take (issued_one numbered counted receipt (disconnect_sendable _)) n
  · exact issued_nothing (grows_refl console.client) numbered

end Frames

/-- A frame that the server has sent to the client and the client has not read yet, and the
    message of which connection the server was processing. -/
structure Reply where
  asker : Nat
  message : Text
  text : Text

/-- The client of one connection, with all frames that it has sent and those on their way in
    both directions, and the server with all its other connections. -/
structure Session where
  console : Console
  sent : List CppFrame.StompFrame
  wire : Text
  server : Server
  replies : List Reply

/-- What an action of the server adds to the frames on their way to the connection. -/
def repliesTo (c : Nat) (s s' : ServerState) : Action → List Reply
  | .frame _ asker message =>
      (framesTo c (newEvents s s')).map fun text => ⟨asker, message, text⟩
  | _ => []

inductive SessionAction where
  | keyboard : KeyboardStep → SessionAction
  | delivered : Surroundings → SessionAction
  | other : Action → SessionAction
  | heard : Nat → SessionAction

namespace Session
variable (c : Nat) (session : Session)

def serve (a : Action) : Option Session :=
  (session.server.act a).map fun server =>
    { session with
      server := server
      replies := session.replies ++ repliesTo c session.server.state server.state a }

/-- A step of the keyboard thread puts its frames on the wire; the server processes the next
    one, or does something for somebody else; the other thread of the client reads any of the
    frames on their way to it. An exception ends it. -/
def act : SessionAction → Option Session
  | .keyboard step =>
      (session.console.act step).map fun (console, frames) =>
        { session with
          console := console
          sent := session.sent ++ frames
          wire := session.wire ++ frames.flatMap fun f => sendFrame f.createFrame }
  | .delivered w =>
      match decodeMessage [] session.wire with
      | none => none
      | some (message, rest) => { session with wire := rest }.serve c (.frame w c message)
  | .other a => if Foreign c a then session.serve c a else none
  | .heard i =>
      if session.console.terminateServerResponses then none
      else
        match session.replies[i]? with
        | none => none
        | some reply =>
            match respond session.console.listener (reply.text ++ [nul]) with
            | .error _ => none
            | .ok listener => some
                { session with
                  console := session.console.heard listener
                  replies := session.replies.eraseIdx i }

end Session

/-- A client that has sent CONNECT and has started its threads. -/
structure Fresh (session : Session) : Prop where
  user : ∃ user passcode, Word user ∧ Word passcode ∧ session.console = .connected user ∧
    session.sent = [connectFrame user passcode] ∧
    session.wire = sendFrame (connectFrame user passcode).createFrame
  server : Runs (fun _ _ => True) Server.initial session.server
  replies : session.replies = []

/-- What is typed is text, and the files reported have no NUL characters. -/
def Typed (_ : Session) : SessionAction → Prop
  | .keyboard (.read line) => LineFree line ∧ NulFree line
  | .keyboard (.carryOut files _) => CleanFiles files
  | _ => True

abbrev SessionRuns (c : Nat) (session session' : Session) : Prop :=
  GuardedRuns.Runs (Session.act c) Typed session session'

def ParsedReceipt (text : Text) : Prop :=
  ∃ frame, CppFrame.StompFrame.ofText (text ++ [nul]) = .ok frame ∧ frame.command = "RECEIPT"

/-- The client prints "Logged out": it finds DISCONNECT under the receipt of a RECEIPT. -/
def LogsOut (client : Listener) (text : Text) : Prop :=
  ∃ frame r, CppFrame.StompFrame.ofText (text ++ [nul]) = .ok frame ∧
    frame.command = "RECEIPT" ∧ frame.headers.lookup "receipt-id".toList = some r ∧
    client.findReceiptCommand r = .ok "DISCONNECT"

def loggedOut (client : Listener) : Listener :=
  { client with terminateServerResponses := true }.close

/-- The frame is the one that the server was processing when it sent the reply. -/
def AnswerTo (c : Nat) (reply : Reply) (f : CppFrame.StompFrame) : Prop :=
  reply.asker = c ∧ reply.message = f.createFrame

/-- Every RECEIPT on its way leads back to the frame that it answers. -/
structure Correlated (c : Nat) (session : Session) : Prop where
  distinct : (session.sent.filterMap receiptOf).Nodup
  answered : ∀ reply ∈ session.replies, ParsedReceipt reply.text →
    ∃ f ∈ session.sent, ∃ r, AnswerTo c reply f ∧ receiptOf f = some r ∧
      receivedHeader "receipt-id" reply.text = some r ∧
      session.console.client.receipts.lookup r = some f.command
  handled : ∀ reply ∈ session.replies, ParsedReceipt reply.text →
    ∃ f ∈ session.sent, AnswerTo c reply f ∧
      respond session.console.listener (reply.text ++ [nul]) =
        .ok (if f.command = "DISCONNECT" then loggedOut session.console.listener
          else session.console.listener)
  loggedOut : ∀ reply ∈ session.replies, LogsOut session.console.listener reply.text ↔
    ParsedReceipt reply.text ∧
      ∃ f ∈ session.sent, AnswerTo c reply f ∧ f.command = "DISCONNECT"

section Replies
variable {c : Nat} {session session' : Session}

theorem split_first_line {t part : Text} (free : LineFree t) (filled : part ++ t ≠ [])
    (rest : Text) : ∃ tokens, CppFrame.splitFrom part (t ++ '\n' :: rest) =
      (part ++ t) :: tokens := by
  induction t generalizing part with
  | nil =>
    rw [List.append_nil] at filled ⊢
    simp [CppFrame.splitFrom, filled]
  | cons d t ih =>
    have first : d ≠ '\n' := fun here => free (by simp [here])
    have tail : LineFree t := fun here => free (List.mem_cons_of_mem d here)
    have grown : part ++ [d] ++ t ≠ [] := by simp
    obtain ⟨tokens, shape⟩ := ih tail grown
    exact ⟨tokens, by simpa [CppFrame.splitFrom, first] using shape⟩

theorem command_read {f : StompFrame} {frame : CppFrame.StompFrame} (named : f.command ≠ [])
    (free : LineFree f.command) (o : IterationOrder Text)
    (parsed : CppFrame.StompFrame.ofText (f.createFrame o ++ [nul]) = .ok frame) :
    frame.command = f.command := by
  have text : f.createFrame o ++ [nul] = f.command ++ '\n' ::
      (headerBlock (headerList (o.order f.headers.keys) f.headers) ++ '\n' ::
        (bodyText f.body ++ [nul])) := by
    rw [java_frame_text]
    simp
  have whole : [] ++ f.command ≠ [] := named
  obtain ⟨tokens, shape⟩ := split_first_line free whole
    (headerBlock (headerList (o.order f.headers.keys) f.headers) ++ '\n' ::
      (bodyText f.body ++ [nul]))
  have split : CppFrame.split (f.createFrame o ++ [nul]) = f.command :: tokens := by
    rw [text]
    exact shape
  unfold CppFrame.StompFrame.ofText at parsed
  rw [split] at parsed
  dsimp only at parsed
  split at parsed
  · cases parsed
  · cases parsed
    rfl

/-- The server has written the reply, a RECEIPT for a frame that the client has sent, with
    its receipt. -/
def FromServer (c : Nat) (sent : List CppFrame.StompFrame) (reply : Reply) : Prop :=
  ∃ (o : IterationOrder Text) (f : StompFrame), f.command ≠ [] ∧ LineFree f.command ∧
    reply.text = f.createFrame o ∧
    (f.command = "RECEIPT" → ∃ asked ∈ sent, ∃ r, AnswerTo c reply asked ∧
      receiptOf asked = some r ∧ f = receiptFrame (some r))

theorem from_server_more {sent : List CppFrame.StompFrame} {reply : Reply}
    (written : FromServer c sent reply) (later : List CppFrame.StompFrame) :
    FromServer c (sent ++ later) reply := by
  obtain ⟨o, f, named, free, text, source⟩ := written
  refine ⟨o, f, named, free, text, fun receipt => ?_⟩
  obtain ⟨asked, member, rest⟩ := source receipt
  exact ⟨asked, List.mem_append_left later member, rest⟩

/-- The messages of the connection itself are frames of the client. -/
def OwnMessages (c : Nat) (sent : List CppFrame.StompFrame) (a : Action) : Prop :=
  ∀ w message, a = .frame w c message → ∃ f ∈ sent, message = f.createFrame

theorem replies_written {s s' : ServerState} {a : Action} {sent : List CppFrame.StompFrame}
    (ids : HandlerIds s) (acted : ∀ w asker message, a = .frame w asker message →
      s' = processed w asker message s)
    (sound : ∀ f ∈ sent, Sendable f ∧ (AsksReceipt f.command → receiptOf f ≠ none))
    (own : OwnMessages c sent a) :
    ∀ reply ∈ repliesTo c s s' a, FromServer c sent reply := by
  intro reply member
  cases a with
  | construct => cases member
  | increment => cases member
  | frame w asker message =>
    obtain ⟨text, inside, rfl⟩ := List.mem_map.mp member
    have event := mem_frames_to_iff.mp inside
    rw [acted w asker message rfl] at event
    obtain ⟨frame, parsed, f, named, free, written, source⟩ := sent_written ids event
    refine ⟨w.headers, f, named, free, written, fun receipt => ?_⟩
    obtain ⟨same, asks, whole⟩ := source receipt
    obtain rfl : c = asker := congrArg ConnectionHandler.connectionID same
    obtain ⟨asked, here, rfl⟩ := own w message rfl
    obtain ⟨sendable, numbered⟩ := sound asked here
    obtain ⟨headers, read, equal⟩ := sendable.parsed
    obtain rfl := Except.ok.inj (read.symm.trans parsed)
    obtain ⟨r, held⟩ := Option.ne_none_iff_exists'.mp (numbered asks)
    have echoed : header headers "receipt" = some r := (equal _).trans held
    refine ⟨asked, here, r, ⟨rfl, rfl⟩, held, ?_⟩
    rw [whole, ← echoed]

end Replies

section Steps
variable {c : Nat} {session session' : Session}

theorem receipts_kept {client client' : Listener} {answer : Text}
    (answered : respond client answer = .ok client') : client'.receipts = client.receipts := by
  unfold respond at answered
  split at answered
  · cases answered
  · split at answered
    · unfold receiptBranch at answered
      split at answered
      · cases answered
      · split at answered
        · cases answered
        · split at answered <;> cases answered <;> rfl
    · split at answered
      · cases answered
        rfl
      · split at answered
        · unfold messageBranch at answered
          dsimp only at answered
          split at answered
          · split at answered
            · cases answered
            · cases answered
              unfold Listener.addReport
              split <;> rfl
          · cases answered
            rfl
        · cases answered
          rfl

theorem heard_client {console : Console} {listener : Listener} {answer : Text}
    (answered : respond console.listener answer = .ok listener) :
    (console.heard listener).client = console.client := by
  unfold Console.heard
  rw [receipts_kept answered]
  rfl

theorem other_served {a : Action} (acted : session.act c (.other a) = some session') :
    Foreign c a ∧ session.serve c a = some session' := by
  simp only [Session.act] at acted
  split at acted
  · rename_i foreign
    exact ⟨foreign, acted⟩
  · cases acted

theorem heard_answer {i : Nat} (acted : session.act c (.heard i) = some session') :
    ∃ listener, (session.console.heard listener).client = session.console.client ∧
      session' = { session with
        console := session.console.heard listener
        replies := session.replies.eraseIdx i } := by
  simp only [Session.act] at acted
  split at acted
  · cases acted
  · split at acted
    · cases acted
    · split at acted
      · cases acted
      · rename_i listener answered
        cases acted
        exact ⟨listener, heard_client answered, rfl⟩

/-- What holds of the two ends and of all that is on its way between them. -/
structure Consistent (c : Nat) (session : Session) : Prop where
  numbered : Numbered session.console.client
  own : OwnWords session.console.client
  line : ∀ line, session.console.line = some line → LineFree line ∧ NulFree line
  sent : ∀ f ∈ session.sent, Sendable f ∧ (AsksReceipt f.command → receiptOf f ≠ none)
  known : ∀ f ∈ session.sent, ∀ r, receiptOf f = some r →
    session.console.client.receipts.lookup r = some f.command
  distinct : (session.sent.filterMap receiptOf).Nodup
  server : Runs (fun _ _ => True) Server.initial session.server
  wire : ∃ waiting : List CppFrame.StompFrame, waiting ⊆ session.sent ∧
    session.wire = waiting.flatMap fun f => sendFrame f.createFrame
  replies : ∀ reply ∈ session.replies, FromServer c session.sent reply

theorem consistent_issued (console : Console) {frames : List CppFrame.StompFrame}
    (held : Consistent c session) (issues : Issued session.console.client console.client frames)
    (own : OwnWords console.client)
    (line : ∀ line, console.line = some line → LineFree line ∧ NulFree line) :
    Consistent c { session with
      console := console
      sent := session.sent ++ frames
      wire := session.wire ++ frames.flatMap fun f => sendFrame f.createFrame } where
  numbered := issues.numbered
  own := own
  line := line
  sent := by
    intro f member
    rcases List.mem_append.mp member with old | new
    · exact held.sent f old
    · exact ⟨issues.sendable f new, issues.asked f new⟩
  known := by
    intro f member r receipt
    rcases List.mem_append.mp member with old | new
    · exact issues.grows r f.command (held.known f old r receipt)
    · exact (issues.fresh f new r receipt).2
  distinct := by
    rw [List.filterMap_append, List.nodup_append]
    refine ⟨held.distinct, issues.distinct, ?_⟩
    rintro r old r' new rfl
    obtain ⟨f, member, receipt⟩ := List.mem_filterMap.mp old
    obtain ⟨f', member', receipt'⟩ := List.mem_filterMap.mp new
    apply (issues.fresh f' member' r receipt').1
    exact AList.lookup_isSome.mp (by rw [held.known f member r receipt]; rfl)
  server := held.server
  wire := by
    obtain ⟨waiting, inside, shape⟩ := held.wire
    refine ⟨waiting ++ frames, ?_, by rw [shape, List.flatMap_append]⟩
    intro f member
    rcases List.mem_append.mp member with old | new
    · exact List.mem_append_left frames (inside old)
    · exact List.mem_append_right session.sent new
  replies := fun reply member => from_server_more (held.replies reply member) frames

theorem consistent_served {a : Action} (held : Consistent c session)
    (own : OwnMessages c session.sent a) (served : session.serve c a = some session') :
    Consistent c session' := by
  obtain ⟨server, acted, rfl⟩ := Option.map_eq_some_iff.mp served
  have ids := runs_handler_ids held.server
  have frames : ∀ w asker message, a = .frame w asker message →
      server.state = processed w asker message session.server.state := by
    rintro w asker message rfl
    obtain ⟨bad, _⟩ | ⟨bad, _⟩ | ⟨w', c', message', same, _, rfl⟩ := act_cases acted
    · cases bad
    · cases bad
    · cases same
      rfl
  exact { held with
    server := held.server.tail ⟨a, trivial, acted⟩
    replies := by
      intro reply member
      rcases List.mem_append.mp member with old | new
      · exact held.replies reply old
      · exact replies_written ids frames held.sent own reply new }

theorem act_grows {a : SessionAction} (acted : session.act c a = some session') :
    Grows session.console.client session'.console.client := by
  cases a with
  | keyboard step =>
    obtain ⟨after, stepped, rfl⟩ := Option.map_eq_some_iff.mp acted
    rcases keyboard_cases stepped with ⟨line, rfl, rfl⟩ | ⟨files, taken, line, rfl, _, ran⟩
    · exact grows_refl _
    · have grows := carry_out_grows ran
      exact grows
  | delivered w =>
    simp only [Session.act] at acted
    split at acted
    · cases acted
    · obtain ⟨server, _, rfl⟩ := Option.map_eq_some_iff.mp acted
      exact grows_refl _
  | other a =>
    obtain ⟨server, _, rfl⟩ := Option.map_eq_some_iff.mp (other_served acted).2
    exact grows_refl _
  | heard i =>
    obtain ⟨listener, same, rfl⟩ := heard_answer acted
    rw [same]
    exact grows_refl _

theorem keyboard_consistent {step : KeyboardStep} (held : Consistent c session)
    (typed : Typed session (.keyboard step))
    (acted : session.act c (.keyboard step) = some session')
    (few : issued session'.console.client < 2 ^ 31) : Consistent c session' := by
  obtain ⟨after, stepped, rfl⟩ := Option.map_eq_some_iff.mp acted
  rcases keyboard_cases stepped with ⟨line, rfl, rfl⟩ | ⟨files, taken, line, rfl, waiting, ran⟩
  · apply consistent_issued { session.console with line := some line } held
      (issued_nothing (grows_refl _) held.numbered) held.own
    intro line' same
    cases same
    exact typed
  · obtain ⟨lineFree, nulFree⟩ := held.line line waiting
    have numbered : Numbered ({ session.console with line := none } : Console).client :=
      held.numbered
    have own : OwnWords ({ session.console with line := none } : Console).client := held.own
    have issues := carry_out_issues numbered own lineFree nulFree typed ran few
    apply consistent_issued after.1 held issues (carry_out_own_words own lineFree nulFree ran)
    intro line' same
    rw [carry_out_line ran] at same
    cases same

theorem act_consistent {a : SessionAction} (held : Consistent c session) (typed : Typed session a)
    (acted : session.act c a = some session')
    (few : issued session'.console.client < 2 ^ 31) : Consistent c session' := by
  cases a with
  | keyboard step => exact keyboard_consistent held typed acted few
  | delivered w =>
    obtain ⟨waiting, inside, shape⟩ := held.wire
    simp only [Session.act] at acted
    rw [shape] at acted
    cases waiting with
    | nil => cases acted
    | cons f waiting =>
      have member : f ∈ session.sent := inside List.mem_cons_self
      rw [List.flatMap_cons, decode_sent (held.sent f member).1.text] at acted
      have next : Consistent c { session with
          wire := waiting.flatMap fun f => sendFrame f.createFrame } :=
        { held with wire := ⟨waiting, fun g here => inside (List.mem_cons_of_mem f here), rfl⟩ }
      refine consistent_served next ?_ acted
      rintro w' message same
      cases same
      exact ⟨f, member, rfl⟩
  | other a =>
    obtain ⟨foreign, served⟩ := other_served acted
    refine consistent_served held ?_ served
    rintro w message rfl
    exact absurd rfl foreign
  | heard i =>
    obtain ⟨listener, same, rfl⟩ := heard_answer acted
    constructor
    · rw [same]
      exact held.numbered
    · rw [same]
      exact held.own
    · exact held.line
    · exact held.sent
    · rw [same]
      exact held.known
    · exact held.distinct
    · exact held.server
    · exact held.wire
    · exact fun reply member => held.replies reply (List.mem_of_mem_eraseIdx member)

theorem connect_sendable {user passcode : Text} (word : Word user) (secret : Word passcode) :
    Sendable (connectFrame user passcode) := by
  have named : ("CONNECT".toList : Text) ≠ [] := by decide
  have line : LineFree "CONNECT" ∧ NulFree "CONNECT" := by decide
  have empty : NulFree [] := by decide
  have version : SafeHeader "accept-version" "1.2" :=
    ⟨⟨by decide, by decide, by decide⟩, by decide, by decide⟩
  have host : SafeHeader "host" "stomp.cs.bgu.ac.il" :=
    ⟨⟨by decide, by decide, by decide⟩, by decide, by decide⟩
  have login : ':' ∉ "login".toList ∧ LineFree "login" ∧ NulFree "login" := by decide
  have passcodeTitle : ':' ∉ "passcode".toList ∧ LineFree "passcode" ∧ NulFree "passcode" := by
    decide
  have first := safe_insert_new (safe_insert_new safe_empty version) host
  have second := safe_insert_new first
    ⟨⟨login.1, login.2.1, word.lineFree⟩, login.2.2, word.nulFree⟩
  have third := safe_insert_new second
    ⟨⟨passcodeTitle.1, passcodeTitle.2.1, secret.lineFree⟩, passcodeTitle.2.2, secret.nulFree⟩
  exact ⟨named, line.1, line.2, third, empty⟩

theorem connect_receipt (user passcode : Text) : receiptOf (connectFrame user passcode) = none := by
  have passcode : "receipt".toList ≠ "passcode".toList := by decide
  have login : "receipt".toList ≠ "login".toList := by decide
  have host : "receipt".toList ≠ "host".toList := by decide
  have version : "receipt".toList ≠ "accept-version".toList := by decide
  unfold receiptOf connectFrame
  rw [insert_new_lookup_ne passcode, insert_new_lookup_ne login, insert_new_lookup_ne host,
    insert_new_lookup_ne version, AList.lookup_empty]

theorem fresh_consistent (fresh : Fresh session) : Consistent c session := by
  obtain ⟨⟨user, passcode, word, secret, console, sent, wire⟩, server, replies⟩ := fresh
  have none' := connect_receipt user passcode
  constructor
  · rw [console]
    exact numbered_connected user
  · rw [console]
    exact connected_own_words word.nulFree
  · rw [console]
    nofun
  · rw [sent]
    intro f member
    obtain rfl := List.mem_singleton.mp member
    have other : ¬ AsksReceipt "CONNECT" := by decide
    exact ⟨connect_sendable word secret, fun asks => absurd asks other⟩
  · rw [sent]
    intro f member r held
    obtain rfl := List.mem_singleton.mp member
    rw [none'] at held
    cases held
  · rw [sent, List.filterMap_cons_none none']
    exact List.nodup_nil
  · exact server
  · exact ⟨session.sent, fun f member => member, by rw [wire, sent]; simp⟩
  · rw [replies]
    nofun

/-- The receipts that have been issued only get more, so that a bound on them at the end
    holds at every step. -/
theorem run_consistent (fresh : Fresh session) (runs : SessionRuns c session session')
    (few : issued session'.console.client < 2 ^ 31) : Consistent c session' := by
  have held : issued session'.console.client < 2 ^ 31 → Consistent c session' := by
    refine GuardedRuns.run_invariant
      (fun session => issued session.console.client < 2 ^ 31 → Consistent c session)
      (fun _ => fresh_consistent fresh) ?_ runs
    intro a before after _ inv typed acted few
    have earlier := Nat.lt_of_le_of_lt (grows_issued (act_grows acted)) few
    exact act_consistent (inv earlier) typed acted few
  exact held few

end Steps

section Correlation
variable {c : Nat} {session session' : Session}

theorem receipt_read {r : Text} (free : LineFree r) (o : IterationOrder Text) :
    ∃ headers body, CppFrame.StompFrame.ofText ((receiptFrame (some r)).createFrame o ++ [nul]) =
        .ok ⟨"RECEIPT", headers, body⟩ ∧
      headers.lookup "receipt-id".toList = some r := by
  have line : LineFree "RECEIPT" := by decide
  have named : ("RECEIPT".toList : Text) ≠ [] := by decide
  obtain ⟨headers, parsed, same⟩ :=
    cpp_reads_java o (f := receiptFrame (some r)) named line (receipt_headers_clean free)
  exact ⟨headers, _, parsed, (same _).trans (AList.lookup_insert _)⟩

theorem receipt_responded {client : Listener} {r name : Text} (free : LineFree r)
    (o : IterationOrder Text) (found : client.receipts.lookup r = some name) :
    respond client ((receiptFrame (some r)).createFrame o ++ [nul]) =
      .ok (if name = "DISCONNECT" then loggedOut client else client) := by
  obtain ⟨headers, body, parsed, id⟩ := receipt_read free o
  unfold respond
  rw [parsed]
  change (if "RECEIPT".toList = "RECEIPT".toList then _ else _) = _
  rw [if_pos rfl]
  unfold receiptBranch Listener.findReceiptCommand
  rw [id]
  dsimp only
  rw [found]
  dsimp only
  split <;> rfl

theorem receipt_source {reply : Reply} (held : Consistent c session)
    (member : reply ∈ session.replies) (receipt : ParsedReceipt reply.text) :
    ∃ f ∈ session.sent, ∃ r, AnswerTo c reply f ∧ receiptOf f = some r ∧ LineFree r ∧
      session.console.client.receipts.lookup r = some f.command ∧
      ∃ o, reply.text = (receiptFrame (some r)).createFrame o := by
  obtain ⟨o, f, named, free, text, source⟩ := held.replies reply member
  obtain ⟨frame, parsed, command⟩ := receipt
  rw [text] at parsed
  have same := (command_read named free o parsed).symm.trans command
  obtain ⟨asked, here, r, answer, number, rfl⟩ := source same
  have found := held.known asked here r number
  have known : r ∈ session.console.client.receipts :=
    AList.lookup_isSome.mp (by rw [found]; rfl)
  obtain ⟨n, _, rfl⟩ := (held.numbered.keys r).mp known
  exact ⟨asked, here, decimal n, answer, number, decimal_line_free n, found, o, text⟩

theorem same_command {f f' : CppFrame.StompFrame} (sendable : Sendable f)
    (sendable' : Sendable f') (same : f.createFrame = f'.createFrame) :
    f.command = f'.command := by
  obtain ⟨headers, parsed, _⟩ := sendable.parsed
  obtain ⟨headers', parsed', _⟩ := sendable'.parsed
  rw [same] at parsed
  exact congrArg StompFrame.command (Except.ok.inj (parsed.symm.trans parsed'))

theorem correlated_of_consistent (held : Consistent c session) : Correlated c session where
  distinct := held.distinct
  answered := by
    intro reply member receipt
    obtain ⟨f, here, r, answer, number, free, found, o, text⟩ :=
      receipt_source held member receipt
    obtain ⟨headers, body, parsed, id⟩ := receipt_read free o
    refine ⟨f, here, r, answer, number, ?_, found⟩
    have parsed' : CppFrame.StompFrame.ofText (reply.text ++ ['\x00']) =
        .ok ⟨"RECEIPT", headers, body⟩ := by
      rw [text]
      exact parsed
    unfold receivedHeader
    rw [parsed']
    exact id
  handled := by
    intro reply member receipt
    obtain ⟨f, here, r, answer, number, free, found, o, text⟩ :=
      receipt_source held member receipt
    refine ⟨f, here, answer, ?_⟩
    rw [text]
    exact receipt_responded free o found
  loggedOut := by
    intro reply member
    constructor
    · rintro ⟨frame, r', parsed, command, id, left⟩
      have receipt : ParsedReceipt reply.text := ⟨frame, parsed, command⟩
      obtain ⟨f, here, r, answer, number, free, found, o, text⟩ :=
        receipt_source held member receipt
      refine ⟨receipt, f, here, answer, ?_⟩
      obtain ⟨headers, body, parsed', id'⟩ := receipt_read free o
      rw [text] at parsed
      obtain rfl := Except.ok.inj (parsed.symm.trans parsed')
      obtain rfl := Option.some.inj (id.symm.trans id')
      have found' : session.console.listener.receipts.lookup r' = some f.command := found
      unfold Listener.findReceiptCommand at left
      rw [found'] at left
      exact Except.ok.inj left
    · rintro ⟨receipt, f', here', answer', left⟩
      obtain ⟨f, here, r, answer, number, free, found, o, text⟩ :=
        receipt_source held member receipt
      obtain ⟨headers, body, parsed, id⟩ := receipt_read free o
      have same := same_command (held.sent f here).1 (held.sent f' here').1
        (answer.2.symm.trans answer'.2)
      refine ⟨_, r, by rw [text]; exact parsed, rfl, id, ?_⟩
      have found' : session.console.listener.receipts.lookup r = some f.command := found
      unfold Listener.findReceiptCommand
      rw [found', same, left]

/-- In every run with fewer than 2^31 receipts, every RECEIPT leads back to its frame. -/
theorem receipts_correlated (fresh : Fresh session) (runs : SessionRuns c session session')
    (few : issued session'.console.client < 2 ^ 31) : Correlated c session' :=
  correlated_of_consistent (run_consistent fresh runs few)

end Correlation

section Example

def noFiles : EventsFiles := fun _ => none

def loginSession : Session where
  console := .connected "meni"
  sent := [connectFrame "meni" "films"]
  wire := sendFrame (connectFrame "meni" "films").createFrame
  server := ⟨accepted ServerState.initial, false⟩
  replies := []

/-- The user joins a channel and logs out; the answer to the latter is still on its way
    when the others have been read, the later one first. -/
def joinAndLogout : List SessionAction :=
  [.keyboard (.read "join police"), .keyboard (.carryOut noFiles 1),
    .keyboard (.read "logout"), .keyboard (.carryOut noFiles 1), .delivered .plain,
    .delivered .plain, .delivered .plain, .heard 1, .heard 0]

theorem logout_correlated :
    ∃ session, GuardedRuns.acts (Session.act 0) joinAndLogout loginSession = some session ∧
      session.replies.map Reply.text = ["RECEIPT\nreceipt-id:1\n\n".toList] ∧
      Correlated 0 session := by
  have fresh : Fresh loginSession := by
    constructor
    · exact ⟨"meni", "films", by decide, by decide, rfl, rfl, rfl⟩
    · exact GuardedRuns.run_of_acts [.construct, .increment] rfl
    · rfl
  have typed : ∀ a ∈ joinAndLogout, ∀ session, Typed session a := by
    have clean : CleanFiles noFiles := nofun
    have join : LineFree "join police" ∧ NulFree "join police" := by decide
    have logout : LineFree "logout" ∧ NulFree "logout" := by decide
    unfold joinAndLogout
    repeat rw [List.forall_mem_cons]
    exact ⟨fun _ => join, fun _ => clean, fun _ => logout, fun _ => clean, fun _ => trivial,
      fun _ => trivial, fun _ => trivial, fun _ => trivial, fun _ => trivial, nofun⟩
  have ended : (GuardedRuns.acts (Session.act 0) joinAndLogout loginSession).map (fun session =>
      (session.replies.map Reply.text, issued session.console.client)) =
        some (["RECEIPT\nreceipt-id:1\n\n".toList], 2) := by decide +kernel
  obtain ⟨session, acted, same⟩ := Option.map_eq_some_iff.mp ended
  obtain ⟨replies, receipts⟩ := Prod.mk.inj same
  have few : issued session.console.client < 2 ^ 31 := by
    rw [receipts]
    decide
  exact ⟨session, acted, replies,
    receipts_correlated fresh (GuardedRuns.run_of_acts_all joinAndLogout typed acted) few⟩

end Example

end ReceiptCorrelation
