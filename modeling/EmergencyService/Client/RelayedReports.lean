import EmergencyService.Client.ReportValidity
import EmergencyService.Client.ServerResponses
import EmergencyService.Server.MessageRelay

/- What the client's loop makes of a MESSAGE that the server has relayed, whatever text its
   sender has written: the channel that it files the report under, and when it fails. -/
namespace RelayedReports
open JavaRuntime CppRuntime JavaFrame FrameExchange FrameStream EventReport ReportLines
open MapCalls StompProtocolImpl ProcessRun FrameEvents HandlerThreads ServerRuns MessageRelay
open CallFootprint ReportValidity ServerResponses

section Lines

theorem frame_lines (o : IterationOrder Text) {f : StompFrame} (named : f.command ≠ [])
    (free : LineFree f.command) (clean : CleanHeaders f.headers) :
    EventReport.split (f.createFrame o ++ [nul]) '\n' =
      f.command :: ((headerList (o.order f.headers.keys) f.headers).map fun h =>
        h.1 ++ ':' :: h.2) ++ EventReport.split f.body '\n' ++ [[nul]] := by
  have known : ∀ k ∈ o.order f.headers.keys, k ∈ f.headers :=
    fun k => (iterated_keys o f.headers k).mp
  have text : f.createFrame o ++ [nul] = f.command ++ '\n' ::
      (headerBlock (headerList (o.order f.headers.keys) f.headers) ++ '\n' ::
        (bodyText f.body ++ [nul])) := by
    rw [java_frame_text]
    simp
  have block : headerBlock (headerList (o.order f.headers.keys) f.headers) =
      ((headerList (o.order f.headers.keys) f.headers).map fun h =>
        h.1 ++ ':' :: h.2).flatMap (· ++ ['\n']) := by
    simp [headerBlock, headerLine, List.flatMap_map]
  have plain : ∀ l ∈ (headerList (o.order f.headers.keys) f.headers).map fun h =>
      h.1 ++ ':' :: h.2, '\n' ∉ l ∧ l ≠ [] := by
    intro l member
    obtain ⟨h, here, rfl⟩ := List.mem_map.mp member
    exact ⟨clean_line (header_list_clean clean known h here), by simp⟩
  rw [text, split_append, split_piece free named, split_append, block, split_lines plain,
    split_received]
  simp

def destinationIn (line : Text) : Option Text :=
  if startsWith line "destination:" then some (afterColon line) else none

theorem channel_name_eq (answer : Text) :
    channelName answer =
      ((EventReport.split answer '\n').filterMap destinationIn).getLast?.getD [] := by
  have loop : ∀ (lines : List Text) (name : Text),
      lines.foldl (fun channel_name s =>
          if startsWith s "destination:" then afterColon s else channel_name) name =
        (lines.filterMap destinationIn).getLast?.getD name := by
    intro lines
    induction lines with
    | nil =>
      intro name
      rfl
    | cons line lines ih =>
      intro name
      rw [List.foldl_cons, ih, last_of_found]
      cases (lines.filterMap destinationIn).getLast? with
      | some v => rfl
      | none =>
        by_cases here : startsWith line "destination:" = true
        · simp only [destinationIn, here, if_true]
          rfl
        · simp only [destinationIn, here]
          rfl
  exact loop _ []

theorem destination_in_header {k v : Text} (free : ':' ∉ k) :
    destinationIn (k ++ ':' :: v) = if k = "destination" then some v else none := by
  have cut := cut_at_header free v
  have after : afterColon (k ++ ':' :: v) = v := by
    simp [afterColon, CppFrame.headerOf, cut]
  have title (value : Text) :
      "destination:".toList ++ value = "destination".toList ++ ':' :: value := rfl
  unfold destinationIn
  rw [after]
  congr 1
  rw [eq_iff_iff, starts_with_iff]
  constructor
  · rintro ⟨value, same⟩
    have other : cutAt ':' ("destination".toList ++ ':' :: value) =
        some ("destination".toList, value) := cut_at_header (by decide) value
    rw [same, title, other] at cut
    exact (congrArg Prod.fst (Option.some.inj cut)).symm
  · rintro rfl
    exact ⟨v, (title v).symm⟩

theorem header_destination {m : HashMap Text Text} {keys : List Text} {channel : Text}
    (clean : CleanHeaders m) (known : ∀ k, k ∈ keys ↔ k ∈ m)
    (target : m.lookup "destination".toList = some channel) :
    (((headerList keys m).map fun h => h.1 ++ ':' :: h.2).filterMap destinationIn).getLast? =
      some channel := by
  have only : ∀ v ∈ ((headerList keys m).map fun h =>
      h.1 ++ ':' :: h.2).filterMap destinationIn, v = channel := by
    intro v member
    obtain ⟨line, here, found⟩ := List.mem_filterMap.mp member
    obtain ⟨h, inside, rfl⟩ := List.mem_map.mp here
    have free := (header_list_clean clean (fun k => (known k).mp) h inside).1
    obtain ⟨key, _, rfl⟩ := List.mem_map.mp inside
    rw [destination_in_header free] at found
    split at found
    · rename_i title
      have value : (m.lookup key).getD [] = v := Option.some.inj found
      have named : key = "destination".toList := title
      rw [← value, named, target]
      rfl
    · cases found
  have there : "destination".toList ∈ keys :=
    (known _).mpr (AList.lookup_isSome.mp (by rw [target]; rfl))
  have line : ("destination".toList ++ ':' :: channel) ∈ (headerList keys m).map fun h =>
      h.1 ++ ':' :: h.2 := by
    refine List.mem_map.mpr ⟨("destination".toList, channel), ?_, rfl⟩
    exact List.mem_map.mpr ⟨_, there, by rw [target]; rfl⟩
  have member : channel ∈ ((headerList keys m).map fun h =>
      h.1 ++ ':' :: h.2).filterMap destinationIn := by
    refine List.mem_filterMap.mpr ⟨_, line, ?_⟩
    rw [destination_in_header (by decide), if_pos rfl]
  obtain ⟨v, last⟩ := Option.isSome_iff_exists.mp
    (List.getLast?_isSome.mpr (List.ne_nil_of_mem member))
  rw [last, only v (List.mem_of_getLast? last)]

/-- The channel that the client reads out of a MESSAGE: a line of the body that begins with
    "destination:" comes after the header and takes its place. -/
def destinationRead (channel body : Text) : Text :=
  ((EventReport.split body '\n').filterMap destinationIn).getLast?.getD channel

theorem message_channel (o : IterationOrder Text) (id messageID : Int) {channel : Text}
    (free : LineFree channel) (body : Text) :
    channelName ((messageFrame id messageID channel body).createFrame o ++ [nul]) =
      destinationRead channel body := by
  have clean := message_headers_clean id messageID free body
  have target : (messageFrame id messageID channel body).headers.lookup "destination".toList =
      some channel := AList.lookup_insert _
  have headers := header_destination clean (iterated_keys o _) target
  have first : destinationIn (messageFrame id messageID channel body).command = none := rfl
  have last : destinationIn [nul] = none := rfl
  have named : ("MESSAGE".toList : Text) ≠ [] := by decide
  have line : LineFree "MESSAGE" := by decide
  rw [channel_name_eq, frame_lines o named line clean]
  simp only [List.filterMap_append, List.filterMap_cons, first, last, List.filterMap_nil,
    List.append_nil, List.getLast?_append, headers, destinationRead]
  change (((EventReport.split body '\n').filterMap destinationIn).getLast?.or _).getD [] = _
  cases ((EventReport.split body '\n').filterMap destinationIn).getLast? with
  | none => rfl
  | some v => rfl

end Lines

section Handling

theorem add_report_changes (client : Listener) (channel : Text) (event : EventReport.Event) :
    (client.addReport channel event).channels ≠ client.channels := by
  intro same
  unfold Listener.addReport at same
  split at same
  · rename_i absent
    have new := insert_new_lookup (AList.lookup_eq_none.mp absent)
      (Channel.addEvent ⟨channel, []⟩ event)
    rw [show insertNew channel _ client.channels = client.channels from same, absent] at new
    cases new
  · rename_i held known
    have new : (client.channels.insert channel (held.addEvent event)).lookup channel =
        some (held.addEvent event) := AList.lookup_insert _
    rw [show client.channels.insert channel _ = client.channels from same, known] at new
    have longer := congrArg (fun c : Channel => c.events.length) (Option.some.inj new)
    simp [Channel.addEvent] at longer

theorem line_received {text answer behind : Text}
    (received : getLine (encode text ++ behind) = some (answer, behind)) :
    answer = text ++ [nul] := by
  unfold getLine at received
  rw [get_frame_eq, Option.map_eq_some_iff] at received
  obtain ⟨⟨message, rest⟩, found, same⟩ := received
  obtain ⟨rfl, rfl⟩ := Prod.mk.inj same
  obtain ⟨new, rfl, _, whole⟩ := TerminatedStream.next_message_some found
  exact (List.append_cancel_right whole).symm

theorem respond_message (client : Listener) (o : IterationOrder Text) (id messageID : Int)
    {channel : Text} (free : LineFree channel) (body : Text) :
    respond client ((messageFrame id messageID channel body).createFrame o ++ [nul]) =
      messageBranch client ((messageFrame id messageID channel body).createFrame o ++ [nul])
        (glued (bodyText body ++ [nul])) := by
  have named : ("MESSAGE".toList : Text) ≠ [] := by decide
  have line : LineFree "MESSAGE" := by decide
  have receipt : ("MESSAGE".toList : Text) ≠ "RECEIPT".toList := by decide
  have error : ("MESSAGE".toList : Text) ≠ "ERROR".toList := by decide
  obtain ⟨headers, parsed, _⟩ := cpp_reads_java o
    (f := messageFrame id messageID channel body) named line
    (message_headers_clean id messageID free body)
  have read : CppFrame.StompFrame.ofText
      ((messageFrame id messageID channel body).createFrame o ++ [nul]) =
        .ok ⟨"MESSAGE", headers, glued (bodyText body ++ [nul])⟩ := parsed
  unfold respond
  rw [read]
  change (if "MESSAGE".toList = "RECEIPT".toList then _ else _) = _
  rw [if_neg receipt]
  change (if "MESSAGE".toList = "ERROR".toList then _ else _) = _
  rw [if_neg error]
  exact if_pos rfl

/-- The frame is handled without an exception, and a body that is not a valid report leaves
    the channels alone. -/
def Handled (client : Listener) (answer body : Text) : Prop :=
  ∃ client', respond client answer = .ok client' ∧
    (¬ ValidReport body → client'.channels = client.channels)

theorem message_handled_iff (client : Listener) (o : IterationOrder Text) (id messageID : Int)
    {channel : Text} (free : LineFree channel) (body : Text) :
    Handled client ((messageFrame id messageID channel body).createFrame o ++ [nul]) body ↔
      destinationRead channel body = [] ∨ ValidReport body := by
  unfold Handled
  rw [respond_message client o id messageID free body]
  unfold messageBranch
  simp only [message_channel o id messageID free body]
  by_cases unnamed : destinationRead channel body = []
  · simp [unnamed]
  · simp only [ne_eq, unnamed, not_false_eq_true, if_true, false_or]
    constructor
    · rintro ⟨client', handled, kept⟩
      by_contra invalid
      split at handled
      · cases handled
      · cases handled
        exact add_report_changes client _ _ (kept invalid)
    · intro valid
      obtain ⟨event, accepted⟩ := valid_accepted valid (destinationRead channel body)
      rw [accepted]
      exact ⟨_, rfl, fun invalid => absurd valid invalid⟩

/-- The MESSAGE of an accepted SEND is handled by every client that gets it exactly when its
    body is a valid report or the client reads no channel out of it. -/
theorem relayed_handled_iff {w : Surroundings} {c : Nat} {s : ServerState}
    (reachable : ReachableState s) {message channel : Text} {frame : StompFrame}
    (parsed : StompFrame.ofText message = .ok frame) (command : frame.command = "SEND")
    (target : header frame.headers "destination" = some channel) {r : ConnectionHandler}
    {text answer behind : Text} (sent : .sent r text ∈ newEvents s (processed w c message s))
    (relayed : commandOf text = "MESSAGE")
    (received : getLine (encode text ++ behind) = some (answer, behind)) (client : Listener) :
    Handled client answer frame.body ↔
      destinationRead channel frame.body = [] ∨ ValidReport frame.body := by
  have free : LineFree channel := (parsed_headers_clean parsed _ _ target).2.2
  obtain ⟨id, _, _, _, rfl⟩ := relayed_message reachable parsed command target sent relayed
  rw [line_received received]
  exact message_handled_iff client w.headers id (s.protocol c).messageID free frame.body

end Handling

section Stream

/-- A MESSAGE that the server has relayed, on its way to a client. -/
structure RelayedMessage where
  order : IterationOrder Text
  id : Int
  messageID : Int
  channel : Text
  body : Text
  lineFree : LineFree channel
  nulFree : NulFree channel
  bodyFree : NulFree body

namespace RelayedMessage
variable (m : RelayedMessage)

def text : Text := (messageFrame m.id m.messageID m.channel m.body).createFrame m.order

/-- The client reads no channel, or makes an event of the body as it gets it. -/
def Accepted : Prop :=
  destinationRead m.channel m.body = [] ∨
    ∃ event, parseEventReport (glued (bodyText m.body ++ [nul]))
      (destinationRead m.channel m.body) = .ok event

theorem text_nul_free : NulFree m.text :=
  message_frame_nul_free m.order m.id m.messageID m.nulFree m.bodyFree

theorem accepted_of_valid (valid : ValidReport m.body) : m.Accepted :=
  Or.inr (valid_accepted valid _)

theorem respond_text (client : Listener) :
    respond client (m.text ++ [nul]) =
      messageBranch client (m.text ++ [nul]) (glued (bodyText m.body ++ [nul])) :=
  respond_message client m.order m.id m.messageID m.lineFree m.body

theorem channel_text : channelName (m.text ++ [nul]) = destinationRead m.channel m.body :=
  message_channel m.order m.id m.messageID m.lineFree m.body

theorem respond_accepted {client : Listener} (accepted : m.Accepted) :
    ∃ client', respond client (m.text ++ [nul]) = .ok client' ∧
      client'.terminateServerResponses = client.terminateServerResponses := by
  rw [respond_text]
  unfold messageBranch
  simp only [channel_text]
  by_cases unnamed : destinationRead m.channel m.body = []
  · exact ⟨client, by simp [unnamed], rfl⟩
  · obtain ⟨event, parsed⟩ := accepted.resolve_left unnamed
    refine ⟨client.addReport (destinationRead m.channel m.body) event, ?_, ?_⟩
    · rw [if_pos unnamed, parsed]
    · unfold Listener.addReport
      split <;> rfl

theorem respond_rejected (client : Listener) (rejected : ¬ m.Accepted) :
    ∃ e, respond client (m.text ++ [nul]) = .error e := by
  rw [respond_text]
  unfold messageBranch
  simp only [channel_text]
  have named : destinationRead m.channel m.body ≠ [] := fun unnamed => rejected (Or.inl unnamed)
  rw [if_pos named]
  cases parsed : parseEventReport (glued (bodyText m.body ++ [nul]))
      (destinationRead m.channel m.body) with
  | error e => exact ⟨_, rfl⟩
  | ok event => exact absurd (Or.inr ⟨event, parsed⟩) rejected

end RelayedMessage

theorem stream_survived_iff {client : Listener}
    (listening : client.terminateServerResponses = false) (messages : List RelayedMessage) :
    (∃ client', server_response_process client
        (messages.flatMap fun m => encode m.text) = .ok client') ↔
      ∀ m ∈ messages, m.Accepted := by
  induction messages generalizing client with
  | nil =>
    rw [List.flatMap_nil, server_response_process]
    simp [listening, getLine, getFrameAscii]
  | cons m messages ih =>
    rw [List.flatMap_cons, process_next listening (line_of_encoded m.text_nul_free _),
      List.forall_mem_cons]
    by_cases accepted : m.Accepted
    · obtain ⟨client', responded, same⟩ := m.respond_accepted accepted
      rw [responded]
      simp only [accepted, true_and]
      exact ih (same.trans listening)
    · obtain ⟨e, failed⟩ := m.respond_rejected client accepted
      rw [failed]
      simp [accepted]

theorem valid_stream_survived {client : Listener}
    (listening : client.terminateServerResponses = false) {messages : List RelayedMessage}
    (valid : ∀ m ∈ messages, ValidReport m.body) :
    ∃ client', server_response_process client
      (messages.flatMap fun m => encode m.text) = .ok client' := by
  apply (stream_survived_iff listening messages).mpr
  intro m here
  exact m.accepted_of_valid (valid m here)

end Stream

section Example

def listening : Listener := ⟨false, false, false, ∅, ∅⟩

def sendText (body : Text) : Text :=
  "SEND\ndestination:police\n\n\n".toList ++ body ++ "\n\n".toList

def sentFrame (body : Text) : StompFrame :=
  ⟨"SEND", put ∅ "destination" "police", body ++ "\n\n".toList⟩

def messageText (body : Text) : Text :=
  (messageFrame 7 0 "police" (body ++ "\n\n".toList)).createFrame .stored

theorem message_text_received {body : Text} (free : NulFree body) (rest : Text) :
    getLine (encode (messageText body) ++ rest) = some (messageText body ++ [nul], rest) := by
  have police : NulFree "police" := by decide
  have ended : NulFree "\n\n" := by decide
  have clean : NulFree (body ++ "\n\n".toList) := nul_free_append.mpr ⟨free, ended⟩
  exact line_of_encoded (message_frame_nul_free .stored 7 0 police clean) rest

def shortReport : Text :=
  "user:a\ncity:b\nevent name:c\ndate time:4\ndescription:\nd"

theorem short_report_valid : ValidReport (shortReport ++ "\n\n".toList) := by decide +kernel

theorem short_report_handled :
    Handled listening (messageText shortReport ++ [nul]) (sentFrame shortReport).body := by
  have reached : ReachableState (pairSubscribed "7" "7") := pair_reachable rfl
  have parsed : StompFrame.ofText (sendText shortReport) = .ok (sentFrame shortReport) := by
    rfl
  have sent : Event.sent ⟨1⟩ (messageText shortReport) ∈ newEvents (pairSubscribed "7" "7")
      (processed .plain 0 (sendText shortReport) (pairSubscribed "7" "7")) := by decide +kernel
  have free : NulFree shortReport := by decide +kernel
  exact (relayed_handled_iff reached parsed rfl rfl sent (message_command ..)
    (message_text_received free []) listening).mpr (Or.inr short_report_valid)

/-- A body that is no report ends the thread of every client that gets it. -/
theorem hello_ends_client :
    ReachableState (pairSubscribed "7" "7") ∧
      StompFrame.ofText (sendText "hello") = .ok (sentFrame "hello") ∧
      Event.sent ⟨1⟩ (messageText "hello") ∈ newEvents (pairSubscribed "7" "7")
        (processed .plain 0 (sendText "hello") (pairSubscribed "7" "7")) ∧
      getLine (encode (messageText "hello")) = some (messageText "hello" ++ [nul], []) ∧
      ¬ Handled listening (messageText "hello" ++ [nul]) (sentFrame "hello").body := by
  have free : NulFree "hello" := by decide
  have received := message_text_received free []
  rw [List.append_nil] at received
  refine ⟨pair_reachable rfl, rfl, by decide +kernel, received, ?_⟩
  rintro ⟨client', handled, _⟩
  have failed : respond listening (messageText "hello" ++ [nul]) =
      .error (.exception (.runtimeError "Missing required fields in the report.")) := rfl
  rw [failed] at handled
  cases handled

end Example

end RelayedReports
