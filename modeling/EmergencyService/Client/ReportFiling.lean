import EmergencyService.Client.RelayedReports

/- Under which channel the client files a report that the server has relayed: the last line of
   the body that begins with "destination:" takes the place of the header. -/
namespace ReportFiling
open JavaRuntime CppRuntime JavaFrame FrameExchange FrameStream EventReport ReportLines
open ReportValidity ServerResponses RelayedReports

/-- The loop goes on from the client that has the event of the report under the channel,
    whatever comes behind the message. -/
def FiledUnder (channel : Text) (client : Listener) (m : RelayedMessage) : Prop :=
  ∃ event, parseEventReport (glued (bodyText m.body ++ [nul])) channel = .ok event ∧
    ∀ rest, server_response_process client (encode m.text ++ rest) =
      server_response_process (client.addReport channel event) rest

/-- The body has no line that begins with "destination:", or the last one has the channel
    behind its colon. -/
def NoOtherDestination (channel body : Text) : Prop :=
  ∀ value, ((EventReport.split body '\n').filterMap destinationIn).getLast? = some value →
    value = channel

theorem destination_read_iff (channel body : Text) :
    destinationRead channel body = channel ↔ NoOtherDestination channel body := by
  unfold destinationRead NoOtherDestination
  cases ((EventReport.split body '\n').filterMap destinationIn).getLast? with
  | none => simp
  | some value => simp

section Channels
variable (client : Listener) (channel : Text) (event : EventReport.Event)

theorem add_report_lookup (k : Text) : (client.addReport channel event).channels.lookup k =
    if k = channel then
      some (((client.channels.lookup channel).getD ⟨channel, []⟩).addEvent event)
    else client.channels.lookup k := by
  unfold Listener.addReport
  cases known : client.channels.lookup channel with
  | none =>
    by_cases here : k = channel
    · rw [if_pos here, here]
      exact insert_new_lookup (AList.lookup_eq_none.mp known) _
    · rw [if_neg here]
      exact insert_new_lookup_ne here _
  | some held =>
    by_cases here : k = channel
    · rw [if_pos here, here]
      exact AList.lookup_insert _
    · rw [if_neg here]
      exact AList.lookup_insert_ne here

theorem add_report_listening : (client.addReport channel event).terminateServerResponses =
    client.terminateServerResponses := by
  unfold Listener.addReport
  split <;> rfl

theorem filed_once {other : Text} {event' : EventReport.Event}
    (same : (client.addReport channel event).channels =
      (client.addReport other event').channels) : channel = other := by
  by_contra differ
  have here := add_report_lookup client channel event channel
  rw [same, add_report_lookup client other event' channel, if_neg differ, if_pos rfl] at here
  have longer := congrArg (fun found : Option Channel =>
    (found.getD ⟨channel, []⟩).events.length) here
  cases client.channels.lookup channel with
  | none => simp [Channel.addEvent] at longer
  | some held => simp [Channel.addEvent] at longer

end Channels

section Messages
variable {client : Listener} (m : RelayedMessage)

theorem process_end (listening : client.terminateServerResponses = false) :
    server_response_process client [] = .ok { client with terminateKeyboard := true } := by
  rw [server_response_process]
  simp [listening, getLine, getFrameAscii]

theorem process_message (listening : client.terminateServerResponses = false) (rest : Text) :
    server_response_process client (encode m.text ++ rest) =
      if destinationRead m.channel m.body = [] then server_response_process client rest
      else match parseEventReport (glued (bodyText m.body ++ [nul]))
          (destinationRead m.channel m.body) with
        | .error e => .error (.exception e)
        | .ok event => server_response_process
            (client.addReport (destinationRead m.channel m.body) event) rest := by
  rw [process_next listening (line_of_encoded m.text_nul_free rest), m.respond_text]
  unfold messageBranch
  simp only [m.channel_text]
  by_cases unnamed : destinationRead m.channel m.body = []
  · simp only [unnamed, ne_eq, not_true_eq_false, if_false, if_true]
  · simp only [unnamed, ne_eq, not_false_eq_true, if_true, if_false]
    cases parseEventReport (glued (bodyText m.body ++ [nul]))
        (destinationRead m.channel m.body) with
    | error e => rfl
    | ok event => rfl

/-- A valid report is filed under the channel of its MESSAGE exactly when no line of the body
    passes for another destination. -/
theorem filed_under_channel_iff (named : m.channel ≠ []) (valid : ValidReport m.body)
    (listening : client.terminateServerResponses = false) :
    FiledUnder m.channel client m ↔ NoOtherDestination m.channel m.body := by
  rw [← destination_read_iff]
  obtain ⟨event, accepted⟩ := valid_accepted valid (destinationRead m.channel m.body)
  constructor
  · rintro ⟨filed, _, goes⟩
    have ended := goes []
    have still := (add_report_listening client m.channel filed).trans listening
    rw [process_message m listening, process_end still] at ended
    split at ended
    · rw [process_end listening] at ended
      have same := congrArg Listener.channels (Except.ok.inj ended)
      exact absurd same.symm (add_report_changes client m.channel filed)
    · rw [accepted] at ended
      have still' := (add_report_listening client (destinationRead m.channel m.body)
        event).trans listening
      dsimp only at ended
      rw [process_end still'] at ended
      have same := congrArg Listener.channels (Except.ok.inj ended)
      exact filed_once client _ event same
  · intro read
    rw [read] at accepted
    apply Exists.intro event
    apply And.intro accepted
    intro rest
    rw [process_message m listening, read, if_neg named, accepted]

end Messages

section Example

/-- The MESSAGE for the channel police with a report that has the description. -/
def policeMessage (description : Text) (free : NulFree description) : RelayedMessage where
  order := .stored
  id := 7
  messageID := 0
  channel := "police"
  body := "user:a\ncity:b\nevent name:c\ndate time:4\ndescription:\n".toList ++ description ++
    ['\n']
  lineFree := by decide
  nulFree := by decide
  bodyFree := by
    simp only [nul_free_append]
    exact ⟨⟨by decide +kernel, free⟩, by decide⟩

def smokeMessage : RelayedMessage := policeMessage "smoke" (by decide)

def fireMessage : RelayedMessage := policeMessage "destination:fire" (by decide)

theorem smoke_filed : FiledUnder smokeMessage.channel listening smokeMessage := by
  have valid : ValidReport smokeMessage.body := by decide +kernel
  have plain : ((EventReport.split smokeMessage.body '\n').filterMap destinationIn).getLast? =
      none := by decide +kernel
  apply (filed_under_channel_iff smokeMessage nofun valid rfl).mpr
  intro value found
  rw [plain] at found
  cases found

/-- The description of a valid report passes for its destination. -/
theorem fire_filed_elsewhere :
    ValidReport fireMessage.body ∧ ¬ FiledUnder fireMessage.channel listening fireMessage ∧
      ∃ client, server_response_process listening (encode fireMessage.text ++ []) = .ok client ∧
        client.channels.keys = ["fire".toList] := by
  have valid : ValidReport fireMessage.body := by decide +kernel
  have read : destinationRead fireMessage.channel fireMessage.body = "fire" := by decide +kernel
  obtain ⟨event, accepted⟩ := valid_accepted valid "fire".toList
  have still := add_report_listening listening "fire".toList event
  have ended : server_response_process listening (encode fireMessage.text ++ []) =
      .ok { listening.addReport "fire".toList event with terminateKeyboard := true } := by
    rw [process_message fireMessage rfl, read, if_neg nofun, accepted]
    exact process_end still
  apply And.intro valid
  constructor
  · rintro ⟨filed, _, goes⟩
    have police := goes []
    rw [ended, process_end (add_report_listening listening fireMessage.channel filed)] at police
    have same := congrArg Listener.channels (Except.ok.inj police)
    exact absurd (filed_once listening "fire".toList event same) (by decide)
  · exact ⟨_, ended, rfl⟩

end Example
end ReportFiling
