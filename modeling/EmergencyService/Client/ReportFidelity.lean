import EmergencyService.Client.ReportLines
import EmergencyService.Server.MessageRelay

/- A report on its way: from the event of the file through the client's SEND, the server's
   MESSAGE and the receiving client's frame back to an event. -/
namespace ReportFidelity
open JavaRuntime CppRuntime JavaFrame FrameExchange FrameStream EventReport ReportLines
open MapCalls StompProtocolImpl ProcessRun FrameEvents CallFootprint BranchOutcomes
open HandlerThreads ServerRuns
open MessageRelay

section Sending
variable {channel body : Text}

theorem server_reads_report (joined : Word channel) (free : NulFree body) {message rest : Text}
    (decoded : decodeMessage [] (sendFrame (CppFrame.StompFrame.createFrame
      ⟨"SEND", insertNew "destination" channel ∅, body⟩) ++ rest) = some (message, rest)) :
    ∃ headers, StompFrame.ofText message = .ok ⟨"SEND", headers, glued (bodyText body)⟩ ∧
      headers.lookup "destination".toList = some channel := by
  have sendable := send_sendable joined free
  rw [decode_sent sendable.text, Option.some.injEq, Prod.mk.injEq] at decoded
  obtain ⟨rfl, _⟩ := decoded
  obtain ⟨headers, parsed, same⟩ := sendable.parsed
  exact ⟨headers, parsed, (same _).trans (destination_found channel)⟩

end Sending

section Receiving
variable {channel body : Text}

/-- The body of a MESSAGE as the receiving client gets it: the relayed one and the
    terminator. -/
theorem client_reads_message (o : IterationOrder Text) (id messageID : Int)
    (lineFree : LineFree channel) (nulFree : NulFree channel) (free : NulFree body)
    {answer behind : Text}
    (received : getLine (encode ((messageFrame id messageID channel body).createFrame o) ++
      behind) = some (answer, behind)) :
    ∃ headers, CppFrame.StompFrame.ofText answer =
      .ok ⟨"MESSAGE", headers, glued (bodyText body ++ [nul])⟩ := by
  have line : LineFree "MESSAGE" := by decide
  have frameFree := message_frame_nul_free o id messageID nulFree free
  have named : ("MESSAGE".toList : Text) ≠ [] := by decide
  rw [line_of_encoded frameFree, Option.some.injEq, Prod.mk.injEq] at received
  obtain ⟨rfl, _⟩ := received
  obtain ⟨headers, parsed, _⟩ := cpp_reads_java o
    (f := messageFrame id messageID channel body) named line
    (message_headers_clean id messageID lineFree body)
  exact ⟨headers, parsed⟩

theorem parse_relayed {login active forces : Text} {e : EventReport.Event}
    (reportable : Reportable login e) (activePlain : PlainText active)
    (forcesPlain : PlainText forces) (channelName : Text) :
    parseEventReport (glued (bodyText (glued (bodyText
        ((reportLines login e active forces).flatMap (· ++ ['\n'])))) ++ [nul])) channelName =
      (lastFields login e active forces).event channelName := by
  have lines := split_lines (report_lines_plain reportable activePlain forcesPlain)
  unfold parseEventReport
  rw [split_glued, split_received, split_glued, split_body_text, lines, List.foldl_append,
    read_head reportable activePlain forcesPlain]
  rfl

end Receiving

section Journey
variable {w : Surroundings} {c : Nat} {s : ServerState} {login channel : Text}
  {e : EventReport.Event}

/-- One relay of a report that connection `c` sends to the server in state `s`: the frame
    on the sender's socket, the message the server decodes, one MESSAGE that it sends, and
    the line that the receiving client gets. -/
structure Relay (w : Surroundings) (c : Nat) (s : ServerState) (login channel : Text)
    (e : EventReport.Event) where
  frame : CppFrame.StompFrame
  message : Text
  receiver : ConnectionHandler
  text : Text
  answer : Text
  later : Text
  behind : Text
  reported : reportFrame login channel e = some frame
  decoded : decodeMessage [] (sendFrame frame.createFrame ++ later) = some (message, later)
  sent : Event.sent receiver text ∈ newEvents s (processed w c message s)
  relayed : commandOf text = "MESSAGE"
  received : getLine (encode text ++ behind) = some (answer, behind)

/-- A relayed report comes back as the event that was reported exactly when none of its
    lines can be mistaken for another one. -/
theorem report_arrives_iff (reportable : Reportable login e) (joined : Word channel)
    (reachable : ReachableState s) (relay : Relay w c s login channel e) (channelName : Text) :
    (∃ f event, CppFrame.StompFrame.ofText relay.answer = .ok f ∧
      parseEventReport f.body channelName = .ok event ∧ SameReport login e event) ↔
        Unambiguous login e.description := by
  obtain ⟨active, activeFlag, activePlain⟩ := reportable.active
  obtain ⟨forces, forcesFlag, forcesPlain⟩ := reportable.forces
  have written : reportBody login e =
      some ((reportLines login e active forces).flatMap (· ++ ['\n'])) :=
    report_body_lines activeFlag forcesFlag
  have free := report_body_nul_free reportable.login.nulFree reportable.nulFree written
  obtain ⟨frame, message, r, text, answer, later, behind, reported, decoded, sent, relayed,
    received⟩ := relay
  rw [reportFrame, written, Option.map_some, Option.some.injEq] at reported
  subst reported
  obtain ⟨headers, parsed, target⟩ := server_reads_report joined free decoded
  obtain ⟨id, _, _, _, rfl⟩ := relayed_message reachable parsed rfl target sent relayed
  have relayedFree := glued_nul_free (nul_free_body free)
  obtain ⟨_, read⟩ := client_reads_message w.headers id (s.protocol c).messageID
    joined.lineFree joined.nulFree relayedFree received
  have fields := parse_relayed reportable activePlain forcesPlain channelName
  rw [← report_read_iff reportable activeFlag forcesFlag channelName]
  constructor
  · rintro ⟨f, event, here, ok, same⟩
    rw [read] at here
    cases here
    dsimp only at ok
    rw [fields] at ok
    exact ⟨event, ok, same⟩
  · rintro ⟨event, ok, same⟩
    refine ⟨_, event, read, ?_, same⟩
    dsimp only
    rw [fields]
    exact ok

end Journey

section Example

def fire (description : Text) : EventReport.Event where
  channelName := "police"
  city := "Haifa"
  name := "fire"
  dateTime := 42
  description := description
  generalInformation := (AList.insert "active".toList "true".toList ∅).insert
    "forces_arrival_at_scene" "false"

def fireBody (description : Text) : Text :=
  (reportLines "meni" (fire description) "true" "false").flatMap (· ++ ['\n'])

def fireFrame (description : Text) : CppFrame.StompFrame :=
  ⟨"SEND", insertNew "destination" "police" ∅, fireBody description⟩

def fireMessage (description : Text) : Text :=
  (messageFrame 7 0 "police" (glued (bodyText (fireBody description)))).createFrame .stored

theorem fire_reportable {description : Text} (plain : PlainText description) :
    Reportable "meni" (fire description) := by
  have city : PlainText "Haifa" := by decide
  have name : PlainText "fire" := by decide
  have yes : PlainText "true" := by decide
  have no : PlainText "false" := by decide
  have range : IntRange 42 := by decide
  exact ⟨by decide, city, name, plain, range, ⟨"true", rfl, yes⟩, ⟨"false", rfl, no⟩⟩

theorem fire_body_nul_free {description : Text} (plain : PlainText description) :
    NulFree (fireBody description) := by
  have login : NulFree "meni" := by decide
  exact report_body_nul_free login (fire_reportable plain).nulFree (report_body_lines rfl rfl)

theorem fire_decoded {description : Text} (plain : PlainText description) :
    decodeMessage [] (sendFrame (fireFrame description).createFrame ++ []) =
      some ((fireFrame description).createFrame, []) := by
  have joined : Word "police" := by decide
  exact decode_sent (send_sendable joined (fire_body_nul_free plain)).text []

theorem fire_received {description : Text} (plain : PlainText description) :
    getLine (encode (fireMessage description) ++ []) =
      some (fireMessage description ++ [nul], []) := by
  have police : NulFree "police" := by decide
  have body := glued_nul_free (nul_free_body (fire_body_nul_free plain))
  exact line_of_encoded (message_frame_nul_free .stored 7 0 police body) []

/-- Connection 0 reports the fire, connection 1 gets the MESSAGE. -/
def fireRelay (description : Text)
    (decoded : decodeMessage [] (sendFrame (fireFrame description).createFrame ++ []) =
      some ((fireFrame description).createFrame, []))
    (sent : Event.sent ⟨1⟩ (fireMessage description) ∈ newEvents (pairSubscribed "7" "7")
      (processed .plain 0 (fireFrame description).createFrame (pairSubscribed "7" "7")))
    (received : getLine (encode (fireMessage description) ++ []) =
      some (fireMessage description ++ [nul], [])) :
    Relay .plain 0 (pairSubscribed "7" "7") "meni" "police" (fire description) where
  frame := fireFrame description
  message := (fireFrame description).createFrame
  receiver := ⟨1⟩
  text := fireMessage description
  answer := fireMessage description ++ [nul]
  later := []
  behind := []
  reported := by
    have activeFlag : (fire description).generalInformation.lookup "active".toList =
        some "true".toList := rfl
    have forcesFlag : (fire description).generalInformation.lookup
        "forces_arrival_at_scene".toList = some "false".toList := rfl
    rw [reportFrame, report_body_lines activeFlag forcesFlag]
    rfl
  decoded := decoded
  sent := sent
  relayed := message_command ..
  received := received

theorem smoke_report_arrives : ∃ f event,
    CppFrame.StompFrame.ofText (fireMessage "smoke" ++ [nul]) = .ok f ∧
      parseEventReport f.body "police" = .ok event ∧ SameReport "meni" (fire "smoke") event := by
  have plain : PlainText "smoke" := by decide
  have joined : Word "police" := by decide
  have reached : ReachableState (pairSubscribed "7" "7") := pair_reachable rfl
  have unambiguous : Unambiguous "meni" "smoke" := by
    refine ⟨fun k => ?_, by decide, by decide⟩
    cases k <;> rfl
  exact (report_arrives_iff (fire_reportable plain) joined reached
    (fireRelay "smoke" (fire_decoded plain) (by decide +kernel) (fire_received plain))
    "police").mpr unambiguous

/-- A description that begins like another line replaces that line's value, and then the
    report has no description. -/
theorem marked_description_rejected :
    Reportable "meni" (fire "city:unknown") ∧ Word "police" ∧
      ReachableState (pairSubscribed "7" "7") ∧
      ∃ relay : Relay .plain 0 (pairSubscribed "7" "7") "meni" "police" (fire "city:unknown"),
        ∃ f, CppFrame.StompFrame.ofText relay.answer = .ok f ∧
          parseEventReport f.body "police" =
            .error (.runtimeError "Missing required fields in the report.") := by
  have plain : PlainText "city:unknown" := by decide
  have joined : Word "police" := by decide
  have reached : ReachableState (pairSubscribed "7" "7") := pair_reachable rfl
  have yes : PlainText "true" := by decide
  have no : PlainText "false" := by decide
  have read := parse_relayed (fire_reportable plain) yes no "police"
  have marked : startsWith "city:unknown" FieldName.city.start = true := rfl
  have nothing : (lastFields "meni" (fire "city:unknown") "true" "false").description = [] :=
    last_marked plain marked
  have received := fire_received plain
  have free := glued_nul_free (nul_free_body (fire_body_nul_free plain))
  obtain ⟨headers, parsed⟩ := client_reads_message .stored 7 0 joined.lineFree
    joined.nulFree free received
  refine ⟨fire_reportable plain, joined, reached, fireRelay "city:unknown" (fire_decoded plain)
    (by decide +kernel) received, _, parsed, ?_⟩
  exact read.trans (event_missing "police" nothing)

end Example

end ReportFidelity
