import EmergencyService.Client.EventSummary
import EmergencyService.Client.ReceiptCorrelation
import EmergencyService.Client.ReportFidelity
import EmergencyService.Client.ReportFiling
import EmergencyService.Server.ChannelOrder

/- Reports from end to end: what clients report through the server, and what a client that
   listens has stored of it. -/
namespace DeliveredReports
open JavaRuntime CppRuntime JavaFrame FrameExchange FrameStream EventReport ReportLines
open GuardedRuns RecordedRuns MapCalls StompProtocolImpl ProcessRun FrameEvents BranchOutcomes
open CallFootprint ServerRuns HandlerThreads MessageRelay ChannelOrder
open ChannelCommands (Client)
open ServerResponses RelayedReports ReportFiling ReportFidelity KeyboardLoop EventSummary
open ReceiptCorrelation (command_read)
open ReplyCount (framesTo mem_frames_to_iff)

/-- An event that a user reports to a channel, no line of which passes for another one. -/
structure Report where
  login : Text
  channel : Text
  event : EventReport.Event
  reportable : Reportable login event
  unambiguous : Unambiguous login event.description
  joined : Word channel
  settled : ∀ value, destinationIn event.description = some value → value = channel

def Carries (b : Broadcast) (r : Report) : Prop :=
  ∃ body id messageID, ∃ o : IterationOrder Text, reportBody r.login r.event = some body ∧
    b.channel = r.channel ∧ b.relay.message =
      (messageFrame id messageID r.channel (glued (bodyText body))).createFrame o

/-- Whatever SEND is accepted has been written by `report`. -/
def Reporting (server : Server) : Action → Prop
  | .frame w c message => broadcastOf w c message server.state ≠ none →
      ∃ (r : Report) (f : CppFrame.StompFrame) (later : Text),
        reportFrame r.login r.channel r.event = some f ∧
        decodeMessage [] (sendFrame f.createFrame ++ later) = some (message, later)
  | _ => True

def answers (steps : List ThreadStep) : List Text :=
  steps.filterMap fun
    | .answer answer => some answer
    | .keyboard _ => none

section Reading
variable (r : Report)

theorem report_no_other_destination {active forces : Text} (activePlain : PlainText active)
    (forcesPlain : PlainText forces) : NoOtherDestination r.channel
      (glued (bodyText ((reportLines r.login r.event active forces).flatMap (· ++ ['\n'])))) := by
  intro value found
  rw [split_glued, split_body_text,
    split_lines (report_lines_plain r.reportable activePlain forcesPlain)] at found
  have titled : ∀ (k : FieldName) text, destinationIn (k.start ++ text) = none := by
    intro k text
    cases k <;> rfl
  have lines : (reportLines r.login r.event active forces).filterMap destinationIn =
      (destinationIn r.event.description).toList := by
    have tabbed : ∀ text, destinationIn ('\t' :: text) = none := fun _ => rfl
    have general : destinationIn "general information:".toList = none := rfl
    have heading : destinationIn "description:".toList = none := rfl
    rw [reportLines, List.filterMap_cons_none (titled .user _),
      List.filterMap_cons_none (titled .city _), List.filterMap_cons_none (titled .eventName _),
      List.filterMap_cons_none (titled .time _), List.filterMap_cons_none general,
      List.filterMap_cons_none (tabbed _), List.filterMap_cons_none (tabbed _),
      List.filterMap_cons_none heading]
    cases here : destinationIn r.event.description with
    | none => exact List.filterMap_cons_none here
    | some value => exact List.filterMap_cons_some here
  rw [lines] at found
  cases here : destinationIn r.event.description with
  | none => simp [here] at found
  | some value' =>
    rw [here] at found
    cases found
    exact r.settled value' here

theorem report_filed {answer : Text} {frame : CppFrame.StompFrame} {event : EventReport.Event}
    (read : CppFrame.StompFrame.ofText answer = .ok frame) (command : frame.command = "MESSAGE")
    (named : channelName answer ≠ [])
    (ok : parseEventReport frame.body (channelName answer) = .ok event) :
    reportOf answer = some (channelName answer, event) := by
  unfold reportOf
  rw [read]
  dsimp only
  rw [if_pos ⟨command, named⟩, ok]

theorem carried_read {b : Broadcast} (carries : Carries b r) :
    ∃ event, reportOf (b.relay.message ++ [nul]) = some (r.channel, event) ∧
      SameReport r.login r.event event := by
  obtain ⟨body, id, messageID, o, written, _, text⟩ := carries
  obtain ⟨active, activeFlag, activePlain⟩ := r.reportable.active
  obtain ⟨forces, forcesFlag, forcesPlain⟩ := r.reportable.forces
  have free := report_body_nul_free r.reportable.login.nulFree r.reportable.nulFree written
  obtain rfl : (reportLines r.login r.event active forces).flatMap (· ++ ['\n']) = body :=
    Option.some.inj ((report_body_lines activeFlag forcesFlag).symm.trans written)
  have bodyFree := glued_nul_free (nul_free_body free)
  have received := line_of_encoded
    (message_frame_nul_free o id messageID r.joined.nulFree bodyFree) []
  obtain ⟨headers, read⟩ := client_reads_message o id messageID r.joined.lineFree
    r.joined.nulFree bodyFree received
  have named := (destination_read_iff _ _).mpr (report_no_other_destination r activePlain
    forcesPlain)
  rw [← message_channel o id messageID r.joined.lineFree] at named
  obtain ⟨event, ok, same⟩ := (report_read_iff r.reportable activeFlag forcesFlag
    r.channel).mpr r.unambiguous
  rw [← parse_relayed r.reportable activePlain forcesPlain] at ok
  have filed := report_filed read rfl (by rw [named]; exact r.joined.nonempty)
    (by rw [named]; exact ok)
  rw [named, ← text] at filed
  exact ⟨event, filed, same⟩

theorem other_read {f : StompFrame} (named : f.command ≠ []) (free : LineFree f.command)
    (o : IterationOrder Text) (other : f.command ≠ "MESSAGE") :
    reportOf (f.createFrame o ++ [nul]) = none := by
  unfold reportOf
  split
  · rfl
  · rename_i frame parsed
    rw [if_neg]
    rintro ⟨command, _⟩
    exact other ((command_read named free o parsed).symm.trans command)

theorem broadcast_carries {w : Surroundings} {c : Nat} {message later : Text} {s : ServerState}
    {f : CppFrame.StompFrame} {b : Broadcast}
    (reported : reportFrame r.login r.channel r.event = some f)
    (decoded : decodeMessage [] (sendFrame f.createFrame ++ later) = some (message, later))
    (made : broadcastOf w c message s = some b) : Carries b r := by
  obtain ⟨body, written, rfl⟩ := Option.map_eq_some_iff.mp reported
  have free := report_body_nul_free r.reportable.login.nulFree r.reportable.nulFree written
  obtain ⟨headers, parsed, target⟩ := server_reads_report r.joined free decoded
  obtain ⟨frame, channel, id, parsed', _, target', _, _, rfl⟩ := broadcast_cases made
  cases parsed.symm.trans parsed'
  have same : channel = r.channel := Option.some.inj (target'.symm.trans target)
  exact ⟨body, id, (s.protocol c).messageID, w.headers, written, same, by rw [same]⟩

end Reading

section Runs
variable {condition : Server → Action → Prop} {server : Server} {announced : List Broadcast}

theorem sent_frames (runs : Recorded announce condition Server.initial server announced) :
    ∀ h text, Event.sent h text ∈ server.state.log → ∃ (f : StompFrame) (o : IterationOrder Text),
      f.command ≠ [] ∧ LineFree f.command ∧ text = f.createFrame o := by
  refine run_invariant (fun server : Server => ∀ h text, Event.sent h text ∈ server.state.log →
    ∃ (f : StompFrame) (o : IterationOrder Text), f.command ≠ [] ∧ LineFree f.command ∧
      text = f.createFrame o) (fun _ _ sent => by cases sent) ?_ (announced_runs runs)
  intro a before after started ih _ acted h text sent
  obtain ⟨rfl, _, rfl⟩ | ⟨rfl, _, rfl⟩ | ⟨w, c, message, rfl, _, rfl⟩ := act_cases acted
  · exact ih h text sent
  · exact ih h text sent
  · have free : ServerRuns.Runs (fun _ _ => True) Server.initial before :=
      run_weaken (fun _ _ _ => trivial) started
    have ids := runs_handler_ids free
    change Event.sent h text ∈ (processed w c message before.state).log at sent
    rw [processed_log ids] at sent
    rcases List.mem_append.mp sent with member | member
    · obtain ⟨_, _, f, named, free, same, _⟩ := AnswerSource.sent_written ids member
      exact ⟨f, w.headers, named, free, same⟩
    · exact ih h text member

theorem announced_reports (runs : Recorded announce Reporting Server.initial server announced) :
    ∀ b ∈ announced, ∃ r, Carries b r := by
  refine run_invariant (fun now : Server × List Broadcast => ∀ b ∈ now.2, ∃ r, Carries b r)
    (fun _ member => by cases member) ?_ runs
  rintro a ⟨before, earlier⟩ ⟨after, all⟩ _ ih reporting acted b member
  obtain ⟨out, found, rfl⟩ := recorded_some acted
  obtain ⟨next, moved, same⟩ := Option.map_eq_some_iff.mp found
  obtain ⟨rfl, rfl⟩ := Prod.mk.inj same
  rcases List.mem_append.mp member with known | new
  · exact ih b known
  · cases a with
    | construct => cases new
    | increment => cases new
    | frame w c message =>
      have made : broadcastOf w c message before.state = some b := Option.mem_toList.mp new
      obtain ⟨r, f, later, reported, decoded⟩ := reporting (by simp [made])
      exact ⟨r, broadcast_carries r reported decoded made⟩

theorem frames_read (runs : Recorded announce condition Server.initial server announced)
    (c : Nat) {texts : List Text} (known : ∀ text ∈ texts, text ∈ framesTo c server.state.log) :
    (texts.map (· ++ [nul])).filterMap reportOf =
      (texts.filter fun text => commandOf text = "MESSAGE").filterMap
        fun text => reportOf (text ++ [nul]) := by
  induction texts with
  | nil => rfl
  | cons text rest ih =>
    have tail := ih fun other member => known other (List.mem_cons_of_mem text member)
    rw [List.map_cons]
    by_cases named : commandOf text = "MESSAGE"
    · rw [List.filter_cons_of_pos (by simp only [named, decide_true]), List.filterMap_cons, tail,
        List.filterMap_cons]
    · have sent := mem_frames_to_iff.mp (known text List.mem_cons_self)
      obtain ⟨f, o, full, free, rfl⟩ := sent_frames runs _ _ sent
      rw [command_of_frame free] at named
      have dropped : ¬ decide (commandOf (f.createFrame o) = "MESSAGE".toList) = true := by
        intro kept
        exact named ((command_of_frame free o).symm.trans (of_decide_eq_true kept))
      rw [List.filter_cons, if_neg dropped, List.filterMap_cons, other_read full free o named, tail]

end Runs

def Files (r : Report) (filed : Text × EventReport.Event) : Prop :=
  filed.1 = r.channel ∧ SameReport r.login r.event filed.2

theorem carried_filed {bs : List Broadcast} {rs : List Report}
    (carries : List.Forall₂ Carries bs rs) :
    List.Forall₂ Files rs ((bs.map fun b => b.relay.message).filterMap fun text =>
      reportOf (text ++ [nul])) := by
  induction carries with
  | nil => exact .nil
  | @cons b r _ _ first _ ih =>
    obtain ⟨event, read, same⟩ := carried_read r first
    rw [List.map_cons, List.filterMap_cons, read]
    exact .cons ⟨rfl, same⟩ ih

theorem received_read (steps : List ThreadStep) :
    EventSummary.received steps = (answers steps).filterMap reportOf := by
  unfold EventSummary.received answers
  rw [List.filterMap_filterMap]
  congr 1
  funext step
  cases step <;> rfl

def Arrived (r : Report) (event : EventReport.Event) : Prop := SameReport r.login r.event event

section EndToEnd
variable {server : Server} {announced : List Broadcast} {steps : List ThreadStep}
  {console : Console} {user : Text} {c : Nat}

/-- The reports behind the MESSAGEs that connection `c` was sent, and how many of them a client
    has read. -/
theorem filed_reports (runs : Recorded announce Reporting Server.initial server announced)
    (read : answers steps <+: (framesTo c server.state.log).reverse.map (· ++ [nul])) :
    ∃ reports n, List.Forall₂ Carries (heardBy c announced) reports ∧
      List.Forall₂ Files (reports.take n) (EventSummary.received steps) ∧
      (answers steps = (framesTo c server.state.log).reverse.map (· ++ [nul]) →
        reports.length ≤ n) := by
  obtain ⟨reports, carries⟩ : ∃ reports, List.Forall₂ Carries (heardBy c announced) reports := by
    apply exists_meant
    intro b member
    exact announced_reports runs b (List.mem_of_mem_filter member)
  have whole : messagesTo c server.state.log =
      (heardBy c announced).map fun b => b.relay.message := heard_run runs c
  have texts : ∀ k, ∀ text ∈ (framesTo c server.state.log).reverse.take k,
      text ∈ framesTo c server.state.log := by
    intro k text member
    exact List.mem_reverse.mp (List.mem_of_mem_take member)
  have cut := List.prefix_iff_eq_take.mp read
  rw [← List.map_take] at cut
  generalize (answers steps).length = k at cut
  have kept : ((framesTo c server.state.log).reverse.take k).filter
      (fun text => commandOf text = "MESSAGE") <+: messagesTo c server.state.log := by
    unfold messagesTo
    rw [← List.filter_reverse]
    exact (List.take_prefix k _).filter _
  have taken := List.prefix_iff_eq_take.mp kept
  generalize ended : (((framesTo c server.state.log).reverse.take k).filter
    (fun text => commandOf text = "MESSAGE")).length = n at taken
  refine ⟨reports, n, carries, ?_, ?_⟩
  · rw [received_read, cut, frames_read runs c (texts k), taken, whole, ← List.map_take]
    exact carried_filed (List.forall₂_take n carries)
  · intro all
    have lengths := congrArg List.length (cut.symm.trans all)
    simp only [List.length_map, List.length_take] at lengths
    have long : (framesTo c server.state.log).reverse.length ≤ k := by omega
    have counted : (messagesTo c server.state.log).length = n := by
      rw [← ended, List.take_of_length_le long, messagesTo, List.filter_reverse]
    rw [whole, List.length_map, carries.length_eq] at counted
    omega

/-- Whatever is done by whom, as long as what is sent are reports: a client that listens has
    stored for each channel the reports that were accepted for it and addressed to the client, in
    the order in which the server accepted them, each once; and for each user the user's own. -/
theorem reports_delivered
    (runs : Recorded announce Reporting Server.initial server announced)
    (ran : acts Console.step steps (.connected user) = some console)
    (read : answers steps <+: (framesTo c server.state.log).reverse.map (· ++ [nul])) :
    ∃ reports n, List.Forall₂ Carries (heardBy c announced) reports ∧
      (∀ channel, List.Forall₂ Arrived ((reports.take n).filter fun r => r.channel = channel)
        (stored console.channels channel)) ∧
      (∀ channel owner, List.Forall₂ Arrived
        (((reports.take n).filter fun r => r.channel = channel).filter fun r => r.login = owner)
          (getEventbyUser console.channels channel owner)) ∧
      (answers steps = (framesTo c server.state.log).reverse.map (· ++ [nul]) →
        reports.length ≤ n) := by
  obtain ⟨reports, n, carries, filed, all⟩ := filed_reports runs read
  have arrived : ∀ channel, List.Forall₂ Arrived
      ((reports.take n).filter fun r => r.channel = channel) (stored console.channels channel) := by
    intro channel
    have empty : stored (Console.connected user).channels channel = [] := rfl
    rw [steps_stored ran, empty, List.nil_append]
    apply List.forall₂_map_right_iff.mpr
    have same := meant_filter (fun r => decide (r.channel = channel))
      (fun report => decide (report.1 = channel)) filed (fun r filed' here => by rw [here.1])
    exact same.imp fun r filed' here => here.2
  refine ⟨reports, n, carries, arrived, ?_, all⟩
  intro channel owner
  rw [get_event_stored]
  apply meant_filter _ _ (arrived channel)
  intro r event same
  rw [same.owner]

end EndToEnd

section Example

def joinText : Text := (Client.subscribeFrame "police" 0 0).createFrame

/-- Two clients join a channel; one of them is connection 0, which will report. -/
def bothJoin : List Action :=
  [.construct, .increment, .construct, .increment, .frame .plain 0 joinText,
    .frame .plain 1 joinText]

def smokeSteps : List ThreadStep :=
  joinPolice ++ [.answer ((receiptFrame (some "0".toList)).createFrame .stored ++ [nul]),
    .answer ((messageFrame 0 0 "police" (glued (bodyText (fireBody "smoke")))).createFrame
      .stored ++ [nul])]

def smokeReport : Report where
  login := "meni"
  channel := "police"
  event := fire "smoke"
  reportable := fire_reportable (by decide)
  unambiguous := ⟨fun k => by cases k <;> rfl, by decide, by decide⟩
  joined := by decide
  settled := nofun

theorem smoke_written :
    reportFrame smokeReport.login smokeReport.channel smokeReport.event =
      some (fireFrame "smoke") := by
  have activeFlag : (fire "smoke").generalInformation.lookup "active".toList =
      some "true".toList := rfl
  have forcesFlag : (fire "smoke").generalInformation.lookup "forces_arrival_at_scene".toList =
      some "false".toList := rfl
  rw [reportFrame]
  change (reportBody "meni" (fire "smoke")).map _ = _
  rw [report_body_lines activeFlag forcesFlag]
  rfl

theorem smoke_announced : ∃ server announced,
    Recorded announce Reporting Server.initial server announced ∧ (heardBy 1 announced).length = 1 ∧
      answers smokeSteps = (framesTo 1 server.state.log).reverse.map (· ++ [nul]) := by
  have quiet : ∀ (now : Server × List Broadcast) a,
      (broadcastBy now.1.state a).isNone = true → Reporting now.1 a := by
    intro now a nothing
    cases a with
    | construct => trivial
    | increment => trivial
    | frame w c message => exact fun made => absurd (Option.isNone_iff_eq_none.mp nothing) made
  have whole : (actsWhere (recorded announce) (fun now a => (broadcastBy now.1.state a).isNone)
      bothJoin (Server.initial, [])).any (fun now =>
        (recorded announce now (.frame .plain 0 (fireFrame "smoke").createFrame)).any fun after =>
          (heardBy 1 after.2).length = 1 ∧ answers smokeSteps =
            (framesTo 1 after.1.state.log).reverse.map (· ++ [nul])) = true := by decide +kernel
  obtain ⟨now, joined, last⟩ := (Option.any_eq_true _ _).mp whole
  obtain ⟨after, sent, facts⟩ := (Option.any_eq_true _ _).mp last
  obtain ⟨heard, read⟩ := of_decide_eq_true facts
  have runs : GuardedRuns.Runs (recorded announce) (fun before a => Reporting before.1 a)
      (Server.initial, []) now := run_of_acts_where quiet bothJoin joined
  have plain : PlainText "smoke" := by decide
  refine ⟨after.1, after.2, runs.tail ⟨_, ?_, sent⟩, heard, read⟩
  intro _
  exact ⟨smokeReport, fireFrame "smoke", [], smoke_written, fire_decoded plain⟩

/-- The listening client has the one report. -/
theorem smoke_delivered : ∃ console, ∃ reports : List Report,
    acts Console.step smokeSteps (.connected "dana") = some console ∧ reports.length = 1 ∧
      List.Forall₂ Arrived (reports.filter fun r => r.channel = "police".toList)
        (stored console.channels "police") := by
  obtain ⟨server, announced, runs, heard, read⟩ := smoke_announced
  obtain ⟨console, ran⟩ : ∃ console, acts Console.step smokeSteps (.connected "dana") =
      some console := Option.isSome_iff_exists.mp (by decide +kernel)
  have complete : answers smokeSteps <+:
      (framesTo 1 server.state.log).reverse.map (· ++ [nul]) :=
    ⟨[], by rw [List.append_nil, read]⟩
  obtain ⟨reports, n, carries, arrived, _, all⟩ := reports_delivered runs ran complete
  have one : reports.length = 1 := carries.length_eq.symm.trans heard
  have every := arrived "police".toList
  rw [List.take_of_length_le (all read)] at every
  exact ⟨console, reports, ran, one, every⟩

end Example

end DeliveredReports
