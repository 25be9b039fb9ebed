import EmergencyService.Client.DeliveredReports
import EmergencyService.Foundation.JsonValue

/- The events file of the `report` command: what `parseEventsFile` makes of the value that is
   parsed from it, and how its events come out at a client that listens. -/
namespace EventsFile
open JavaRuntime CppRuntime JavaFrame FrameExchange FrameStream EventReport ReportLines JsonValue
open ChannelCommands (Client EventsFiles runWords)
open MapCalls StompProtocolImpl HandlerThreads ServerRuns FrameEvents ChannelOrder
open RelayedReports ReportFiling ReportFidelity EventSummary DeliveredReports

variable {D : Type}

/-- What an entry of the general information is stored as. -/
def updateText (lib : Library D) : Json D → Text
  | .string text => text
  | value => lib.dump value

def readEvent (lib : Library D) (channel_name : Text) (event : Json D) :
    Except TypeError EventReport.Event := do
  let name ← (event.member "event_name").bind Json.getString
  let city ← (event.member "city").bind Json.getString
  let date_time ← (event.member "date_time").bind (Json.getInt lib)
  let description ← (event.member "description").bind Json.getString
  let updates ← event.member "general_information"
  let general_information := collect (updateText lib) ∅ updates.items
  return ⟨channel_name, city, name, date_time, description, general_information, []⟩

def readEvents (lib : Library D) (channel_name : Text) :
    List (Json D) → Except TypeError (List EventReport.Event)
  | [] => .ok []
  | event :: rest => do
      let first ← readEvent lib channel_name event
      let events ← readEvents lib channel_name rest
      return first :: events

def readFile (lib : Library D) (data : Json D) :
    Except TypeError (Text × List EventReport.Event) := do
  let channel_name ← (data.member "channel_name").bind Json.getString
  let events ← data.member "events"
  let read ← readEvents lib channel_name events.elements
  return (channel_name, read)

def parseEventsFile (parse : Text → Option (Json D)) (lib : Library D) : EventsFiles :=
  fun json_path => (parse json_path).bind fun data => (readFile lib data).toOption

def memberOf (value : Json D) (key : Text) : Json D := (value.member key).toOption.getD .null

/-- What the file says of an event. -/
structure Describes (lib : Library D) (channel_name : Text) (value : Json D)
    (event : EventReport.Event) : Prop where
  channel : event.channelName = channel_name
  name : HasString value "event_name" event.name
  city : HasString value "city" event.city
  dateTime : HasInt lib value "date_time" event.dateTime
  description : HasString value "description" event.description
  information : event.generalInformation =
    collect (updateText lib) ∅ (memberOf value "general_information").items
  owner : event.eventOwnerUser = []

section Reading
variable {lib : Library D} {channel_name : Text} {value data : Json D}
  {event : EventReport.Event} {values : List (Json D)} {events : List EventReport.Event}

theorem bind_ok_iff {E A B : Type} {x : Except E A} {f : A → Except E B} {b : B} :
    (x >>= f) = .ok b ↔ ∃ a, x = .ok a ∧ f a = .ok b := by
  cases x with
  | error e => simp [bind, Except.bind]
  | ok a => simp [bind, Except.bind]

theorem member_found {key text : Text} (object : HasString value key text) (other : Text) :
    value.member other = .ok (memberOf value other) := by
  obtain ⟨members, rfl, _⟩ := object
  rfl

theorem read_event_iff :
    readEvent lib channel_name value = .ok event ↔ Describes lib channel_name value event := by
  unfold readEvent
  simp only [bind_ok_iff, member_string_iff, member_int_iff]
  constructor
  · rintro ⟨name, named, city, placed, n, dated, description, told, updates, found, made⟩
    cases made
    refine ⟨rfl, named, placed, dated, told, ?_, rfl⟩
    rw [memberOf, found]
    rfl
  · intro describes
    obtain ⟨channel, city, name, n, description, information, owner⟩ := event
    obtain ⟨rfl, named, placed, dated, told, rfl, rfl⟩ := describes
    exact ⟨name, named, city, placed, n, dated, description, told, _, member_found named _, rfl⟩

theorem read_events_iff : readEvents lib channel_name values = .ok events ↔
    List.Forall₂ (Describes lib channel_name) values events := by
  induction values generalizing events with
  | nil => simp [readEvents, eq_comm]
  | cons value values ih =>
    unfold readEvents
    simp only [bind_ok_iff, read_event_iff, ih]
    constructor
    · rintro ⟨first, described, rest, later, made⟩
      cases made
      exact .cons described later
    · intro all
      obtain ⟨first, rest, described, later, rfl⟩ := List.forall₂_cons_left_iff.mp all
      exact ⟨first, described, rest, later, rfl⟩

theorem read_file_iff : readFile lib data = .ok (channel_name, events) ↔
    HasString data "channel_name" channel_name ∧
      List.Forall₂ (Describes lib channel_name) (memberOf data "events").elements events := by
  unfold readFile
  simp only [bind_ok_iff, member_string_iff, read_events_iff]
  constructor
  · rintro ⟨channel, named, found, held, read, described, made⟩
    cases made
    rw [member_found named] at held
    obtain rfl := Except.ok.inj held
    exact ⟨named, described⟩
  · rintro ⟨named, described⟩
    exact ⟨channel_name, named, _, member_found named _, events, described, rfl⟩

theorem parse_file_iff {parse : Text → Option (Json D)} {json_path : Text} :
    parseEventsFile parse lib json_path = some (channel_name, events) ↔
      ∃ data, parse json_path = some data ∧ readFile lib data = .ok (channel_name, events) := by
  unfold parseEventsFile
  rw [Option.bind_eq_some_iff]
  refine exists_congr fun data => and_congr_right fun _ => ?_
  cases readFile lib data with
  | error e => simp [Except.toOption]
  | ok read => simp [Except.toOption]

/-- The files that are read, and what they give: an object with a channel, and under "events"
    objects with their texts and their date. Without "events" there are none. -/
theorem events_file_exact {parse : Text → Option (Json D)} {json_path : Text} :
    parseEventsFile parse lib json_path = some (channel_name, events) ↔
      ∃ data, parse json_path = some data ∧ HasString data "channel_name" channel_name ∧
        List.Forall₂ (Describes lib channel_name) (memberOf data "events").elements events := by
  rw [parse_file_iff]
  refine exists_congr fun data => and_congr_right fun _ => ?_
  exact read_file_iff

end Reading

section Reports

def HasFlag (value : Json D) (key : Text) (b : Bool) : Prop :=
  ∃ members, memberOf value "general_information" = .object members ∧
    members.lookup key = some (.boolean b)

/-- An event of a file whose texts stay as they are on their way, with both flags. -/
structure PlainEvent (login channel : Text) (value : Json D) : Prop where
  name : ∀ t, HasString value "event_name" t → PlainText t
  city : ∀ t, HasString value "city" t → PlainText t
  description : ∀ t, HasString value "description" t → PlainText t ∧ Unambiguous login t ∧
    ∀ named, destinationIn t = some named → named = channel
  keys : ∀ members, memberOf value "general_information" = .object members →
    (members.map Prod.fst).Nodup
  active : ∃ b, HasFlag value "active" b
  forces : ∃ b, HasFlag value "forces_arrival_at_scene" b

/-- The event has what the file says, and it is the login's. -/
structure Shows (lib : Library D) (login : Text) (value : Json D) (event : EventReport.Event) :
    Prop where
  name : HasString value "event_name" event.name
  city : HasString value "city" event.city
  dateTime : HasInt lib value "date_time" event.dateTime
  description : HasString value "description" event.description
  active : ∀ b, HasFlag value "active" b → isTrue event "active" = b
  forces : ∀ b, HasFlag value "forces_arrival_at_scene" b →
    isTrue event "forces_arrival_at_scene" = b
  owner : event.eventOwnerUser = login

variable {lib : Library D} {login channel key : Text} {value : Json D}
  {event event' : EventReport.Event} {b : Bool}

def spelled (b : Bool) : Text := if b then "true" else "false"

theorem spelled_plain (b : Bool) : PlainText (spelled b) := by
  cases b <;> decide

theorem flag_spelled (spells : ∀ b, lib.dump (.boolean b) = spelled b)
    (describes : Describes lib channel value event) (plain : PlainEvent login channel value)
    (flag : HasFlag value key b) : event.generalInformation.lookup key = some (spelled b) := by
  obtain ⟨members, object, found⟩ := flag
  rw [describes.information, object, ← spells b]
  exact collect_lookup (updateText lib) (plain.keys members object) found

theorem is_true_spelled (held : event.generalInformation.lookup key = some (spelled b)) :
    isTrue event key = b := by
  unfold EventSummary.isTrue
  rw [held]
  cases b <;> decide

theorem described_reportable (spells : ∀ b, lib.dump (.boolean b) = spelled b)
    (user : Word login) (describes : Describes lib channel value event)
    (plain : PlainEvent login channel value) : Reportable login event := by
  obtain ⟨active, activeFlag⟩ := plain.active
  obtain ⟨forces, forcesFlag⟩ := plain.forces
  obtain ⟨_, _, _, _, converted⟩ := describes.dateTime
  exact ⟨user, plain.city _ describes.city, plain.name _ describes.name,
    (plain.description _ describes.description).1, int_range converted,
    ⟨_, flag_spelled spells describes plain activeFlag, spelled_plain active⟩,
    ⟨_, flag_spelled spells describes plain forcesFlag, spelled_plain forces⟩⟩

theorem shown_of_same (spells : ∀ b, lib.dump (.boolean b) = spelled b)
    (describes : Describes lib channel value event) (plain : PlainEvent login channel value)
    (same : SameReport login event event') : Shows lib login value event' where
  name := same.name ▸ describes.name
  city := same.city ▸ describes.city
  dateTime := same.dateTime ▸ describes.dateTime
  description := same.description ▸ describes.description
  active := fun _ flag => is_true_spelled (same.active.trans
    (flag_spelled spells describes plain flag))
  forces := fun _ flag => is_true_spelled (same.forces.trans
    (flag_spelled spells describes plain flag))
  owner := same.owner

/-- The server gets the frame as it was sent, and every MESSAGE that it then sends shows the
    event of the file. -/
structure Arrives (lib : Library D) (login channel : Text) (value : Json D)
    (f : CppFrame.StompFrame) : Prop where
  decoded : ∀ later, decodeMessage [] (sendFrame f.createFrame ++ later) =
    some (f.createFrame, later)
  shown : ∀ (w : Surroundings) (c : Nat) (s : ServerState) (h : ConnectionHandler) (text : Text),
    HandlerIds s → .sent h text ∈ newEvents s (processed w c f.createFrame s) →
    commandOf text = "MESSAGE" →
    ∃ event, reportOf (text ++ [nul]) = some (channel, event) ∧ Shows lib login value event

theorem described_arrives (spells : ∀ b, lib.dump (.boolean b) = spelled b)
    (user : Word login) (joined : Word channel) (describes : Describes lib channel value event)
    (plain : PlainEvent login channel value) :
    ∃ f, reportFrame login channel event = some f ∧ Arrives lib login channel value f := by
  have reportable := described_reportable spells user describes plain
  obtain ⟨_, unambiguous, settled⟩ := plain.description _ describes.description
  obtain ⟨active, activeFlag, _⟩ := reportable.active
  obtain ⟨forces, forcesFlag, _⟩ := reportable.forces
  have written : reportBody login event = some _ := report_body_lines activeFlag forcesFlag
  have free := report_body_nul_free user.nulFree reportable.nulFree written
  have reported := (congrArg (Option.map _) written : reportFrame login channel event = some _)
  have decoded := decode_sent (send_sendable joined free).text
  refine ⟨_, reported, decoded, ?_⟩
  intro w c s h text ids sent named
  obtain ⟨b, made, relayed⟩ := broadcast_of_relay (message_is_relay ids sent named)
  let r : Report := ⟨login, channel, event, reportable, unambiguous, joined, settled⟩
  obtain ⟨event', filed, same⟩ := carried_read r (broadcast_carries r reported (decoded []) made)
  rw [relayed] at filed
  exact ⟨event', filed, shown_of_same spells describes plain same⟩

theorem frames_arrive {values : List (Json D)} {events : List EventReport.Event}
    (spells : ∀ b, lib.dump (.boolean b) = spelled b) (user : Word login)
    (joined : Word channel) (described : List.Forall₂ (Describes lib channel) values events)
    (plain : ∀ value ∈ values, PlainEvent login channel value) :
    List.Forall₂ (Arrives lib login channel) values
      (events.filterMap (reportFrame login channel)) := by
  induction described with
  | nil => exact .nil
  | @cons value event values events first _ ih =>
    obtain ⟨f, reported, arrives⟩ := described_arrives spells user joined first
      (plain value List.mem_cons_self)
    rw [List.filterMap_cons_some reported]
    exact .cons arrives (ih fun value' member => plain value' (List.mem_cons_of_mem value member))

/-- The command sends one frame for each event of the file, in their order, and each comes out
    at a listener with the values of the file. -/
theorem file_reported {parse : Text → Option (Json D)} {json_path : Text} {data : Json D}
    {events : List EventReport.Event} {client : Client} {id : Int}
    (spells : ∀ b, lib.dump (.boolean b) = spelled b)
    (user : Word client.currentUser) (joined : Word channel)
    (held : client.subscriptions.lookup channel = some id) (parsed : parse json_path = some data)
    (read : parseEventsFile parse lib json_path = some (channel, events))
    (plain : ∀ value ∈ (memberOf data "events").elements,
      PlainEvent client.currentUser channel value) :
    ∃ frames, runWords (parseEventsFile parse lib) client ["report".toList, json_path] =
        some (client, frames) ∧
      List.Forall₂ (Arrives lib client.currentUser channel) (memberOf data "events").elements
        frames := by
  obtain ⟨data', same, made⟩ := parse_file_iff.mp read
  obtain rfl := Option.some.inj (parsed.symm.trans same)
  obtain ⟨_, described⟩ := read_file_iff.mp made
  refine ⟨_, ?_, frames_arrive spells user joined described plain⟩
  change (parseEventsFile parse lib json_path).map _ = _
  rw [read]
  change some (client.report channel events) = _
  unfold Client.report
  rw [held, ← report_frames_eq client.currentUser channel events rfl]

end Reports

section Example

/-- An event as the files in `data` have it, its members in the order of their keys. -/
def fileEvent (city : Text) (date_time : Int) (description event_name : Text)
    (active forces : Bool) : Json D :=
  .object [("city", .string city), ("date_time", .number date_time),
    ("description", .string description), ("event_name", .string event_name),
    ("general_information", .object [("active", .boolean active),
      ("forces_arrival_at_scene", .boolean forces)])]

theorem file_event_plain {login channel city description name : Text} {n : Int}
    {active forces : Bool} (cityPlain : PlainText city) (namePlain : PlainText name)
    (plain : PlainText description) (unambiguous : Unambiguous login description)
    (settled : ∀ named, destinationIn description = some named → named = channel) :
    PlainEvent (D := D) login channel (fileEvent city n description name active forces) where
  name := by
    rintro t ⟨_, same, found⟩
    cases same
    cases found
    exact namePlain
  city := by
    rintro t ⟨_, same, found⟩
    cases same
    cases found
    exact cityPlain
  description := by
    rintro t ⟨_, same, found⟩
    cases same
    cases found
    exact ⟨plain, unambiguous, settled⟩
  keys := by
    intro members object
    cases object
    exact (by decide : ["active".toList, "forces_arrival_at_scene".toList].Nodup)
  active := ⟨active, _, rfl, rfl⟩
  forces := ⟨forces, _, rfl, rfl⟩

def scalarText : Json Empty → Text
  | .null => "null"
  | .boolean b => spelled b
  | .number n => decimal n
  | _ => []

def wholeNumbers : Library Empty := ⟨nofun, scalarText, nofun⟩

def carjacking : Json Empty :=
  fileEvent "San Fierro" 1735257600 "Suspect fled eastbound." "Carjacking" true true

def breakIn : Json Empty :=
  fileEvent "Hyrule" 1735279200 "Homeowner scared them off." "Breaking and Entering" false false

def policeFile : Json Empty :=
  .object [("channel_name", .string "police"), ("events", .array [carjacking, breakIn])]

def inPolice : Client := ((Client.connected "meni").join "police").1

theorem police_file_plain : ∀ value ∈ (memberOf policeFile "events").elements,
    PlainEvent inPolice.currentUser "police" value := by
  intro value member
  rcases List.mem_cons.mp member with rfl | member
  · exact file_event_plain (by decide) (by decide) (by decide)
      ⟨fun k => by cases k <;> rfl, by decide, by decide⟩ nofun
  · obtain rfl := List.mem_singleton.mp member
    exact file_event_plain (by decide) (by decide) (by decide)
      ⟨fun k => by cases k <;> rfl, by decide, by decide⟩ nofun

theorem police_file_read : ∃ events,
    parseEventsFile (fun _ => some policeFile) wholeNumbers "events1.json" =
      some ("police".toList, events) :=
  ⟨_, rfl⟩

theorem police_file_reported : ∃ frames,
    runWords (parseEventsFile (fun _ => some policeFile) wholeNumbers) inPolice
      ["report".toList, "events1.json".toList] = some (inPolice, frames) ∧
    List.Forall₂ (Arrives wholeNumbers "meni" "police") [carjacking, breakIn] frames := by
  obtain ⟨events, read⟩ := police_file_read
  exact file_reported (fun _ => rfl) (by decide) (by decide) rfl rfl read police_file_plain

end Example

end EventsFile
