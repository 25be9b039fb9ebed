import EmergencyService.Frames.CppFrame
import Mathlib.Data.List.DropRight

/- The text form of an event: the body that the `report` command writes for it, and
   `parseEventReport`, which reads such a body line by line. -/
namespace EventReport
open JavaRuntime CppRuntime

structure Event where
  channelName : Text
  city : Text
  name : Text
  dateTime : Int
  description : Text
  generalInformation : OrderedMap Text
  eventOwnerUser : Text := []

/-- The loops of `StompProtocol::split`, which drops the empty pieces. -/
def splitFrom (delimiter : Char) (part : Text) : Text → List Text
  | [] => if part = [] then [] else [part]
  | c :: rest =>
      if c = delimiter then (if part = [] then [] else [part]) ++ splitFrom delimiter [] rest
      else splitFrom delimiter (part ++ [c]) rest

def split (line : Text) (delimiter : Char) : List Text := splitFrom delimiter [] line

def isBlank (c : Char) : Bool := c = ' ' || c = '\t'

/-- The two calls of `erase` on a line. -/
def trimmed (line : Text) : Text := (line.dropWhile isBlank).rdropWhile isBlank

/-- `line.find(start) == 0` -/
def startsWith (line start : Text) : Bool := start.isPrefixOf line

/-- `line.substr(line.find(':') + 1)`; without a colon this is the whole line. -/
def afterColon (line : Text) : Text := (CppFrame.headerOf line).2

/-- The variables that the loop of `parseEventReport` sets. -/
structure ReportFields where
  user : Text := []
  city : Text := []
  eventName : Text := []
  time : Text := []
  description : Text := []
  active : Text := []
  forceArrive : Text := []
  previousLine : Text := []
  deriving DecidableEq

def ReportFields.read (fields : ReportFields) (line : Text) : ReportFields :=
  let trimmedLine := trimmed line
  let value := afterColon trimmedLine
  let fields :=
    if startsWith trimmedLine "user:" then { fields with user := value }
    else if startsWith trimmedLine "city:" then { fields with city := value }
    else if startsWith trimmedLine "event name:" then { fields with eventName := value }
    else if startsWith trimmedLine "date time:" then { fields with time := value }
    else if startsWith trimmedLine "active:" then { fields with active := value }
    else if startsWith trimmedLine "forces_arrival_at_scene:" then
      { fields with forceArrive := value }
    else if fields.previousLine = "description:".toList then
      { fields with description := trimmedLine }
    else fields
  { fields with previousLine := trimmedLine }

/-- The map of the two flags that `parseEventReport` builds. -/
def ReportFields.generalInformation (fields : ReportFields) : OrderedMap Text :=
  ((∅ : OrderedMap Text).insert "active".toList fields.active).insert
    "forces_arrival_at_scene".toList fields.forceArrive

/-- The checks after the loop, and the event they let through. -/
def ReportFields.event (fields : ReportFields) (channelName : Text) :
    Except CppException Event :=
  if fields.user = [] ∨ fields.city = [] ∨ fields.eventName = [] ∨ fields.time = [] ∨
      fields.description = [] ∨ fields.generalInformation.keys = [] then
    .error (.runtimeError "Missing required fields in the report.")
  else
    match stoi fields.time with
    | .error .invalidArgument =>
        .error (.runtimeError "Invalid date time format in the report.")
    | .error e => .error e
    | .ok dateTime =>
        .ok ⟨channelName, fields.city, fields.eventName, dateTime, fields.description,
          fields.generalInformation, fields.user⟩

def parseEventReport (report channelName : Text) : Except CppException Event :=
  ((split report '\n').foldl ReportFields.read {}).event channelName

/-- The body of the SEND for one event. There is none when one of the flags is missing. -/
def reportBody (loginedUser : Text) (e : Event) : Option Text :=
  match e.generalInformation.lookup "active".toList with
  | none => none
  | some active =>
      match e.generalInformation.lookup "forces_arrival_at_scene".toList with
      | none => none
      | some forces => some <|
          "user:".toList ++ loginedUser ++ ['\n'] ++
          "city:".toList ++ e.city ++ ['\n'] ++
          "event name:".toList ++ e.name ++ ['\n'] ++
          "date time:".toList ++ decimal e.dateTime ++ ['\n'] ++
          "general information:\n".toList ++
          "\tactive:".toList ++ active ++ ['\n'] ++
          "\tforces_arrival_at_scene:".toList ++ forces ++ ['\n'] ++
          "description:\n".toList ++ e.description ++ ['\n']

/-- The loop of the `report` command over the events of a file, with the header map that
    it keeps from one event to the next. -/
def reportFrames (loginedUser channelName : Text) (headers : OrderedMap Text) :
    List Event → List CppFrame.StompFrame
  | [] => []
  | e :: events =>
      let headers := insertNew "destination" channelName headers
      match reportBody loginedUser e with
      | none => reportFrames loginedUser channelName ∅ events
      | some body =>
          ⟨"SEND", headers, body⟩ :: reportFrames loginedUser channelName headers events

def reportFrame (loginedUser channelName : Text) (e : Event) : Option CppFrame.StompFrame :=
  (reportBody loginedUser e).map fun body =>
    ⟨"SEND", insertNew "destination" channelName ∅, body⟩

theorem report_frames_eq (loginedUser channelName : Text) (events : List Event)
    {headers : OrderedMap Text}
    (kept : insertNew "destination" channelName headers = insertNew "destination" channelName ∅) :
    reportFrames loginedUser channelName headers events =
      events.filterMap (reportFrame loginedUser channelName) := by
  induction events generalizing headers with
  | nil => rfl
  | cons e events ih =>
    cases built : reportBody loginedUser e with
    | none =>
      simp only [reportFrames, built, ih rfl, List.filterMap_cons, reportFrame, Option.map_none]
    | some body =>
      have again := ih (insert_new_twice "destination" channelName ∅)
      simp only [reportFrames, built, kept, again, List.filterMap_cons, reportFrame,
        Option.map_some]

end EventReport
