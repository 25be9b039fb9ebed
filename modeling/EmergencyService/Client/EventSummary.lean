import EmergencyService.Client.KeyboardLoop
import EmergencyService.Client.ReportFiling
import EmergencyService.Foundation.SplitLoops
import EmergencyService.Foundation.StdSort

/- The `summary` command: the reports of one user on one channel, counted, sorted and written to
   a file. A character of a text is one `char`, as `length` and `substr` count them. -/
namespace EventSummary
open JavaRuntime CppRuntime JavaFrame EventReport ServerResponses KeyboardLoop StdSort GuardedRuns

def getEvents_ByUser (channel : Channel) (user : Text) : List Event :=
  channel.events.filter fun e => e.eventOwnerUser = user

def getEventbyUser (channels : OrderedMap Channel) (channelname user : Text) : List Event :=
  match channels.lookup channelname with
  | some channel => getEvents_ByUser channel user
  | none => []

/-- The fields of `std::tm` that are printed. -/
structure Tm where
  mday : Int
  mon : Int
  year : Int
  hour : Int
  min : Int
  deriving DecidableEq, Repr

/-- `std::gmtime`. The calendar is counted in years that begin in March, and in eras of 400
    years, which all have the same number of days. -/
def gmtime (time : Int) : Tm :=
  let days := time / 86400 + 719468
  let dayOfEra := days % 146097
  let yearOfEra := (dayOfEra - dayOfEra / 1460 + dayOfEra / 36524 - dayOfEra / 146096) / 365
  let dayOfYear := dayOfEra - (365 * yearOfEra + yearOfEra / 4 - yearOfEra / 100)
  let month := (5 * dayOfYear + 2) / 153
  { mday := dayOfYear - (153 * month + 2) / 5 + 1
    mon := if month < 10 then month + 3 else month - 9
    year := yearOfEra + 400 * (days / 146097) + if month < 10 then 0 else 1
    hour := time % 86400 / 3600
    min := time % 3600 / 60 }

def twoDigits (n : Int) : Text := if n < 10 then '0' :: decimal n else decimal n

/-- `std::put_time` with "%d/%m/%y %H:%M" on the time in UTC. -/
def epoch_to_date (epoch_time : Int) : Text :=
  let tm := gmtime epoch_time
  twoDigits tm.mday ++ '/' :: twoDigits tm.mon ++ '/' :: twoDigits (tm.year % 100) ++
    ' ' :: twoDigits tm.hour ++ ':' :: twoDigits tm.min

example : epoch_to_date 951782400 = "29/02/00 00:00" ∧
    epoch_to_date (-2147483648) = "13/12/01 20:45" ∧
    epoch_to_date 2147483647 = "19/01/38 03:14" := by decide

structure Counts where
  active_count : Int
  forces_arrival_count : Int

/-- `find` and the comparison of the value with "true". -/
def isTrue (event : Event) (flag : Text) : Bool :=
  event.generalInformation.lookup flag = some "true".toList

def Counts.add (counts : Counts) (event : Event) : Counts where
  active_count :=
    if isTrue event "active" then wrapInt (counts.active_count + 1) else counts.active_count
  forces_arrival_count :=
    if isTrue event "forces_arrival_at_scene" then wrapInt (counts.forces_arrival_count + 1)
    else counts.forces_arrival_count

def reportBefore (a b : Event) : Bool :=
  if a.dateTime ≠ b.dateTime then decide (a.dateTime < b.dateTime) else decide (a.name < b.name)

def summaryText (description : Text) : Text :=
  if description.length > 27 then description.take 27 ++ "...".toList else description

def writeReports (report_number : Int) : List Event → Text
  | [] => []
  | event :: events =>
      "Report_".toList ++ decimal report_number ++ ":\n".toList ++
      "\tCity: ".toList ++ event.city ++ ['\n'] ++
      "\tDate Time: ".toList ++ epoch_to_date event.dateTime ++ ['\n'] ++
      "\tEvent Name: ".toList ++ event.name ++ ['\n'] ++
      "\tSummary: ".toList ++ summaryText event.description ++ ['\n'] ++
      writeReports (wrapInt (report_number + 1)) events

/-- What `writeToFile` puts into a file that it could open. -/
def writeToFile (std : SortRoutine Event) (channel_name : Text) (events : List Event) : Text :=
  let total_reports := wrapInt events.length
  let counts := events.foldl Counts.add ⟨0, 0⟩
  "Channel < ".toList ++ channel_name ++ " >\n".toList ++
  "Stats:\n".toList ++
  "Total: ".toList ++ decimal total_reports ++ ['\n'] ++
  "Active: ".toList ++ decimal counts.active_count ++ ['\n'] ++
  "Forces Arrival at Scene: ".toList ++ decimal counts.forces_arrival_count ++ ['\n'] ++
  "Event Reports:\n".toList ++
  writeReports 1 (std.sort reportBefore events)

/-- The command with its three words: the path and the content of the file, when one is
    written. -/
def summary (std : SortRoutine Event) (is_open : Text → Bool) (console : Console)
    (channel_name user file_path : Text) : Option (Text × Text) :=
  match console.client.subscriptions.lookup channel_name with
  | none => none
  | some _ =>
      let events := getEventbyUser console.channels channel_name user
      if events.isEmpty then none
      else if is_open file_path then some (file_path, writeToFile std channel_name events)
      else none

def entryLines (number : Nat) (event : Event) : List Text :=
  ["Report_".toList ++ decimal number ++ [':'],
    "\tCity: ".toList ++ event.city,
    "\tDate Time: ".toList ++ epoch_to_date event.dateTime,
    "\tEvent Name: ".toList ++ event.name,
    "\tSummary: ".toList ++ if event.description.length ≤ 27 then event.description
      else event.description.take 27 ++ "...".toList]

def flagCount (flag : Text) (reports : List Event) : Nat :=
  reports.countP fun event => isTrue event flag

/-- The lines of a summary of the reports, with the entries in the given order. -/
def fileLines (channel_name : Text) (reports ordered : List Event) : List Text :=
  ["Channel < ".toList ++ channel_name ++ " >".toList, "Stats:".toList,
    "Total: ".toList ++ decimal reports.length,
    "Active: ".toList ++ decimal (flagCount "active" reports),
    "Forces Arrival at Scene: ".toList ++ decimal (flagCount "forces_arrival_at_scene" reports),
    "Event Reports:".toList] ++
  (ordered.zipIdx 1).flatMap fun place => entryLines place.2 place.1

/-- Not later, and at the same time not with a larger name. -/
def InOrder (a b : Event) : Prop :=
  a.dateTime < b.dateTime ∨ a.dateTime = b.dateTime ∧ ¬ b.name < a.name

/-- The file has every report once, in order, and counts them. -/
def Complete (channel_name : Text) (reports : List Event) (content : Text) : Prop :=
  ∃ ordered : List Event, ordered.Perm reports ∧ ordered.Pairwise InOrder ∧
    content = (fileLines channel_name reports ordered).flatMap (· ++ ['\n'])

section Sorting

theorem before_iff (a b : Event) : reportBefore a b = true ↔
    a.dateTime < b.dateTime ∨ a.dateTime = b.dateTime ∧ a.name < b.name := by
  unfold reportBefore
  by_cases same : a.dateTime = b.dateTime <;> simp [same]

theorem before_order : Comparator reportBefore :=
  two_keys_order Event.dateTime Event.name before_iff

theorem in_order_of_sorted {a b : Event} (sorted : reportBefore b a = false) : InOrder a b := by
  have behind := Bool.eq_false_iff.mp sorted
  rw [ne_eq, before_iff] at behind
  unfold InOrder
  by_cases same : a.dateTime = b.dateTime
  · exact Or.inr ⟨same, fun less => behind (Or.inr ⟨same.symm, less⟩)⟩
  · left
    by_contra less
    exact behind (Or.inl (by omega))

end Sorting

section Counting
variable {events : List Event}

theorem counted_from {counts : Counts} {a f : Nat} (active : counts.active_count = a)
    (forces : counts.forces_arrival_count = f) (fewActive : a + events.length < 2 ^ 31)
    (fewForces : f + events.length < 2 ^ 31) :
    (events.foldl Counts.add counts).active_count = (a + flagCount "active" events : Nat) ∧
      (events.foldl Counts.add counts).forces_arrival_count =
        (f + flagCount "forces_arrival_at_scene" events : Nat) := by
  induction events generalizing counts a f with
  | nil => exact ⟨active, forces⟩
  | cons event events ih =>
    rw [List.length_cons] at fewActive fewForces
    have next {n : Nat} (few : n + 1 < 2 ^ 31) : wrapInt ((n : Int) + 1) = (n + 1 : Nat) := by
      rw [wrap_int_range ⟨by omega, by omega⟩, Nat.cast_succ]
    have step (flag : Text) {n : Nat} {count : Int} (held : count = n)
        (few : n + (events.length + 1) < 2 ^ 31) :
        (if isTrue event flag then wrapInt (count + 1) else count) =
          (n + if isTrue event flag then 1 else 0 : Nat) := by
      subst held
      by_cases flagged : isTrue event flag = true
      · rw [if_pos flagged, if_pos flagged, next (by omega)]
      · rw [if_neg flagged, if_neg flagged, Nat.add_zero]
    have bound (flag : Text) : (if isTrue event flag then 1 else 0) ≤ 1 := by split <;> omega
    have active' : (counts.add event).active_count = _ := step "active" active fewActive
    have forces' : (counts.add event).forces_arrival_count = _ :=
      step "forces_arrival_at_scene" forces fewForces
    have tail := ih active' forces' (by have := bound "active"; omega)
      (by have := bound "forces_arrival_at_scene"; omega)
    unfold flagCount at tail ⊢
    rw [List.foldl_cons, tail.1, tail.2, List.countP_cons, List.countP_cons]
    constructor <;> congr 1 <;> omega

end Counting

section File
variable {std : SortRoutine Event} {channel_name : Text} {events : List Event}

theorem entry_text (number : Nat) (event : Event) :
    (entryLines number event).flatMap (· ++ ['\n']) =
      "Report_".toList ++ decimal number ++ ":\n".toList ++
      "\tCity: ".toList ++ event.city ++ ['\n'] ++
      "\tDate Time: ".toList ++ epoch_to_date event.dateTime ++ ['\n'] ++
      "\tEvent Name: ".toList ++ event.name ++ ['\n'] ++
      "\tSummary: ".toList ++ summaryText event.description ++ ['\n'] := by
  have title : ":\n".toList = [':'] ++ ['\n'] := rfl
  have short : (if event.description.length ≤ 27 then event.description
      else event.description.take 27 ++ "...".toList) = summaryText event.description := by
    unfold summaryText
    by_cases long : event.description.length > 27
    · rw [if_pos long, if_neg (by omega)]
    · rw [if_neg long, if_pos (by omega)]
  unfold entryLines
  rw [short, title]
  generalize "Report_".toList = report, "\tCity: ".toList = city, "\tDate Time: ".toList = date,
    "\tEvent Name: ".toList = name, "\tSummary: ".toList = summary
  simp only [List.flatMap_cons, List.flatMap_nil, List.append_assoc, List.append_nil]

theorem write_next (report_number : Nat) (event : Event) :
    writeReports report_number (event :: events) =
      (entryLines report_number event).flatMap (· ++ ['\n']) ++
        writeReports (wrapInt ((report_number : Int) + 1)) events := by
  rw [entry_text]
  rfl

theorem reports_numbered {number : Nat} (few : number + events.length ≤ 2 ^ 31) :
    writeReports number events =
      ((events.zipIdx number).flatMap fun place => entryLines place.2 place.1).flatMap
        (· ++ ['\n']) := by
  induction events generalizing number with
  | nil => rfl
  | cons event events ih =>
    rw [List.length_cons] at few
    have tail : writeReports (wrapInt ((number : Int) + 1)) events =
        ((events.zipIdx (number + 1)).flatMap fun place => entryLines place.2 place.1).flatMap
          (· ++ ['\n']) := by
      cases events with
      | nil => rfl
      | cons next later =>
        rw [List.length_cons] at few ih
        rw [wrap_int_range ⟨by omega, by omega⟩, ← Nat.cast_succ]
        exact ih (by omega)
    rw [write_next, tail, List.zipIdx_cons, List.flatMap_cons, List.flatMap_append]

theorem head_text (ordered : List Event) :
    (fileLines channel_name events ordered).flatMap (· ++ ['\n']) =
      ("Channel < ".toList ++ channel_name ++ " >\n".toList ++ "Stats:\n".toList ++
        "Total: ".toList) ++ (decimal events.length ++ '\n' ::
      ("Active: ".toList ++ decimal (flagCount "active" events) ++ ['\n'] ++
        "Forces Arrival at Scene: ".toList ++
        decimal (flagCount "forces_arrival_at_scene" events) ++ ['\n'] ++
        "Event Reports:\n".toList ++
        ((ordered.zipIdx 1).flatMap fun place => entryLines place.2 place.1).flatMap
          (· ++ ['\n']))) := by
  have first : " >\n".toList = " >".toList ++ ['\n'] := rfl
  have second : "Stats:\n".toList = "Stats:".toList ++ ['\n'] := rfl
  have last : "Event Reports:\n".toList = "Event Reports:".toList ++ ['\n'] := rfl
  unfold fileLines
  rw [first, second, last, List.flatMap_append]
  simp only [List.flatMap_cons, List.flatMap_nil, List.append_assoc, List.append_nil,
    List.cons_append, List.nil_append]

theorem total_text : writeToFile std channel_name events =
    ("Channel < ".toList ++ channel_name ++ " >\n".toList ++ "Stats:\n".toList ++
      "Total: ".toList) ++ (decimal (wrapInt events.length) ++ '\n' ::
    ("Active: ".toList ++ decimal (events.foldl Counts.add ⟨0, 0⟩).active_count ++ ['\n'] ++
      "Forces Arrival at Scene: ".toList ++
      decimal (events.foldl Counts.add ⟨0, 0⟩).forces_arrival_count ++ ['\n'] ++
      "Event Reports:\n".toList ++ writeReports 1 (std.sort reportBefore events))) := by
  unfold writeToFile
  simp only [List.append_assoc, List.cons_append, List.nil_append]

theorem line_unique {a b x y : Text} (first : LineFree a) (second : LineFree b)
    (same : a ++ '\n' :: x = b ++ '\n' :: y) : a = b := by
  have scanned := congrArg (SplitLoops.scan '\n' []) same
  rw [SplitLoops.scan_cut first, SplitLoops.scan_cut second] at scanned
  exact congrArg Prod.fst scanned

theorem wrap_fixed_iff (n : Nat) : wrapInt n = n ↔ n < 2 ^ 31 := by
  constructor
  · intro fixed
    have bound := Int.bmod_lt (x := n) (m := 2 ^ 32) (by decide)
    unfold wrapInt at fixed
    rw [fixed] at bound
    omega
  · intro few
    exact wrap_int_range ⟨by omega, by omega⟩

theorem file_complete_iff :
    Complete channel_name events (writeToFile std channel_name events) ↔
      events.length < 2 ^ 31 := by
  constructor
  · rintro ⟨ordered, _, _, content⟩
    rw [total_text, head_text] at content
    have totals := line_unique (decimal_line_free _) (decimal_line_free _)
      (List.append_cancel_left content)
    exact (wrap_fixed_iff _).mp (decimal_injective totals)
  · intro few
    have perm := std.perm reportBefore before_order events
    have sorted := std.sorted reportBefore before_order events
    refine ⟨std.sort reportBefore events, perm, sorted.imp in_order_of_sorted, ?_⟩
    obtain ⟨active, forces⟩ :
        (events.foldl Counts.add ⟨0, 0⟩).active_count = (0 + flagCount "active" events : Nat) ∧
          (events.foldl Counts.add ⟨0, 0⟩).forces_arrival_count =
            (0 + flagCount "forces_arrival_at_scene" events : Nat) :=
      counted_from rfl rfl (by omega) (by omega)
    have size := perm.length_eq
    have numbered : writeReports (1 : Nat) (std.sort reportBefore events) = _ :=
      reports_numbered (by omega)
    rw [total_text, head_text, (wrap_fixed_iff _).mpr few, active, forces, Nat.zero_add,
      Nat.zero_add, ← numbered]
    rfl

end File

/-- The report that the client files for an answer, with its channel. -/
def reportOf (answer : Text) : Option (Text × Event) :=
  match CppFrame.StompFrame.ofText answer with
  | .error _ => none
  | .ok frame =>
      if frame.command = "MESSAGE" ∧ channelName answer ≠ [] then
        match parseEventReport frame.body (channelName answer) with
        | .error _ => none
        | .ok event => some (channelName answer, event)
      else none

/-- The reports that have been received, on any channels and from any users, in order. -/
def received (steps : List ThreadStep) : List (Text × Event) :=
  steps.filterMap fun
    | .answer answer => reportOf answer
    | .keyboard _ => none

/-- Those on one channel that one user owns. -/
def reportsOf (steps : List ThreadStep) (channel user : Text) : List Event :=
  (((received steps).filter fun report => report.1 = channel).map Prod.snd).filter
    fun event => event.eventOwnerUser = user

def stored (channels : OrderedMap Channel) (channel : Text) : List Event :=
  match channels.lookup channel with
  | some held => held.events
  | none => []

section Storing
variable {console console' : Console} {client client' : Listener}

theorem get_event_stored (channels : OrderedMap Channel) (channel user : Text) :
    getEventbyUser channels channel user =
      (stored channels channel).filter fun event => event.eventOwnerUser = user := by
  unfold getEventbyUser stored getEvents_ByUser
  cases channels.lookup channel <;> rfl

theorem add_report_stored (channel : Text) (event : Event) (k : Text) :
    stored (client.addReport channel event).channels k =
      stored client.channels k ++ if k = channel then [event] else [] := by
  unfold stored
  rw [ReportFiling.add_report_lookup]
  by_cases here : k = channel
  · rw [if_pos here, if_pos here, here]
    cases client.channels.lookup channel <;> rfl
  · rw [if_neg here, if_neg here, List.append_nil]

theorem receipt_channels {headers : OrderedMap Text}
    (done : receiptBranch client headers = .ok client') : client'.channels = client.channels := by
  unfold receiptBranch at done
  split at done
  · cases done
  · split at done
    · cases done
    · split at done <;> cases done <;> rfl

theorem respond_report {answer ch : Text} {event : Event}
    (found : reportOf answer = some (ch, event)) (client : Listener) :
    respond client answer = .ok (client.addReport ch event) := by
  unfold reportOf at found
  unfold respond
  cases read : CppFrame.StompFrame.ofText answer with
  | error e =>
    rw [read] at found
    cases found
  | ok frame =>
    rw [read] at found
    dsimp only at found ⊢
    split at found
    · rename_i both
      have receipt : frame.command ≠ "RECEIPT" := by rw [both.1]; decide
      have error : frame.command ≠ "ERROR" := by rw [both.1]; decide
      rw [if_neg receipt, if_neg error, if_pos both.1]
      unfold messageBranch
      dsimp only
      rw [if_pos both.2]
      cases parsed : parseEventReport frame.body (channelName answer) with
      | error e =>
        rw [parsed] at found
        cases found
      | ok event' =>
        rw [parsed] at found
        cases found
        rfl
    · cases found

theorem respond_other {answer : Text} (nothing : reportOf answer = none)
    (responded : respond client answer = .ok client') : client'.channels = client.channels := by
  unfold reportOf at nothing
  unfold respond at responded
  cases read : CppFrame.StompFrame.ofText answer with
  | error e =>
    rw [read] at responded
    cases responded
  | ok frame =>
    rw [read] at nothing responded
    dsimp only at nothing responded
    split at responded
    · exact receipt_channels responded
    split at responded
    · cases responded
      rfl
    split at responded
    · rename_i message
      unfold messageBranch at responded
      dsimp only at responded
      split at responded
      · rename_i named
        rw [if_pos ⟨message, named⟩] at nothing
        cases parsed : parseEventReport frame.body (channelName answer) with
        | error e =>
          rw [parsed] at responded
          cases responded
        | ok event =>
          rw [parsed] at nothing
          cases nothing
      · cases responded
        rfl
    · cases responded
      rfl

theorem respond_stored {answer : Text} (responded : respond client answer = .ok client')
    (k : Text) : stored client'.channels k = stored client.channels k ++
      ((reportOf answer).toList.filter fun report => report.1 = k).map Prod.snd := by
  cases found : reportOf answer with
  | none =>
    rw [respond_other found responded]
    exact (List.append_nil _).symm
  | some report =>
    obtain ⟨ch, event⟩ := report
    rw [respond_report found] at responded
    cases responded
    rw [add_report_stored]
    by_cases here : k = ch
    · simp [here]
    · simp [here, Ne.symm here]

theorem put_channels (taken : Nat) (after : ChannelCommands.Client × List CppFrame.StompFrame) :
    (console.put taken after).1.channels = console.channels := by
  unfold Console.put
  split <;> rfl

theorem keyboard_channels {step : KeyboardStep} {frames : List CppFrame.StompFrame}
    (acted : console.act step = some (console', frames)) :
    console'.channels = console.channels := by
  rcases keyboard_cases acted with ⟨line, rfl, same⟩ | ⟨files, taken, line, rfl, _, ran⟩
  · cases same
    rfl
  · obtain ⟨n, ⟨words, _, same⟩ | same | same⟩ := carry_out_cases ran
    · have kept := congrArg (fun after => after.1.channels) same
      exact kept.trans (put_channels n words)
    · cases same
      rfl
    · cases same
      rfl

theorem step_stored {step : ThreadStep} (stepped : console.step step = some console')
    (k : Text) : stored console'.channels k = stored console.channels k ++
      ((received [step]).filter fun report => report.1 = k).map Prod.snd := by
  cases step with
  | keyboard step =>
    obtain ⟨⟨after, frames⟩, acted, rfl⟩ := Option.map_eq_some_iff.mp stepped
    rw [keyboard_channels acted]
    exact (List.append_nil _).symm
  | answer answer =>
    simp only [Console.step] at stepped
    split at stepped
    · cases stepped
    · split at stepped
      · cases stepped
      · rename_i listener responded
        cases stepped
        have added := respond_stored responded k
        have one : received [.answer answer] = (reportOf answer).toList := by
          unfold received
          cases found : reportOf answer with
          | none => exact List.filterMap_cons_none found
          | some report => exact List.filterMap_cons_some found
        rw [one]
        exact added

theorem steps_stored {steps : List ThreadStep}
    (ran : acts Console.step steps console = some console') (k : Text) :
    stored console'.channels k = stored console.channels k ++
      ((received steps).filter fun report => report.1 = k).map Prod.snd := by
  induction steps generalizing console with
  | nil =>
    cases ran
    exact (List.append_nil _).symm
  | cons step steps ih =>
    obtain ⟨next, stepped, later⟩ := Option.bind_eq_some_iff.mp ran
    have whole : received (step :: steps) = received [step] ++ received steps :=
      List.filterMap_append (l := [step])
    rw [ih later, step_stored stepped, whole, List.filter_append, List.map_append,
      List.append_assoc]

end Storing

section Runs
variable {user : Text} {steps : List ThreadStep} {console : Console} {std : SortRoutine Event}
  {is_open : Text → Bool} {channel owner path content : Text}

theorem received_owned (ran : acts Console.step steps (.connected user) = some console)
    (channel owner : Text) :
    getEventbyUser console.channels channel owner = reportsOf steps channel owner := by
  have empty : stored (Console.connected user).channels channel = [] := rfl
  rw [get_event_stored, steps_stored ran, empty, List.nil_append]
  rfl

theorem summary_written (ran : acts Console.step steps (.connected user) = some console)
    (written : summary std is_open console channel owner path = some (path, content)) :
    content = writeToFile std channel (reportsOf steps channel owner) := by
  rw [← received_owned ran]
  unfold summary at written
  split at written
  · cases written
  · dsimp only at written
    split at written
    · cases written
    · split at written
      · exact (Prod.mk.inj (Option.some.inj written)).2.symm
      · cases written

/-- Whatever has been typed and received, in any order: the file of a summary is complete exactly
    when the number of its reports fits into an `int`. -/
theorem summary_complete_iff (ran : acts Console.step steps (.connected user) = some console)
    (written : summary std is_open console channel owner path = some (path, content)) :
    Complete channel (reportsOf steps channel owner) content ↔
      (reportsOf steps channel owner).length < 2 ^ 31 := by
  rw [summary_written ran written]
  exact file_complete_iff

/-- A MESSAGE to the channel police with a report of the user dana. -/
def policeAnswer (name : Text) : Text :=
  "MESSAGE\ndestination:police\n\nuser:dana\ncity:Haifa\nevent name:".toList ++ name ++
    "\ndate time:42\ngeneral information:\n\tactive:true\ndescription:\nhouse\n".toList ++
    [FrameStream.nul]

def joinPolice : List ThreadStep :=
  [.keyboard (.read "join police"), .keyboard (.carryOut (fun _ => none) 1)]

def twoReports : List ThreadStep :=
  joinPolice ++ [.answer (policeAnswer "smoke"), .answer (policeAnswer "fire")]

theorem two_reports_summarized :
    ∃ console content, acts Console.step twoReports (.connected "meni") = some console ∧
      summary .insertion (fun _ => true) console "police" "dana" "out" =
        some ("out".toList, content) ∧
      Complete "police" (reportsOf twoReports "police" "dana") content := by
  have ran : (acts Console.step twoReports (.connected "meni")).any (fun console =>
      (summary .insertion (fun _ => true) console "police" "dana" "out").any fun file =>
        file.1 = "out".toList) = true := by decide +kernel
  obtain ⟨console, acted, wrote⟩ := (Option.any_eq_true _ _).mp ran
  obtain ⟨⟨path, content⟩, written, named⟩ := (Option.any_eq_true _ _).mp wrote
  have path_eq : path = "out".toList := of_decide_eq_true named
  subst path_eq
  have few : (reportsOf twoReports "police" "dana").length < 2 ^ 31 := by decide +kernel
  exact ⟨console, content, acted, written, (summary_complete_iff acted written).mpr few⟩

end Runs

section ManyReports
variable {answer ch : Text} {event : Event}

/-- The client goes on listening and stays subscribed, however often the answer comes. -/
theorem answers_run (found : reportOf answer = some (ch, event)) {console : Console}
    (listening : console.terminateServerResponses = false) (n : Nat) :
    ∃ console', acts Console.step (List.replicate n (.answer answer)) console = some console' ∧
      console'.client.subscriptions = console.client.subscriptions := by
  induction n generalizing console with
  | zero => exact ⟨console, rfl, rfl⟩
  | succ n ih =>
    have stepped : console.step (.answer answer) =
        some (console.heard (console.listener.addReport ch event)) := by
      unfold Console.step
      simp only [listening, Bool.false_eq_true, if_false, respond_report found]
    have still : (console.heard (console.listener.addReport ch event)).terminateServerResponses =
        false := (ReportFiling.add_report_listening console.listener ch event).trans listening
    obtain ⟨console', ran, same⟩ := ih still
    refine ⟨console', ?_, same⟩
    rw [List.replicate_succ, acts, stepped]
    exact ran

theorem received_answers (found : reportOf answer = some (ch, event)) (n : Nat) :
    received (List.replicate n (.answer answer)) = List.replicate n (ch, event) := by
  induction n with
  | zero => rfl
  | succ n ih =>
    rw [List.replicate_succ, List.replicate_succ, ← ih]
    exact List.filterMap_cons_some found

def manyReports (n : Nat) : List ThreadStep :=
  joinPolice ++ List.replicate n (.answer (policeAnswer "smoke"))

theorem many_reports_summarized {n : Nat} (some_sent : 0 < n) :
    (reportsOf (manyReports n) "police" "dana").length = n ∧
      ∃ console content, acts Console.step (manyReports n) (.connected "meni") = some console ∧
        summary .insertion (fun _ => true) console "police" "dana" "out" =
          some ("out".toList, content) := by
  have joined : (acts Console.step joinPolice (.connected "meni")).any (fun console =>
      !console.terminateServerResponses &&
        (console.client.subscriptions.lookup "police".toList).isSome) = true := by decide +kernel
  have report : (reportOf (policeAnswer "smoke")).any (fun report =>
      report.1 = "police".toList ∧ report.2.eventOwnerUser = "dana".toList) = true := by
    decide +kernel
  obtain ⟨console, joinedRun, state⟩ := (Option.any_eq_true _ _).mp joined
  obtain ⟨⟨ch, event⟩, found, fields⟩ := (Option.any_eq_true _ _).mp report
  simp only [Bool.and_eq_true, Bool.not_eq_true'] at state
  obtain ⟨named, owned⟩ := of_decide_eq_true fields
  obtain ⟨console', ran, same⟩ := answers_run found state.1 n
  have whole : acts Console.step (manyReports n) (.connected "meni") = some console' := by
    rw [manyReports, acts_append, joinedRun]
    exact ran
  have reports : reportsOf (manyReports n) "police" "dana" = List.replicate n event := by
    have nothing : received joinPolice = [] := rfl
    have all : received (manyReports n) = List.replicate n (ch, event) := by
      rw [← received_answers found]
      exact List.filterMap_append.trans (by rw [← received, nothing]; rfl)
    unfold reportsOf
    rw [all]
    dsimp only at named owned
    simp [named, owned]
  obtain ⟨id, held⟩ := Option.isSome_iff_exists.mp (same ▸ state.2)
  have written : summary .insertion (fun _ => true) console' "police" "dana" "out" =
      some ("out".toList, writeToFile .insertion "police" (List.replicate n event)) := by
    obtain ⟨m, rfl⟩ := Nat.exists_eq_succ_of_ne_zero some_sent.ne'
    unfold summary
    rw [held, received_owned whole, reports]
    rfl
  exact ⟨by rw [reports, List.length_replicate], console', _, whole, written⟩

/-- With 2^31 reports the total is negative. -/
theorem too_many_reports :
    ∃ console content, acts Console.step (manyReports (2 ^ 31)) (.connected "meni") =
        some console ∧
      summary .insertion (fun _ => true) console "police" "dana" "out" =
        some ("out".toList, content) ∧
      ¬ Complete "police" (reportsOf (manyReports (2 ^ 31)) "police" "dana") content := by
  have some_sent : 0 < 2 ^ 31 := by norm_num
  obtain ⟨size, console, content, ran, written⟩ := many_reports_summarized some_sent
  refine ⟨console, content, ran, written, ?_⟩
  rw [summary_written ran written, file_complete_iff, size]
  exact lt_irrefl _

end ManyReports

end EventSummary
