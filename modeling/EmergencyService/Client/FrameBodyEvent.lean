import EmergencyService.Client.ReportLines
import EmergencyService.Foundation.StreamLines

/- The other reader of a report: the constructor of `Event` that takes the body of a frame, and
   what it makes of a body that the `report` command has written. -/
namespace FrameBodyEvent
open JavaRuntime CppRuntime EventReport ReportLines StreamLines
open JavaFrame (LineFree)

def split_str (str : Text) (delimiter : Char) : List Text := lines delimiter str

/-- The members that the loop of the constructor sets, and its two variables. -/
structure BodyFields where
  channelName : Text := []
  city : Text := []
  name : Text := []
  dateTime : Int := 0
  description : Text := []
  eventOwnerUser : Text := []
  generalInformation : OrderedMap Text := ∅
  inGeneralInformation : Bool := false

/-- `lineArgs.at(1)`, if there are two. -/
def valueOf : List Text → Text
  | [_, val] => val
  | _ => []

namespace BodyFields
variable (fields : BodyFields) (key val : Text)

def setOwner : BodyFields :=
  let fields := if key = "user".toList then { fields with eventOwnerUser := val } else fields
  if key = "channel name".toList then { fields with channelName := val } else fields

def setField : Except CppException BodyFields :=
  if key = "city".toList then .ok { fields with city := val }
  else if key = "event name".toList then .ok { fields with name := val }
  else if key = "date time".toList then (stoi val).map fun n => { fields with dateTime := n }
  else .ok fields

/-- The end of the loop body; `substr(1)` of an empty key throws. -/
def setInformation : Except CppException BodyFields :=
  if fields.inGeneralInformation then
    match key with
    | [] => .error .outOfRange
    | _ :: name => .ok { fields with
        generalInformation := fields.generalInformation.insert name val }
  else .ok fields

end BodyFields

/-- The loop over the lines. At "description" the inner loop reads all the others, and at
    "general information" the loop goes on at once. -/
def readBody (fields : BodyFields) : List Text → Except CppException BodyFields
  | [] => .ok fields
  | line :: rest =>
      if ':' ∈ line then
        match split_str line ':' with
        | [] => .error .outOfRange
        | key :: values =>
            let val := valueOf (key :: values)
            let fields := fields.setOwner key val
            if key = "general information".toList then
              readBody { fields with inGeneralInformation := true } rest
            else if key = "description".toList then
              BodyFields.setInformation
                { fields with description := rest.flatMap (· ++ ['\n']) } key val
            else do
              let fields ← fields.setField key val
              let fields ← fields.setInformation key val
              readBody fields rest
      else readBody fields rest

def ofFrameBody (frame_body : Text) : Except CppException Event :=
  (readBody {} (split_str frame_body '\n')).map fun fields =>
    ⟨fields.channelName, fields.city, fields.name, fields.dateTime, fields.description,
      fields.generalInformation, fields.eventOwnerUser⟩

/-- What is left of a value behind its key: a value with a colon in it comes in two parts. -/
def single (value : Text) : Text :=
  match lines ':' value with
  | [val] => val
  | _ => []

section Lines
variable {fields : BodyFields} {key value : Text} {rest : List Text}

theorem single_eq_iff : single value = value ↔ ':' ∉ value := by
  constructor
  · intro same
    unfold single at same
    split at same
    · rename_i val one
      rw [← same]
      have piece : val ∈ lines ':' value := by
        rw [one]
        exact List.mem_singleton_self val
      exact lines_free val piece
    · rw [← same]
      exact List.not_mem_nil
  · intro free
    unfold single
    rw [lines_last free]
    by_cases empty : value = []
    · rw [if_pos empty, empty]
    · rw [if_neg empty]

theorem read_line (free : ':' ∉ key) : readBody fields ((key ++ ':' :: value) :: rest) =
    if key = "general information".toList then
      readBody { fields.setOwner key (single value) with inGeneralInformation := true } rest
    else if key = "description".toList then
      BodyFields.setInformation
        { fields.setOwner key (single value) with description := rest.flatMap (· ++ ['\n']) }
        key (single value)
    else (do
      let fields ← (fields.setOwner key (single value)).setField key (single value)
      let fields ← fields.setInformation key (single value)
      readBody fields rest) := by
  have colon : ':' ∈ key ++ ':' :: value := by simp
  have parts : split_str (key ++ ':' :: value) ':' = key :: lines ':' value := lines_cut free
  have val : valueOf (key :: lines ':' value) = single value := by
    unfold single
    rcases lines ':' value with _ | ⟨first, _ | ⟨second, more⟩⟩ <;> rfl
  rw [readBody, if_pos colon, parts]
  dsimp only
  rw [val]

theorem read_member (next : BodyFields) (free : ':' ∉ key)
    (member : key ≠ "general information".toList ∧ key ≠ "description".toList)
    (set : (fields.setOwner key (single value)).setField key (single value) = .ok next)
    (before : next.inGeneralInformation = false) :
    readBody fields ((key ++ ':' :: value) :: rest) = readBody next rest := by
  have outside : next.setInformation key (single value) = .ok next := by
    simp [BodyFields.setInformation, before]
  rw [read_line free, if_neg member.1, if_neg member.2, set, ok_bind, outside, ok_bind]

theorem read_heading : readBody fields (("general information".toList ++ ':' :: []) :: rest) =
    readBody { fields with inGeneralInformation := true } rest := by
  rw [read_line (by decide), if_pos rfl]
  rfl

theorem information_inserted {c : Char} {name val : Text} (title : key = c :: name)
    (inside : fields.inGeneralInformation = true) :
    fields.setInformation key val = .ok { fields with
      generalInformation := fields.generalInformation.insert name val } := by
  simp [BodyFields.setInformation, inside, title]

theorem read_information {c : Char} {name : Text} (title : key = c :: name) (free : ':' ∉ key)
    (member : key ≠ "general information".toList ∧ key ≠ "description".toList)
    (set : (fields.setOwner key (single value)).setField key (single value) = .ok fields)
    (inside : fields.inGeneralInformation = true) :
    readBody fields ((key ++ ':' :: value) :: rest) =
      readBody { fields with
        generalInformation := fields.generalInformation.insert name (single value) } rest := by
  rw [read_line free, if_neg member.1, if_neg member.2, set, ok_bind,
    information_inserted title inside, ok_bind]

theorem read_description (inside : fields.inGeneralInformation = true) :
    readBody fields (("description".toList ++ ':' :: []) :: rest) =
      .ok { fields with
        description := rest.flatMap (· ++ ['\n'])
        generalInformation := fields.generalInformation.insert "escription".toList [] } := by
  have title : "description".toList = 'd' :: "escription".toList := rfl
  rw [read_line (by decide), if_neg (by decide), if_pos rfl]
  exact information_inserted title inside

end Lines

section Reports
variable {login active forces body : Text} {e : Event} {rest : List Text}

/-- Values that stay on their line. -/
structure SingleLines (login active forces : Text) (e : Event) : Prop where
  login : LineFree login
  city : LineFree e.city
  name : LineFree e.name
  active : LineFree active
  forces : LineFree forces
  dateTime : IntRange e.dateTime

/-- The lines of a report in front of its description, each with its key. -/
def headLines (login : Text) (e : Event) (active forces : Text) : List Text :=
  ["user".toList ++ ':' :: login, "city".toList ++ ':' :: e.city,
    "event name".toList ++ ':' :: e.name, "date time".toList ++ ':' :: decimal e.dateTime,
    "general information".toList ++ ':' :: [], "\tactive".toList ++ ':' :: active,
    "\tforces_arrival_at_scene".toList ++ ':' :: forces, "description".toList ++ ':' :: []]

theorem keyed_line_free {key value : Text} (title : LineFree key) (free : LineFree value) :
    LineFree (key ++ ':' :: value) := by
  unfold LineFree at *
  simp [title, free]

theorem body_lines (plain : SingleLines login active forces e) :
    lines '\n' ((reportLines login e active forces).flatMap (· ++ ['\n'])) =
      headLines login e active forces ++ lines '\n' (e.description ++ ['\n']) := by
  have head : reportLines login e active forces =
      headLines login e active forces ++ [e.description] := rfl
  have free : ∀ l ∈ headLines login e active forces, '\n' ∉ l := by
    unfold headLines
    simp only [List.forall_mem_cons]
    refine ⟨keyed_line_free (by decide) plain.login, keyed_line_free (by decide) plain.city,
      keyed_line_free (by decide) plain.name,
      keyed_line_free (by decide) (JavaFrame.decimal_line_free e.dateTime), by decide,
      keyed_line_free (by decide) plain.active, keyed_line_free (by decide) plain.forces,
      by decide, nofun⟩
  rw [head, List.flatMap_append, List.flatMap_singleton, lines_written free]

theorem decimal_uncut (n : Int) : ':' ∉ decimal n := by
  intro inside
  rcases decimal_chars n ':' inside with sign | isDigit
  · exact absurd sign (by decide)
  · exact absurd isDigit (by decide)

theorem read_report_lines (plain : SingleLines login active forces e) :
    readBody {} (headLines login e active forces ++ rest) = .ok {
      city := single e.city
      name := single e.name
      dateTime := e.dateTime
      description := rest.flatMap (· ++ ['\n'])
      eventOwnerUser := single login
      generalInformation :=
        (((∅ : OrderedMap Text).insert "active".toList (single active)).insert
          "forces_arrival_at_scene".toList (single forces)).insert "escription".toList []
      inGeneralInformation := true } := by
  have dateTime : stoi (single (decimal e.dateTime)) = .ok e.dateTime := by
    rw [single_eq_iff.mpr (decimal_uncut e.dateTime), stoi_decimal plain.dateTime]
  have set_time (fields : BodyFields) :
      (fields.setOwner "date time".toList (single (decimal e.dateTime))).setField
        "date time".toList (single (decimal e.dateTime)) =
      .ok { fields with dateTime := e.dateTime } := by
    change (stoi (single (decimal e.dateTime))).map _ = _
    rw [dateTime]
    rfl
  unfold headLines
  simp only [List.cons_append, List.nil_append]
  -- in front of the general information every line sets its member
  rw [read_member { eventOwnerUser := single login } (by decide) (by decide) rfl rfl,
    read_member { eventOwnerUser := single login, city := single e.city } (by decide)
      (by decide) rfl rfl,
    read_member { eventOwnerUser := single login, city := single e.city, name := single e.name }
      (by decide) (by decide) rfl rfl,
    read_member _ (by decide) (by decide) (set_time _) rfl]
  have active : "\tactive".toList = '\t' :: "active".toList := rfl
  have forces : "\tforces_arrival_at_scene".toList = '\t' :: "forces_arrival_at_scene".toList :=
    rfl
  -- from there on it is an entry of the map
  rw [read_heading, read_information active (by decide) (by decide) rfl rfl,
    read_information forces (by decide) (by decide) rfl rfl, read_description rfl]

theorem of_report_body (plain : SingleLines login active forces e)
    (activeFlag : e.generalInformation.lookup "active".toList = some active)
    (forcesFlag : e.generalInformation.lookup "forces_arrival_at_scene".toList = some forces) :
    ∃ body, reportBody login e = some body ∧ ofFrameBody body = .ok
      ⟨[], single e.city, single e.name, e.dateTime, e.description ++ ['\n'],
        (((∅ : OrderedMap Text).insert "active".toList (single active)).insert
          "forces_arrival_at_scene".toList (single forces)).insert "escription".toList [],
        single login⟩ := by
  refine ⟨_, report_body_lines activeFlag forcesFlag, ?_⟩
  unfold ofFrameBody split_str
  rw [body_lines plain, read_report_lines plain, lines_glued]
  rfl

/-- The date and the description come back, the description with a newline behind it. A value
    with a colon in it is lost. The heading of the description is among the flags. -/
theorem report_read_back (plain : SingleLines login active forces e)
    (activeFlag : e.generalInformation.lookup "active".toList = some active)
    (forcesFlag : e.generalInformation.lookup "forces_arrival_at_scene".toList = some forces) :
    ∃ body event, reportBody login e = some body ∧ ofFrameBody body = .ok event ∧
      event.dateTime = e.dateTime ∧ event.description = e.description ++ ['\n'] ∧
      event.channelName = [] ∧
      (event.eventOwnerUser = login ↔ ':' ∉ login) ∧ (event.city = e.city ↔ ':' ∉ e.city) ∧
      (event.name = e.name ↔ ':' ∉ e.name) ∧
      (event.generalInformation.lookup "active".toList =
        e.generalInformation.lookup "active".toList ↔ ':' ∉ active) ∧
      (event.generalInformation.lookup "forces_arrival_at_scene".toList =
        e.generalInformation.lookup "forces_arrival_at_scene".toList ↔ ':' ∉ forces) ∧
      ∀ key, key ∈ event.generalInformation ↔ key = "active".toList ∨
        key = "forces_arrival_at_scene".toList ∨ key = "escription".toList := by
  obtain ⟨body, written, read⟩ := of_report_body plain activeFlag forcesFlag
  refine ⟨body, _, written, read, rfl, rfl, rfl, single_eq_iff, single_eq_iff, single_eq_iff,
    ?_, ?_, fun key => ?_⟩
  · rw [activeFlag, AList.lookup_insert_ne (by decide), AList.lookup_insert_ne (by decide),
      AList.lookup_insert, Option.some.injEq, single_eq_iff]
  · rw [forcesFlag, AList.lookup_insert_ne (by decide), AList.lookup_insert,
      Option.some.injEq, single_eq_iff]
  · simp only [AList.mem_insert, AList.notMem_empty, or_false]
    tauto

/-- An event with a colon in its name and two lines of description. -/
def gateFire : Event where
  channelName := "police".toList
  city := "Haifa".toList
  name := "fire: gate 5".toList
  dateTime := 42
  description := "smoke\nand flames".toList
  generalInformation := (AList.insert "active".toList "true".toList ∅).insert
    "forces_arrival_at_scene".toList "false".toList

theorem gate_fire_plain : SingleLines "meni".toList "true".toList "false".toList gateFire where
  login := by decide
  city := by decide
  name := by decide
  active := by decide
  forces := by decide
  dateTime := by decide

theorem gate_fire_read_back : ∃ body event, reportBody "meni".toList gateFire = some body ∧
    ofFrameBody body = .ok event ∧ event.description = "smoke\nand flames\n".toList ∧
    event.city = "Haifa".toList ∧ event.name ≠ "fire: gate 5".toList := by
  obtain ⟨body, event, written, read, -, description, -, -, city, name, -⟩ :=
    report_read_back gate_fire_plain rfl rfl
  exact ⟨body, event, written, read, description, city.mpr (by decide),
    fun same => absurd (name.mp same) (by decide)⟩

end Reports

end FrameBodyEvent
