import EmergencyService.Client.ReportLines

/- What a valid report is, by its lines alone, and what the loop of `parseEventReport`
   makes of any lines: each variable holds what the last line for it says. -/
namespace ReportValidity
open JavaRuntime CppRuntime JavaFrame FrameExchange FrameStream EventReport ReportLines

section Values

/-- What a trimmed line says about a field. -/
def valueIn (k : FieldName) (line : Text) : Option Text :=
  if startsWith line k.start then some (line.drop k.start.length) else none

/-- What the last line with the title of the field says. -/
def valueOf (k : FieldName) (lines : List Text) : Option Text :=
  (lines.filterMap (valueIn k)).getLast?

instance (line : Text) : Decidable (Unmarked line) :=
  decidable_of_iff ([FieldName.user, .city, .eventName, .time, .active, .forceArrive].all
      fun k => !startsWith line k.start) (by
    simp only [List.all_eq_true, Bool.not_eq_true']
    exact ⟨fun all k => all k (by cases k <;> simp), fun unmarked k _ => unmarked k⟩)

/-- A line that a heading stands in front of and that has no title of its own. -/
def describes (pair : Text × Text) : Option Text :=
  if pair.1 = "description:".toList ∧ Unmarked pair.2 then some pair.2 else none

/-- The last description; `previous` is the line in front of the first one. -/
def descriptionFrom (previous : Text) (lines : List Text) : Option Text :=
  (((previous :: lines).zip lines).filterMap describes).getLast?

def descriptionOf (lines : List Text) : Option Text := descriptionFrom [] lines

theorem last_of_found {A B : Type} (f : A → Option B) (a : A) (later : List A) :
    ((a :: later).filterMap f).getLast? = (later.filterMap f).getLast?.or (f a) := by
  cases found : f a with
  | none => simp [found]
  | some b =>
    rw [List.filterMap_cons_some found]
    cases last : later.filterMap f with
    | nil => rfl
    | cons c more => simp [List.getLast?_cons]

theorem value_of_cons (k : FieldName) (line : Text) (lines : List Text) :
    valueOf k (line :: lines) = (valueOf k lines).or (valueIn k line) :=
  last_of_found (valueIn k) line lines

theorem description_from_cons (previous line : Text) (lines : List Text) :
    descriptionFrom previous (line :: lines) =
      (descriptionFrom line lines).or (describes (previous, line)) := by
  unfold descriptionFrom
  rw [List.zip_cons_cons, last_of_found]

end Values

section Loop

def fieldOf (fields : ReportFields) : FieldName → Text
  | .user => fields.user
  | .city => fields.city
  | .eventName => fields.eventName
  | .time => fields.time
  | .active => fields.active
  | .forceArrive => fields.forceArrive

theorem get_set_same (k : FieldName) (value : Text) (fields : ReportFields) :
    fieldOf (k.set value fields) k = value := by
  cases k <;> rfl

theorem get_set_other {k k' : FieldName} (other : k ≠ k') (value : Text) (fields : ReportFields) :
    fieldOf (k'.set value fields) k = fieldOf fields k := by
  cases k <;> cases k' <;> first | rfl | exact absurd rfl other

theorem trimmed_twice (line : Text) : trimmed (trimmed line) = trimmed line := by
  have front : ((line.dropWhile isBlank).rdropWhile isBlank).dropWhile isBlank =
      (line.dropWhile isBlank).rdropWhile isBlank := by
    cases shape : line.dropWhile isBlank with
    | nil => rfl
    | cons c rest =>
      have dark : isBlank c = false := by
        have first := List.head?_dropWhile_not isBlank line
        rw [shape] at first
        simpa using first
      cases kept : (c :: rest).rdropWhile isBlank with
      | nil => rfl
      | cons d more =>
        have pref : (c :: rest).rdropWhile isBlank <+: c :: rest := List.rdropWhile_prefix ..
        rw [kept] at pref
        obtain rfl : d = c := (List.cons_prefix_cons.mp pref).1
        simp [dark]
  unfold trimmed
  rw [front, List.rdropWhile_idempotent]

theorem read_trimmed (fields : ReportFields) (line : Text) :
    fields.read line = fields.read (trimmed line) := by
  unfold ReportFields.read
  rw [trimmed_twice]

theorem title_unique {k k' : FieldName} {line : Text} (here : startsWith line k.start = true)
    (there : startsWith line k'.start = true) : k = k' := by
  simp only [startsWith, List.isPrefixOf_iff_prefix] at here there
  rcases List.prefix_or_prefix_of_prefix here there with inside | inside
  · revert inside
    cases k <;> cases k' <;> decide
  · revert inside
    cases k <;> cases k' <;> decide

theorem read_title {fields : ReportFields} {line : Text} {k : FieldName}
    (plain : trimmed line = line) (marked : startsWith line k.start = true) :
    fields.read line =
      { k.set (line.drop k.start.length) fields with previousLine := line } := by
  obtain ⟨value, rfl⟩ := starts_with_iff.mp marked
  rw [trimmed_field, List.append_cancel_left_eq] at plain
  rw [read_field, plain, List.drop_left]

/-- One line: every field with its title is set, and the description when the line stands
    behind a heading. -/
theorem read_line (fields : ReportFields) {line : Text} (plain : trimmed line = line) :
    (∀ k : FieldName, fieldOf (fields.read line) k = (valueIn k line).getD (fieldOf fields k)) ∧
      (fields.read line).description =
        (describes (fields.previousLine, line)).getD fields.description ∧
      (fields.read line).previousLine = line := by
  by_cases marked : ∃ k : FieldName, startsWith line k.start = true
  · obtain ⟨k', marked⟩ := marked
    have titled : ¬ Unmarked line := fun unmarked => by simp [unmarked k'] at marked
    rw [read_title plain marked]
    refine ⟨fun k => ?_, ?_, rfl⟩
    · by_cases same : k = k'
      · subst same
        have here := get_set_same k (line.drop k.start.length) fields
        simpa [valueIn, marked, fieldOf] using here
      · have absent : startsWith line k.start ≠ true := fun here => same (title_unique here marked)
        have kept := get_set_other same (line.drop k'.start.length) fields
        simpa [valueIn, absent, fieldOf] using kept
    · simp only [describes, titled, and_false, if_false, Option.getD_none]
      cases k' <;> rfl
  · have unmarked : Unmarked line := fun k => by
      simpa using fun here => marked ⟨k, here⟩
    rw [read_unmarked fields plain unmarked]
    refine ⟨fun k => ?_, ?_, rfl⟩
    · simp only [valueIn, unmarked k, Bool.false_eq_true, if_false, Option.getD_none]
      cases k <;> rfl
    · by_cases behind : fields.previousLine = "description:".toList
      · have found : describes (fields.previousLine, line) = some line := if_pos ⟨behind, unmarked⟩
        rw [found]
        exact if_pos behind
      · have missing : describes (fields.previousLine, line) = none :=
          if_neg fun both => behind both.1
        rw [missing]
        exact if_neg behind

/-- The whole loop, from any values of the variables. -/
theorem read_lines (lines : List Text) (fields : ReportFields) :
    (∀ k : FieldName, fieldOf (lines.foldl ReportFields.read fields) k =
      (valueOf k (lines.map trimmed)).getD (fieldOf fields k)) ∧
    (lines.foldl ReportFields.read fields).description =
      (descriptionFrom fields.previousLine (lines.map trimmed)).getD fields.description := by
  induction lines generalizing fields with
  | nil => exact ⟨fun k => rfl, rfl⟩
  | cons line lines ih =>
    obtain ⟨values, description, previous⟩ := read_line fields (trimmed_twice line)
    obtain ⟨later, last⟩ := ih (fields.read line)
    rw [read_trimmed] at later last
    rw [List.foldl_cons, read_trimmed, List.map_cons]
    constructor
    · intro k
      rw [later, values, value_of_cons]
      cases valueOf k (lines.map trimmed) with
      | none => rfl
      | some value => rfl
    · rw [last, previous, description, description_from_cons]
      cases descriptionFrom (trimmed line) (lines.map trimmed) with
      | none => rfl
      | some t => rfl

theorem previous_line (lines : List Text) (fields : ReportFields) :
    (lines.foldl ReportFields.read fields).previousLine =
      ((lines.map trimmed).getLast?).getD fields.previousLine := by
  rcases List.eq_nil_or_concat' lines with rfl | ⟨before, last, rfl⟩
  · rfl
  · rw [List.foldl_append, List.map_append]
    simp only [List.foldl_cons, List.foldl_nil, List.map_cons, List.map_nil,
      List.getLast?_concat, Option.getD_some]
    rw [read_trimmed]
    exact (read_line _ (trimmed_twice last)).2.2

end Loop

section Validity

def unsigned : Text → Text
  | '-' :: ds => ds
  | '+' :: ds => ds
  | ds => ds

/-- The whole text is a decimal integer, behind white space at most. -/
def IsInteger (value : Text) (n : Int) : Prop :=
  leadingInt (value.dropWhile isSpace) = some n ∧
    ∀ c ∈ unsigned (value.dropWhile isSpace), c.isDigit = true

/-- The fields are there, in lines that have been trimmed; a heading at the very end has no
    description. -/
structure ValidLines (lines : List Text) : Prop where
  named : ∀ k ∈ [FieldName.user, .city, .eventName], ∃ v, valueOf k lines = some v ∧ v ≠ []
  time : ∃ v n, valueOf .time lines = some v ∧ IsInteger v n ∧ IntRange n
  description : ∃ t, descriptionOf lines = some t ∧ t ≠ []
  complete : lines.getLast? ≠ some "description:".toList

theorem any_iff {A : Type} {found : Option A} {p : A → Prop} [DecidablePred p] :
    (found.any fun v => p v) = true ↔ ∃ v, found = some v ∧ p v := by
  cases found with
  | none => simp
  | some v => simp

instance (value : Text) : Decidable (∃ n, IsInteger value n ∧ IntRange n) :=
  decidable_of_iff (((leadingInt (value.dropWhile isSpace)).any fun n => IntRange n) = true ∧
      (unsigned (value.dropWhile isSpace)).all Char.isDigit = true) (by
    rw [any_iff, List.all_eq_true]
    constructor
    · rintro ⟨⟨n, found, range⟩, digits⟩
      exact ⟨n, ⟨found, digits⟩, range⟩
    · rintro ⟨n, ⟨found, digits⟩, range⟩
      exact ⟨⟨n, found, range⟩, digits⟩)

instance (lines : List Text) : Decidable (ValidLines lines) :=
  decidable_of_iff
    ((∀ k ∈ [FieldName.user, .city, .eventName],
        ((valueOf k lines).any fun v => v ≠ []) = true) ∧
      ((valueOf .time lines).any fun v => ∃ n, IsInteger v n ∧ IntRange n) = true ∧
      ((descriptionOf lines).any fun t => t ≠ []) = true ∧
      lines.getLast? ≠ some "description:".toList) (by
    simp only [any_iff]
    constructor
    · rintro ⟨named, ⟨v, found, n, whole, range⟩, description, complete⟩
      exact ⟨named, ⟨v, n, found, whole, range⟩, description, complete⟩
    · rintro ⟨named, ⟨v, n, found, whole, range⟩, description, complete⟩
      exact ⟨named, ⟨v, found, n, whole, range⟩, description, complete⟩)

def ValidReport (report : Text) : Prop := ValidLines ((EventReport.split report '\n').map trimmed)

instance (report : Text) : Decidable (ValidReport report) :=
  inferInstanceAs (Decidable (ValidLines _))

theorem stoi_integer {value : Text} {n : Int} (whole : IsInteger value n) (range : IntRange n) :
    stoi value = .ok n := by
  unfold stoi
  rw [whole.1]
  exact if_pos range

theorem parse_received (report channelName : Text) :
    parseEventReport (glued (bodyText report ++ [nul])) channelName =
      (((EventReport.split report '\n').foldl ReportFields.read {}).read [nul]).event
        channelName := by
  unfold parseEventReport
  rw [split_glued, split_received, List.foldl_append]
  rfl

theorem valid_accepted {report : Text} (valid : ValidReport report) (channelName : Text) :
    ∃ event, parseEventReport (glued (bodyText report ++ [nul])) channelName = .ok event := by
  obtain ⟨named, ⟨time, n, written, whole, range⟩, ⟨t, described, filled⟩, complete⟩ := valid
  obtain ⟨values, description⟩ := read_lines (EventReport.split report '\n') {}
  have last := previous_line (EventReport.split report '\n') {}
  have behind : ((EventReport.split report '\n').foldl ReportFields.read {}).previousLine ≠
      "description:".toList := by
    intro headed
    rw [last] at headed
    cases shape : ((EventReport.split report '\n').map trimmed).getLast? with
    | none =>
      rw [shape] at headed
      cases headed
    | some line =>
      rw [shape] at headed complete
      exact complete (congrArg some headed)
  rw [parse_received, read_terminator, if_neg behind]
  have nonempty : ∀ k ∈ [FieldName.user, .city, .eventName],
      fieldOf ((EventReport.split report '\n').foldl ReportFields.read {}) k ≠ [] := by
    intro k member
    obtain ⟨v, found, full⟩ := named k member
    rw [values, found]
    exact full
  refine ⟨_, event_accepted _ channelName (nonempty .user (by simp)) (nonempty .city (by simp))
    (nonempty .eventName (by simp)) ?_ (n := n) ?_⟩
  · change ((EventReport.split report '\n').foldl ReportFields.read {}).description ≠ []
    have found : descriptionFrom [] ((EventReport.split report '\n').map trimmed) = some t :=
      described
    rw [description]
    change ((descriptionFrom [] _).getD []) ≠ []
    rw [found]
    exact filled
  · have read := values .time
    rw [written] at read
    change stoi (fieldOf ((EventReport.split report '\n').foldl ReportFields.read {}) .time) = _
    rw [read]
    exact stoi_integer whole range

end Validity

end ReportValidity
