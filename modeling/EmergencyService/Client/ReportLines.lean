import EmergencyService.Client.EventReport
import EmergencyService.Frames.FrameStream

/- The lines of a report as `parseEventReport` reads them: which line sets which variable,
   and when the event comes out as it was written. -/
namespace ReportLines
open JavaRuntime CppRuntime JavaFrame FrameExchange FrameStream EventReport

section Splitting
variable {d : Char} {t part : Text}

theorem split_from_append (a b : Text) :
    EventReport.splitFrom d part (a ++ d :: b) =
      EventReport.splitFrom d part a ++ EventReport.split b d := by
  induction a generalizing part with
  | nil => simp [EventReport.splitFrom, EventReport.split]
  | cons c a ih =>
    by_cases here : c = d
    · simp [EventReport.splitFrom, here, ih]
    · simp [EventReport.splitFrom, here, ih]

theorem split_append (a b : Text) :
    EventReport.split (a ++ d :: b) d = EventReport.split a d ++ EventReport.split b d :=
  split_from_append a b

theorem split_from_piece (free : d ∉ t) (nonempty : part ++ t ≠ []) :
    EventReport.splitFrom d part t = [part ++ t] := by
  induction t generalizing part with
  | nil =>
    have filled : part ≠ [] := by simpa using nonempty
    simp [EventReport.splitFrom, filled]
  | cons c t ih =>
    have first : c ≠ d := fun here => free (by simp [here])
    have tail : d ∉ t := fun here => free (List.mem_cons_of_mem c here)
    have later : EventReport.splitFrom d (part ++ [c]) t = [part ++ [c] ++ t] := ih tail (by simp)
    simpa [EventReport.splitFrom, first] using later

theorem split_piece (free : d ∉ t) (nonempty : t ≠ []) : EventReport.split t d = [t] :=
  split_from_piece free nonempty

@[simp] theorem split_empty : EventReport.split [] d = [] := rfl

theorem split_lines {lines : List Text} (plain : ∀ l ∈ lines, d ∉ l ∧ l ≠ []) :
    EventReport.split (lines.flatMap (· ++ [d])) d = lines := by
  induction lines with
  | nil => rfl
  | cons l lines ih =>
    obtain ⟨free, nonempty⟩ := plain l (by simp)
    have tail := ih fun l' member => plain l' (List.mem_cons_of_mem l member)
    simp only [List.flatMap_cons, List.append_assoc, List.singleton_append]
    rw [split_append, split_piece free nonempty, tail]
    rfl

theorem split_from_pieces (free : d ∉ part) : ∀ piece ∈ EventReport.splitFrom d part t,
    piece ≠ [] ∧ d ∉ piece ∧ ∀ c ∈ piece, c ∈ part ∨ c ∈ t := by
  induction t generalizing part with
  | nil =>
    intro piece member
    by_cases empty : part = []
    · simp [EventReport.splitFrom, empty] at member
    · simp only [EventReport.splitFrom, empty, ↓reduceIte, List.mem_singleton] at member
      subst member
      exact ⟨empty, free, fun c here => Or.inl here⟩
  | cons b t ih =>
    intro piece member
    by_cases here : b = d
    · simp only [EventReport.splitFrom, here, ↓reduceIte, List.mem_append] at member
      rcases member with first | later
      · split at first
        · simp at first
        · rename_i filled
          obtain rfl := List.mem_singleton.mp first
          exact ⟨filled, free, fun c inside => Or.inl inside⟩
      · obtain ⟨nonempty, undivided, chars⟩ := ih (by simp) piece later
        refine ⟨nonempty, undivided, fun c inside => ?_⟩
        rcases chars c inside with none' | rest
        · simp at none'
        · exact Or.inr (List.mem_cons_of_mem b rest)
    · simp only [EventReport.splitFrom, here, ↓reduceIte] at member
      have grown : d ∉ part ++ [b] := by simp [free, Ne.symm here]
      obtain ⟨nonempty, undivided, chars⟩ := ih grown piece member
      refine ⟨nonempty, undivided, fun c inside => ?_⟩
      rcases chars c inside with old | rest
      · rcases List.mem_append.mp old with old | new
        · exact Or.inl old
        · exact Or.inr (by simp_all)
      · exact Or.inr (List.mem_cons_of_mem b rest)

/-- Both frame classes change newlines only, so the lines stay the same. -/
theorem split_glued (t : Text) :
    EventReport.split (glued t) '\n' = EventReport.split t '\n' := by
  have from_part : ∀ part : Text, LineFree part →
      EventReport.split ((JavaFrame.splitFrom part t).flatMap Token.text) '\n' =
        EventReport.splitFrom '\n' part t := by
    induction t with
    | nil =>
      intro part free
      by_cases empty : part = []
      · simp [JavaFrame.splitFrom, EventReport.splitFrom, empty]
      · simp [JavaFrame.splitFrom, EventReport.splitFrom, empty, split_piece free empty]
    | cons c t ih =>
      intro part free
      by_cases line : c = '\n'
      · have later := ih [] (by simp [LineFree])
        have skipped : ∀ rest, EventReport.split ('\n' :: rest) '\n' =
            EventReport.split rest '\n' := fun rest => split_append [] rest
        by_cases empty : part = []
        · simp [JavaFrame.splitFrom, EventReport.splitFrom, line, empty, later]
        · simp only [JavaFrame.splitFrom, EventReport.splitFrom, line, empty, ↓reduceIte,
            List.cons_append, List.flatMap_cons, text_part, text_newline, List.nil_append]
          rw [split_append, split_piece free empty, ← later]
          split <;> simp [skipped]
      · have grown : LineFree (part ++ [c]) := by
          simpa [LineFree, Ne.symm line] using free
        simp [JavaFrame.splitFrom, EventReport.splitFrom, line, ih _ grown]
  exact from_part [] (by simp [LineFree])

theorem split_body_text (t : Text) :
    EventReport.split (bodyText t) '\n' = EventReport.split t '\n' := by
  by_cases empty : t = []
  · simp [bodyText, empty]
  · simp [bodyText, empty, split_append]

theorem split_received (t : Text) :
    EventReport.split (bodyText t ++ [nul]) '\n' = EventReport.split t '\n' ++ [[nul]] := by
  have last : EventReport.split [nul] '\n' = [[nul]] := rfl
  by_cases empty : t = []
  · simp [bodyText, empty, last]
  · simp [bodyText, empty, split_append, last]

end Splitting

section Fields

/-- The lines that `parseEventReport` tells apart by their beginning. -/
inductive FieldName where
  | user | city | eventName | time | active | forceArrive
  deriving DecidableEq

def FieldName.title : FieldName → Text
  | .user => "user"
  | .city => "city"
  | .eventName => "event name"
  | .time => "date time"
  | .active => "active"
  | .forceArrive => "forces_arrival_at_scene"

def FieldName.start (k : FieldName) : Text := k.title ++ [':']

def FieldName.set (value : Text) (fields : ReportFields) : FieldName → ReportFields
  | .user => { fields with user := value }
  | .city => { fields with city := value }
  | .eventName => { fields with eventName := value }
  | .time => { fields with time := value }
  | .active => { fields with active := value }
  | .forceArrive => { fields with forceArrive := value }

def Unmarked (line : Text) : Prop := ∀ k : FieldName, startsWith line k.start = false

def stripped (value : Text) : Text := value.rdropWhile isBlank

theorem stripped_append {a : Text} {c : Char} (dark : isBlank c = false) (value : Text) :
    stripped (a ++ c :: value) = a ++ c :: stripped value := by
  induction value using List.reverseRecOn with
  | nil => simp [stripped, dark]
  | append_singleton value last ih =>
    have regrouped : a ++ c :: (value ++ [last]) = (a ++ c :: value) ++ [last] := by simp
    unfold stripped at ih ⊢
    by_cases blank : isBlank last = true
    · rw [regrouped, List.rdropWhile_concat_pos _ _ _ blank,
        List.rdropWhile_concat_pos _ _ _ blank, ih]
    · rw [regrouped, List.rdropWhile_concat_neg _ _ _ blank,
        List.rdropWhile_concat_neg _ _ _ blank]
      simp

theorem trimmed_field (k : FieldName) (value : Text) :
    trimmed (k.start ++ value) = k.start ++ stripped value := by
  have front : (k.start ++ value).dropWhile isBlank = k.start ++ value := by
    cases k <;> rfl
  have dark : isBlank ':' = false := rfl
  have back := stripped_append (a := k.title) dark value
  unfold trimmed
  rw [front]
  simpa [FieldName.start, stripped] using back

variable (fields : ReportFields)

theorem read_field (k : FieldName) (value : Text) :
    fields.read (k.start ++ value) =
      { k.set (stripped value) fields with previousLine := k.start ++ stripped value } := by
  unfold ReportFields.read
  rw [trimmed_field]
  cases k <;> rfl

theorem starts_with_iff {line start : Text} :
    startsWith line start = true ↔ ∃ value, line = start ++ value := by
  simp only [startsWith, List.isPrefixOf_iff_prefix, List.prefix_iff_eq_append]
  exact ⟨fun h => ⟨_, h.symm⟩, by rintro ⟨value, rfl⟩; simp⟩

theorem read_marked {line : Text} {k : FieldName} (marked : startsWith line k.start = true) :
    (fields.read line).description = fields.description ∧
      (fields.read line).previousLine = trimmed line := by
  obtain ⟨value, rfl⟩ := starts_with_iff.mp marked
  rw [read_field, trimmed_field]
  cases k <;> exact ⟨rfl, rfl⟩

theorem read_unmarked {line : Text} (plain : trimmed line = line) (unmarked : Unmarked line) :
    fields.read line =
      { fields with
        description := if fields.previousLine = "description:".toList then line
          else fields.description
        previousLine := line } := by
  have user : startsWith line "user:" = false := unmarked .user
  have city : startsWith line "city:" = false := unmarked .city
  have eventName : startsWith line "event name:" = false := unmarked .eventName
  have time : startsWith line "date time:" = false := unmarked .time
  have active : startsWith line "active:" = false := unmarked .active
  have forceArrive : startsWith line "forces_arrival_at_scene:" = false :=
    unmarked .forceArrive
  unfold ReportFields.read
  rw [plain]
  simp only [user, city, eventName, time, active, forceArrive, Bool.false_eq_true, if_false]
  split <;> rfl

theorem read_indented (line : Text) : fields.read ('\t' :: line) = fields.read line := by
  have same : trimmed ('\t' :: line) = trimmed line := rfl
  unfold ReportFields.read
  rw [same]

end Fields

structure Word (t : Text) : Prop where
  nonempty : t ≠ []
  undivided : ' ' ∉ t
  lineFree : LineFree t
  nulFree : NulFree t

instance (t : Text) : Decidable (Word t) :=
  decidable_of_iff (t ≠ [] ∧ ' ' ∉ t ∧ LineFree t ∧ NulFree t)
    ⟨fun ⟨nonempty, undivided, lineFree, nulFree⟩ => ⟨nonempty, undivided, lineFree, nulFree⟩,
      fun word => ⟨word.nonempty, word.undivided, word.lineFree, word.nulFree⟩⟩

theorem word_of_split {line word : Text} (lineFree : LineFree line) (nulFree : NulFree line)
    (member : word ∈ EventReport.split line ' ') : Word word := by
  obtain ⟨nonempty, undivided, chars⟩ := split_from_pieces (by simp) word member
  have inside : ∀ c ∈ word, c ∈ line := fun c here => (chars c here).resolve_left (by simp)
  exact ⟨nonempty, undivided, fun here => lineFree (inside _ here),
    fun here => nulFree (inside _ here)⟩

structure PlainText (t : Text) : Prop where
  nonempty : t ≠ []
  lineFree : LineFree t
  nulFree : NulFree t
  front : ∀ c ∈ t.head?, isBlank c = false
  back : ∀ c ∈ t.getLast?, isBlank c = false

theorem dark_iff {o : Option Char} :
    o.all (fun c => !isBlank c) = true ↔ ∀ c ∈ o, isBlank c = false := by
  cases o <;> simp

instance (t : Text) : Decidable (PlainText t) :=
  decidable_of_iff (t ≠ [] ∧ LineFree t ∧ NulFree t ∧ t.head?.all (fun c => !isBlank c) = true ∧
      t.getLast?.all (fun c => !isBlank c) = true)
    ⟨fun ⟨nonempty, lineFree, nulFree, front, back⟩ =>
        ⟨nonempty, lineFree, nulFree, dark_iff.mp front, dark_iff.mp back⟩,
      fun plain => ⟨plain.nonempty, plain.lineFree, plain.nulFree, dark_iff.mpr plain.front,
        dark_iff.mpr plain.back⟩⟩

theorem stripped_eq_iff {t : Text} :
    stripped t = t ↔ ∀ c ∈ t.getLast?, isBlank c = false := by
  unfold stripped
  rw [List.rdropWhile_eq_self_iff]
  constructor
  · intro dark c last
    have nonempty : t ≠ [] := by rintro rfl; simp at last
    rw [List.getLast?_eq_getLast_of_ne_nil nonempty, Option.mem_some_iff] at last
    subst last
    simpa using dark nonempty
  · intro dark nonempty
    simpa using dark _ (List.getLast_mem_getLast? nonempty)

theorem PlainText.trimmed {t : Text} (plain : PlainText t) : trimmed t = t := by
  have front : t.dropWhile isBlank = t := by
    cases shape : t with
    | nil => rfl
    | cons c rest =>
      have dark := plain.front c (by simp [shape])
      simp [dark]
  unfold EventReport.trimmed
  rw [front]
  exact stripped_eq_iff.mpr plain.back

/-- What the fields of the reported event and the reporting login look like. -/
structure Reportable (login : Text) (e : Event) : Prop where
  login : Word login
  city : PlainText e.city
  name : PlainText e.name
  description : PlainText e.description
  dateTime : IntRange e.dateTime
  active : ∃ v, e.generalInformation.lookup "active".toList = some v ∧ PlainText v
  forces : ∃ v, e.generalInformation.lookup "forces_arrival_at_scene".toList = some v ∧
    PlainText v

structure NulFreeEvent (e : Event) : Prop where
  city : NulFree e.city
  name : NulFree e.name
  description : NulFree e.description
  active : ∀ v, e.generalInformation.lookup "active".toList = some v → NulFree v
  forces : ∀ v, e.generalInformation.lookup "forces_arrival_at_scene".toList = some v → NulFree v

theorem Reportable.nulFree {login : Text} {e : Event} (reportable : Reportable login e) :
    NulFreeEvent e := by
  obtain ⟨active, activeFlag, activePlain⟩ := reportable.active
  obtain ⟨forces, forcesFlag, forcesPlain⟩ := reportable.forces
  refine ⟨reportable.city.nulFree, reportable.name.nulFree, reportable.description.nulFree,
    fun v held => ?_, fun v held => ?_⟩
  · obtain rfl := Option.some.inj (activeFlag.symm.trans held)
    exact activePlain.nulFree
  · obtain rfl := Option.some.inj (forcesFlag.symm.trans held)
    exact forcesPlain.nulFree

structure SameReport (login : Text) (e event : Event) : Prop where
  city : event.city = e.city
  name : event.name = e.name
  dateTime : event.dateTime = e.dateTime
  description : event.description = e.description
  active : event.generalInformation.lookup "active".toList =
    e.generalInformation.lookup "active".toList
  forces : event.generalInformation.lookup "forces_arrival_at_scene".toList =
    e.generalInformation.lookup "forces_arrival_at_scene".toList
  owner : event.eventOwnerUser = login

/-- No line of the report is taken for another one or changed by the trimming. -/
structure Unambiguous (login description : Text) : Prop where
  unmarked : Unmarked description
  notHeading : description ≠ "description:".toList
  noTab : login.getLast? ≠ some '\t'

section Lines
variable (login : Text) (e : Event) (active forces : Text)

def reportLines : List Text :=
  [FieldName.user.start ++ login, FieldName.city.start ++ e.city,
    FieldName.eventName.start ++ e.name, FieldName.time.start ++ decimal e.dateTime,
    "general information:", '\t' :: (FieldName.active.start ++ active),
    '\t' :: (FieldName.forceArrive.start ++ forces), "description:", e.description]

variable {login e active forces}

theorem report_body_lines
    (activeFlag : e.generalInformation.lookup "active".toList = some active)
    (forcesFlag : e.generalInformation.lookup "forces_arrival_at_scene".toList = some forces) :
    reportBody login e = some ((reportLines login e active forces).flatMap (· ++ ['\n'])) := by
  have user : "user:".toList = FieldName.user.start := rfl
  have city : "city:".toList = FieldName.city.start := rfl
  have eventName : "event name:".toList = FieldName.eventName.start := rfl
  have time : "date time:".toList = FieldName.time.start := rfl
  have information : "general information:\n".toList = "general information:".toList ++ ['\n'] :=
    rfl
  have activeStart : "\tactive:".toList = '\t' :: FieldName.active.start := rfl
  have forcesStart : "\tforces_arrival_at_scene:".toList = '\t' :: FieldName.forceArrive.start :=
    rfl
  have heading : "description:\n".toList = "description:".toList ++ ['\n'] := rfl
  unfold reportBody reportLines
  rw [activeFlag, forcesFlag, user, city, eventName, time, information, activeStart,
    forcesStart, heading]
  generalize "general information:".toList = second
  simp only [List.flatMap_cons, List.flatMap_nil, List.append_assoc, List.cons_append,
    List.nil_append, List.append_nil]

theorem report_body_flags {body : Text} (written : reportBody login e = some body) :
    ∃ active forces, e.generalInformation.lookup "active".toList = some active ∧
      e.generalInformation.lookup "forces_arrival_at_scene".toList = some forces ∧
      body = (reportLines login e active forces).flatMap (· ++ ['\n']) := by
  cases activeFlag : e.generalInformation.lookup "active".toList with
  | none => simp only [reportBody, activeFlag, reduceCtorEq] at written
  | some active =>
    cases forcesFlag : e.generalInformation.lookup "forces_arrival_at_scene".toList with
    | none => simp only [reportBody, activeFlag, forcesFlag, reduceCtorEq] at written
    | some forces =>
      rw [report_body_lines activeFlag forcesFlag, Option.some.injEq] at written
      exact ⟨active, forces, rfl, rfl, written.symm⟩

theorem report_body_nul_free {body : Text} (user : NulFree login) (free : NulFreeEvent e)
    (written : reportBody login e = some body) : NulFree body := by
  obtain ⟨active, forces, activeFlag, forcesFlag, rfl⟩ := report_body_flags written
  have start : ∀ k : FieldName, NulFree k.start := by intro k; cases k <;> decide
  refine nul_free_flat.mpr fun l member => nul_free_append.mpr ⟨?_, by decide⟩
  simp only [reportLines, List.mem_cons, List.not_mem_nil, or_false] at member
  rcases member with rfl | rfl | rfl | rfl | rfl | rfl | rfl | rfl | rfl
  · exact nul_free_append.mpr ⟨start _, user⟩
  · exact nul_free_append.mpr ⟨start _, free.city⟩
  · exact nul_free_append.mpr ⟨start _, free.name⟩
  · exact nul_free_append.mpr ⟨start _, decimal_nul_free _⟩
  · decide
  · exact nul_free_cons.mpr ⟨by decide, nul_free_append.mpr ⟨start _, free.active _ activeFlag⟩⟩
  · exact nul_free_cons.mpr ⟨by decide, nul_free_append.mpr ⟨start _, free.forces _ forcesFlag⟩⟩
  · decide
  · exact free.description

theorem report_lines_plain (reportable : Reportable login e) (activePlain : PlainText active)
    (forcesPlain : PlainText forces) :
    ∀ l ∈ reportLines login e active forces, '\n' ∉ l ∧ l ≠ [] := by
  have start : ∀ (k : FieldName) (value : Text), LineFree value →
      '\n' ∉ k.start ++ value ∧ k.start ++ value ≠ [] := by
    intro k value (free : '\n' ∉ value)
    have title : '\n' ∉ k.start := by cases k <;> decide
    exact ⟨by simp [title, free], by simp [FieldName.start]⟩
  have indented : ∀ line : Text, '\n' ∉ line ∧ line ≠ [] → '\n' ∉ '\t' :: line ∧
      '\t' :: line ≠ [] := by
    rintro line ⟨free, _⟩
    exact ⟨by simpa using free, by simp⟩
  intro l member
  simp only [reportLines, List.mem_cons, List.not_mem_nil, or_false] at member
  rcases member with rfl | rfl | rfl | rfl | rfl | rfl | rfl | rfl | rfl
  · exact start _ _ reportable.login.lineFree
  · exact start _ _ reportable.city.lineFree
  · exact start _ _ reportable.name.lineFree
  · exact start _ _ (decimal_line_free _)
  · decide
  · exact indented _ (start _ _ activePlain.lineFree)
  · exact indented _ (start _ _ forcesPlain.lineFree)
  · decide
  · exact ⟨reportable.description.lineFree, reportable.description.nonempty⟩

/-- The variables after the lines in front of the description. -/
def headFields (login : Text) (e : Event) (active forces : Text) : ReportFields where
  user := stripped login
  city := e.city
  eventName := e.name
  time := decimal e.dateTime
  active := active
  forceArrive := forces
  previousLine := "description:"

theorem stripped_decimal (n : Int) : stripped (decimal n) = decimal n := by
  refine stripped_eq_iff.mpr fun c last => ?_
  rcases decimal_chars n c (List.mem_of_mem_getLast? last) with rfl | isDigit
  · rfl
  · have space : c ≠ ' ' := by rintro rfl; revert isDigit; decide
    have tab : c ≠ '\t' := by rintro rfl; revert isDigit; decide
    simp [isBlank, space, tab]

theorem read_head (reportable : Reportable login e) (activePlain : PlainText active)
    (forcesPlain : PlainText forces) :
    (reportLines login e active forces).foldl ReportFields.read {} =
      (headFields login e active forces).read e.description := by
  have kept : ∀ {t : Text}, PlainText t → stripped t = t :=
    fun plain => stripped_eq_iff.mpr plain.back
  have information : Unmarked "general information:" := by intro k; cases k <;> rfl
  have heading : Unmarked "description:" := by intro k; cases k <;> rfl
  simp only [reportLines, List.foldl_cons, List.foldl_nil, read_indented, read_field,
    kept reportable.city, kept reportable.name, kept activePlain, kept forcesPlain,
    stripped_decimal]
  rw [read_unmarked _ rfl information, read_unmarked _ rfl heading]
  rfl

theorem read_terminator (fields : ReportFields) :
    fields.read [nul] =
      { fields with
        description := if fields.previousLine = "description:".toList then [nul]
          else fields.description
        previousLine := [nul] } := by
  have unmarked : Unmarked [nul] := by intro k; cases k <;> rfl
  exact read_unmarked fields rfl unmarked

variable (login e active forces) in
def lastFields : ReportFields :=
  ((headFields login e active forces).read e.description).read [nul]

theorem last_marked (plain : PlainText e.description) {k : FieldName}
    (marked : startsWith e.description k.start = true) :
    (lastFields login e active forces).description = [] := by
  have heading : Unmarked "description:" := by intro k; cases k <;> rfl
  obtain ⟨kept, previous⟩ := read_marked (headFields login e active forces) marked
  rw [plain.trimmed] at previous
  have other : e.description ≠ "description:".toList := by
    intro same
    rw [same, heading k] at marked
    exact Bool.false_ne_true marked
  unfold lastFields
  rw [read_terminator]
  simp only [previous, other, if_false, kept]
  rfl

theorem last_unmarked (plain : PlainText e.description) (unmarked : Unmarked e.description) :
    lastFields login e active forces =
      { headFields login e active forces with
        description := if e.description = "description:".toList then [nul] else e.description
        previousLine := [nul] } := by
  unfold lastFields
  rw [read_unmarked _ plain.trimmed unmarked, read_terminator]
  rfl

theorem event_fields {fields : ReportFields} {channelName : Text} {event : Event}
    (ok : fields.event channelName = .ok event) :
    fields.description ≠ [] ∧ event.description = fields.description ∧
      event.eventOwnerUser = fields.user := by
  unfold ReportFields.event at ok
  split at ok
  · cases ok
  · rename_i filled
    simp only [not_or] at filled
    split at ok <;> cases ok
    exact ⟨filled.2.2.2.2.1, rfl, rfl⟩

theorem event_missing {fields : ReportFields} (channelName : Text)
    (description : fields.description = []) :
    fields.event channelName =
      .error (.runtimeError "Missing required fields in the report.") := by
  unfold ReportFields.event
  rw [if_pos]
  simp [description]

theorem general_information_filled (fields : ReportFields) :
    fields.generalInformation.keys ≠ [] := by
  intro none
  have known : "active".toList ∈ fields.generalInformation.keys := by
    simp [ReportFields.generalInformation]
  simp [none] at known

theorem event_accepted (fields : ReportFields) {n : Int} (channelName : Text)
    (user : fields.user ≠ []) (city : fields.city ≠ []) (eventName : fields.eventName ≠ [])
    (description : fields.description ≠ []) (time : stoi fields.time = .ok n) :
    fields.event channelName =
      .ok ⟨channelName, fields.city, fields.eventName, n, fields.description,
        fields.generalInformation, fields.user⟩ := by
  have written : fields.time ≠ [] := by
    intro empty
    rw [empty] at time
    cases time
  have flags := general_information_filled fields
  unfold ReportFields.event
  simp only [user, city, eventName, written, description, flags, or_self, if_false, time]

theorem general_information_lookup (fields : ReportFields) :
    fields.generalInformation.lookup "active".toList = some fields.active ∧
      fields.generalInformation.lookup "forces_arrival_at_scene".toList =
        some fields.forceArrive := by
  have other : "active".toList ≠ "forces_arrival_at_scene".toList := by decide
  unfold ReportFields.generalInformation
  rw [AList.lookup_insert_ne other, AList.lookup_insert, AList.lookup_insert]
  exact ⟨rfl, rfl⟩

theorem report_read_iff (reportable : Reportable login e)
    (activeFlag : e.generalInformation.lookup "active".toList = some active)
    (forcesFlag : e.generalInformation.lookup "forces_arrival_at_scene".toList = some forces)
    (channelName : Text) :
    (∃ event, (lastFields login e active forces).event channelName = .ok event ∧
      SameReport login e event) ↔ Unambiguous login e.description := by
  constructor
  · rintro ⟨event, ok, same⟩
    obtain ⟨filled, description, owner⟩ := event_fields ok
    have unmarked : Unmarked e.description := by
      intro k
      by_contra marked
      exact filled (last_marked reportable.description (by simpa using marked))
    rw [last_unmarked reportable.description unmarked] at description owner
    refine ⟨unmarked, fun heading => ?_, fun tab => ?_⟩
    · have replaced : e.description = [nul] := by
        rw [← same.description, description]
        exact if_pos heading
      rw [heading] at replaced
      exact absurd replaced (by decide)
    · have whole : stripped login = login := owner.symm.trans same.owner
      have dark := stripped_eq_iff.mp whole '\t' tab
      exact absurd dark (by decide)
  · rintro ⟨unmarked, notHeading, noTab⟩
    have whole : stripped login = login := by
      refine stripped_eq_iff.mpr fun c last => ?_
      have space : c ≠ ' ' := by
        rintro rfl
        exact reportable.login.undivided (List.mem_of_mem_getLast? last)
      have tab : c ≠ '\t' := by
        rintro rfl
        exact noTab last
      simp [isBlank, space, tab]
    have read : lastFields login e active forces =
        { headFields login e active forces with
          description := e.description, previousLine := [nul] } := by
      rw [last_unmarked reportable.description unmarked, if_neg notHeading]
    have named : stripped login ≠ [] := by
      rw [whole]
      exact reportable.login.nonempty
    have accepted := event_accepted (lastFields login e active forces) channelName
      (by rw [read]; exact named)
      (by rw [read]; exact reportable.city.nonempty)
      (by rw [read]; exact reportable.name.nonempty)
      (by rw [read]; exact reportable.description.nonempty)
      (by rw [read]; exact stoi_decimal reportable.dateTime)
    obtain ⟨activeRead, forcesRead⟩ :=
      general_information_lookup (lastFields login e active forces)
    rw [read] at accepted activeRead forcesRead
    rw [read]
    exact ⟨_, accepted, rfl, rfl, rfl, rfl, activeRead.trans activeFlag.symm,
      forcesRead.trans forcesFlag.symm, whole⟩

end Lines

section Frame
variable {channel body : Text}

theorem destination_found (channel : Text) :
    (insertNew "destination" channel (∅ : OrderedMap Text)).lookup "destination".toList =
      some channel :=
  insert_new_lookup (AList.notMem_empty _) channel

theorem send_sendable (joined : Word channel) (free : NulFree body) :
    Sendable ⟨"SEND", insertNew "destination" channel ∅, body⟩ := by
  have title : ':' ∉ "destination".toList ∧ LineFree "destination" ∧ NulFree "destination" := by
    decide
  have named : ("SEND".toList : Text) ≠ [] := by decide
  have line : LineFree "SEND" ∧ NulFree "SEND" := by decide
  refine ⟨named, line.1, line.2, safe_insert_new safe_empty ?_, free⟩
  exact ⟨⟨title.1, title.2.1, joined.lineFree⟩, title.2.2, joined.nulFree⟩

end Frame

end ReportLines
