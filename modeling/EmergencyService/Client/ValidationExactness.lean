import EmergencyService.Client.ReportFiling

/- When `parseEventReport` accepts the body of a frame that the client has read, beside what
   it is to accept: the terminator of the frame is still at the end of the text, and `stoi`
   stops behind the digits. -/
namespace ValidationExactness
open JavaRuntime CppRuntime FrameExchange FrameStream EventReport ReportLines TerminatedStream
open StompProtocolImpl MessageRelay ReportValidity RelayedReports

section Bodies

/-- What `getBody` returns of a MESSAGE that `getLine` has read from the socket. -/
def Obtained (body : Text) : Prop :=
  ∃ stream answer rest frame, getLine stream = some (answer, rest) ∧
    CppFrame.StompFrame.ofText answer = .ok frame ∧ frame.command = "MESSAGE" ∧
    frame.body = body

theorem line_terminated {stream answer rest : Text}
    (read : getLine stream = some (answer, rest)) : ∃ t, NulFree t ∧ answer = t ++ [nul] := by
  unfold getLine at read
  rw [get_frame_eq] at read
  cases next : nextMessage nul [] stream with
  | none => simp [next] at read
  | some found =>
    obtain ⟨t, later⟩ := found
    obtain ⟨new, rfl, free, _⟩ := next_message_some next
    simp only [next, Option.map_some, Option.some.injEq, Prod.mk.injEq] at read
    exact ⟨t, free, read.1.symm⟩

theorem split_terminated {t part : Text} (free : NulFree t) (started : NulFree part) :
    ∃ front last, CppFrame.splitFrom part (t ++ [nul]) = front ++ [last ++ [nul]] ∧
      (∀ token ∈ front, NulFree token) ∧ NulFree last := by
  induction t generalizing part with
  | nil => exact ⟨[], part, by simp [CppFrame.splitFrom, nul], by simp, started⟩
  | cons c t ih =>
    obtain ⟨plain, tail⟩ := nul_free_cons.mp free
    by_cases line : c = '\n'
    · have none : NulFree [] := by decide
      obtain ⟨front, last, tokens, clean, ended⟩ := ih tail none
      have newline : NulFree ['\n'] := by decide
      simp only [List.cons_append, CppFrame.splitFrom, line, if_true, tokens]
      refine ⟨_, last, (List.append_assoc ..).symm, ?_, ended⟩
      intro token member
      rcases List.mem_append.mp member with here | later
      · split at here
        · cases here
        · split at here <;> aesop
      · exact clean token later
    · have grown : NulFree (part ++ [c]) :=
        nul_free_append.mpr ⟨started, nul_free_cons.mpr ⟨plain, by decide⟩⟩
      simpa only [List.cons_append, CppFrame.splitFrom, line, if_false] using ih tail grown

theorem read_lines_suffix {headers headers' : OrderedMap Text} {lines body : List Text}
    (read : CppFrame.readLines headers lines = .ok (headers', body)) : body <:+ lines := by
  induction lines generalizing headers with
  | nil =>
    cases read
    exact List.suffix_rfl
  | cons line rest ih =>
    unfold CppFrame.readLines at read
    split at read
    · cases read
    · cases read
      exact (List.drop_suffix 1 rest).trans (List.suffix_cons line rest)
    · split at read
      · exact (ih read).trans (List.suffix_cons line rest)
      · exact (ih read).trans (List.suffix_cons line rest)

theorem obtained_terminated {body : Text} (obtained : Obtained body) :
    body = [] ∨ ∃ t, NulFree t ∧ body = t ++ [nul] := by
  obtain ⟨stream, answer, rest, frame, read, parsed, -, rfl⟩ := obtained
  obtain ⟨t, free, rfl⟩ := line_terminated read
  have none : NulFree [] := by decide
  obtain ⟨front, last, tokens, clean, ended⟩ := split_terminated free none
  have split : CppFrame.split (t ++ [nul]) = front ++ [last ++ [nul]] := tokens
  unfold CppFrame.StompFrame.ofText at parsed
  split at parsed
  · cases parsed
  · rename_i command lines shape
    split at parsed
    · cases parsed
    · rename_i headers body lined
      cases parsed
      have inside : body <:+ front ++ [last ++ [nul]] := by
        rw [← split, shape]
        exact (read_lines_suffix lined).trans (List.suffix_cons command lines)
      rcases List.suffix_concat_iff.mp inside with rfl | ⟨before, rfl, within⟩
      · exact Or.inl rfl
      · apply Or.inr
        refine ⟨(before.filter (· ≠ CppFrame.nulLiteral)).flatten ++ last, ?_, ?_⟩
        · apply nul_free_append.mpr
          apply And.intro _ ended
          intro here
          obtain ⟨token, member, inside⟩ := List.mem_flatten.mp here
          exact clean token (within.subset (List.mem_of_mem_filter member)) inside
        · have kept : last ++ [nul] ≠ CppFrame.nulLiteral := by simp [CppFrame.nulLiteral]
          simp [List.filter_append, kept]

theorem obtained_relayed (m : RelayedMessage) : Obtained (glued (bodyText m.body ++ [nul])) := by
  have named : ("MESSAGE".toList : Text) ≠ [] := by decide
  have line : JavaFrame.LineFree "MESSAGE" := by decide
  obtain ⟨headers, parsed, _⟩ := cpp_reads_java m.order
    (f := messageFrame m.id m.messageID m.channel m.body) named line
    (message_headers_clean m.id m.messageID m.lineFree m.body)
  exact ⟨_, _, [], _, line_of_encoded m.text_nul_free [], parsed, rfl, rfl⟩

end Bodies

section Terminator

/-- The lines that the loop goes through, and the lines of the text without the terminator. -/
def rawLines (body : Text) : List Text := (EventReport.split body '\n').map trimmed

def textLines (body : Text) : List Text := rawLines (body.filter (· ≠ nul))

/-- What follows a line in front of the end of the body: blanks that the terminator keeps
    from being trimmed, and the terminator. -/
structure Tail (tail : Text) : Prop where
  chars : ∀ c ∈ tail, isBlank c = true ∨ c = nul
  filled : tail ≠ []

theorem terminator_dark : isBlank nul = false := by decide

theorem trimmed_terminated (t : Text) :
    ∃ tail, Tail tail ∧ trimmed (t ++ [nul]) = trimmed t ++ tail := by
  have front : (t ++ [nul]).dropWhile isBlank = t.dropWhile isBlank ++ [nul] := by
    by_cases blank : t.dropWhile isBlank = []
    · rw [List.dropWhile_append, blank]
      rfl
    · rw [List.dropWhile_append, if_neg (by simpa using blank)]
  have back : (t.dropWhile isBlank).rdropWhile isBlank ++
      (t.dropWhile isBlank).rtakeWhile isBlank = t.dropWhile isBlank :=
    List.rdropWhile_append_rtakeWhile
  refine ⟨(t.dropWhile isBlank).rtakeWhile isBlank ++ [nul], ⟨?_, by simp⟩, ?_⟩
  · intro c member
    rcases List.mem_append.mp member with here | last
    · exact Or.inl (List.mem_rtakeWhile_imp here)
    · exact Or.inr (List.mem_singleton.mp last)
  · unfold trimmed
    rw [front, List.rdropWhile_concat_neg _ _ _ (by simp [terminator_dark]), ← List.append_assoc,
      back]

theorem split_from_terminated (t part : Text) :
    ∃ front last, EventReport.splitFrom '\n' part t = front ++ (if last = [] then [] else [last]) ∧
      EventReport.splitFrom '\n' part (t ++ [nul]) = front ++ [last ++ [nul]] := by
  induction t generalizing part with
  | nil => exact ⟨[], part, by simp [EventReport.splitFrom], by simp [EventReport.splitFrom, nul]⟩
  | cons c t ih =>
    by_cases line : c = '\n'
    · obtain ⟨front, last, pieces, terminated⟩ := ih []
      refine ⟨(if part = [] then [] else [part]) ++ front, last, ?_, ?_⟩
      · simp only [EventReport.splitFrom, line, if_true, pieces, List.append_assoc]
      · simp only [List.cons_append, EventReport.splitFrom, line, if_true, terminated,
          List.append_assoc]
    · simpa only [List.cons_append, EventReport.splitFrom, line, if_false] using ih (part ++ [c])

/-- The tail follows the last line of the text, or stands in a line of its own. -/
def Terminated (raw text : List Text) (tail : Text) : Prop :=
  ∃ lines line, raw = lines ++ [line ++ tail] ∧
    (text = lines ++ [line] ∨ line = [] ∧ text = lines)

theorem lines_terminated {t : Text} (free : NulFree t) :
    ∃ tail, Tail tail ∧ Terminated (rawLines (t ++ [nul])) (textLines (t ++ [nul])) tail := by
  have text : (t ++ [nul]).filter (· ≠ nul) = t := by
    have kept : t.filter (· ≠ nul) = t := List.filter_eq_self.mpr fun c member => by
      simpa using fun here : c = nul => free (here ▸ member)
    rw [List.filter_append, kept]
    simp
  obtain ⟨front, last, pieces, terminated⟩ := split_from_terminated t []
  obtain ⟨tail, made, shape⟩ := trimmed_terminated last
  refine ⟨tail, made, front.map trimmed, trimmed last, ?_, ?_⟩
  · unfold rawLines EventReport.split
    rw [terminated, List.map_append, List.map_singleton, shape]
  · unfold textLines rawLines EventReport.split
    rw [text, pieces, List.map_append]
    by_cases empty : last = []
    · subst empty
      exact Or.inr ⟨rfl, by simp⟩
    · exact Or.inl (by simp [empty])

end Terminator

section Values
variable {raw text : List Text} {line tail : Text}

theorem start_terminated (made : Tail tail) (k : FieldName) :
    startsWith (line ++ tail) k.start = startsWith line k.start := by
  rw [Bool.eq_iff_iff]
  simp only [startsWith, List.isPrefixOf_iff_prefix]
  constructor
  · intro marked
    rcases List.prefix_or_prefix_of_prefix marked (List.prefix_append line tail) with
      inside | ⟨rest, longer⟩
    · exact inside
    · have within : rest <+: tail := by
        rw [← longer] at marked
        exact (List.prefix_append_right_inj line).mp marked
      cases last : rest.getLast? with
      | none =>
        rw [List.getLast?_eq_none_iff.mp last, List.append_nil] at longer
        exact longer ▸ List.prefix_rfl
      | some c =>
        have colon : (line ++ rest).getLast? = some ':' := by
          rw [longer, FieldName.start, List.getLast?_concat]
        rw [List.getLast?_append, last] at colon
        obtain rfl : c = ':' := by simpa using colon
        rcases made.chars ':' (within.subset (List.mem_of_getLast? last)) with blank | other
        · exact absurd blank (by decide)
        · exact absurd other (by decide)
  · intro marked
    exact marked.trans (List.prefix_append line tail)

theorem value_in_terminated (made : Tail tail) (k : FieldName) :
    valueIn k (line ++ tail) = (valueIn k line).map (· ++ tail) := by
  unfold valueIn
  rw [start_terminated made]
  by_cases marked : startsWith line k.start = true
  · obtain ⟨value, rfl⟩ := starts_with_iff.mp marked
    simp [marked]
  · simp [marked]

theorem unmarked_terminated (made : Tail tail) : Unmarked (line ++ tail) ↔ Unmarked line := by
  unfold Unmarked
  simp only [start_terminated made]

theorem value_of_concat (k : FieldName) (lines : List Text) (line : Text) :
    valueOf k (lines ++ [line]) = (valueIn k line).or (valueOf k lines) := by
  unfold valueOf
  rw [List.filterMap_append, List.getLast?_append]
  cases found : valueIn k line with
  | none => simp [found]
  | some v => simp [found]

/-- The same lines say something about a field, and what they say differs by the tail at
    most. -/
theorem values_terminated (made : Tail tail) (ended : Terminated raw text tail) (k : FieldName) :
    (valueOf k text = none ∧ valueOf k raw = none) ∨
      ∃ v, valueOf k text = some v ∧
        (valueOf k raw = some v ∨ valueOf k raw = some (v ++ tail)) := by
  obtain ⟨lines, line, rfl, last⟩ := ended
  have without : valueOf k text = (valueIn k line).or (valueOf k lines) := by
    rcases last with rfl | ⟨rfl, rfl⟩
    · exact value_of_concat k lines line
    · have silent : valueIn k [] = none := by cases k <;> rfl
      rw [silent]
      rfl
  rw [without, value_of_concat, value_in_terminated made]
  cases valueIn k line with
  | none =>
    cases valueOf k lines with
    | none => exact Or.inl ⟨rfl, rfl⟩
    | some v => exact Or.inr ⟨v, rfl, Or.inl rfl⟩
  | some v => exact Or.inr ⟨v, rfl, Or.inr rfl⟩

end Values

section Numbers
variable {tail : Text} (made : Tail tail)
include made

theorem tail_first : ∃ c rest, tail = c :: rest ∧ c.isDigit = false ∧ c ≠ '-' ∧ c ≠ '+' ∧
    (isSpace c = true ∨ c = nul) := by
  obtain ⟨c, rest, rfl⟩ := List.exists_cons_of_ne_nil made.filled
  refine ⟨c, rest, rfl, ?_⟩
  rcases made.chars c (by simp) with blank | rfl
  · simp only [isBlank, Bool.or_eq_true, decide_eq_true_eq] at blank
    rcases blank with rfl | rfl <;> decide
  · decide

theorem digits_terminated (s : Text) : leadingDigits (s ++ tail) = leadingDigits s := by
  have same : (s ++ tail).takeWhile Char.isDigit = s.takeWhile Char.isDigit := by
    induction s with
    | nil =>
      obtain ⟨c, rest, rfl, plain, -⟩ := tail_first made
      simp [plain]
    | cons d s ih =>
      cases digit : d.isDigit with
      | true => simp [digit, ih]
      | false => simp [digit]
  unfold leadingDigits
  rw [same]

theorem number_terminated (s : Text) : leadingInt (s ++ tail) = leadingInt s := by
  cases s with
  | nil =>
    obtain ⟨c, rest, shape, -, minus, plus, -⟩ := tail_first made
    have digits := digits_terminated made []
    rw [List.nil_append, shape] at digits ⊢
    rw [leadingInt_unsigned minus plus, digits]
    rfl
  | cons d s =>
    have later := digits_terminated made s
    have all := digits_terminated made (d :: s)
    by_cases minus : d = '-'
    · subst minus
      simp [leadingInt, later]
    · by_cases plus : d = '+'
      · subst plus
        simp [leadingInt, later]
      · rw [List.cons_append] at all ⊢
        rw [leadingInt_unsigned minus plus, leadingInt_unsigned minus plus, all]

theorem tail_no_number : leadingInt (tail.dropWhile isSpace) = none := by
  have chars := made.chars
  clear made
  induction tail with
  | nil => rfl
  | cons c rest ih =>
    rcases chars c (by simp) with blank | rfl
    · have space : isSpace c = true := by
        simp only [isBlank, Bool.or_eq_true, decide_eq_true_eq] at blank
        rcases blank with rfl | rfl <;> decide
      rw [List.dropWhile_cons_of_pos space]
      exact ih fun d member => chars d (List.mem_cons_of_mem c member)
    · rw [List.dropWhile_cons_of_neg (by decide), leadingInt_unsigned (by decide) (by decide)]
      rfl

theorem time_terminated (v : Text) :
    leadingInt ((v ++ tail).dropWhile isSpace) = leadingInt (v.dropWhile isSpace) := by
  rw [List.dropWhile_append]
  split
  · rename_i blank
    rw [List.isEmpty_iff] at blank
    rw [blank, tail_no_number made]
    rfl
  · exact number_terminated made _

end Numbers

section Descriptions

/-- The last heading has a description line behind it. -/
def LastDescribed (lines : List Text) : Prop :=
  ∃ before t after, lines = before ++ "description:".toList :: t :: after ∧
    "description:".toList ∉ t :: after ∧ Unmarked t ∧ t ≠ []

theorem last_heading_followed {lines : List Text} (described : LastDescribed lines) :
    lines.getLast? ≠ some "description:".toList := by
  obtain ⟨before, t, after, rfl, plain, -⟩ := described
  intro last
  have behind : (before ++ "description:".toList :: t :: after).getLast? =
      (t :: after).getLast? := by
    simp [List.getLast?_append, List.getLast?_cons]
  rw [behind] at last
  exact plain (List.mem_of_getLast? last)

theorem no_heading_no_description {t : Text} {after : List Text}
    (plain : "description:".toList ∉ (t :: after).dropLast) : descriptionFrom t after = none := by
  induction after generalizing t with
  | nil => rfl
  | cons line after ih =>
    rw [List.dropLast_cons_of_ne_nil (by simp), List.mem_cons, not_or] at plain
    rw [description_from_cons, ih plain.2, Option.none_or]
    exact if_neg fun both => plain.1 both.1.symm

theorem description_at {previous t : Text} {before after : List Text}
    (plain : "description:".toList ∉ (t :: after).dropLast) (unmarked : Unmarked t) :
    descriptionFrom previous (before ++ "description:".toList :: t :: after) = some t := by
  induction before generalizing previous with
  | nil =>
    have found : describes ("description:".toList, t) = some t := if_pos ⟨rfl, unmarked⟩
    rw [List.nil_append, description_from_cons, description_from_cons,
      no_heading_no_description plain, found]
    rfl
  | cons line before ih => rw [List.cons_append, description_from_cons, ih, Option.some_or]

theorem described_before_last {t last : Text} {before middle : List Text}
    (plain : "description:".toList ∉ t :: middle) (unmarked : Unmarked t) :
    descriptionOf (before ++ "description:".toList :: t :: middle ++ [last]) = some t := by
  have shape : before ++ "description:".toList :: t :: middle ++ [last] =
      before ++ "description:".toList :: t :: (middle ++ [last]) := by simp
  have front : (t :: (middle ++ [last])).dropLast = t :: middle := by
    rw [← List.cons_append]
    exact List.dropLast_concat
  rw [shape]
  exact description_at (front ▸ plain) unmarked

theorem described_terminated {raw text : List Text} {tail : Text} (made : Tail tail)
    (ended : Terminated raw text tail) (described : LastDescribed text) :
    ∃ t, descriptionOf raw = some t ∧ t ≠ [] := by
  obtain ⟨before, t, after, shape, plain, unmarked, filled⟩ := described
  obtain ⟨lines, line, rfl, last⟩ := ended
  rcases last with rfl | ⟨rfl, rfl⟩
  · rcases List.eq_nil_or_concat' after with rfl | ⟨middle, final, rfl⟩
    · have cut : lines ++ [line] = (before ++ ["description:".toList]) ++ [t] := by
        rw [shape]
        simp
      obtain ⟨rfl, same⟩ := List.append_inj' cut rfl
      obtain rfl : line = t := List.singleton_inj.mp same
      refine ⟨line ++ tail, ?_, by simp [filled]⟩
      rw [List.append_assoc]
      exact description_at (by simp) ((unmarked_terminated made).mpr unmarked)
    · have cut : lines ++ [line] = (before ++ "description:".toList :: t :: middle) ++ [final] := by
        rw [shape]
        simp
      obtain ⟨rfl, same⟩ := List.append_inj' cut rfl
      have early : "description:".toList ∉ t :: middle := fun here =>
        plain (List.mem_append_left [final] here)
      exact ⟨t, described_before_last early unmarked, filled⟩
  · rw [shape]
    exact ⟨t, described_before_last plain unmarked, filled⟩

end Descriptions

section Checks

/-- The values that the checks behind the loop ask for are there, and the date begins with a
    number. -/
structure Filled (lines : List Text) : Prop where
  named : ∀ k ∈ [FieldName.user, .city, .eventName], ∃ v, valueOf k lines = some v ∧ v ≠ []
  time : ∃ v n, valueOf .time lines = some v ∧ leadingInt (v.dropWhile isSpace) = some n
  description : ∃ t, descriptionOf lines = some t ∧ t ≠ []

theorem event_refused (fields : ReportFields) (channelName : Text)
    (missing : fields.user = [] ∨ fields.city = [] ∨ fields.eventName = [] ∨
      fields.description = [] ∨ leadingInt (fields.time.dropWhile isSpace) = none) :
    ∃ e, fields.event channelName = .error (.runtimeError e) := by
  unfold ReportFields.event
  split
  · exact ⟨_, rfl⟩
  · rename_i present
    have undated : leadingInt (fields.time.dropWhile isSpace) = none := by tauto
    have invalid : stoi fields.time = .error .invalidArgument := by
      unfold stoi
      rw [undated]
    rw [invalid]
    exact ⟨_, rfl⟩

theorem event_dated (fields : ReportFields) (channelName : Text) {n : Int}
    (user : fields.user ≠ []) (city : fields.city ≠ []) (eventName : fields.eventName ≠ [])
    (description : fields.description ≠ [])
    (time : leadingInt (fields.time.dropWhile isSpace) = some n) :
    fields.event channelName =
      if IntRange n then
        .ok ⟨channelName, fields.city, fields.eventName, n, fields.description,
          fields.generalInformation, fields.user⟩
      else .error .outOfRange := by
  have read : stoi fields.time = if IntRange n then .ok n else .error .outOfRange := by
    unfold stoi
    rw [time]
  split
  · rename_i range
    rw [if_pos range] at read
    exact event_accepted fields channelName user city eventName description read
  · rename_i range
    rw [if_neg range] at read
    have written : fields.time ≠ [] := by
      intro empty
      rw [empty] at time
      cases time
    have flags : fields.generalInformation.keys ≠ [] := general_information_filled fields
    unfold ReportFields.event
    simp only [user, city, eventName, written, description, flags, or_self, if_false, read]

theorem present_iff {found : Option Text} : found.getD [] ≠ [] ↔ ∃ v, found = some v ∧ v ≠ [] := by
  cases found with
  | none => simp
  | some v => simp

theorem filled_dated {body : Text} (channelName : Text) (filled : Filled (rawLines body)) :
    ∃ v n, valueOf .time (rawLines body) = some v ∧
      leadingInt (v.dropWhile isSpace) = some n ∧
      if IntRange n then ∃ event, parseEventReport body channelName = .ok event
      else parseEventReport body channelName = .error .outOfRange := by
  obtain ⟨named, ⟨v, n, written, number⟩, described⟩ := filled
  obtain ⟨values, description⟩ := read_lines (EventReport.split body '\n') {}
  have nonempty : ∀ k ∈ [FieldName.user, .city, .eventName],
      fieldOf ((EventReport.split body '\n').foldl ReportFields.read {}) k ≠ [] := by
    intro k member
    rw [values]
    obtain ⟨v, found, full⟩ := named k member
    have found' : valueOf k ((EventReport.split body '\n').map trimmed) = some v := found
    rw [found']
    exact full
  have time := values .time
  have written' : valueOf .time ((EventReport.split body '\n').map trimmed) = some v := written
  rw [written'] at time
  have dated := event_dated ((EventReport.split body '\n').foldl ReportFields.read {}) channelName
    (n := n) (nonempty .user (by simp)) (nonempty .city (by simp)) (nonempty .eventName (by simp))
    (by rw [description]; exact present_iff.mpr described)
    (by rw [← number]; exact congrArg (fun t : Text => leadingInt (t.dropWhile isSpace)) time)
  refine ⟨v, n, written, number, ?_⟩
  unfold parseEventReport
  rw [dated]
  split
  · exact ⟨_, rfl⟩
  · rfl

theorem unfilled_refused {body : Text} (channelName : Text) (unfilled : ¬ Filled (rawLines body)) :
    ∃ e, parseEventReport body channelName = .error (.runtimeError e) := by
  obtain ⟨values, description⟩ := read_lines (EventReport.split body '\n') {}
  apply event_refused
  by_contra present
  simp only [not_or] at present
  obtain ⟨user, city, eventName, described, dated⟩ := present
  apply unfilled
  have filled : ∀ k : FieldName,
      fieldOf ((EventReport.split body '\n').foldl ReportFields.read {}) k ≠ [] →
        fieldOf {} k = [] → ∃ v, valueOf k (rawLines body) = some v ∧ v ≠ [] := by
    intro k full empty
    rw [values, empty] at full
    exact present_iff.mp full
  constructor
  · intro k member
    simp only [List.mem_cons, List.not_mem_nil, or_false] at member
    rcases member with rfl | rfl | rfl
    · exact filled .user user rfl
    · exact filled .city city rfl
    · exact filled .eventName eventName rfl
  · have time := values .time
    change ((EventReport.split body '\n').foldl ReportFields.read {}).time = _ at time
    rw [time] at dated
    change ∃ v n, valueOf .time ((EventReport.split body '\n').map trimmed) = some v ∧ _
    cases found : valueOf .time ((EventReport.split body '\n').map trimmed) with
    | none =>
      rw [found] at dated
      exact absurd rfl dated
    | some v =>
      rw [found] at dated
      obtain ⟨n, number⟩ := Option.ne_none_iff_exists'.mp dated
      exact ⟨v, n, rfl, number⟩
  · rw [description] at described
    exact present_iff.mp described

end Checks

section Exactness

/-- The whole text is a number: a sign, if there is one, and digits. -/
def DecimalInteger (value : Text) (n : Int) : Prop :=
  leadingInt value = some n ∧ ∀ c ∈ unsigned value, c.isDigit = true

/-- What is to be accepted, by the lines of the text. -/
structure ValidText (lines : List Text) : Prop where
  named : ∀ k ∈ [FieldName.user, .city, .eventName], ∃ v, valueOf k lines = some v ∧ v ≠ []
  time : ∃ v n, valueOf .time lines = some v ∧ DecimalInteger v n ∧ IntRange n
  description : LastDescribed lines

/-- Valid texts are accepted, and the others are refused with a runtime error. -/
structure ValidationExact (body channelName : Text) : Prop where
  accepted : (∃ event, parseEventReport body channelName = .ok event) ↔ ValidText (textLines body)
  refused : ¬ ValidText (textLines body) →
    ∃ e, parseEventReport body channelName = .error (.runtimeError e)

/-- No value is the terminator alone, the date is nothing but a number that fits, and there is
    a description behind the last heading. -/
structure Unspoiled (lines : List Text) : Prop where
  named : ∀ k ∈ [FieldName.user, .city, .eventName], valueOf k lines ≠ some []
  time : ∀ v, valueOf .time lines = some v → ∃ n, DecimalInteger v n ∧ IntRange n
  description : LastDescribed lines

theorem space_no_number {c : Char} (space : isSpace c = true) (rest : Text) :
    leadingInt (c :: rest) = none := by
  have few : c = ' ' ∨ 9 ≤ c.toNat ∧ c.toNat ≤ 13 := by simpa [isSpace] using space
  have plain : c.isDigit = false := by
    rw [Bool.eq_false_iff]
    intro digit
    have low : 48 ≤ c.toNat := (Char.isDigit_iff_toNat.mp digit).1
    rcases few with rfl | control
    · exact absurd low (by decide)
    · omega
  have minus : c ≠ '-' := by
    rintro rfl
    exact absurd few (by decide)
  have plus : c ≠ '+' := by
    rintro rfl
    exact absurd few (by decide)
  rw [leadingInt_unsigned minus plus, leadingDigits, List.takeWhile_cons_of_neg (by simp [plain])]
  rfl

theorem decimal_integer_starts {value : Text} {n : Int} (whole : DecimalInteger value n) :
    leadingInt (value.dropWhile isSpace) = some n := by
  cases value with
  | nil => exact whole.1
  | cons c rest =>
    have dark : isSpace c ≠ true := by
      intro space
      exact nomatch (space_no_number space rest).symm.trans whole.1
    rw [List.dropWhile_cons_of_neg dark]
    exact whole.1

variable {raw text : List Text} {tail : Text}

theorem filled_of_valid (made : Tail tail) (ended : Terminated raw text tail)
    (valid : ValidText text) :
    Filled raw ∧ ∀ v n, valueOf .time raw = some v → leadingInt (v.dropWhile isSpace) = some n →
      IntRange n := by
  obtain ⟨v, n, written, whole, range⟩ := valid.time
  have number := decimal_integer_starts whole
  have time : ∃ w, valueOf .time raw = some w ∧ leadingInt (w.dropWhile isSpace) = some n := by
    rcases values_terminated made ended .time with ⟨none, _⟩ | ⟨v', found, plain | longer⟩
    · rw [none] at written
      cases written
    · obtain rfl := Option.some.inj (written.symm.trans found)
      exact ⟨v, plain, number⟩
    · obtain rfl := Option.some.inj (written.symm.trans found)
      exact ⟨v ++ tail, longer, (time_terminated made v).trans number⟩
  obtain ⟨w, found, dated⟩ := time
  refine ⟨⟨?_, ⟨w, n, found, dated⟩, described_terminated made ended valid.description⟩, ?_⟩
  · intro k member
    obtain ⟨v, here, full⟩ := valid.named k member
    rcases values_terminated made ended k with ⟨none, _⟩ | ⟨v', found, plain | longer⟩
    · rw [none] at here
      cases here
    · obtain rfl := Option.some.inj (here.symm.trans found)
      exact ⟨v, plain, full⟩
    · exact ⟨v' ++ tail, longer, by simp [made.filled]⟩
  · intro w' n' found' dated'
    obtain rfl := Option.some.inj (found.symm.trans found')
    obtain rfl := Option.some.inj (dated.symm.trans dated')
    exact range

theorem valid_of_unspoiled (made : Tail tail) (ended : Terminated raw text tail)
    (filled : Filled raw) (unspoiled : Unspoiled text) : ValidText text where
  named := by
    intro k member
    obtain ⟨w, here, _⟩ := filled.named k member
    rcases values_terminated made ended k with ⟨_, none⟩ | ⟨v, found, _⟩
    · rw [none] at here
      cases here
    · refine ⟨v, found, ?_⟩
      rintro rfl
      exact unspoiled.named k member found
  time := by
    obtain ⟨w, _, here, _⟩ := filled.time
    rcases values_terminated made ended .time with ⟨_, none⟩ | ⟨v, found, _⟩
    · rw [none] at here
      cases here
    · obtain ⟨n, whole, range⟩ := unspoiled.time v found
      exact ⟨v, n, found, whole, range⟩
  description := unspoiled.description

theorem unspoiled_of_valid (valid : ValidText text) : Unspoiled text where
  named := by
    intro k member empty
    obtain ⟨v, found, full⟩ := valid.named k member
    exact full (Option.some.inj (found.symm.trans empty))
  time := by
    intro v found
    obtain ⟨v', n, written, whole, range⟩ := valid.time
    obtain rfl := Option.some.inj (written.symm.trans found)
    exact ⟨n, whole, range⟩
  description := valid.description

theorem empty_not_valid : ¬ ValidText (textLines []) := by
  rintro ⟨-, ⟨v, n, found, -⟩, -⟩
  cases found

/-- Validation is exact unless the values that the code has found are filled by the
    terminator, by text that `stoi` passes over, or from an earlier heading. -/
theorem validation_exact_iff {body : Text} (obtained : Obtained body) (channelName : Text) :
    ValidationExact body channelName ↔
      (Filled (rawLines body) → Unspoiled (textLines body)) := by
  have passed : ValidText (textLines body) →
      ∃ event, parseEventReport body channelName = .ok event := by
    intro valid
    rcases obtained_terminated obtained with rfl | ⟨t, free, rfl⟩
    · exact absurd valid empty_not_valid
    · obtain ⟨tail, made, ended⟩ := lines_terminated free
      obtain ⟨filled, ranged⟩ := filled_of_valid made ended valid
      obtain ⟨v, n, written, number, outcome⟩ := filled_dated channelName filled
      rwa [if_pos (ranged v n written number)] at outcome
  constructor
  · intro exact filled
    apply unspoiled_of_valid
    obtain ⟨v, n, -, -, outcome⟩ := filled_dated channelName filled
    split at outcome
    · exact exact.accepted.mp outcome
    · by_contra invalid
      obtain ⟨e, thrown⟩ := exact.refused invalid
      cases outcome.symm.trans thrown
  · intro condition
    by_cases filled : Filled (rawLines body)
    · have valid : ValidText (textLines body) := by
        rcases obtained_terminated obtained with rfl | ⟨t, free, rfl⟩
        · obtain ⟨v, n, found, -⟩ := filled.time
          cases found
        · obtain ⟨tail, made, ended⟩ := lines_terminated free
          exact valid_of_unspoiled made ended filled (condition filled)
      exact ⟨⟨fun _ => valid, fun _ => passed valid⟩, fun invalid => absurd valid invalid⟩
    · obtain ⟨e, thrown⟩ := unfilled_refused channelName filled
      have invalid : ¬ ValidText (textLines body) := by
        intro valid
        obtain ⟨event, accepted⟩ := passed valid
        cases accepted.symm.trans thrown
      constructor
      · constructor
        · rintro ⟨event, accepted⟩
          cases accepted.symm.trans thrown
        · exact fun valid => absurd valid invalid
      · exact fun _ => ⟨e, thrown⟩

end Exactness

section Example

/-- The body of the MESSAGE for police with a report that has the description. -/
def policeBody (description : Text) (free : NulFree description) : Text :=
  glued (bodyText (ReportFiling.policeMessage description free).body ++ [nul])

theorem smoke_nul_free : NulFree "smoke" := by decide

def smokeBody : Text := policeBody "smoke" smoke_nul_free

def silentBody : Text := policeBody [] (by decide)

def headLines : List Text :=
  ["user:a".toList, "city:b".toList, "event name:c".toList, "date time:4".toList]

theorem smoke_validation_exact : ValidationExact smokeBody "police" := by
  have obtained : Obtained smokeBody := obtained_relayed _
  have lines : textLines smokeBody = headLines ++ ["description:".toList, "smoke".toList] := by
    decide +kernel
  apply (validation_exact_iff obtained "police").mpr
  intro _
  rw [lines]
  constructor
  · decide
  · intro v found
    obtain rfl : "4".toList = v := Option.some.inj found
    have digits : (unsigned "4".toList).all Char.isDigit = true := by decide
    exact ⟨4, ⟨by decide, List.all_eq_true.mp digits⟩, by decide⟩
  · refine ⟨headLines, "smoke".toList, [], rfl, by decide, ?_, by decide⟩
    intro k
    cases k <;> decide

/-- The terminator of the frame is taken for the description. -/
theorem silent_report_accepted :
    Obtained silentBody ∧ (∃ event, parseEventReport silentBody "police" = .ok event) ∧
      ¬ ValidText (textLines silentBody) := by
  have lines : textLines silentBody = headLines ++ ["description:".toList] := by decide +kernel
  apply And.intro (obtained_relayed _)
  constructor
  · have passes : (parseEventReport silentBody "police").isOk = true := by decide +kernel
    cases parsed : parseEventReport silentBody "police" with
    | ok event => exact ⟨event, rfl⟩
    | error e =>
      rw [parsed] at passes
      cases passes
  · intro valid
    apply last_heading_followed valid.description
    rw [lines]
    rfl

end Example

end ValidationExactness
