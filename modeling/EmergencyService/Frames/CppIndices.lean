import EmergencyService.Frames.FrameSplit
import EmergencyService.Frames.FrameStream
import Mathlib.Algebra.BigOperators.Group.List.Basic

/- The client's constructor with its indices: the tokens are read with `at`, and the position of
   a colon is kept in an `int`. A character of a text is one `char`, and a string has fewer than
   2^63 of them. -/
namespace CppIndices
open JavaRuntime CppRuntime CppFrame FrameShape FrameSplit FrameStream SeparatorRuns SplitLoops

def npos : Nat := 2 ^ 64 - 1

/-- `std::size_t` to `int`, and `int` to `std::size_t`. -/
def toInt (n : Nat) : Int := wrapInt n

def toSize (n : Int) : Nat := (n % 2 ^ 64).toNat

def find (line : Text) (c : Char) : Nat := (line.findIdx? (· = c)).getD npos

def substr (line : Text) (pos count : Nat) : Except CppException Text :=
  if line.length < pos then .error .outOfRange else .ok ((line.drop pos).take count)

/-- `frameLines.at(i)` -/
def tokenAt (frameLines : List Text) (i : Nat) : Except CppException Text :=
  match frameLines[i]? with
  | none => .error .outOfRange
  | some line => .ok line

/-- The two calls of `substr` on a line, with the `int index` between them. -/
def headerOf (line : Text) : Except CppException (Text × Text) := do
  let index := toInt (find line ':')
  let header ← substr line 0 (toSize index)
  let value ← substr line (toSize (wrapInt (index + 1))) npos
  return (header, value)

/-- The look-ahead of the loop, which stops at the first comparison that fails. -/
def startsBody (frameLines : List Text) (i : Nat) : Except CppException Bool := do
  if (← tokenAt frameLines i) = ['\n'] then
    if (← tokenAt frameLines (i + 1)) = ['\n'] then
      return (← tokenAt frameLines (i + 2)) ≠ nulLiteral
    else return false
  else return false

def readHeader (frameLines : List Text) (headers : OrderedMap Text) (i : Nat) :
    Except CppException (OrderedMap Text) :=
  match tokenAt frameLines i with
  | .error e => .error e
  | .ok line =>
      if line ≠ ['\n'] ∧ line ≠ nulLiteral then
        match headerOf line with
        | .error e => .error e
        | .ok (header, value) => .ok (insertNew header value headers)
      else .ok headers

/-- The loop over the lines, with the index of the body when one has been found. -/
def readFrom (frameLines : List Text) (headers : OrderedMap Text) (i : Nat) :
    Except CppException (OrderedMap Text × Option Int) :=
  if i < frameLines.length then
    match startsBody frameLines i with
    | .error e => .error e
    | .ok true => .ok (headers, some (toInt (i + 2)))
    | .ok false =>
        match readHeader frameLines headers i with
        | .error e => .error e
        | .ok headers => readFrom frameLines headers (i + 1)
  else .ok (headers, none)
termination_by frameLines.length - i

def bodyFrom (frameLines : List Text) (i : Nat) : Except CppException Text :=
  if i < frameLines.length then
    match tokenAt frameLines i with
    | .error e => .error e
    | .ok line =>
        match bodyFrom frameLines (i + 1) with
        | .error e => .error e
        | .ok rest => .ok (if line ≠ nulLiteral then line ++ rest else rest)
  else .ok []
termination_by frameLines.length - i

def ofText (frame : Text) : Except CppException StompFrame :=
  let frameLines := cppSplit frame '\n'
  match tokenAt frameLines 0 with
  | .error e => .error e
  | .ok command =>
      match readFrom frameLines ∅ 1 with
      | .error e => .error e
      | .ok (headers, none) => .ok ⟨command, headers, []⟩
      | .ok (headers, some bodyIndex) =>
          match bodyFrom frameLines (toSize bodyIndex) with
          | .error e => .error e
          | .ok body => .ok ⟨command, headers, body⟩

/-- The position behind the first colon is not negative as an `int`. -/
def ColonFits (line : Text) : Prop :=
  ∀ p ∈ line.findIdx? (· = ':'), (p + 1) % 2 ^ 32 < 2 ^ 31

instance (line : Text) : Decidable (ColonFits line) :=
  inferInstanceAs (Decidable (∀ p ∈ line.findIdx? (· = ':'), _))

section Positions

theorem half_range : (((2 ^ 32 : Nat) : Int) + 1) / 2 = 2 ^ 31 := by decide

theorem to_int_small {n : Nat} (fits : n % 2 ^ 32 < 2 ^ 31) : toInt n = (n % 2 ^ 32 : Nat) := by
  unfold toInt wrapInt
  rw [Int.bmod_def, half_range, if_pos (by omega)]
  omega

theorem to_int_large {n : Nat} (large : 2 ^ 31 ≤ n % 2 ^ 32) :
    toInt n = (n % 2 ^ 32 : Nat) - 2 ^ 32 := by
  unfold toInt wrapInt
  rw [Int.bmod_def, half_range, if_neg (by omega)]
  omega

theorem to_int_next (p : Nat) : wrapInt (toInt p + 1) = toInt (p + 1) := by
  unfold toInt wrapInt
  rw [Int.bmod_add_bmod, Nat.cast_succ]

theorem to_int_npos : toInt npos = -1 := by
  rw [to_int_large (by unfold npos; omega)]
  unfold npos
  omega

theorem index_kept {n : Nat} (short : n < 2 ^ 31) : toSize (toInt n) = n := by
  rw [to_int_small (by omega)]
  unfold toSize
  omega

theorem index_small {n : Nat} (fits : n % 2 ^ 32 < 2 ^ 31) : toSize (toInt n) ≤ n := by
  rw [to_int_small fits]
  unfold toSize
  omega

theorem index_large {n : Nat} (large : 2 ^ 31 ≤ n % 2 ^ 32) : 2 ^ 63 ≤ toSize (toInt n) := by
  rw [to_int_large large]
  unfold toSize
  omega

end Positions

section Headers
variable {line : Text}

theorem substr_within {pos : Nat} (count : Nat) (within : pos ≤ line.length) :
    substr line pos count = .ok ((line.drop pos).take count) := by
  unfold substr
  rw [if_neg (by omega)]

theorem header_of_found {p : Nat} (found : line.findIdx? (· = ':') = some p) :
    headerOf line = (substr line (toSize (toInt (p + 1))) npos).map fun value =>
      (line.take (toSize (toInt p)), value) := by
  unfold headerOf find
  rw [found, Option.getD_some]
  dsimp only
  rw [substr_within _ (Nat.zero_le _), to_int_next]
  cases substr line (toSize (toInt (p + 1))) npos <;> rfl

/-- Without a colon the index is -1, and both parts are the whole line. -/
theorem header_of_none (none : line.findIdx? (· = ':') = none) (short : line.length < 2 ^ 63) :
    headerOf line = .ok (line, line) := by
  have whole : line.take npos = line := List.take_of_length_le (by unfold npos; omega)
  have start : toSize (-1) = npos := by decide
  have next : toSize (wrapInt (-1 + 1)) = 0 := by decide
  unfold headerOf find
  rw [none, Option.getD_none, to_int_npos]
  dsimp only
  rw [start, next, substr_within _ (Nat.zero_le _), List.drop_zero, whole]
  rfl

theorem header_of_iff (short : line.length < 2 ^ 63) :
    (∃ header, headerOf line = .ok header) ↔ ColonFits line := by
  unfold ColonFits
  cases found : line.findIdx? (· = ':') with
  | none => simp [header_of_none found short]
  | some p =>
    obtain ⟨inside, _⟩ := List.findIdx?_eq_some_iff_getElem.mp found
    rw [header_of_found found]
    simp only [Option.mem_def, Option.some.injEq, forall_eq']
    constructor
    · rintro ⟨header, ok⟩
      by_contra large
      have beyond := index_large (n := p + 1) (by omega)
      unfold substr at ok
      rw [if_pos (by omega)] at ok
      cases ok
    · intro fits
      have within := index_small fits
      rw [substr_within _ (by omega)]
      exact ⟨_, rfl⟩

end Headers

section Loop
variable {frameLines rest : List Text} {line : Text} {headers : OrderedMap Text} {i : Nat}

theorem token_at_drop (frameLines : List Text) (i k : Nat) :
    tokenAt frameLines (i + k) = tokenAt (frameLines.drop i) k := by
  unfold tokenAt
  rw [List.getElem?_drop]

theorem token_first (line : Text) (rest : List Text) : tokenAt (line :: rest) 0 = .ok line := rfl

theorem token_next (line : Text) (rest : List Text) (k : Nat) :
    tokenAt (line :: rest) (k + 1) = tokenAt rest k := rfl

theorem token_here (left : frameLines.drop i = line :: rest) :
    i < frameLines.length ∧ tokenAt frameLines i = .ok line ∧ frameLines.drop (i + 1) = rest := by
  have inside : i < frameLines.length := by
    by_contra beyond
    rw [List.drop_eq_nil_of_le (by omega)] at left
    cases left
  have zero : tokenAt frameLines i = tokenAt (frameLines.drop i) 0 := token_at_drop frameLines i 0
  refine ⟨inside, ?_, ?_⟩
  · rw [zero, left, token_first]
  · rw [← List.drop_drop, left, List.drop_one, List.tail_cons]

theorem starts_body_drop (left : frameLines.drop i = line :: rest) :
    startsBody frameLines i = CppFrame.startsBody (line :: rest) := by
  have zero : tokenAt frameLines i = tokenAt (frameLines.drop i) 0 := token_at_drop frameLines i 0
  unfold startsBody CppFrame.startsBody
  rw [zero, token_at_drop frameLines i 1, token_at_drop frameLines i 2, left]
  by_cases newline : line = ['\n']
  · cases rest with
    | nil =>
      simp only [token_first, ok_bind, if_pos newline]
      rfl
    | cons next later =>
      by_cases again : next = ['\n']
      · simp only [token_first, token_next, ok_bind, if_pos newline, if_pos again]
        cases later <;> rfl
      · simp only [token_first, token_next, ok_bind, if_pos newline, if_neg again]
        rfl
  · simp only [token_first, ok_bind, if_neg newline]
    rfl

theorem read_from_error {e : CppException} (left : frameLines.drop i = line :: rest)
    (ahead : CppFrame.startsBody (line :: rest) = .error e) :
    readFrom frameLines headers i = .error e := by
  rw [readFrom, if_pos (token_here left).1, starts_body_drop left, ahead]

theorem read_from_body (left : frameLines.drop i = line :: rest)
    (ahead : CppFrame.startsBody (line :: rest) = .ok true) :
    readFrom frameLines headers i = .ok (headers, some (toInt (i + 2))) := by
  rw [readFrom, if_pos (token_here left).1, starts_body_drop left, ahead]

theorem read_from_header (left : frameLines.drop i = line :: rest)
    (ahead : CppFrame.startsBody (line :: rest) = .ok false)
    (plain : line ≠ ['\n'] ∧ line ≠ nulLiteral) :
    readFrom frameLines headers i =
      match headerOf line with
      | .error e => .error e
      | .ok header => readFrom frameLines (insertNew header.1 header.2 headers) (i + 1) := by
  obtain ⟨inside, here, _⟩ := token_here left
  rw [readFrom, if_pos inside, starts_body_drop left, ahead]
  dsimp only
  rw [readHeader, here]
  dsimp only
  rw [if_pos plain]
  cases headerOf line <;> rfl

theorem read_from_skip (left : frameLines.drop i = line :: rest)
    (ahead : CppFrame.startsBody (line :: rest) = .ok false)
    (plain : ¬ (line ≠ ['\n'] ∧ line ≠ nulLiteral)) :
    readFrom frameLines headers i = readFrom frameLines headers (i + 1) := by
  obtain ⟨inside, here, _⟩ := token_here left
  rw [readFrom, if_pos inside, starts_body_drop left, ahead]
  dsimp only
  rw [readHeader, here]
  dsimp only
  rw [if_neg plain]

theorem read_from_end (left : frameLines.drop i = []) :
    readFrom frameLines headers i = .ok (headers, none) := by
  have beyond := List.drop_eq_nil_iff.mp left
  rw [readFrom, if_neg (by omega)]

theorem body_from_eq (i : Nat) :
    bodyFrom frameLines i =
      .ok ((frameLines.drop i).filter (· ≠ nulLiteral)).flatten := by
  induction left : frameLines.drop i generalizing i with
  | nil =>
    have beyond := List.drop_eq_nil_iff.mp left
    rw [bodyFrom, if_neg (by omega)]
    rfl
  | cons line rest ih =>
    obtain ⟨inside, here, next⟩ := token_here left
    rw [bodyFrom, if_pos inside, here]
    simp only [ih (i + 1) next]
    by_cases empty : line = nulLiteral <;> simp [empty]

end Loop

/-- The lines in front of the first two newlines in a row. -/
def headerLines : List Text → List Text
  | [] => []
  | line :: rest =>
      if line = ['\n'] then (if rest.head? = some ['\n'] then [] else headerLines rest)
      else line :: headerLines rest

/-- The tokens of a text that the terminator ends. -/
structure Terminated (tokens : List Text) : Prop where
  filled : ∀ token ∈ tokens, token ≠ []
  last : tokens.getLast? ≠ some ['\n']

section Tokens
variable {frameLines rest : List Text} {line : Text} {headers : OrderedMap Text} {i : Nat}

theorem terminated_tail (terminated : Terminated (line :: rest)) : Terminated rest where
  filled := fun token member => terminated.filled token (List.mem_cons_of_mem line member)
  last := by
    cases rest with
    | nil => simp
    | cons next later => simpa using terminated.last

/-- The look-ahead never goes behind the last token: a newline is followed by a token, and so
    are two newlines. -/
theorem ahead_terminated (terminated : Terminated (line :: rest)) :
    CppFrame.startsBody (line :: rest) =
      .ok (decide (line = ['\n'] ∧ rest.head? = some ['\n'])) := by
  unfold CppFrame.startsBody
  by_cases newline : line = ['\n']
  · cases rest with
    | nil => exact absurd (by simp [newline]) terminated.last
    | cons next later =>
      by_cases again : next = ['\n']
      · cases later with
        | nil => exact absurd (by simp [again]) terminated.last
        | cons third more =>
          have filled : third ≠ [] := terminated.filled third (by simp)
          simp [newline, again, nulLiteral, filled]
      · simp [newline, again]
  · simp [newline]

theorem read_returns_iff (left : frameLines.drop i = rest) (terminated : Terminated rest)
    (short : ∀ line ∈ rest, line.length < 2 ^ 63) :
    (∃ result, readFrom frameLines headers i = .ok result) ↔
      ∀ line ∈ headerLines rest, ColonFits line := by
  induction rest generalizing i headers with
  | nil =>
    rw [read_from_end left]
    simp [headerLines]
  | cons line rest ih =>
    have next := (token_here left).2.2
    have tail := terminated_tail terminated
    have tailShort : ∀ line' ∈ rest, line'.length < 2 ^ 63 :=
      fun line' member => short line' (List.mem_cons_of_mem line member)
    have ahead := ahead_terminated terminated
    unfold headerLines
    by_cases newline : line = ['\n']
    · rw [if_pos newline]
      by_cases again : rest.head? = some ['\n']
      · rw [decide_eq_true ⟨newline, again⟩] at ahead
        rw [if_pos again, read_from_body left ahead]
        simp
      · rw [decide_eq_false (fun both => again both.2)] at ahead
        rw [if_neg again, read_from_skip left ahead (fun plain => plain.1 newline)]
        exact ih next tail tailShort
    · have filled : line ≠ nulLiteral := terminated.filled line (by simp)
      rw [decide_eq_false (fun both => newline both.1)] at ahead
      rw [if_neg newline, read_from_header left ahead ⟨newline, filled⟩, List.forall_mem_cons,
        ← header_of_iff (short line (by simp))]
      cases read : headerOf line with
      | error e => simp
      | ok header =>
        simp only [Except.ok.injEq, exists_eq', true_and]
        exact ih next tail tailShort

theorem tokens_filled (text : Text) : ∀ token ∈ CppFrame.split text, token ≠ [] := by
  intro token member
  rw [CppFrame.split_texts] at member
  obtain ⟨token', found, rfl⟩ := List.mem_map.mp member
  exact JavaFrame.token_text_ne_nil found

theorem tokens_flatten (text : Text) : (CppFrame.split text).flatten = squeezed '\n' text := by
  rw [CppFrame.split_texts, ← glued_eq_squeezed]
  rfl

theorem tokens_terminated (text : Text) :
    CppFrame.split (text ++ [nul]) ≠ [] ∧ Terminated (CppFrame.split (text ++ [nul])) := by
  have whole := tokens_flatten (text ++ [nul])
  unfold squeezed at whole
  rw [squeeze_concat (by decide)] at whole
  refine ⟨?_, tokens_filled _, ?_⟩
  · intro none
    rw [none] at whole
    simp at whole
  · intro last
    obtain ⟨front, split⟩ := List.getLast?_eq_some_iff.mp last
    rw [split, List.flatten_append, List.flatten_singleton] at whole
    have ends := congrArg List.getLast? whole
    simp [nul] at ends

theorem token_shorter {text token : Text} (member : token ∈ CppFrame.split text) :
    token.length ≤ text.length := by
  have size := squeeze_length (d := '\n') 0 text
  have whole := congrArg List.length (tokens_flatten text)
  have part := (List.sublist_flatten_of_mem member).length_le
  unfold squeezed at whole
  omega

theorem token_count (text : Text) : (CppFrame.split text).length ≤ text.length := by
  have filled : ∀ n ∈ (CppFrame.split text).map List.length, 1 ≤ n := by
    intro n member
    obtain ⟨token, found, rfl⟩ := List.mem_map.mp member
    exact List.length_pos_iff.mpr (tokens_filled text token found)
  have count := List.length_le_sum_of_one_le _ filled
  have size := squeeze_length (d := '\n') 0 text
  have whole := congrArg List.length (tokens_flatten text)
  rw [List.length_flatten] at whole
  rw [List.length_map] at count
  unfold squeezed at whole
  omega

theorem header_lines_head (t part : Text) (started : part ≠ [] ∨ t.head? ≠ some '\n')
    (more : part ≠ [] ∨ t ≠ []) :
    ∃ command tokens, CppFrame.splitFrom part t = command :: tokens ∧
      headFrom part t = command :: headerLines tokens := by
  induction t generalizing part with
  | nil =>
    have filled : part ≠ [] := by simpa using more
    exact ⟨part, [], by simp [CppFrame.splitFrom, filled], by simp [headFrom, headerLines, filled]⟩
  | cons c t ih =>
    by_cases newline : c = '\n'
    · subst newline
      have filled : part ≠ [] := by simpa using started
      cases t with
      | nil =>
        refine ⟨part, [['\n']], by simp [CppFrame.splitFrom, filled], ?_⟩
        simp [headFrom, headerLines, filled]
      | cons b t =>
        by_cases blank : b = '\n'
        · subst blank
          refine ⟨part, ['\n'] :: ['\n'] :: CppFrame.split t, ?_, ?_⟩
          · simp [CppFrame.splitFrom, CppFrame.split, filled]
          · simp [headFrom, headerLines, filled]
        · obtain ⟨first, tokens, split, head⟩ := ih [] (by simp [blank]) (by simp)
          have piece : first ≠ ['\n'] := by
            intro same
            apply first_token (b :: t)
            rw [CppFrame.split, split, same, List.head?_cons]
          refine ⟨part, ['\n'] :: first :: tokens, ?_, ?_⟩
          · rw [← split]
            simp [CppFrame.splitFrom, filled, blank]
          · rw [headerLines, if_pos rfl, List.head?_cons, if_neg (by simpa using piece),
              headerLines, if_neg piece, ← head]
            simp [headFrom, filled]
    · obtain ⟨first, tokens, split, head⟩ := ih (part ++ [c]) (by simp) (by simp)
      refine ⟨first, tokens, ?_, ?_⟩
      · simpa [CppFrame.splitFrom, newline] using split
      · simpa [headFrom, newline] using head

end Tokens

section Constructor
variable {text : Text}

theorem tokens_of_text (text : Text) (some' : text.dropWhile (· = '\n') ≠ []) :
    ∃ command tokens, CppFrame.split text = command :: tokens ∧
      frameHead text = command :: headerLines tokens := by
  obtain ⟨command, tokens, split, head⟩ :=
    header_lines_head (text.dropWhile (· = '\n')) [] (Or.inr (dropped_head text)) (Or.inr some')
  have same : CppFrame.split (text.dropWhile (· = '\n')) = CppFrame.split text := by
    rw [CppFrame.split_texts, CppFrame.split_texts, split_drop]
  exact ⟨command, tokens, same.symm.trans split, head⟩

theorem of_text_iff {command : Text} {tokens : List Text}
    (split : CppFrame.split text = command :: tokens) :
    (∃ f, ofText text = .ok f) ↔
      ∃ result, readFrom (command :: tokens) ∅ 1 = .ok result := by
  unfold ofText
  rw [cpp_split_eq, split]
  simp only [token_first]
  cases read : readFrom (command :: tokens) ∅ 1 with
  | error e => simp
  | ok result =>
    obtain ⟨headers, bodyIndex⟩ := result
    cases bodyIndex with
    | none => simp
    | some bodyIndex => simp [body_from_eq]

/-- On a text with the terminator behind it the constructor returns exactly when no header
    line has its first colon where the next position is negative as an `int`. -/
theorem constructor_returns_iff (text : Text) (stored : text.length < 2 ^ 63 - 1) :
    (∃ f, ofText (text ++ [nul]) = .ok f) ↔
      ∀ line ∈ (frameHead (text ++ [nul])).tail, ColonFits line := by
  obtain ⟨some', terminated⟩ := tokens_terminated text
  have dark : (text ++ [nul]).dropWhile (· = '\n') ≠ [] := by
    intro none
    have all := List.dropWhile_eq_nil_iff.mp none nul (by simp)
    simp [nul] at all
  obtain ⟨command, tokens, split, head⟩ := tokens_of_text (text ++ [nul]) dark
  have short : ∀ line ∈ tokens, line.length < 2 ^ 63 := by
    intro line member
    have size := token_shorter (split ▸ List.mem_cons_of_mem command member)
    rw [List.length_append, List.length_singleton] at size
    omega
  rw [split] at terminated
  rw [of_text_iff split, head, List.tail_cons]
  exact read_returns_iff rfl (terminated_tail terminated) short

theorem colonless_header_read :
    ∃ f, ofText ("MESSAGE\nno colon\n\n\n".toList ++ [nul]) = .ok f :=
  (constructor_returns_iff "MESSAGE\nno colon\n\n\n" (by decide)).mpr (by decide)

/-- A header line whose first colon has `n` characters in front of it. -/
def wideHeader (n : Nat) : Text := "SEND".toList ++ '\n' :: (List.replicate n 'a' ++ [':'])

theorem wide_header_refused {n : Nat} (large : 2 ^ 31 ≤ (n + 1) % 2 ^ 32) (stored : n < 2 ^ 62) :
    ¬ ∃ f, ofText (wideHeader n ++ [nul]) = .ok f := by
  let line : Text := List.replicate n 'a' ++ [':', nul]
  have free : '\n' ∉ line := by simp [line, nul]
  have some' : line ≠ [] := by simp [line]
  have dark : line.head? ≠ some '\n' := fun first => free (List.mem_of_head? first)
  have whole : wideHeader n ++ [nul] = "SEND".toList ++ '\n' :: line := by
    simp [wideHeader, line]
  have tokens : CppFrame.split (wideHeader n ++ [nul]) = ["SEND".toList, ['\n'], line] := by
    rw [← cpp_split_eq, cppSplit, whole, loop_cut (by decide), loop_last free some',
      if_neg (by decide), if_neg dark]
    rfl
  have terminated : Terminated [['\n'], line] := by
    have all := (tokens_terminated (wideHeader n)).2
    rw [tokens] at all
    exact terminated_tail all
  have size : line.length = n + 2 := by simp [line]
  have short : ∀ token ∈ [['\n'], line], token.length < 2 ^ 63 := by
    intro token member
    rcases List.mem_pair.mp member with rfl | rfl
    · decide
    · omega
  have colon : line.findIdx? (· = ':') = some n := by
    simp [line, List.findIdx?_append, List.findIdx?_replicate, List.findIdx?_cons]
  have left : ["SEND".toList, ['\n'], line].drop 1 = [['\n'], line] := rfl
  rw [of_text_iff tokens, read_returns_iff left terminated short]
  intro fits
  have other : line ≠ ['\n'] := fun same => free (by simp [same])
  have held := fits line (by simp [headerLines, other]) n colon
  omega

/-- Two gigabytes in front of the colon: `substr` is called with a position behind the end. -/
theorem wide_header_throws : ¬ ∃ f, ofText (wideHeader (2 ^ 31) ++ [nul]) = .ok f :=
  wide_header_refused (by decide) (by decide)

end Constructor

section Short
variable {frameLines rest : List Text} {line text : Text} {headers : OrderedMap Text} {i : Nat}

theorem cut_at_index (c : Char) (line : Text) :
    JavaFrame.cutAt c line =
      (line.findIdx? (· = c)).map fun p => (line.take p, line.drop (p + 1)) := by
  induction line with
  | nil => rfl
  | cons d line ih =>
    by_cases here : d = c
    · simp [JavaFrame.cutAt, List.findIdx?_cons, here]
    · simp [JavaFrame.cutAt, List.findIdx?_cons, here, ih, Function.comp_def]

theorem header_of_short (short : line.length < 2 ^ 31) :
    headerOf line = .ok (CppFrame.headerOf line) := by
  unfold CppFrame.headerOf
  rw [cut_at_index]
  cases found : line.findIdx? (· = ':') with
  | none => exact header_of_none found (by omega)
  | some p =>
    obtain ⟨inside, _⟩ := List.findIdx?_eq_some_iff_getElem.mp found
    have rest : (line.drop (p + 1)).take npos = line.drop (p + 1) := by
      apply List.take_of_length_le
      rw [List.length_drop]
      unfold npos
      omega
    rw [header_of_found found, index_kept (show p < 2 ^ 31 by omega),
      index_kept (show p + 1 < 2 ^ 31 by omega), substr_within _ (by omega), rest]
    rfl

/-- The tokens of the body. -/
def bodyTokens (frameLines : List Text) : Option Int → List Text
  | none => []
  | some bodyIndex => frameLines.drop (toSize bodyIndex)

theorem ahead_body (found : CppFrame.startsBody (line :: rest) = .ok true) :
    line = ['\n'] ∧ ∃ third more, rest = ['\n'] :: third :: more := by
  unfold CppFrame.startsBody at found
  dsimp only at found
  split at found
  · rename_i newline
    split at found
    · cases found
    · split at found
      · rename_i again
        split at found
        · cases found
        · exact ⟨newline, _, _, by rw [again]⟩
      · cases found
  · cases found

theorem read_from_short (left : frameLines.drop i = rest) (few : frameLines.length < 2 ^ 31)
    (short : ∀ line ∈ rest, line.length < 2 ^ 31) :
    (readFrom frameLines headers i).map (fun read => (read.1, bodyTokens frameLines read.2)) =
      CppFrame.readLines headers rest := by
  induction rest generalizing i headers with
  | nil =>
    rw [read_from_end left]
    rfl
  | cons line rest ih =>
    obtain ⟨inside, _, next⟩ := token_here left
    have tailShort : ∀ line' ∈ rest, line'.length < 2 ^ 31 :=
      fun line' member => short line' (List.mem_cons_of_mem line member)
    unfold CppFrame.readLines
    cases ahead : CppFrame.startsBody (line :: rest) with
    | error e =>
      rw [read_from_error left ahead]
      rfl
    | ok found =>
      cases found with
      | true =>
        obtain ⟨_, third, more, shape⟩ := ahead_body ahead
        have behind : frameLines.drop (i + 2) = rest.drop 1 := by
          rw [← next, List.drop_drop]
        have index : i + 2 < frameLines.length := by
          by_contra beyond
          rw [List.drop_eq_nil_of_le (by omega), shape] at behind
          cases behind
        rw [read_from_body left ahead, ← behind]
        simp only [Except.map, bodyTokens]
        rw [index_kept (by omega)]
      | false =>
        dsimp only
        by_cases plain : line ≠ ['\n'] ∧ line ≠ nulLiteral
        · rw [read_from_header left ahead plain, header_of_short (short line (by simp)),
            if_pos plain]
          exact ih next tailShort
        · rw [read_from_skip left ahead plain, if_neg plain]
          exact ih next tailShort

/-- Below 2^31 characters neither `int` changes a position, and the constructor is the one that
    looks at the tokens alone. -/
theorem of_text_short (short : text.length < 2 ^ 31) :
    ofText text = CppFrame.StompFrame.ofText text := by
  have size := token_count text
  unfold ofText CppFrame.StompFrame.ofText
  rw [cpp_split_eq]
  cases split : CppFrame.split text with
  | nil => rfl
  | cons command tokens =>
    have shortTokens : ∀ line ∈ tokens, line.length < 2 ^ 31 := by
      intro line member
      have := token_shorter (split ▸ List.mem_cons_of_mem command member)
      omega
    rw [split] at size
    have few : (command :: tokens).length < 2 ^ 31 := by omega
    have read : (readFrom (command :: tokens) ∅ 1).map _ = CppFrame.readLines ∅ tokens :=
      read_from_short rfl few shortTokens
    simp only [token_first]
    rw [← read]
    cases readFrom (command :: tokens) ∅ 1 with
    | error e => rfl
    | ok result =>
      obtain ⟨headers, bodyIndex⟩ := result
      cases bodyIndex with
      | none => rfl
      | some bodyIndex =>
        simp only [body_from_eq]
        rfl

end Short

end CppIndices
