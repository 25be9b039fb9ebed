import EmergencyService.Foundation.SeparatorRuns
import EmergencyService.Frames.FrameExchange

/- What the server's constructor makes of any text: newlines in front are skipped, the lines
   up to the first empty one are the head of the frame, and what follows is the body, with
   its runs of newlines cut down. -/
namespace FrameShape
open JavaRuntime JavaFrame FrameExchange SeparatorRuns

/-- The lines up to the first empty one; `part` is the piece of a line read so far. -/
def headFrom (part : Text) : Text → List Text
  | [] => if part = [] then [] else [part]
  | c :: rest =>
      if c = '\n' then (if part = [] then [] else part :: headFrom [] rest)
      else headFrom (part ++ [c]) rest

/-- The text behind the first empty line. -/
def restFrom (part : Text) : Text → Text
  | [] => []
  | c :: rest =>
      if c = '\n' then (if part = [] then rest else restFrom [] rest)
      else restFrom (part ++ [c]) rest

def frameHead (text : Text) : List Text := headFrom [] (text.dropWhile (· = '\n'))

def frameRest (text : Text) : Text := restFrom [] (text.dropWhile (· = '\n'))

/-- The header lines, each cut at its first colon; `none` when one has no colon. -/
def readHeaders (headers : HashMap Text Text) : List Text → Option (HashMap Text Text)
  | [] => some headers
  | line :: lines =>
      (cutAt ':' line).bind fun (header, value) =>
        readHeaders (headers.insert header value) lines

theorem cut_at_none {c : Char} {line : Text} : cutAt c line = none ↔ c ∉ line := by
  induction line with
  | nil => simp [cutAt]
  | cons d line ih =>
    by_cases here : d = c
    · simp [cutAt, here]
    · simp [cutAt, here, ih, Ne.symm here]

theorem read_headers_isSome (headers : HashMap Text Text) (lines : List Text) :
    (readHeaders headers lines).isSome ↔ ∀ line ∈ lines, ':' ∈ line := by
  induction lines generalizing headers with
  | nil => simp [readHeaders]
  | cons line lines ih =>
    cases cut : cutAt ':' line with
    | none =>
      have missing := cut_at_none.mp cut
      simp [readHeaders, cut, missing]
    | some found =>
      have there : ':' ∈ line := by
        by_contra missing
        rw [cut_at_none.mpr missing] at cut
        cases cut
      simp [readHeaders, cut, ih, there]

theorem split_from_squeezed (t part : Text) :
    (splitFrom part t).flatMap Token.text =
      part ++ squeezeFrom '\n' (if part = [] then 0 else 2) t := by
  induction t generalizing part with
  | nil => by_cases empty : part = [] <;> simp [splitFrom, squeezeFrom, empty]
  | cons c t ih =>
    by_cases line : c = '\n'
    · subst line
      by_cases empty : part = []
      · simp [splitFrom, empty, ih]
      · have later : squeezeFrom '\n' 1 t =
            (if t.head? = some '\n' then ['\n'] else []) ++ squeezeFrom '\n' 0 t := by
          cases t with
          | nil => rfl
          | cons b t =>
            by_cases blank : b = '\n'
            · subst blank
              simp
            · simp [blank, squeeze_other blank]
        have next := ih []
        simp only [if_true, List.nil_append] at next
        by_cases blank : t.head? = some '\n' <;>
          simp [splitFrom, empty, next, blank, later]
    · have next := ih (part ++ [c])
      simp only [List.append_eq_nil_iff, List.cons_ne_self, and_false, if_false] at next
      simp [splitFrom, line, next, squeeze_other line]

theorem glued_eq_squeezed (t : Text) : glued t = squeezed '\n' t := by
  simpa [glued, squeezed, split] using split_from_squeezed t []

theorem split_drop (t : Text) : split (t.dropWhile (· = '\n')) = split t := by
  induction t with
  | nil => rfl
  | cons c t ih =>
    by_cases line : c = '\n'
    · subst line
      simp [ih]
    · simp [line]

/-- The end of the constructor's loop: the headers and the tokens of the body. -/
def readResult (headers : HashMap Text Text) (lines : List Text) (rest : Text) :
    Except JavaException (HashMap Text Text × List Token) :=
  match readHeaders headers lines with
  | none => .error .stringIndexOutOfBounds
  | some headers => .ok (headers, split rest)

theorem read_lines_blank (headers : HashMap Text Text) (rest : Text) :
    JavaFrame.readLines headers (.newline :: .newline :: split rest) =
      .ok (headers, split rest) := by
  cases shape : split rest with
  | nil => rfl
  | cons token tokens => rfl

/-- From the start of a line on, the tokens are that line and what the loop reads as
    `readResult`. -/
theorem split_from_head (t part : Text) (started : part ≠ [] ∨ t.head? ≠ some '\n')
    (more : part ≠ [] ∨ t ≠ []) :
    ∃ line lines after, splitFrom part t = .part line :: after ∧
      headFrom part t = line :: lines ∧
        ∀ headers, JavaFrame.readLines headers after =
          readResult headers lines (restFrom part t) := by
  induction t generalizing part with
  | nil =>
    have filled : part ≠ [] := by simpa using more
    exact ⟨part, [], [], by simp [splitFrom, filled], by simp [headFrom, filled], fun _ => rfl⟩
  | cons c t ih =>
    by_cases line : c = '\n'
    · subst line
      have filled : part ≠ [] := by simpa using started
      cases t with
      | nil =>
        refine ⟨part, [], [.newline], by simp [splitFrom, filled],
          by simp [headFrom, filled], fun headers => ?_⟩
        simp [JavaFrame.readLines, readResult, readHeaders, restFrom, filled]
      | cons b t =>
        by_cases blank : b = '\n'
        · subst blank
          refine ⟨part, [], .newline :: .newline :: split t, ?_, by simp [headFrom, filled],
            fun headers => ?_⟩
          · simp [splitFrom, filled, split]
          · rw [read_lines_blank]
            simp [readResult, readHeaders, restFrom, filled]
        · obtain ⟨first, lines, after, tokens, head, read⟩ :=
            ih [] (by simp [blank]) (by simp)
          refine ⟨part, first :: lines, .newline :: .part first :: after, ?_, ?_,
            fun headers => ?_⟩
          · rw [← tokens]
            simp [splitFrom, filled, blank]
          · rw [← head]
            simp [headFrom, filled]
          · have kept : restFrom part ('\n' :: b :: t) = restFrom [] (b :: t) := by
              simp [restFrom, filled]
            cases cut : cutAt ':' first with
            | none => simp [JavaFrame.readLines, readResult, readHeaders, cut]
            | some found =>
              have tail := read (headers.insert found.1 found.2)
              simp [JavaFrame.readLines, tail, readResult, readHeaders, cut, kept]
    · obtain ⟨first, lines, after, tokens, head, read⟩ :=
        ih (part ++ [c]) (by simp) (by simp)
      refine ⟨first, lines, after, ?_, ?_, fun headers => ?_⟩
      · simpa [splitFrom, line] using tokens
      · simpa [headFrom, line] using head
      · simpa [restFrom, line] using read headers

theorem java_of_text (text : Text) :
    JavaFrame.StompFrame.ofText text =
      match frameHead text with
      | [] => .error .indexOutOfBounds
      | command :: lines =>
          match readHeaders ∅ lines with
          | none => .error .stringIndexOutOfBounds
          | some headers => .ok ⟨command, headers, squeezed '\n' (frameRest text)⟩ := by
  unfold JavaFrame.StompFrame.ofText
  rw [← split_drop]
  by_cases empty : text.dropWhile (· = '\n') = []
  · simp [frameHead, empty, headFrom]
  · obtain ⟨command, lines, after, tokens, head, read⟩ :=
      split_from_head _ [] (Or.inr (dropped_head text)) (Or.inr empty)
    have split_eq : split (text.dropWhile (· = '\n')) = .part command :: after := tokens
    have head_eq : frameHead text = command :: lines := head
    rw [split_eq, head_eq]
    simp only [read, readResult, frameRest]
    cases readHeaders ∅ lines with
    | none => rfl
    | some headers => simp only [← glued_eq_squeezed, glued, text_part]

/-- The constructor fails on a text without any character but newlines, and on a header
    line without a colon. -/
theorem java_accepts_iff (text : Text) :
    (∃ f, JavaFrame.StompFrame.ofText text = .ok f) ↔
      frameHead text ≠ [] ∧ ∀ line ∈ (frameHead text).tail, ':' ∈ line := by
  rw [java_of_text]
  cases head : frameHead text with
  | nil => simp
  | cons command lines =>
    have known := read_headers_isSome ∅ lines
    cases read : readHeaders ∅ lines with
    | none => simpa [read] using known
    | some headers => simpa [read] using known

theorem parsed_body_squeezed {text : Text} {f : JavaFrame.StompFrame}
    (parsed : JavaFrame.StompFrame.ofText text = .ok f) : squeezed '\n' f.body = f.body := by
  rw [java_of_text] at parsed
  split at parsed
  · cases parsed
  · split at parsed
    · cases parsed
    · cases parsed
      exact squeezed_idem

end FrameShape
