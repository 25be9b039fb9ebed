import EmergencyService.Foundation.JavaRuntime

/- The server's frame class: the constructor that parses a text, and `createFrame`. -/
namespace JavaFrame
open JavaRuntime

/- `split` adds either the interned literal "\n" or a string it has built itself, and
   the constructor compares tokens with literals by reference. Only a `newline` is the
   same object as the literal "\n", and no token is the same object as "\0". -/
inductive Token where
  | newline
  | part : Text → Token
  deriving DecidableEq, Repr

def Token.text : Token → Text
  | .newline => ['\n']
  | .part t => t

@[simp] theorem text_newline : Token.newline.text = ['\n'] := rfl

@[simp] theorem text_part (t : Text) : (Token.part t).text = t := rfl

/-- The two nested loops of `split` as one pass: `part` is the piece read so far. -/
def splitFrom (part : Text) : Text → List Token
  | [] => if part = [] then [] else [.part part]
  | c :: rest =>
      if c = '\n' then
        (if part = [] then [] else
          .part part :: .newline :: if rest.head? = some '\n' then [.newline] else []) ++
          splitFrom [] rest
      else splitFrom (part ++ [c]) rest

def split (line : Text) : List Token := splitFrom [] line

/-- `indexOf(c)` and the two `substring` calls around it. -/
def cutAt (c : Char) : Text → Option (Text × Text)
  | [] => none
  | d :: rest => if d = c then some ([], rest) else (cutAt c rest).map fun (a, b) => (d :: a, b)

/-- The loop over the lines after the command. It ends at the first two newlines in a
    row that something follows; that and the rest is the body. -/
def readLines (headers : HashMap Text Text) :
    List Token → Except JavaException (HashMap Text Text × List Token)
  | .newline :: .newline :: next :: rest => .ok (headers, next :: rest)
  | .newline :: rest => readLines headers rest
  | .part line :: rest =>
      match cutAt ':' line with
      | none => .error .stringIndexOutOfBounds
      | some (header, value) => readLines (headers.insert header value) rest
  | [] => .ok (headers, [])

structure StompFrame where
  command : Text
  headers : HashMap Text Text
  body : Text

def StompFrame.ofText (frame : Text) : Except JavaException StompFrame :=
  match split frame with
  | [] => .error .indexOutOfBounds
  | command :: lines =>
      match readLines ∅ lines with
      | .error e => .error e
      | .ok (headers, body) => .ok ⟨command.text, headers, body.flatMap Token.text⟩

def headerLine (header value : Text) : Text := header ++ ':' :: value ++ ['\n']

/-- `o` is the order in which the headers' hash map is iterated. -/
def StompFrame.createFrame (o : IterationOrder Text) (f : StompFrame) : Text :=
  f.command ++ '\n' ::
    ((o.order f.headers.keys).flatMap fun header =>
      headerLine header ((f.headers.lookup header).getD [])) ++
    '\n' :: if f.body = [] then [] else f.body ++ ['\n']

def LineFree (t : Text) : Prop := '\n' ∉ t

instance (t : Text) : Decidable (LineFree t) := inferInstanceAs (Decidable (¬ _))

theorem decimal_line_free (n : Int) : LineFree (decimal n) := by
  intro newline
  rcases decimal_chars n _ newline with sign | isDigit
  · revert sign
    decide
  · revert isDigit
    decide

theorem split_from_line {t part : Text} (free : LineFree t) (rest : Text) :
    splitFrom part (t ++ rest) = splitFrom (part ++ t) rest := by
  induction t generalizing part with
  | nil => simp
  | cons c t ih =>
    have first : c ≠ '\n' := fun h => free (by simp [h])
    have tail : LineFree t := fun h => free (List.mem_cons_of_mem c h)
    simp [splitFrom, first, ih tail]

theorem split_line {t : Text} (nonempty : t ≠ []) (free : LineFree t) (rest : Text) :
    split (t ++ '\n' :: rest) =
      .part t :: .newline :: (if rest.head? = some '\n' then [.newline] else []) ++
        split rest := by
  simp [split, split_from_line free, splitFrom, nonempty]

@[simp] theorem split_skip (rest : Text) : split ('\n' :: rest) = split rest := by
  simp [split, splitFrom]

@[simp] theorem split_nil : split [] = [] := rfl

theorem cut_at_header {header : Text} (free : ':' ∉ header) (value : Text) :
    cutAt ':' (header ++ ':' :: value) = some (header, value) := by
  induction header with
  | nil => simp [cutAt]
  | cons d rest ih =>
    have first : d ≠ ':' := fun h => free (by simp [h])
    simp [cutAt, first, ih (fun h => free (List.mem_cons_of_mem d h))]

theorem cut_at_some {line header value : Text} (h : cutAt ':' line = some (header, value)) :
    line = header ++ ':' :: value ∧ ':' ∉ header := by
  induction line generalizing header with
  | nil => simp [cutAt] at h
  | cons d rest ih =>
    by_cases first : d = ':'
    · simp only [cutAt, first, ↓reduceIte, Option.some.injEq, Prod.mk.injEq] at h
      obtain ⟨rfl, rfl⟩ := h
      simp [first]
    · simp only [cutAt, first, ↓reduceIte, Option.map_eq_some_iff, Prod.mk.injEq] at h
      obtain ⟨⟨a, b⟩, tail, rfl, rfl⟩ := h
      obtain ⟨rfl, free⟩ := ih tail
      exact ⟨rfl, by simp [free, Ne.symm first]⟩

theorem split_token {s part : Text} (free : LineFree part) :
    ∀ token ∈ splitFrom part s,
      token = .newline ∨ ∃ t, token = .part t ∧ t ≠ [] ∧ LineFree t := by
  induction s generalizing part with
  | nil =>
    intro token member
    by_cases empty : part = []
    · simp [splitFrom, empty] at member
    · simp only [splitFrom, empty, ↓reduceIte, List.mem_singleton] at member
      exact Or.inr ⟨part, member, empty, free⟩
  | cons c rest ih =>
    intro token member
    by_cases line : c = '\n'
    · have blank : LineFree [] := by simp [LineFree]
      have later := ih blank token
      simp only [splitFrom, line, ↓reduceIte, List.mem_append] at member
      rcases member with here | tail
      · split at here
        · simp at here
        · rename_i nonempty
          simp only [List.mem_cons] at here
          rcases here with here | here | here
          · exact Or.inr ⟨part, here, nonempty, free⟩
          · exact Or.inl here
          · split at here <;> simp at here
            exact Or.inl here
      · exact later tail
    · simp only [splitFrom, line, ↓reduceIte] at member
      have grown : LineFree (part ++ [c]) := by
        simpa [LineFree, Ne.symm line] using free
      exact ih grown token member

theorem token_text_ne_nil {s : Text} {token : Token} (member : token ∈ split s) :
    token.text ≠ [] := by
  rcases split_token (by simp [LineFree]) token member with rfl | ⟨t, rfl, nonempty, _⟩
  · simp [Token.text]
  · exact nonempty

theorem split_from_ne_nil {s part : Text} (h : part ≠ [] ∨ ∃ c ∈ s, c ≠ '\n') :
    splitFrom part s ≠ [] := by
  induction s generalizing part with
  | nil =>
    have nonempty : part ≠ [] := by simpa using h
    simp [splitFrom, nonempty]
  | cons c rest ih =>
    by_cases line : c = '\n'
    · by_cases empty : part = []
      · subst line
        have later : ∃ c ∈ rest, c ≠ '\n' := by simpa [empty] using h
        simpa [splitFrom, empty] using ih (Or.inr later)
      · simp [splitFrom, line, empty]
    · simp only [splitFrom, line, ↓reduceIte]
      exact ih (Or.inl (by simp))

/-- The command of a frame is its first line. -/
def commandOf (text : Text) : Text := text.takeWhile (· ≠ '\n')

theorem command_of_frame {f : StompFrame} (free : LineFree f.command)
    (o : IterationOrder Text) : commandOf (f.createFrame o) = f.command := by
  have stops : ∀ (a rest : Text), '\n' ∉ a →
      (a ++ '\n' :: rest).takeWhile (· ≠ '\n') = a := by
    intro a rest absent
    induction a with
    | nil => simp
    | cons d a ih =>
      have first : d ≠ '\n' := fun here => absent (by simp [here])
      have tail := ih fun here => absent (List.mem_cons_of_mem d here)
      simpa [first] using tail
  unfold commandOf StompFrame.createFrame
  rw [List.append_assoc, List.cons_append]
  exact stops f.command _ free

end JavaFrame
