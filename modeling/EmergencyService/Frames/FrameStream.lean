import EmergencyService.Foundation.TerminatedStream
import EmergencyService.Frames.FrameExchange

/- Frames on a socket: each one is followed by NUL. A character stands for its bytes in
   UTF-8, of which only NUL has a zero. -/
namespace FrameStream
open JavaRuntime CppRuntime JavaFrame FrameExchange TerminatedStream

def nul : Char := '\x00'

/-- `FrameEncoderDecoder.decodeNextByte`: the bytes kept and the message completed. -/
def decodeNextByte (bytes : Text) (nextByte : Char) : Text × Option Text :=
  if nextByte = nul then ([], some bytes) else (bytes ++ [nextByte], none)

/-- The server's loop around it, up to the next message and what is left to read. -/
def decodeMessage (bytes : Text) : Text → Option (Text × Text)
  | [] => none
  | nextByte :: rest =>
      match decodeNextByte bytes nextByte with
      | (_, some message) => some (message, rest)
      | (bytes, none) => decodeMessage bytes rest

/-- `FrameEncoderDecoder.encode` -/
def encode (message : Text) : Text := message ++ [nul]

/-- `getFrameAscii` of the client with NUL as its delimiter: the delimiter is kept. -/
def getFrameAscii (frame : Text) : Text → Option (Text × Text)
  | [] => none
  | ch :: rest =>
      let frame := if ch ≠ nul then frame ++ [ch] else frame
      if ch ≠ nul then getFrameAscii frame rest else some (frame ++ [ch], rest)

/-- `getLine` of the client. -/
def getLine (stream : Text) : Option (Text × Text) := getFrameAscii [] stream

/-- `sendFrame` of the client: what it puts on the socket. -/
def sendFrame (frame : Text) : Text := frame ++ [nul]

theorem decode_message_eq (bytes stream : Text) :
    decodeMessage bytes stream = nextMessage nul bytes stream := by
  induction stream generalizing bytes with
  | nil => rfl
  | cons b rest ih =>
    by_cases here : b = nul
    · simp [decodeMessage, decodeNextByte, nextMessage, here]
    · simp [decodeMessage, decodeNextByte, nextMessage, here, ih]

theorem get_frame_eq (frame stream : Text) :
    getFrameAscii frame stream =
      (nextMessage nul frame stream).map fun (message, rest) => (message ++ [nul], rest) := by
  induction stream generalizing frame with
  | nil => rfl
  | cons b rest ih =>
    by_cases here : b = nul
    · simp [getFrameAscii, nextMessage, here]
    · simp [getFrameAscii, nextMessage, here, ih]

def NulFree (t : Text) : Prop := nul ∉ t

instance (t : Text) : Decidable (NulFree t) := inferInstanceAs (Decidable (¬ _))

theorem nul_free_append {a b : Text} : NulFree (a ++ b) ↔ NulFree a ∧ NulFree b := by
  simp [NulFree]

theorem nul_free_cons {c : Char} {t : Text} : NulFree (c :: t) ↔ c ≠ nul ∧ NulFree t := by
  simp [NulFree, eq_comm]

theorem nul_free_flat {A : Type} {f : A → Text} {xs : List A} :
    NulFree (xs.flatMap f) ↔ ∀ x ∈ xs, NulFree (f x) := by
  simp [NulFree]

theorem decimal_nul_free (n : Int) : NulFree (decimal n) := by
  intro here
  rcases decimal_chars n _ here with sign | isDigit
  · revert sign
    decide
  · revert isDigit
    decide

theorem decode_sent {frame : Text} (free : NulFree frame) (rest : Text) :
    decodeMessage [] (sendFrame frame ++ rest) = some (frame, rest) := by
  rw [decode_message_eq]
  exact next_message_terminated free

theorem line_of_encoded {message : Text} (free : NulFree message) (rest : Text) :
    getLine (encode message ++ rest) = some (message ++ [nul], rest) := by
  have read : nextMessage nul [] (encode message ++ rest) = some (message, rest) :=
    next_message_terminated free
  unfold getLine
  rw [get_frame_eq, read]
  rfl

theorem decoded_nul_free {stream message rest : Text}
    (read : decodeMessage [] stream = some (message, rest)) : NulFree message := by
  rw [decode_message_eq] at read
  obtain ⟨new, rfl, free, _⟩ := next_message_some read
  exact free

section Frames

theorem token_chars {s part : Text} {token : Token} (member : token ∈ splitFrom part s)
    {c : Char} (char : c ∈ token.text) : c = '\n' ∨ c ∈ part ∨ c ∈ s := by
  induction s generalizing part with
  | nil =>
    by_cases empty : part = []
    · simp [splitFrom, empty] at member
    · simp only [splitFrom, empty, ↓reduceIte, List.mem_singleton] at member
      subst member
      exact Or.inr (Or.inl char)
  | cons b rest ih =>
    by_cases line : b = '\n'
    · simp only [splitFrom, line, ↓reduceIte, List.mem_append] at member
      rcases member with here | later
      · split at here
        · simp at here
        · simp only [List.mem_cons] at here
          rcases here with rfl | rfl | here
          · exact Or.inr (Or.inl char)
          · exact Or.inl (by simpa using char)
          · split at here <;> simp at here
            subst here
            exact Or.inl (by simpa using char)
      · rcases ih later with newline | inside | tail
        · exact Or.inl newline
        · simp at inside
        · exact Or.inr (Or.inr (List.mem_cons_of_mem b tail))
    · simp only [splitFrom, line, ↓reduceIte] at member
      rcases ih member with newline | inside | tail
      · exact Or.inl newline
      · rcases List.mem_append.mp inside with old | new
        · exact Or.inr (Or.inl old)
        · exact Or.inr (Or.inr (by simp_all))
      · exact Or.inr (Or.inr (List.mem_cons_of_mem b tail))

theorem glued_nul_free {t : Text} (free : NulFree t) : NulFree (glued t) := by
  refine nul_free_flat.mpr fun token member here => ?_
  rcases token_chars member here with newline | inside | inText
  · exact absurd newline (by decide)
  · simp at inside
  · exact free inText

def NulFreeHeaders (m : HashMap Text Text) : Prop :=
  ∀ k v, m.lookup k = some v → NulFree k ∧ NulFree v

theorem nul_free_block {m : HashMap Text Text} (free : NulFreeHeaders m) {keys : List Text}
    (known : ∀ k ∈ keys, k ∈ m) : NulFree (headerBlock (headerList keys m)) := by
  refine nul_free_flat.mpr fun h member => ?_
  obtain ⟨key, here, rfl⟩ := List.mem_map.mp member
  obtain ⟨v, found⟩ := Option.isSome_iff_exists.mp (AList.lookup_isSome.mpr (known key here))
  obtain ⟨keyFree, valueFree⟩ := free key v found
  simp only [headerLine, found, Option.getD_some, nul_free_append, nul_free_cons]
  exact ⟨⟨keyFree, by decide, valueFree⟩, by decide, by decide⟩

theorem nul_free_body {body : Text} (free : NulFree body) : NulFree (bodyText body) := by
  unfold bodyText
  split
  · decide
  · exact nul_free_append.mpr ⟨free, by decide⟩

theorem java_frame_nul_free (o : IterationOrder Text) {f : JavaFrame.StompFrame}
    (command : NulFree f.command) (headers : NulFreeHeaders f.headers) (body : NulFree f.body) :
    NulFree (f.createFrame o) := by
  have block := nul_free_block headers fun k => (iterated_keys o f.headers k).mp
  rw [java_frame_text]
  simp only [nul_free_append, nul_free_cons]
  exact ⟨command, by decide, block, by decide, nul_free_body body⟩

theorem cpp_frame_nul_free {f : CppFrame.StompFrame} (command : NulFree f.command)
    (headers : NulFreeHeaders f.headers) (body : NulFree f.body) : NulFree f.createFrame := by
  have block := nul_free_block headers fun k => (sorted_keys_mem f.headers k).mp
  rw [cpp_frame_text]
  simp only [nul_free_append, nul_free_cons]
  exact ⟨command, by decide, block, by decide, by decide, nul_free_body body⟩

/-- A header that survives both the lines of a frame and the terminator. -/
def SafeHeader (k v : Text) : Prop := CleanHeader (k, v) ∧ NulFree k ∧ NulFree v

def SafeHeaders (m : HashMap Text Text) : Prop := ∀ k v, m.lookup k = some v → SafeHeader k v

theorem safe_empty : SafeHeaders ∅ := by
  intro k v found
  simp at found

theorem safe_insert_new {m : OrderedMap Text} {k v : Text} (old : SafeHeaders m)
    (new : SafeHeader k v) : SafeHeaders (insertNew k v m) := by
  unfold insertNew
  split
  · exact old
  · exact entry_insert old new

/-- A frame of the client that the server gets as it is. -/
structure Sendable (f : CppFrame.StompFrame) : Prop where
  named : f.command ≠ []
  lineFree : LineFree f.command
  nulFree : NulFree f.command
  headers : SafeHeaders f.headers
  body : NulFree f.body

theorem Sendable.text {f : CppFrame.StompFrame} (sendable : Sendable f) : NulFree f.createFrame :=
  cpp_frame_nul_free sendable.nulFree (fun k v found => (sendable.headers k v found).2)
    sendable.body

theorem Sendable.parsed {f : CppFrame.StompFrame} (sendable : Sendable f) :
    ∃ headers, JavaFrame.StompFrame.ofText f.createFrame =
        .ok ⟨f.command, headers, glued (bodyText f.body)⟩ ∧
      ∀ k, headers.lookup k = f.headers.lookup k :=
  java_reads_cpp sendable.named sendable.lineFree
    fun k v found => (sendable.headers k v found).1

end Frames

end FrameStream
