import EmergencyService.Foundation.Utf8Text
import EmergencyService.Frames.FrameStream

/- Framing byte by byte: the server's decoder with the array that grows under it, and the
   client's loops around writes and reads of any size. -/
namespace FrameBytes
open JavaRuntime Utf8Text TerminatedStream FrameStream

inductive DecoderFailure where
  | negativeArraySize | arrayIndexOutOfBounds
  deriving DecidableEq, Repr

structure FrameEncoderDecoder where
  bytes : Bytes
  len : Nat

namespace FrameEncoderDecoder

def initial : FrameEncoderDecoder := ⟨List.replicate 1024 0, 0⟩

/-- `Arrays.copyOf` -/
def copyOf (original : Bytes) (newLength : Int) : Except DecoderFailure Bytes :=
  if newLength < 0 then .error .negativeArraySize
  else .ok ((original ++ List.replicate newLength.toNat 0).take newLength.toNat)

variable (d : FrameEncoderDecoder)

/-- The test at the beginning of `pushByte`. -/
def grown : Except DecoderFailure FrameEncoderDecoder :=
  if d.len ≥ d.bytes.length then
    match copyOf d.bytes (wrapInt (d.len * 2)) with
    | .error e => .error e
    | .ok bytes => .ok { d with bytes := bytes }
  else .ok d

def pushByte (nextByte : UInt8) : Except DecoderFailure FrameEncoderDecoder :=
  match d.grown with
  | .error e => .error e
  | .ok d =>
      if d.len < d.bytes.length then .ok ⟨d.bytes.set d.len nextByte, d.len + 1⟩
      else .error .arrayIndexOutOfBounds

def popString : Text × FrameEncoderDecoder :=
  (decodeUtf8 (d.bytes.take d.len), { d with len := 0 })

def decodeNextByte (nextByte : UInt8) :
    Except DecoderFailure (FrameEncoderDecoder × Option Text) :=
  if nextByte = 0 then .ok (d.popString.2, some d.popString.1)
  else
    match d.pushByte nextByte with
    | .error e => .error e
    | .ok d => .ok (d, none)

/-- `encode`, with UTF-8 as the default charset. -/
def encode (message : Text) : Bytes := utf8 (message ++ [nul])

/-- Both handlers feed a chunk byte by byte; these are the messages that it completes. -/
def decodeBytes (d : FrameEncoderDecoder) :
    Bytes → Except DecoderFailure (FrameEncoderDecoder × List Text)
  | [] => .ok (d, [])
  | b :: rest =>
      match d.decodeNextByte b with
      | .error e => .error e
      | .ok (d, completed) =>
          match decodeBytes d rest with
          | .error e => .error e
          | .ok (d, messages) => .ok (d, completed.toList ++ messages)

def decodeChunks (d : FrameEncoderDecoder) :
    List Bytes → Except DecoderFailure (FrameEncoderDecoder × List Text)
  | [] => .ok (d, [])
  | chunk :: chunks =>
      match d.decodeBytes chunk with
      | .error e => .error e
      | .ok (d, completed) =>
          match decodeChunks d chunks with
          | .error e => .error e
          | .ok (d, messages) => .ok (d, completed ++ messages)

section Decoding
variable {d : FrameEncoderDecoder} {seen bs : Bytes}

theorem decode_bytes_append (d : FrameEncoderDecoder) (bs rest : Bytes) :
    d.decodeBytes (bs ++ rest) =
      match d.decodeBytes bs with
      | .error e => .error e
      | .ok (d, first) =>
          match d.decodeBytes rest with
          | .error e => .error e
          | .ok (d, messages) => .ok (d, first ++ messages) := by
  induction bs generalizing d with
  | nil =>
    simp only [List.nil_append, decodeBytes]
    cases d.decodeBytes rest <;> rfl
  | cons b bs ih =>
    simp only [List.cons_append, decodeBytes]
    cases d.decodeNextByte b with
    | error e => rfl
    | ok result =>
      simp only [ih]
      cases result.1.decodeBytes bs with
      | error e => rfl
      | ok later =>
        simp only
        cases later.1.decodeBytes rest with
        | error e => rfl
        | ok last => simp

theorem decode_chunks_eq (d : FrameEncoderDecoder) (chunks : List Bytes) :
    d.decodeChunks chunks = d.decodeBytes chunks.flatten := by
  induction chunks generalizing d with
  | nil => rfl
  | cons chunk chunks ih =>
    rw [List.flatten_cons, decode_bytes_append, decodeChunks]
    cases d.decodeBytes chunk with
    | error e => rfl
    | ok result => simp only [ih]

/-- The decoder holds the bytes it has been given since the last message. -/
structure Holds (d : FrameEncoderDecoder) (seen : Bytes) : Prop where
  len : d.len = seen.length
  room : d.len ≤ d.bytes.length
  capacity : 0 < d.bytes.length
  held : d.bytes.take d.len = seen

theorem holds_initial : Holds initial [] where
  len := rfl
  room := Nat.zero_le _
  capacity := by
    unfold initial
    rw [List.length_replicate]
    decide
  held := rfl

theorem copy_of_longer (original : Bytes) {n : Nat} (longer : original.length ≤ n) :
    copyOf original n = .ok (original ++ List.replicate (n - original.length) 0) := by
  have nonneg : ¬ ((n : Int) < 0) := by omega
  have padded : (original ++ List.replicate n 0).take n =
      original ++ List.replicate (n - original.length) 0 := by
    rw [List.take_append, List.take_of_length_le longer, List.take_replicate,
      Nat.min_eq_left (Nat.sub_le ..)]
  unfold copyOf
  rw [if_neg nonneg, Int.toNat_natCast, padded]

theorem grown_holds (holds : Holds d seen) (short : seen.length < 2 ^ 30) :
    ∃ d', d.grown = .ok d' ∧ Holds d' seen ∧ d'.len < d'.bytes.length := by
  obtain ⟨len, room, capacity, held⟩ := holds
  by_cases full : d.len ≥ d.bytes.length
  · have same : d.len = d.bytes.length := Nat.le_antisymm room full
    have double : wrapInt (d.len * 2) = ((d.len * 2 : Nat) : Int) := by
      have range : IntRange (d.len * 2) := ⟨by omega, by omega⟩
      rw [wrap_int_range range]
      rfl
    have copied := copy_of_longer d.bytes (n := d.len * 2) (by omega)
    refine ⟨{ d with bytes := d.bytes ++ List.replicate (d.len * 2 - d.bytes.length) 0 }, ?_,
      ⟨len, ?_, ?_, ?_⟩, ?_⟩
    · unfold grown
      rw [if_pos full, double, copied]
    · rw [List.length_append, List.length_replicate]
      change d.len ≤ _
      omega
    · rw [List.length_append]
      omega
    · change (d.bytes ++ _).take d.len = seen
      rw [List.take_append_of_le_length room, held]
    · rw [List.length_append, List.length_replicate]
      change d.len < _
      omega
  · refine ⟨d, ?_, ⟨len, room, capacity, held⟩, Nat.lt_of_not_le full⟩
    unfold grown
    rw [if_neg full]

theorem holds_set (holds : Holds d seen) (free : d.len < d.bytes.length) (b : UInt8) :
    Holds ⟨d.bytes.set d.len b, d.len + 1⟩ (seen ++ [b]) := by
  obtain ⟨len, room, capacity, held⟩ := holds
  constructor
  · simp [len]
  · rw [List.length_set]
    exact free
  · rw [List.length_set]
    exact capacity
  · change (d.bytes.set d.len b).take (d.len + 1) = seen ++ [b]
    rw [List.take_add_one, List.take_set_of_le (Nat.le_refl _), held]
    simp [free]

theorem push_holds (holds : Holds d seen) (short : seen.length < 2 ^ 30) (b : UInt8) :
    ∃ d', d.pushByte b = .ok d' ∧ Holds d' (seen ++ [b]) := by
  obtain ⟨grown, enough, kept, free⟩ := grown_holds holds short
  exact ⟨_, by simp [pushByte, enough, free], holds_set kept free b⟩

theorem decode_pushed (holds : Holds d seen) (free : 0 ∉ bs)
    (short : seen.length + bs.length ≤ 2 ^ 30) :
    ∃ d', d.decodeBytes bs = .ok (d', []) ∧ Holds d' (seen ++ bs) := by
  induction bs generalizing d seen with
  | nil => exact ⟨d, rfl, by simpa using holds⟩
  | cons b bs ih =>
    have dark : b ≠ 0 := fun zero => free (by simp [zero])
    have tail : 0 ∉ bs := fun zero => free (List.mem_cons_of_mem b zero)
    rw [List.length_cons] at short
    obtain ⟨d₁, pushed, held⟩ := push_holds holds (by omega) b
    have shorter : (seen ++ [b]).length + bs.length ≤ 2 ^ 30 := by
      rw [List.length_append, List.length_singleton]
      omega
    obtain ⟨d₂, later, done⟩ := ih held tail shorter
    refine ⟨d₂, ?_, by simpa using done⟩
    simp [decodeBytes, decodeNextByte, dark, pushed, later]

theorem decode_one (holds : Holds d []) {message : Text} (free : NulFree message)
    (short : (utf8 message).length ≤ 2 ^ 30) :
    ∃ d', d.decodeBytes (utf8 message ++ [0]) = .ok (d', [message]) ∧ Holds d' [] := by
  have zero : 0 ∉ utf8 message := fun here => free (zero_in_utf8.mp here)
  have below : ([] : Bytes).length + (utf8 message).length ≤ 2 ^ 30 := by
    rw [List.length_nil, Nat.zero_add]
    exact short
  obtain ⟨d₁, pushed, held⟩ := decode_pushed holds zero below
  refine ⟨{ d₁ with len := 0 }, ?_, rfl, Nat.zero_le _, held.capacity, rfl⟩
  have whole : d₁.bytes.take d₁.len = utf8 message := held.held
  rw [decode_bytes_append, pushed]
  simp [decodeBytes, decodeNextByte, popString, whole, decode_encoded]

theorem decode_refines {stream message rest : Text}
    (read : decodeMessage [] stream = some (message, rest))
    (short : (utf8 message).length ≤ 2 ^ 30) (holds : Holds d []) :
    ∃ d', Holds d' [] ∧ d.decodeBytes (utf8 stream) =
      match d'.decodeBytes (utf8 rest) with
      | .error e => .error e
      | .ok (d, messages) => .ok (d, message :: messages) := by
  have free : NulFree message := decoded_nul_free read
  obtain ⟨d', decoded, held⟩ := decode_one holds free short
  rw [decode_message_eq] at read
  obtain ⟨new, same, _, rfl⟩ := next_message_some read
  obtain rfl : message = new := same
  have bytes : utf8 (terminated nul message ++ rest) = (utf8 message ++ [0]) ++ utf8 rest := by
    have zero : String.utf8EncodeChar nul = [0] := by decide
    simp [terminated, zero]
  refine ⟨d', held, ?_⟩
  rw [bytes, decode_bytes_append, decoded]
  rfl

end Decoding

end FrameEncoderDecoder

namespace ConnectionHandler

/-- One call of `write_some` after so many bytes have been written: how many of the bytes in
    the buffer the socket takes, or an error. -/
abbrev WriteSome := (written room : Nat) → Option { n : Nat // 0 < n ∧ n ≤ room }

/-- The loop of `sendBytes`; `out` are the pieces that the socket has taken so far. -/
def sendBytes (o : WriteSome) (bytes : Bytes) (bytesToWrite : Int) (tmp : Nat)
    (out : List Bytes) : Bool × List Bytes :=
  if bytesToWrite > tmp then
    match o out.flatten.length (bytesToWrite.toNat - tmp) with
    | none => (false, out)
    | some n =>
        sendBytes o bytes bytesToWrite (tmp + n) (out ++ [(bytes.drop tmp).take n])
  else (true, out)
termination_by bytesToWrite.toNat - tmp
decreasing_by
  obtain ⟨n, positive, bounded⟩ := n
  dsimp only
  omega

/-- `sendFrameAscii` with NUL as its delimiter; the length becomes an `int`. -/
def sendFrame (o : WriteSome) (frame : Bytes) (out : List Bytes) : Bool × List Bytes :=
  let result := sendBytes o frame (wrapInt frame.length) 0 out
  if result.1 then sendBytes o [0] 1 0 result.2 else result

def sendFrames (o : WriteSome) : List Bytes → List Bytes → Bool × List Bytes
  | [], out => (true, out)
  | frame :: frames, out =>
      let result := sendFrame o frame out
      if result.1 then sendFrames o frames result.2 else result

/-- One call of `read_some`: some of the bytes that have arrived in one piece. -/
def readSome (room : Nat) : List Bytes → Option (Bytes × List Bytes)
  | [] => none
  | [] :: arriving => readSome room arriving
  | (b :: piece) :: arriving =>
      some ((b :: piece).take room, (b :: piece).drop room :: arriving)

theorem read_some_fills {room : Nat} (positive : 0 < room) {arriving later : List Bytes}
    {piece : Bytes} (read : readSome room arriving = some (piece, later)) :
    0 < piece.length ∧ piece.length ≤ room ∧ piece ++ later.flatten = arriving.flatten := by
  induction arriving with
  | nil => cases read
  | cons first arriving ih =>
    cases first with
    | nil => exact ih read
    | cons b first =>
      simp only [readSome, Option.some.injEq, Prod.mk.injEq] at read
      obtain ⟨rfl, rfl⟩ := read
      refine ⟨?_, ?_, ?_⟩
      · rw [List.length_take, List.length_cons]
        omega
      · exact List.length_take_le ..
      · rw [List.flatten_cons, ← List.append_assoc, List.take_append_drop, List.flatten_cons]

theorem read_some_none {room : Nat} {arriving : List Bytes} :
    readSome room arriving = none ↔ arriving.flatten = [] := by
  induction arriving with
  | nil => simp [readSome]
  | cons first arriving ih =>
    cases first with
    | nil => simpa [readSome] using ih
    | cons b first => simp [readSome]

/-- The loop of `getBytes`; `none` stands for the end of the stream. -/
def getBytes (bytes : Bytes) (bytesToRead : Nat) (arriving : List Bytes) :
    Option (Bytes × List Bytes) :=
  if bytesToRead > bytes.length then
    match _read : readSome (bytesToRead - bytes.length) arriving with
    | none => none
    | some (piece, later) => getBytes (bytes ++ piece) bytesToRead later
  else some (bytes, arriving)
termination_by bytesToRead - bytes.length
decreasing_by
  have filled := (read_some_fills (Nat.sub_pos_of_lt ‹_›) _read).1
  rw [List.length_append]
  omega

theorem get_bytes_fills {bytes got : Bytes} {bytesToRead : Nat} {arriving later : List Bytes}
    (below : bytes.length ≤ bytesToRead)
    (read : getBytes bytes bytesToRead arriving = some (got, later)) :
    got.length = bytesToRead ∧ got ++ later.flatten = bytes ++ arriving.flatten := by
  induction bytes, arriving using getBytes.induct bytesToRead with
  | case1 bytes arriving more none' =>
    rw [getBytes, if_pos more] at read
    split at read
    · cases read
    · rename_i found
      rw [none'] at found
      cases found
  | case2 bytes arriving more piece rest found ih =>
    obtain ⟨_, small, flat⟩ := read_some_fills (Nat.sub_pos_of_lt more) found
    rw [getBytes, if_pos more] at read
    split at read
    · cases read
    · rename_i piece' rest' found'
      rw [found] at found'
      cases found'
      have within : (bytes ++ piece).length ≤ bytesToRead := by
        rw [List.length_append]
        omega
      obtain ⟨length, split⟩ := ih within read
      exact ⟨length, by rw [split, List.append_assoc, flat]⟩
  | case3 bytes arriving done =>
    rw [getBytes, if_neg done] at read
    cases read
    exact ⟨by omega, rfl⟩

/-- `getBytes(&ch, 1)` -/
def getByte (arriving : List Bytes) : Option (UInt8 × List Bytes) :=
  (getBytes [] 1 arriving).bind fun (bytes, later) => bytes.head?.map fun ch => (ch, later)

theorem get_byte_some {arriving later : List Bytes} {ch : UInt8}
    (read : getByte arriving = some (ch, later)) : arriving.flatten = ch :: later.flatten := by
  unfold getByte at read
  rw [Option.bind_eq_some_iff] at read
  obtain ⟨⟨bytes, rest⟩, found, first⟩ := read
  obtain ⟨length, whole⟩ := get_bytes_fills (Nat.zero_le 1) found
  obtain ⟨b, rfl⟩ := List.length_eq_one_iff.mp length
  simp only [List.head?_cons, Option.map_some, Option.some.injEq, Prod.mk.injEq] at first
  obtain ⟨rfl, rfl⟩ := first
  exact whole.symm

theorem get_byte_none {arriving : List Bytes} (read : getByte arriving = none) :
    arriving.flatten = [] := by
  unfold getByte at read
  cases found : getBytes [] 1 arriving with
  | none =>
    rw [getBytes, if_pos (by decide)] at found
    split at found
    · rename_i missing
      exact read_some_none.mp missing
    · rename_i piece later some'
      obtain ⟨filled, small, _⟩ := read_some_fills (by decide) some'
      have full : ¬ 1 > ([] ++ piece : Bytes).length := by
        rw [List.nil_append]
        omega
      rw [getBytes, if_neg full] at found
      cases found
  | some result =>
    obtain ⟨bytes, later⟩ := result
    obtain ⟨length, _⟩ := get_bytes_fills (Nat.zero_le 1) found
    obtain ⟨b, rfl⟩ := List.length_eq_one_iff.mp length
    rw [found] at read
    cases read

/-- The loop of `getFrameAscii` with NUL as its delimiter, which is kept. -/
def getFrameAscii (frame : Bytes) (arriving : List Bytes) : Option (Bytes × List Bytes) :=
  match _read : getByte arriving with
  | none => none
  | some (ch, later) =>
      if ch ≠ 0 then getFrameAscii (frame ++ [ch]) later else some (frame ++ [ch], later)
termination_by arriving.flatten.length
decreasing_by
  rw [get_byte_some _read, List.length_cons]
  omega

def getLine (arriving : List Bytes) : Option (Bytes × List Bytes) := getFrameAscii [] arriving

/-- Successive calls of `getLine`. -/
def getLines : Nat → List Bytes → Option (List Bytes × List Bytes)
  | 0, arriving => some ([], arriving)
  | n + 1, arriving =>
      match getLine arriving with
      | none => none
      | some (line, later) => (getLines n later).map fun (lines, last) => (line :: lines, last)

theorem get_frame_pieces (frame : Bytes) (arriving : List Bytes) :
    match nextMessage 0 frame arriving.flatten with
    | none => getFrameAscii frame arriving = none
    | some (message, rest) => ∃ later,
        getFrameAscii frame arriving = some (message ++ [0], later) ∧ later.flatten = rest := by
  induction frame, arriving using getFrameAscii.induct with
  | case1 frame arriving read =>
    rw [get_byte_none read]
    simp only [nextMessage]
    rw [getFrameAscii]
    split
    · rfl
    · rename_i found
      rw [read] at found
      cases found
  | case2 frame arriving ch later read dark ih =>
    have same : getFrameAscii frame arriving = getFrameAscii (frame ++ [ch]) later := by
      rw [getFrameAscii]
      split
      · rename_i found
        rw [read] at found
        cases found
      · rename_i found
        rw [read] at found
        cases found
        rw [if_pos dark]
    rw [get_byte_some read, nextMessage, if_neg dark, same]
    exact ih
  | case3 frame arriving ch later read zero =>
    have stop : ch = 0 := by simpa using zero
    subst stop
    rw [get_byte_some read, nextMessage, if_pos rfl]
    refine ⟨later, ?_, rfl⟩
    rw [getFrameAscii]
    split
    · rename_i found
      rw [read] at found
      cases found
    · rename_i found
      rw [read] at found
      cases found
      rw [if_neg zero]

/-- The bytes of a frame that `sendBytes` writes: its length as an `int` says how many. -/
def written (frame : Bytes) : Bytes := frame.take (wrapInt frame.length).toNat

theorem written_short {frame : Bytes} (short : frame.length < 2 ^ 31) : written frame = frame := by
  have range : IntRange frame.length := ⟨by omega, by omega⟩
  unfold written
  rw [wrap_int_range range]
  exact List.take_length

section Writing
variable {o : WriteSome} (steady : ∀ written room, 0 < room → (o written room).isSome)
include steady

theorem send_bytes_all (bytes : Bytes) (bytesToWrite : Int) (tmp : Nat) (out : List Bytes) :
    ∃ pieces, sendBytes o bytes bytesToWrite tmp out = (true, out ++ pieces) ∧
      pieces.flatten = (bytes.take bytesToWrite.toNat).drop tmp := by
  induction tmp, out using sendBytes.induct o bytes bytesToWrite with
  | case1 tmp out more failed =>
    have taken := steady out.flatten.length (bytesToWrite.toNat - tmp) (by omega)
    rw [failed] at taken
    cases taken
  | case2 tmp out more n taken ih =>
    obtain ⟨pieces, sent, flat⟩ := ih
    have piece : (bytes.drop tmp).take n = ((bytes.take bytesToWrite.toNat).drop tmp).take n := by
      rw [List.drop_take, List.take_take, Nat.min_eq_left n.2.2]
    refine ⟨(bytes.drop tmp).take n :: pieces, ?_, ?_⟩
    · rw [sendBytes, if_pos more, taken]
      simp only [sent, List.append_assoc, List.singleton_append]
    · rw [List.flatten_cons, flat, piece, ← List.drop_drop, List.take_append_drop]
  | case3 tmp out done =>
    refine ⟨[], ?_, ?_⟩
    · rw [sendBytes, if_neg done, List.append_nil]
    · have short := List.length_take_le bytesToWrite.toNat bytes
      rw [List.drop_of_length_le (by omega), List.flatten_nil]

theorem send_frame_all (frame : Bytes) (out : List Bytes) :
    ∃ pieces, sendFrame o frame out = (true, out ++ pieces) ∧
      pieces.flatten = written frame ++ [0] := by
  obtain ⟨first, sent, flat⟩ := send_bytes_all steady frame (wrapInt frame.length) 0 out
  obtain ⟨last, ended, one⟩ := send_bytes_all steady [0] 1 0 (out ++ first)
  refine ⟨first ++ last, ?_, ?_⟩
  · unfold sendFrame
    rw [sent, ← List.append_assoc]
    exact ended
  · have delimiter : ([0] : Bytes).take (1 : Int).toNat = [0] := rfl
    rw [List.flatten_append, flat, one, List.drop_zero, List.drop_zero, delimiter]
    unfold written
    rfl

theorem send_frames_all (frames : List Bytes) (out : List Bytes) :
    ∃ pieces, sendFrames o frames out = (true, out ++ pieces) ∧
      pieces.flatten = frames.flatMap (written · ++ [0]) := by
  induction frames generalizing out with
  | nil => exact ⟨[], by simp [sendFrames], rfl⟩
  | cons frame frames ih =>
    obtain ⟨first, sent, flat⟩ := send_frame_all steady frame out
    obtain ⟨last, later, rest⟩ := ih (out ++ first)
    refine ⟨first ++ last, ?_, ?_⟩
    · unfold sendFrames
      rw [sent, ← List.append_assoc]
      exact later
    · rw [List.flatten_append, flat, rest, List.flatMap_cons]

end Writing

end ConnectionHandler

section Framing
open FrameEncoderDecoder ConnectionHandler

theorem decode_all {messages : List Text} (free : ∀ m ∈ messages, NulFree m)
    (short : ∀ m ∈ messages, (utf8 m).length ≤ 2 ^ 30) {d : FrameEncoderDecoder}
    (holds : Holds d []) :
    ∃ d', d.decodeBytes (utf8 (messages.flatMap FrameStream.sendFrame)) = .ok (d', messages) ∧
      Holds d' [] := by
  induction messages generalizing d with
  | nil => exact ⟨d, rfl, holds⟩
  | cons message messages ih =>
    have read : decodeMessage []
        (FrameStream.sendFrame message ++ messages.flatMap FrameStream.sendFrame) =
          some (message, messages.flatMap FrameStream.sendFrame) :=
      decode_sent (free message (by simp)) _
    obtain ⟨d₁, held, decoded⟩ := decode_refines read (short message (by simp)) holds
    obtain ⟨d₂, later, done⟩ := ih (fun m member => free m (List.mem_cons_of_mem _ member))
      (fun m member => short m (List.mem_cons_of_mem _ member)) held
    refine ⟨d₂, ?_, done⟩
    rw [List.flatMap_cons, decoded, later]

theorem lines_all {messages : List Text} (free : ∀ m ∈ messages, NulFree m)
    {arriving : List Bytes}
    (arrived : arriving.flatten = messages.flatMap FrameEncoderDecoder.encode) :
    ∃ later, getLines messages.length arriving =
      some (messages.map fun m => utf8 (m ++ [nul]), later) ∧ later.flatten = [] := by
  induction messages generalizing arriving with
  | nil => exact ⟨arriving, rfl, arrived⟩
  | cons message messages ih =>
    have zero : 0 ∉ utf8 message := fun here => free message (by simp) (zero_in_utf8.mp here)
    have nulByte : String.utf8EncodeChar nul = [0] := by decide
    have split : arriving.flatten = terminated 0 (utf8 message) ++
        messages.flatMap FrameEncoderDecoder.encode := by
      rw [arrived, List.flatMap_cons]
      simp [FrameEncoderDecoder.encode, terminated, nulByte]
    have line := get_frame_pieces [] arriving
    rw [split, next_message_terminated zero] at line
    obtain ⟨later, read, flat⟩ := line
    obtain ⟨last, rest, done⟩ :=
      ih (fun m member => free m (List.mem_cons_of_mem _ member)) flat
    refine ⟨last, ?_, done⟩
    have first : getLine arriving = some (utf8 message ++ [0], later) := read
    rw [List.length_cons, getLines, first]
    simp [rest, nulByte]

theorem sent_stream {messages : List Text} (short : ∀ m ∈ messages, (utf8 m).length ≤ 2 ^ 30) :
    (messages.map utf8).flatMap (written · ++ [0]) =
      utf8 (messages.flatMap FrameStream.sendFrame) := by
  have nulByte : String.utf8EncodeChar nul = [0] := by decide
  induction messages with
  | nil => rfl
  | cons message messages ih =>
    have small : (utf8 message).length < 2 ^ 31 :=
      Nat.lt_of_le_of_lt (short message List.mem_cons_self) (by decide)
    have rest := ih fun m member => short m (List.mem_cons_of_mem message member)
    rw [List.map_cons, List.flatMap_cons, rest, written_short small, List.flatMap_cons]
    simp [FrameStream.sendFrame, nulByte]

/-- Framing is lossless in both directions, whatever the sizes of the writes and the pieces
    in which the bytes arrive. -/
theorem framing_lossless {messages : List Text} (free : ∀ m ∈ messages, NulFree m)
    (short : ∀ m ∈ messages, (utf8 m).length < 2 ^ 30) :
    (∀ o : WriteSome, (∀ written room, 0 < room → (o written room).isSome) →
      ∃ pieces, sendFrames o (messages.map utf8) [] = (true, pieces) ∧
        ∀ chunks : List Bytes, chunks.flatten = pieces.flatten →
          ∃ d, FrameEncoderDecoder.initial.decodeChunks chunks = .ok (d, messages) ∧ d.len = 0) ∧
    ∀ arriving : List Bytes, arriving.flatten = messages.flatMap FrameEncoderDecoder.encode →
      ∃ later, getLines messages.length arriving =
        some (messages.map fun m => utf8 (m ++ [nul]), later) ∧ later.flatten = [] := by
  constructor
  · intro o steady
    have within : ∀ m ∈ messages, (utf8 m).length ≤ 2 ^ 30 := fun m here =>
      Nat.le_of_lt (short m here)
    obtain ⟨pieces, sent, flat⟩ := send_frames_all steady (messages.map utf8) []
    refine ⟨pieces, sent, fun chunks same => ?_⟩
    obtain ⟨d, decoded, held⟩ := decode_all free within holds_initial
    refine ⟨d, ?_, held.len⟩
    rw [decode_chunks_eq, same, flat, sent_stream within]
    exact decoded
  · intro arriving arrived
    exact lines_all free arrived

def bytewise : WriteSome := fun _ room =>
  if positive : 0 < room then some ⟨1, Nat.one_pos, positive⟩ else none

def smallMessages : List Text := ["CONNECT\n\n", "", "ž"]

theorem small_messages_framed :
    (∃ pieces, sendFrames bytewise (smallMessages.map utf8) [] = (true, pieces) ∧
      ∃ d, FrameEncoderDecoder.initial.decodeChunks pieces = .ok (d, smallMessages) ∧
        d.len = 0) ∧
    ∃ later, getLines 3 (smallMessages.map FrameEncoderDecoder.encode) =
      some (smallMessages.map fun m => utf8 (m ++ [nul]), later) ∧ later.flatten = [] := by
  have free : ∀ m ∈ smallMessages, NulFree m := by decide
  have short : ∀ m ∈ smallMessages, (utf8 m).length < 2 ^ 30 := by decide
  have steady : ∀ written room, 0 < room → (bytewise written room).isSome := by
    intro written room positive
    simp [bytewise, positive]
  obtain ⟨sent, received⟩ := framing_lossless free short
  obtain ⟨pieces, written, decoded⟩ := sent bytewise steady
  exact ⟨⟨pieces, written, decoded pieces rfl⟩, received _ (List.flatMap_def ..).symm⟩

end Framing

end FrameBytes
