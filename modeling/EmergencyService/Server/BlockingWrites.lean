import EmergencyService.Foundation.BufferedOutput
import EmergencyService.Foundation.GuardedRuns
import EmergencyService.Frames.FrameBytes

/- The write side of a `BlockingConnectionHandler`: any threads call `send`, which writes the
   encoded message to a `BufferedOutputStream` and flushes it in a second step. Both methods of
   the stream are synchronized, but another thread may come in between. -/
namespace BlockingWrites
open JavaRuntime FrameBytes FrameBytes.ConnectionHandler Utf8Text TerminatedStream
open BufferedOutput GuardedRuns
open FrameStream (nul NulFree)

/-- The size of the buffer of a `BufferedOutputStream`. -/
def bufferSize : Nat := 8192

structure Blocking (T : Type) where
  out : BufferedStream UInt8 bufferSize
  /-- the threads between their `out.write` and their `out.flush` -/
  flushing : T → Bool
  /-- the messages in the order in which their `out.write` was called -/
  sent : List Text

def Blocking.initial {T : Type} : Blocking T := ⟨.onto ⟨[], false⟩, fun _ => false, []⟩

/-- The steps of `send`, with the ends of the writes to the socket that they make, and the
    close of the socket. -/
inductive SendAction (T : Type) where
  | write : T → Text → Outcome → Outcome → SendAction T
  | flush : T → Outcome → SendAction T
  | close

def whole (messages : List Text) : Bytes := messages.flatMap FrameEncoderDecoder.encode

section Threads
variable {T : Type} [DecidableEq T]

/-- After an IOException `send` returns without the flush. -/
def act (s : Blocking T) : SendAction T → Option (Blocking T)
  | .write t msg first second =>
      if s.flushing t then none
      else
        let wrote := s.out.write (FrameEncoderDecoder.encode msg) first second
        some ⟨wrote.2, Function.update s.flushing t wrote.1, s.sent ++ [msg]⟩
  | .flush t outcome =>
      if s.flushing t then some { s with
        out := (s.out.flushBuffer outcome).2
        flushing := Function.update s.flushing t false }
      else none
  | .close => some { s with out := { s.out with sink := { s.out.sink with failed := true } } }

/-- A socket of which a write has failed, or that has been closed, takes nothing more. -/
def Refuses (s : Blocking T) : SendAction T → Prop
  | .write _ _ first second => s.out.sink.failed = true → first = .fails 0 ∧ second = .fails 0
  | .flush _ outcome => s.out.sink.failed = true → outcome = .fails 0
  | .close => True

structure InOrder (s : Blocking T) : Prop where
  within : s.out.sink.taken <+: whole s.sent
  produced : s.out.sink.failed = false → s.out.produced = whole s.sent
  held : s.out.sink.failed = false → s.out.buf ≠ [] → ∃ t, s.flushing t = true

variable {s s' : Blocking T} {a : SendAction T}

omit [DecidableEq T] in
theorem in_order_initial : InOrder (Blocking.initial : Blocking T) where
  within := List.prefix_rfl
  produced _ := rfl
  held _ some := absurd rfl some

theorem whole_append (messages : List Text) (msg : Text) :
    whole (messages ++ [msg]) = whole messages ++ FrameEncoderDecoder.encode msg := by
  simp [whole]

theorem in_order_write {t : T} {msg : Text} {first second : Outcome} (held : InOrder s)
    (refuses : Refuses s (.write t msg first second))
    (acted : act s (.write t msg first second) = some s') : InOrder s' := by
  simp only [act] at acted
  split at acted
  · cases acted
  cases acted
  have effect := BufferedStream.write_effect s.out (FrameEncoderDecoder.encode msg) first second
  refine ⟨?_, ?_, ?_⟩
  · dsimp only
    rw [whole_append]
    cases failed : s.out.sink.failed with
    | true =>
      obtain ⟨rfl, rfl⟩ := refuses failed
      rw [BufferedStream.write_refused]
      exact held.within.trans (List.prefix_append _ _)
    | false =>
      rw [← held.produced failed]
      exact effect.within
  · intro works
    obtain ⟨returned, alive⟩ := effect.alive works
    dsimp only
    rw [whole_append, ← held.produced alive]
    exact (effect.complete returned).1
  · intro works _
    obtain ⟨returned, _⟩ := effect.alive works
    exact ⟨t, by simp [returned]⟩

theorem in_order_flush {t : T} {outcome : Outcome} (held : InOrder s)
    (refuses : Refuses s (.flush t outcome)) (acted : act s (.flush t outcome) = some s') :
    InOrder s' := by
  simp only [act] at acted
  split at acted
  · cases acted
    have effect := BufferedStream.flush_buffer_effect s.out outcome
    refine ⟨?_, ?_, ?_⟩
    · dsimp only
      cases failed : s.out.sink.failed with
      | true =>
        obtain rfl := refuses failed
        rw [BufferedStream.flush_buffer_refused]
        exact held.within
      | false =>
        rw [← held.produced failed, ← List.append_nil s.out.produced]
        exact effect.within
    · intro works
      obtain ⟨returned, alive⟩ := effect.alive works
      dsimp only
      rw [← held.produced alive, (effect.complete returned).1, List.append_nil]
    · intro works some
      obtain ⟨returned, _⟩ := effect.alive works
      exact absurd (BufferedStream.flush_buffer_empty returned) some
  · cases acted

theorem in_order_act (held : InOrder s) (refuses : Refuses s a) (acted : act s a = some s') :
    InOrder s' := by
  cases a with
  | write t msg first second => exact in_order_write held refuses acted
  | flush t outcome => exact in_order_flush held refuses acted
  | close =>
    cases acted
    exact ⟨held.within, nofun, nofun⟩

theorem in_order_runs (runs : Runs act Refuses .initial s) : InOrder s := by
  refine run_invariant InOrder in_order_initial ?_ runs
  intro a before after _ held refuses acted
  exact in_order_act held refuses acted

end Threads

section Reading
variable {messages : List Text} {arriving later : List Bytes} {n : Nat} {lines : List Bytes}

theorem whole_utf8 (messages : List Text) :
    whole messages = (messages.map utf8).flatMap (terminated 0) := by
  have nulByte : String.utf8EncodeChar nul = [0] := by decide
  have encoded : FrameEncoderDecoder.encode = fun msg => terminated 0 (utf8 msg) := by
    funext msg
    simp [FrameEncoderDecoder.encode, terminated, nulByte]
  rw [whole, encoded, List.flatMap_map]

theorem lines_prefix (free : ∀ m ∈ messages, NulFree m)
    (within : arriving.flatten <+: whole messages)
    (read : getLines n arriving = some (lines, later)) :
    lines = (messages.take n).map fun m => utf8 (m ++ [nul]) := by
  induction n generalizing messages arriving lines with
  | zero =>
    cases read
    rfl
  | succ n ih =>
    have piece := get_frame_pieces [] arriving
    cases found : nextMessage 0 [] arriving.flatten with
    | none =>
      rw [found] at piece
      have nothing : getLine arriving = none := piece
      rw [getLines, nothing] at read
      cases read
    | some pair =>
      obtain ⟨message, rest⟩ := pair
      rw [found] at piece
      obtain ⟨after, first, behind⟩ := piece
      have first : getLine arriving = some (message ++ [0], after) := first
      rw [getLines, first] at read
      obtain ⟨⟨lines', last⟩, more, same⟩ := Option.map_eq_some_iff.mp read
      obtain ⟨rfl, rfl⟩ := Prod.mk.inj same
      have zeros : ∀ m ∈ messages.map utf8, 0 ∉ m := by
        intro m member
        obtain ⟨msg, known, rfl⟩ := List.mem_map.mp member
        exact fun here => free msg known (zero_in_utf8.mp here)
      rw [whole_utf8] at within
      obtain ⟨rest', known, inside⟩ := next_message_prefix zeros within found
      cases messages with
      | nil => cases known
      | cons msg messages =>
        obtain ⟨rfl, rfl⟩ := List.cons.inj known
        rw [← whole_utf8, ← behind] at inside
        have tail := ih (fun m member => free m (List.mem_cons_of_mem _ member)) inside more
        rw [tail]
        have nulByte : String.utf8EncodeChar nul = [0] := by decide
        simp [nulByte]

end Reading

section Streams
variable {T : Type} [DecidableEq T] {s : Blocking T}

/-- However the threads interleave, and wherever the socket breaks: the frames that a client
    reads are the first of those that were sent, whole and in their order. As long as the
    socket works, no byte stays behind when no thread is in `send`. -/
theorem blocking_stream_intact (runs : Runs act Refuses .initial s)
    (free : ∀ m ∈ s.sent, NulFree m) :
    (∀ arriving n lines later, arriving.flatten <+: s.out.sink.taken →
      getLines n arriving = some (lines, later) →
        lines = (s.sent.take n).map fun m => utf8 (m ++ [nul])) ∧
    (s.out.sink.failed = false → (∀ t, s.flushing t = false) →
      s.out.sink.taken = whole s.sent) := by
  have held := in_order_runs runs
  constructor
  · intro arriving n lines later within read
    exact lines_prefix free (within.trans held.within) read
  · intro works idle
    have empty : s.out.buf = [] := by
      by_contra some
      obtain ⟨t, busy⟩ := held.held works some
      rw [idle t] at busy
      cases busy
    rw [← held.produced works, BufferedStream.produced, empty, List.append_nil]

def twoSenders : List (SendAction Bool) :=
  [.write false "fire" .all .all, .write true "flood" .all .all, .flush false .all,
    .write false "smoke" .all .all, .flush true .all, .flush false .all]

theorem two_senders_streamed : ∃ s : Blocking Bool, Runs act Refuses .initial s ∧
    s.out.sink.taken = whole ["fire", "flood", "smoke"] ∧
      ∃ arriving lines later, arriving.flatten <+: s.out.sink.taken ∧
        getLines 2 arriving = some (lines, later) ∧
          lines = (s.sent.take 2).map fun m => utf8 (m ++ [nul]) := by
  have ran : (actsWhere act (fun s _ => !s.out.sink.failed) twoSenders .initial).any (fun s =>
      !s.out.sink.failed && decide (∀ t, s.flushing t = false) &&
        decide (s.sent = ["fire".toList, "flood".toList, "smoke".toList])) = true := by
    decide +kernel
  obtain ⟨s, acted, ends⟩ := (Option.any_eq_true _ _).mp ran
  simp only [Bool.and_eq_true, Bool.not_eq_true', decide_eq_true_eq] at ends
  obtain ⟨⟨works, idle⟩, sent⟩ := ends
  have runs : Runs act Refuses .initial s := by
    refine run_of_acts_where ?_ twoSenders acted
    intro s a works
    have alive : s.out.sink.failed = false := by simpa using works
    cases a <;> simp [Refuses, alive]
  have free : ∀ m ∈ s.sent, NulFree m := by
    rw [sent]
    decide
  obtain ⟨first, all⟩ := blocking_stream_intact runs free
  have taken := all works idle
  have early : [s.out.sink.taken.take 11].flatten =
      ["fire".toList, "flood".toList].flatMap FrameEncoderDecoder.encode := by
    rw [taken, sent]
    decide
  have within : [s.out.sink.taken.take 11].flatten <+: s.out.sink.taken := by
    rw [List.flatten_singleton]
    exact List.take_prefix 11 _
  obtain ⟨later, read, _⟩ := lines_all (by decide) early
  exact ⟨s, runs, sent ▸ taken, _, _, later, within, read, first _ 2 _ later within read⟩

end Streams

end BlockingWrites
