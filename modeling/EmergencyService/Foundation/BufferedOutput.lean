import Mathlib.Data.List.Basic

/- A stream that gathers what is written in a buffer of fixed size in front of a sink. A write
   to the sink can fail after it has taken any part of the bytes. -/
namespace BufferedOutput
variable {B : Type} {size : Nat}

inductive Outcome where
  | all
  | fails : Nat → Outcome
  deriving DecidableEq

structure Sink (B : Type) where
  taken : List B
  failed : Bool

/-- Whether the write returns, and the sink behind it. -/
def Sink.write (sink : Sink B) (bytes : List B) : Outcome → Bool × Sink B
  | .all => (true, { sink with taken := sink.taken ++ bytes })
  | .fails n => (false, ⟨sink.taken ++ bytes.take n, true⟩)

structure BufferedStream (B : Type) (size : Nat) where
  buf : List B
  within : buf.length ≤ size
  sink : Sink B

namespace BufferedStream

def onto (sink : Sink B) : BufferedStream B size := ⟨[], Nat.zero_le _, sink⟩

variable (s : BufferedStream B size)

/-- When the write to the sink fails, the bytes stay in the buffer. -/
def flushBuffer (outcome : Outcome) : Bool × BufferedStream B size :=
  if s.buf = [] then (true, s)
  else
    let wrote := s.sink.write s.buf outcome
    (wrote.1, if wrote.1 then onto wrote.2 else { s with sink := wrote.2 })

/-- A buffer is written out when it has no room; what no buffer can hold goes to the sink
    directly. -/
def write (bytes : List B) (first second : Outcome) : Bool × BufferedStream B size :=
  let flushed := s.flushBuffer first
  if direct : size ≤ bytes.length then
    if flushed.1 then
      let wrote := flushed.2.sink.write bytes second
      (wrote.1, { flushed.2 with sink := wrote.2 })
    else flushed
  else if room : s.buf.length + bytes.length ≤ size then
    (true, ⟨s.buf ++ bytes, by simpa using room, s.sink⟩)
  else if flushed.1 then (true, ⟨bytes, by omega, flushed.2.sink⟩)
  else flushed

/-- What has been written to the stream: taken by the sink or still in the buffer. -/
def produced : List B := s.sink.taken ++ s.buf

/-- What one call has made of the stream, when `bytes` are written by it. -/
structure Effect (s s' : BufferedStream B size) (bytes : List B) (returned : Bool) : Prop where
  taken : s.sink.taken <+: s'.sink.taken
  within : s'.sink.taken <+: s.produced ++ bytes
  complete : returned = true → s'.produced = s.produced ++ bytes ∧ s'.sink.failed = s.sink.failed
  broken : returned = false → s'.sink.failed = true

variable {s} {s' : BufferedStream B size} {returned : Bool} {bytes : List B}
  {first second outcome : Outcome}

theorem effect_buffered (sink : s'.sink = s.sink) (buf : s'.buf = s.buf ++ bytes) :
    Effect s s' bytes true where
  taken := sink ▸ List.prefix_rfl
  within := by
    rw [sink, produced, List.append_assoc]
    exact List.prefix_append _ _
  complete _ := by
    refine ⟨?_, by rw [sink]⟩
    rw [produced, produced, sink, buf, List.append_assoc]
  broken := nofun

theorem Effect.next {middle : BufferedStream B size} (before : Effect s middle [] true)
    (after : Effect middle s' bytes returned) : Effect s s' bytes returned := by
  obtain ⟨produced, failed⟩ := before.complete rfl
  rw [List.append_nil] at produced
  refine ⟨before.taken.trans after.taken, produced ▸ after.within, ?_, after.broken⟩
  intro done
  obtain ⟨later, same⟩ := after.complete done
  exact ⟨produced ▸ later, same.trans failed⟩

theorem Effect.alive (effect : Effect s s' bytes returned) (works : s'.sink.failed = false) :
    returned = true ∧ s.sink.failed = false := by
  cases returned with
  | true => exact ⟨rfl, (effect.complete rfl).2 ▸ works⟩
  | false =>
    rw [effect.broken rfl] at works
    cases works

theorem effect_direct (empty : s.buf = []) :
    Effect s { s with sink := (s.sink.write bytes outcome).2 } bytes
      (s.sink.write bytes outcome).1 := by
  have all : s.produced = s.sink.taken := by simp [produced, empty]
  cases outcome with
  | all =>
    refine ⟨List.prefix_append _ _, ?_, fun _ => ⟨?_, rfl⟩, nofun⟩
    · rw [all]
      exact List.prefix_rfl
    · simp [produced, empty, Sink.write]
  | fails n =>
    refine ⟨List.prefix_append _ _, ?_, nofun, fun _ => rfl⟩
    rw [all]
    exact (List.prefix_append_right_inj _).mpr (List.take_prefix n bytes)

theorem flush_buffer_effect (s : BufferedStream B size) (outcome : Outcome) :
    Effect s (s.flushBuffer outcome).2 [] (s.flushBuffer outcome).1 := by
  unfold flushBuffer
  split
  · exact effect_buffered rfl (List.append_nil _).symm
  · cases outcome with
    | all =>
      refine ⟨List.prefix_append _ _, ?_, fun _ => ⟨?_, rfl⟩, nofun⟩
      · rw [List.append_nil]
        exact List.prefix_rfl
      · simp [produced, onto, Sink.write]
    | fails n =>
      refine ⟨List.prefix_append _ _, ?_, nofun, fun _ => rfl⟩
      rw [List.append_nil]
      exact (List.prefix_append_right_inj _).mpr (List.take_prefix n s.buf)

theorem flush_buffer_empty (flushed : (s.flushBuffer outcome).1 = true) :
    (s.flushBuffer outcome).2.buf = [] := by
  unfold flushBuffer at flushed ⊢
  split
  · assumption
  · rename_i some
    rw [if_neg some] at flushed
    dsimp only at flushed ⊢
    rw [if_pos flushed]
    rfl

/-- A call of `write` that returns has put its bytes behind all that was written before. -/
theorem write_effect (s : BufferedStream B size) (bytes : List B) (first second : Outcome) :
    Effect s (s.write bytes first second).2 bytes (s.write bytes first second).1 := by
  have flushing := flush_buffer_effect s first
  have broke : (s.flushBuffer first).1 = false →
      Effect s (s.flushBuffer first).2 bytes (s.flushBuffer first).1 := by
    intro failed
    rw [failed] at flushing ⊢
    refine ⟨flushing.taken, flushing.within.trans ?_, nofun, flushing.broken⟩
    rw [List.append_nil]
    exact List.prefix_append _ _
  unfold write
  dsimp only
  split
  · split
    · rename_i flushed
      rw [flushed] at flushing
      exact flushing.next (effect_direct (flush_buffer_empty flushed))
    · rename_i failed
      exact broke (by simpa using failed)
  · split
    · exact effect_buffered rfl rfl
    · split
      · rename_i flushed
        rw [flushed] at flushing
        refine flushing.next (effect_buffered rfl ?_)
        rw [flush_buffer_empty flushed, List.nil_append]
      · rename_i failed
        exact broke (by simpa using failed)

theorem flush_buffer_refused (s : BufferedStream B size) :
    (s.flushBuffer (.fails 0)).2.sink.taken = s.sink.taken := by
  unfold flushBuffer
  split
  · rfl
  · exact List.append_nil _

theorem write_refused (s : BufferedStream B size) (bytes : List B) :
    (s.write bytes (.fails 0) (.fails 0)).2.sink.taken = s.sink.taken := by
  have flushing := flush_buffer_refused s
  unfold write
  dsimp only
  split
  · split
    · exact (List.append_nil _).trans flushing
    · exact flushing
  · split
    · rfl
    · split <;> exact flushing

end BufferedStream

end BufferedOutput
