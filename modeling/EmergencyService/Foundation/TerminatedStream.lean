import Mathlib.Data.List.Basic

/- Messages on a stream, each of them followed by one terminator. The alphabet and the
   terminator are parameters. -/
namespace TerminatedStream
variable {B : Type} [DecidableEq B]

def terminated (stop : B) (message : List B) : List B := message ++ [stop]

/-- A reader that keeps what it has seen in `buffer`: the message up to the first
    terminator and the stream behind it, or nothing while the terminator is missing. -/
def nextMessage (stop : B) (buffer : List B) : List B → Option (List B × List B)
  | [] => none
  | b :: rest => if b = stop then some (buffer, rest) else nextMessage stop (buffer ++ [b]) rest

variable {stop : B} {buffer message rest stream : List B}

theorem next_message_terminated (free : stop ∉ message) :
    nextMessage stop buffer (terminated stop message ++ rest) = some (buffer ++ message, rest) := by
  induction message generalizing buffer with
  | nil => simp [terminated, nextMessage]
  | cons b message ih =>
    have first : b ≠ stop := fun here => free (by simp [here])
    have tail : stop ∉ message := fun here => free (List.mem_cons_of_mem b here)
    have later := @ih (buffer ++ [b]) tail
    simpa [terminated, nextMessage, first] using later

theorem next_message_some (read : nextMessage stop buffer stream = some (message, rest)) :
    ∃ new, message = buffer ++ new ∧ stop ∉ new ∧ stream = terminated stop new ++ rest := by
  induction stream generalizing buffer with
  | nil => simp [nextMessage] at read
  | cons b stream ih =>
    by_cases here : b = stop
    · simp only [nextMessage, here, ↓reduceIte, Option.some.injEq, Prod.mk.injEq] at read
      obtain ⟨rfl, rfl⟩ := read
      exact ⟨[], by simp, by simp, by simp [terminated, here]⟩
    · simp only [nextMessage, here, ↓reduceIte] at read
      obtain ⟨new, grown, free, split⟩ := ih read
      refine ⟨b :: new, by simp [grown], ?_, by simp [split, terminated]⟩
      simp [free, Ne.symm here]

theorem next_message_prefix {messages : List (List B)} (free : ∀ m ∈ messages, stop ∉ m)
    (within : stream <+: messages.flatMap (terminated stop))
    (read : nextMessage stop [] stream = some (message, rest)) :
    ∃ later, messages = message :: later ∧ rest <+: later.flatMap (terminated stop) := by
  obtain ⟨_, rfl, clean, rfl⟩ := next_message_some read
  obtain ⟨tail, whole⟩ := within
  cases messages with
  | nil => simp [terminated] at whole
  | cons first later =>
    have one : nextMessage stop [] (terminated stop message ++ (rest ++ tail)) =
        some ([] ++ message, rest ++ tail) := next_message_terminated clean
    rw [← List.append_assoc, whole, List.flatMap_cons,
      next_message_terminated (free first List.mem_cons_self)] at one
    obtain ⟨same, behind⟩ := Prod.mk.inj (Option.some.inj one)
    obtain rfl : first = message := same
    exact ⟨later, rfl, tail, behind.symm⟩

end TerminatedStream
