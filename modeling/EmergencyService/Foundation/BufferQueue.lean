import Mathlib.Data.List.Basic

/- A queue of buffers that is drained from the front in pieces of any size. A buffer keeps
   its position between two pieces. -/
namespace BufferQueue
variable {B : Type}

structure Buffer (B : Type) where
  bytes : List B
  position : Nat
  within : position ≤ bytes.length

namespace Buffer
variable (b : Buffer B)

def wrap (bytes : List B) : Buffer B := ⟨bytes, 0, Nat.zero_le _⟩

def remaining : List B := b.bytes.drop b.position

def hasRemaining : Bool := decide (b.position < b.bytes.length)

/-- At most `n` more of them have been taken. -/
def advance (n : Nat) : Buffer B where
  bytes := b.bytes
  position := min (b.position + n) b.bytes.length
  within := Nat.min_le_right _ _

@[simp] theorem remaining_wrap (bytes : List B) : (wrap bytes).remaining = bytes := rfl

/-- What is taken and what remains are what remained before. -/
theorem take_advance (n : Nat) : b.remaining.take n ++ (b.advance n).remaining = b.remaining := by
  have rest : (b.advance n).remaining = b.remaining.drop n := by
    change b.bytes.drop (min (b.position + n) b.bytes.length) =
      (b.bytes.drop b.position).drop n
    rw [List.drop_drop]
    rcases Nat.le_total (b.position + n) b.bytes.length with inside | beyond
    · rw [Nat.min_eq_left inside]
    · rw [Nat.min_eq_right beyond, List.drop_length, List.drop_eq_nil_of_le beyond]
  rw [rest, List.take_append_drop]

theorem remaining_nil : b.remaining = [] ↔ b.hasRemaining = false := by
  simp [remaining, hasRemaining]

end Buffer

/-- The bytes that are still to be taken from a queue. -/
def unread (queue : List (Buffer B)) : List B := queue.flatMap Buffer.remaining

@[simp] theorem unread_nil : unread ([] : List (Buffer B)) = [] := rfl

@[simp] theorem unread_cons (b : Buffer B) (queue : List (Buffer B)) :
    unread (b :: queue) = b.remaining ++ unread queue := rfl

@[simp] theorem unread_append (queue later : List (Buffer B)) :
    unread (queue ++ later) = unread queue ++ unread later := by
  simp [unread]

end BufferQueue
