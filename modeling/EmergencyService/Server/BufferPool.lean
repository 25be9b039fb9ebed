import EmergencyService.Foundation.LeasedCells
import EmergencyService.Foundation.RecordedRuns

/- The buffers that all non-blocking handlers share: `continueRead` leases one, its task drains
   it on another thread, and it goes back to `BUFFER_POOL` for anyone's next read. -/
namespace BufferPool
open LeasedCells PendingOperations GuardedRuns RecordedRuns

/-- A `java.nio.ByteBuffer`, as long as its capacity. -/
structure ByteBuffer where
  bytes : List UInt8
  position : Nat
  limit : Nat
  ordered : position ≤ limit
  within : limit ≤ bytes.length

namespace ByteBuffer

def allocateDirect (capacity : Nat) : ByteBuffer where
  bytes := List.replicate capacity 0
  position := 0
  limit := capacity
  ordered := Nat.zero_le _
  within := by simp

variable (b : ByteBuffer)

/-- The bytes stay, only the marks are reset. -/
def clear : ByteBuffer := ⟨b.bytes, 0, b.bytes.length, Nat.zero_le _, Nat.le_refl _⟩

def flip : ByteBuffer := ⟨b.bytes, 0, b.position, Nat.zero_le _, Nat.le_trans b.ordered b.within⟩

def hasRemaining : Bool := decide (b.position < b.limit)

/-- `none` is a BufferUnderflowException. -/
def get : Option (UInt8 × ByteBuffer) :=
  if more : b.position < b.limit then
    some (b.bytes.get ⟨b.position, Nat.lt_of_lt_of_le more b.within⟩,
      ⟨b.bytes, b.position + 1, b.limit, more, b.within⟩)
  else none

def room : Nat := b.limit - b.position

/-- What `chan.read` does to the buffer when these bytes come in. -/
def put (incoming : List UInt8) (fits : incoming.length ≤ b.room) : ByteBuffer where
  bytes := b.bytes.take b.position ++ incoming ++ b.bytes.drop (b.position + incoming.length)
  position := b.position + incoming.length
  limit := b.limit
  ordered := by
    have := b.ordered
    unfold room at fits
    omega
  within := by
    have := b.ordered
    have := b.within
    unfold room at fits
    simp only [List.length_append, List.length_take, List.length_drop]
    omega

def remaining : List UInt8 := (b.bytes.take b.limit).drop b.position

variable {b} {incoming : List UInt8} {x : UInt8} {b' : ByteBuffer}

theorem put_flip_remaining (start : b.position = 0) (fits : incoming.length ≤ b.room) :
    (b.put incoming fits).flip.remaining = incoming := by
  simp [remaining, flip, put, start]

theorem get_some (got : b.get = some (x, b')) : b.remaining = x :: b'.remaining := by
  unfold get at got
  split at got
  · cases got
    have inside : b.position < (b.bytes.take b.limit).length := by
      have := b.within
      rw [List.length_take]
      omega
    unfold remaining
    rw [List.drop_eq_getElem_cons inside, List.getElem_take]
    rfl
  · cases got

theorem remaining_nil (spent : b.hasRemaining = false) : b.remaining = [] := by
  have past : b.limit ≤ b.position := by simpa [hasRemaining] using spent
  apply List.drop_eq_nil_of_le
  rw [List.length_take]
  omega

end ByteBuffer

def BUFFER_ALLOCATION_SIZE : Nat := 1 <<< 13

/-- Where a call of `continueRead`, or the task that it has made, stands. -/
inductive Phase where
  | polled
  | cleared
  | filled
  | task
  deriving DecidableEq

/-- `H` stands for the calls of `continueRead`, of all handlers. -/
structure SharedBuffers (H : Type) where
  leases : Leases H
  memory : Nat → ByteBuffer
  phase : H → Phase

inductive Action (H : Type) where
  | poll : H → Action H
  | clear : H → Action H
  | read : H → List UInt8 → Action H
  | readFails : H → List UInt8 → Action H
  | flip : H → Action H
  | get : H → Action H
  | finish : H → Action H
  | throw : H → Action H

/-- What goes in and out of a call: the bytes of its read, each byte that its task takes, and
    the end of the task, with all bytes taken or by an exception. -/
inductive Moved (H : Type) where
  | read : H → List UInt8 → Moved H
  | got : H → UInt8 → Moved H
  | emptied : H → Moved H
  | dropped : H → Moved H
  deriving DecidableEq

namespace SharedBuffers
variable {H : Type}

def initial : SharedBuffers H :=
  ⟨.none, fun _ => .allocateDirect BUFFER_ALLOCATION_SIZE, fun _ => .polled⟩

variable [DecidableEq H] (s : SharedBuffers H)

abbrev Result (H : Type) := Option (SharedBuffers H × List (Moved H))

/-- A step of a call that holds a buffer and stands at `phase`. -/
def holding (h : H) (phase : Phase)
    (f : (i : Nat) → s.leases.held h = some i → Result H) : Result H :=
  match mine : s.leases.held h with
  | some i => if s.phase h = phase then f i mine else none
  | none => none

def move (h : H) (i : Nat) (buffer : ByteBuffer) (phase : Phase) : SharedBuffers H :=
  ⟨s.leases, Function.update s.memory i buffer, Function.update s.phase h phase⟩

def releaseBuffer (h : H) {i : Nat} (mine : s.leases.held h = some i) : SharedBuffers H :=
  ⟨s.leases.giveBack h mine, s.memory, Function.update s.phase h .polled⟩

/-- The first step of `leaseBuffer`: a new buffer needs no clear. -/
def poll (h : H) : Result H :=
  if s.leases.held h = none then
    match queue : s.leases.free with
    | [] => some (⟨s.leases.takeNew h,
        Function.update s.memory s.leases.made (.allocateDirect BUFFER_ALLOCATION_SIZE),
        Function.update s.phase h .cleared⟩, [])
    | _ :: _ => some (⟨s.leases.takeFree h queue, s.memory,
        Function.update s.phase h .polled⟩, [])
  else none

def act : Action H → Result H
  | .poll h => s.poll h
  | .clear h => s.holding h .polled fun i _ =>
      some (s.move h i (s.memory i).clear .cleared, [])
  | .read h incoming => s.holding h .cleared fun i _ =>
      if fits : incoming.length ≤ (s.memory i).room then
        some (s.move h i ((s.memory i).put incoming fits) .filled, [.read h incoming])
      else none
  | .readFails h incoming => s.holding h .cleared fun i mine =>
      if fits : incoming.length ≤ (s.memory i).room then
        let filled := s.move h i ((s.memory i).put incoming fits) .filled
        some (filled.releaseBuffer h mine, [])
      else none
  | .flip h => s.holding h .filled fun i _ => some (s.move h i (s.memory i).flip .task, [])
  | .get h => s.holding h .task fun i _ =>
      (s.memory i).get.map fun (b, buffer) => (s.move h i buffer .task, [.got h b])
  | .finish h => s.holding h .task fun i mine =>
      if (s.memory i).hasRemaining then none else some (s.releaseBuffer h mine, [.emptied h])
  | .throw h => s.holding h .task fun _ mine => some (s.releaseBuffer h mine, [.dropped h])

end SharedBuffers

/-- The same with a chunk of its own for every call, and no memory that is shared. -/
def ownChunk {H : Type} [DecidableEq H] : Moved H → (H → Option (List UInt8)) →
    (H → Option (List UInt8)) → Prop
  | .read h bytes, t, t' => t h = none ∧ t' = Function.update t h (some bytes)
  | .got h b, t, t' => ∃ rest, t h = some (b :: rest) ∧ t' = Function.update t h (some rest)
  | .emptied h, t, t' => t h = some [] ∧ t' = Function.update t h none
  | .dropped h, t, t' => (t h).isSome ∧ t' = Function.update t h none

section Refinement
variable {H : Type} [DecidableEq H] {s s' : SharedBuffers H} {a : Action H} {out : List (Moved H)}

/-- What a buffer holds of the chunk of its call. -/
def Phase.chunk : Phase → ByteBuffer → Option (List UInt8)
  | .polled, _ => none
  | .cleared, _ => none
  | .filled, buffer => some buffer.flip.remaining
  | .task, buffer => some buffer.remaining

/-- What a call has read and its task has not taken yet. -/
def chunkOf (s : SharedBuffers H) (h : H) : Option (List UInt8) :=
  (s.leases.held h).bind fun i => (s.phase h).chunk (s.memory i)

/-- A step leaves the calls of others as they are, with all that is in their buffers. -/
structure OnlyAt (h : H) (s s' : SharedBuffers H) : Prop where
  held : ∀ h', h' ≠ h → s'.leases.held h' = s.leases.held h'
  phase : ∀ h', h' ≠ h → s'.phase h' = s.phase h'
  memory : ∀ h', h' ≠ h → ∀ i, s.leases.held h' = some i → s'.memory i = s.memory i

omit [DecidableEq H] in
theorem holding_some {h : H} {phase : Phase}
    {f : (i : Nat) → s.leases.held h = some i → SharedBuffers.Result H}
    {r : SharedBuffers H × List (Moved H)} (acted : s.holding h phase f = some r) :
    ∃ i mine, s.phase h = phase ∧ f i mine = some r := by
  unfold SharedBuffers.holding at acted
  split at acted
  · rename_i i mine
    split at acted
    · rename_i here
      exact ⟨i, mine, here, acted⟩
    · cases acted
  · cases acted

theorem only_at_move {h : H} {i : Nat} {buffer : ByteBuffer} {phase : Phase}
    (mine : s.leases.held h = some i) : OnlyAt h s (s.move h i buffer phase) where
  held _ _ := rfl
  phase _ other := Function.update_of_ne other _ _
  memory h' other j held := by
    have apart : j ≠ i := by
      rintro rfl
      exact other (s.leases.exclusive h' h j held mine)
    exact Function.update_of_ne apart _ _

theorem only_at_release {h : H} {i : Nat} (mine : s.leases.held h = some i) :
    OnlyAt h s (s.releaseBuffer h mine) where
  held _ other := Function.update_of_ne other _ _
  phase _ other := Function.update_of_ne other _ _
  memory _ _ _ _ := rfl

omit [DecidableEq H] in
theorem OnlyAt.trans {h : H} {s'' : SharedBuffers H} (first : OnlyAt h s s')
    (second : OnlyAt h s' s'') : OnlyAt h s s'' where
  held h' other := (second.held h' other).trans (first.held h' other)
  phase h' other := (second.phase h' other).trans (first.phase h' other)
  memory h' other i held := by
    rw [second.memory h' other i ((first.held h' other).trans held)]
    exact first.memory h' other i held

theorem only_at_poll {h : H} (polled : s.poll h = some (s', out)) : OnlyAt h s s' := by
  unfold SharedBuffers.poll at polled
  split at polled
  · split at polled
    · cases polled
      refine ⟨fun _ other => Function.update_of_ne other _ _,
        fun _ other => Function.update_of_ne other _ _, ?_⟩
      intro h' _ i held
      exact Function.update_of_ne (Nat.ne_of_lt (s.leases.held_made h' i held)) _ _
    · cases polled
      exact ⟨fun _ other => Function.update_of_ne other _ _,
        fun _ other => Function.update_of_ne other _ _, fun _ _ _ _ => rfl⟩
  · cases polled

theorem chunk_update {h : H} (only : OnlyAt h s s') :
    chunkOf s' = Function.update (chunkOf s) h (chunkOf s' h) := by
  funext h'
  by_cases same : h' = h
  · rw [same, Function.update_self]
  · rw [Function.update_of_ne same]
    unfold chunkOf
    rw [only.held h' same, only.phase h' same]
    cases held : s.leases.held h' with
    | none => rfl
    | some i => rw [Option.bind_some, Option.bind_some, only.memory h' same i held]

omit [DecidableEq H] in
theorem chunk_held {h : H} {i : Nat} (mine : s.leases.held h = some i) :
    chunkOf s h = (s.phase h).chunk (s.memory i) := by
  simp [chunkOf, mine]

theorem chunk_move {h : H} {i : Nat} {buffer : ByteBuffer} {phase : Phase}
    (mine : s.leases.held h = some i) :
    chunkOf (s.move h i buffer phase) h = phase.chunk buffer := by
  simp [chunkOf, SharedBuffers.move, mine]

theorem chunk_release {h : H} {i : Nat} (mine : s.leases.held h = some i) :
    chunkOf (s.releaseBuffer h mine) h = none := by
  simp [chunkOf, SharedBuffers.releaseBuffer, Leases.giveBack]

theorem chunks_same {h : H} (only : OnlyAt h s s') (same : chunkOf s' h = chunkOf s h) :
    Leads ownChunk [] (chunkOf s) (chunkOf s') := by
  rw [leads_nil, chunk_update only, same, Function.update_eq_self]

/-- A buffer that is about to be read into starts at its beginning. -/
def Cleared (s : SharedBuffers H) : Prop :=
  ∀ h i, s.leases.held h = some i → s.phase h = .cleared → (s.memory i).position = 0

theorem cleared_only {h : H} (cleared : Cleared s) (only : OnlyAt h s s')
    (own : ∀ i, s'.leases.held h = some i → s'.phase h = .cleared → (s'.memory i).position = 0) :
    Cleared s' := by
  intro h' i held phase
  by_cases same : h' = h
  · subst same
    exact own i held phase
  · rw [only.held h' same] at held
    rw [only.phase h' same] at phase
    rw [only.memory h' same i held]
    exact cleared h' i held phase

theorem cleared_move {h : H} {i : Nat} {buffer : ByteBuffer} {phase : Phase}
    (cleared : Cleared s) (mine : s.leases.held h = some i)
    (start : phase = .cleared → buffer.position = 0) : Cleared (s.move h i buffer phase) := by
  refine cleared_only cleared (only_at_move mine) ?_
  intro j held here
  obtain rfl : i = j := Option.some.inj (mine.symm.trans held)
  have phase : phase = .cleared := by simpa [SharedBuffers.move] using here
  simpa [SharedBuffers.move] using start phase

theorem cleared_release {h : H} {i : Nat} (cleared : Cleared s)
    (mine : s.leases.held h = some i) : Cleared (s.releaseBuffer h mine) := by
  refine cleared_only cleared (only_at_release mine) ?_
  intro j held _
  simp [SharedBuffers.releaseBuffer, Leases.giveBack] at held

omit [DecidableEq H] in
theorem cleared_initial : Cleared (SharedBuffers.initial : SharedBuffers H) :=
  fun _ _ held => by cases held

theorem poll_chunks {h : H} (cleared : Cleared s) (polled : s.poll h = some (s', out)) :
    Cleared s' ∧ Leads ownChunk out (chunkOf s) (chunkOf s') := by
  have only := only_at_poll polled
  unfold SharedBuffers.poll at polled
  split at polled
  · rename_i free
    have before : chunkOf s h = none := by simp [chunkOf, free]
    split at polled
    · cases polled
      refine ⟨cleared_only cleared only ?_, chunks_same only ?_⟩
      · intro i held _
        obtain rfl : s.leases.made = i := by simpa [Leases.takeNew] using held
        simp [ByteBuffer.allocateDirect]
      · rw [before]
        simp [chunkOf, Leases.takeNew, Phase.chunk]
    · cases polled
      refine ⟨cleared_only cleared only ?_, chunks_same only ?_⟩
      · intro i _ phase
        simp at phase
      · rw [before]
        simp [chunkOf, Leases.takeFree, Phase.chunk]
  · cases polled

theorem act_chunks (cleared : Cleared s) (acted : s.act a = some (s', out)) :
    Cleared s' ∧ Leads ownChunk out (chunkOf s) (chunkOf s') := by
  cases a with
  | poll h => exact poll_chunks cleared acted
  | clear h =>
    obtain ⟨i, mine, phase, moved⟩ := holding_some acted
    cases moved
    refine ⟨cleared_move cleared mine fun _ => rfl, chunks_same (only_at_move mine) ?_⟩
    rw [chunk_move mine, chunk_held mine, phase]
    rfl
  | read h incoming =>
    obtain ⟨i, mine, phase, moved⟩ := holding_some acted
    split at moved
    · rename_i fits
      cases moved
      refine ⟨cleared_move cleared mine nofun, _, ⟨?_, rfl⟩, ?_⟩
      · rw [chunk_held mine, phase]
        rfl
      · rw [leads_nil, chunk_update (only_at_move mine), chunk_move mine, Phase.chunk,
          ByteBuffer.put_flip_remaining (cleared h i mine phase)]
    · cases moved
  | readFails h incoming =>
    obtain ⟨i, mine, phase, moved⟩ := holding_some acted
    split at moved
    · rename_i fits
      cases moved
      have held : (s.move h i ((s.memory i).put incoming fits) .filled).leases.held h = some i :=
        mine
      have filled : Cleared (s.move h i ((s.memory i).put incoming fits) .filled) :=
        cleared_move cleared mine nofun
      have only := (only_at_move mine).trans (only_at_release held)
      refine ⟨cleared_release filled held, chunks_same only ?_⟩
      rw [chunk_release held, chunk_held mine, phase]
      rfl
    · cases moved
  | flip h =>
    obtain ⟨i, mine, phase, moved⟩ := holding_some acted
    cases moved
    refine ⟨cleared_move cleared mine nofun, chunks_same (only_at_move mine) ?_⟩
    rw [chunk_move mine, chunk_held mine, phase]
    rfl
  | get h =>
    obtain ⟨i, mine, phase, moved⟩ := holding_some acted
    obtain ⟨⟨b, buffer⟩, got, same⟩ := Option.map_eq_some_iff.mp moved
    cases same
    refine ⟨cleared_move cleared mine nofun, _, ⟨buffer.remaining, ?_, rfl⟩, ?_⟩
    · rw [chunk_held mine, phase, Phase.chunk, ByteBuffer.get_some got]
    · rw [leads_nil, chunk_update (only_at_move mine), chunk_move mine, Phase.chunk]
  | finish h =>
    obtain ⟨i, mine, phase, moved⟩ := holding_some acted
    split at moved
    · cases moved
    · rename_i spent
      cases moved
      refine ⟨cleared_release cleared mine, _, ⟨?_, rfl⟩, ?_⟩
      · rw [chunk_held mine, phase, Phase.chunk, ByteBuffer.remaining_nil (by simpa using spent)]
      · rw [leads_nil, chunk_update (only_at_release mine), chunk_release mine]
  | throw h =>
    obtain ⟨i, mine, phase, moved⟩ := holding_some acted
    cases moved
    refine ⟨cleared_release cleared mine, _, ⟨?_, rfl⟩, ?_⟩
    · rw [chunk_held mine, phase]
      rfl
    · rw [leads_nil, chunk_update (only_at_release mine), chunk_release mine]

/-- However the reads and the tasks of all connections interleave, the shared buffers cannot be
    told from a chunk for every call: each task takes what its own read has brought in, byte by
    byte, and comes to its end when it has taken all of it. -/
theorem tasks_own_chunks {transcript : List (Moved H)}
    (runs : Recorded SharedBuffers.act (fun _ _ => True) .initial s transcript) :
    Leads ownChunk transcript (fun _ => none) (chunkOf s) := by
  have simulated : ∃ ops t, List.Forall₂ Eq transcript ops ∧
      Leads ownChunk ops (fun _ => none) t ∧ Cleared s ∧ t = chunkOf s := by
    refine transcript_simulates (fun _ => True) (fun _ _ _ => trivial)
      (fun _ s t => Cleared s ∧ t = chunkOf s) ⟨cleared_initial, rfl⟩ ?_ runs trivial
    rintro earlier before after out a t _ ⟨cleared, rfl⟩ _ acted
    obtain ⟨cleared', leads⟩ := act_chunks cleared acted
    exact ⟨out, _, List.forall₂_eq_eq_eq ▸ rfl, leads, cleared', rfl⟩
  obtain ⟨ops, t, same, leads, _, rfl⟩ := simulated
  rw [List.forall₂_eq_eq_eq] at same
  rwa [same]

/-- The second call gets the buffer that the first has left half full. -/
def recycling : List (Action Nat) :=
  [.poll 0, .read 0 [1, 2, 3], .flip 0, .get 0, .throw 0,
    .poll 1, .clear 1, .read 1 [7], .poll 0, .flip 1, .read 0 [8, 9], .get 1, .finish 1]

theorem recycled_chunks : ∃ s : SharedBuffers Nat, s.leases.made = 2 ∧
    Leads ownChunk [.read 0 [1, 2, 3], .got 0 1, .dropped 0, .read 1 [7], .read 0 [8, 9],
      .got 1 7, .emptied 1] (fun _ => none) (chunkOf s) := by
  have ends : (acts (recorded SharedBuffers.act) recycling (.initial, [])).map
      (fun now => (now.1.leases.made, now.2)) = some (2, [.read 0 [1, 2, 3], .got 0 1,
        .dropped 0, .read 1 [7], .read 0 [8, 9], .got 1 7, .emptied 1]) := by decide +kernel
  obtain ⟨⟨s, transcript⟩, ran, same⟩ := Option.map_eq_some_iff.mp ends
  obtain ⟨made, rfl⟩ := Prod.mk.inj same
  exact ⟨s, made, tasks_own_chunks (run_of_acts recycling ran)⟩

end Refinement

end BufferPool
