import Mathlib.Data.List.Basic

/- Two ways to serve the messages on a stream: a loop that looks at its flags before every
   symbol, and tasks that drain one chunk each. An exception ends the loop, but of the tasks
   only the one that it is raised in. -/
namespace ReadLoops

inductive Decoded (M : Type) where
  | more
  | message : M → Decoded M
  | failure

structure Reader (D S M : Type) where
  decoder : D
  state : S
  log : List M

inductive LoopEnd (B D S M : Type) where
  | endOfStream : Reader D S M → LoopEnd B D S M
  | stopped : Reader D S M → List B → LoopEnd B D S M
  | raised : Reader D S M → List B → LoopEnd B D S M

variable {B D S M : Type}

def LoopEnd.reader : LoopEnd B D S M → Reader D S M
  | .endOfStream r => r
  | .stopped r _ => r
  | .raised r _ => r

/-- More symbols behind those that the loop has been given. -/
def LoopEnd.before (continued : Reader D S M → LoopEnd B D S M) (later : List B) :
    LoopEnd B D S M → LoopEnd B D S M
  | .endOfStream r => continued r
  | .stopped r rest => .stopped r (rest ++ later)
  | .raised r rest => .raised r (rest ++ later)

section Loops
variable (decode : D → B → D × Decoded M) (serve : S → M → Bool × S) (stops : S → Bool)

def feed (r : Reader D S M) (b : B) : Bool × Reader D S M :=
  let decoded := decode r.decoder b
  match decoded.2 with
  | .more => (false, { r with decoder := decoded.1 })
  | .failure => (true, { r with decoder := decoded.1 })
  | .message m =>
      let served := serve r.state m
      (served.1, ⟨decoded.1, served.2, r.log ++ [m]⟩)

def loop (r : Reader D S M) : List B → LoopEnd B D S M
  | [] => if stops r.state then .stopped r [] else .endOfStream r
  | b :: rest =>
      if stops r.state then .stopped r (b :: rest)
      else
        let fed := feed decode serve r b
        if fed.1 then .raised fed.2 rest else loop fed.2 rest

/-- One task; what is left of the chunk behind an exception is dropped. -/
def drain (r : Reader D S M) : List B → Reader D S M
  | [] => r
  | b :: rest =>
      let fed := feed decode serve r b
      if fed.1 then fed.2 else drain fed.2 rest

def drainAll (r : Reader D S M) (chunks : List (List B)) : Reader D S M :=
  chunks.foldl (drain decode serve) r

/-- The decoder behind a chunk, unless the chunk completes a message. -/
def quiet (d : D) : List B → Option D
  | [] => some d
  | b :: rest =>
      let decoded := decode d b
      match decoded.2 with
      | .more => quiet decoded.1 rest
      | .failure => some decoded.1
      | .message _ => none

def completes (d : D) : List (List B) → Bool
  | [] => false
  | chunk :: chunks =>
      match quiet decode d chunk with
      | none => true
      | some d => completes d chunks

/-- What the tasks are given behind the point at which the loop would have ended. -/
def behind (r : Reader D S M) : List (List B) → Option (D × List (List B))
  | [] => if stops r.state then some (r.decoder, []) else none
  | chunk :: chunks =>
      match loop decode serve stops r chunk with
      | .endOfStream r => behind r chunks
      | .stopped r rest => some (r.decoder, rest :: chunks)
      | .raised r _ => some (r.decoder, chunks)

/-- A message is completed behind that point. -/
def MessageBehind (r : Reader D S M) (chunks : List (List B)) : Prop :=
  (behind decode serve stops r chunks).any (fun later => completes decode later.1 later.2) = true

instance (r : Reader D S M) (chunks : List (List B)) :
    Decidable (MessageBehind decode serve stops r chunks) := inferInstanceAs (Decidable (_ = _))

end Loops

section Laws
variable {decode : D → B → D × Decoded M} {serve serve' : S → M → Bool × S} {stops : S → Bool}
variable {r r' : Reader D S M} {b : B} {bs rest : List B} {chunks : List (List B)}

theorem loop_append (r : Reader D S M) (bs later : List B) :
    loop decode serve stops r (bs ++ later) =
      (loop decode serve stops r bs).before (fun r => loop decode serve stops r later) later := by
  induction bs generalizing r with
  | nil =>
    by_cases stop : stops r.state
    · cases later <;> simp [loop, LoopEnd.before, stop]
    · simp [loop, LoopEnd.before, stop]
  | cons b bs ih =>
    by_cases stop : stops r.state
    · simp [loop, LoopEnd.before, stop]
    · by_cases raises : (feed decode serve r b).1
      · simp [loop, LoopEnd.before, stop, raises]
      · simp [loop, stop, raises, ih]

variable (decode serve stops) in
theorem drain_of_loop (r : Reader D S M) (bs : List B) :
    match loop decode serve stops r bs with
    | .endOfStream r' => drain decode serve r bs = r'
    | .stopped r' rest => drain decode serve r bs = drain decode serve r' rest
    | .raised r' _ => drain decode serve r bs = r' := by
  induction bs generalizing r with
  | nil => by_cases stop : stops r.state <;> simp [loop, drain, stop]
  | cons b bs ih =>
    by_cases stop : stops r.state
    · simp [loop, stop]
    · by_cases raises : (feed decode serve r b).1
      · simp [loop, drain, stop, raises]
      · simpa [loop, drain, stop, raises] using ih (feed decode serve r b).2

theorem end_of_stream_alive {r : Reader D S M} (ended : loop decode serve stops r bs =
    .endOfStream r') : stops r'.state = false := by
  induction bs generalizing r with
  | nil =>
    by_cases stop : stops r.state <;> simp [loop, stop] at ended
    subst ended
    simpa using stop
  | cons b bs ih =>
    simp only [loop] at ended
    split at ended
    · cases ended
    · split at ended
      · cases ended
      · exact ih ended

theorem feed_more (decoded : (decode r.decoder b).2 = .more) :
    feed decode serve r b = (false, { r with decoder := (decode r.decoder b).1 }) := by
  simp only [feed, decoded]

theorem feed_failure (decoded : (decode r.decoder b).2 = .failure) :
    feed decode serve r b = (true, { r with decoder := (decode r.decoder b).1 }) := by
  simp only [feed, decoded]

theorem feed_message {m : M} (decoded : (decode r.decoder b).2 = .message m) :
    feed decode serve r b = ((serve r.state m).1,
      ⟨(decode r.decoder b).1, (serve r.state m).2, r.log ++ [m]⟩) := by
  simp only [feed, decoded]

section Log
variable (decode serve)

theorem log_feed (r : Reader D S M) (b : B) :
    ∃ first, (feed decode serve r b).2.log = r.log ++ first := by
  cases decoded : (decode r.decoder b).2 with
  | more => exact ⟨[], by simp [feed_more decoded]⟩
  | failure => exact ⟨[], by simp [feed_failure decoded]⟩
  | message m => exact ⟨[m], by simp [feed_message decoded]⟩

theorem log_drain (r : Reader D S M) (bs : List B) :
    ∃ more, (drain decode serve r bs).log = r.log ++ more := by
  induction bs generalizing r with
  | nil => exact ⟨[], by simp [drain]⟩
  | cons b bs ih =>
    obtain ⟨first, fed⟩ := log_feed decode serve r b
    by_cases raises : (feed decode serve r b).1
    · exact ⟨first, by simp [drain, raises, fed]⟩
    · obtain ⟨more, later⟩ := ih (feed decode serve r b).2
      exact ⟨first ++ more, by simp [drain, raises, later, fed]⟩

theorem log_drain_all (r : Reader D S M) (chunks : List (List B)) :
    ∃ more, (drainAll decode serve r chunks).log = r.log ++ more := by
  induction chunks generalizing r with
  | nil => exact ⟨[], by simp [drainAll]⟩
  | cons chunk chunks ih =>
    obtain ⟨first, drained⟩ := log_drain decode serve r chunk
    obtain ⟨more, later⟩ := ih (drain decode serve r chunk)
    exact ⟨first ++ more, by simpa [drainAll, drained] using later⟩

theorem drain_quiet (r : Reader D S M) (bs : List B) :
    match quiet decode r.decoder bs with
    | some d => (drain decode serve r bs).decoder = d ∧ (drain decode serve r bs).log = r.log
    | none => ∃ m more, (drain decode serve r bs).log = r.log ++ m :: more := by
  induction bs generalizing r with
  | nil => simp [quiet, drain]
  | cons b bs ih =>
    cases decoded : (decode r.decoder b).2 with
    | more =>
      have later := ih { r with decoder := (decode r.decoder b).1 }
      simpa [quiet, drain, decoded, feed_more decoded] using later
    | failure => simp [quiet, drain, decoded, feed_failure decoded]
    | message m =>
      have fed : (feed decode serve r b).2.log = r.log ++ [m] := by simp [feed_message decoded]
      simp only [quiet, decoded]
      by_cases raises : (feed decode serve r b).1
      · exact ⟨m, [], by simp [drain, raises, fed]⟩
      · obtain ⟨more, later⟩ := log_drain decode serve (feed decode serve r b).2 bs
        exact ⟨m, more, by simp [drain, raises, later, fed]⟩

theorem log_drain_all_iff (r : Reader D S M) (chunks : List (List B)) :
    (drainAll decode serve r chunks).log = r.log ↔ completes decode r.decoder chunks = false := by
  induction chunks generalizing r with
  | nil => simp [drainAll, completes]
  | cons chunk chunks ih =>
    have first := drain_quiet decode serve r chunk
    have later := ih (drain decode serve r chunk)
    simp only [completes]
    cases silent : quiet decode r.decoder chunk with
    | none =>
      rw [silent] at first
      obtain ⟨m, more, grown⟩ := first
      obtain ⟨last, all⟩ := log_drain_all decode serve (drain decode serve r chunk) chunks
      have whole : (drainAll decode serve r (chunk :: chunks)).log =
          r.log ++ (m :: more ++ last) := by
        simpa [drainAll, grown] using all
      simp [whole]
    | some d =>
      rw [silent] at first
      obtain ⟨decoder, same⟩ := first
      rw [decoder, same] at later
      exact later

end Log

theorem behind_none_iff : behind decode serve stops r chunks = none ↔
    ∃ r', loop decode serve stops r chunks.flatten = .endOfStream r' := by
  induction chunks generalizing r with
  | nil => by_cases stop : stops r.state <;> simp [behind, loop, stop]
  | cons chunk chunks ih =>
    rw [List.flatten_cons, loop_append, behind]
    cases loop decode serve stops r chunk with
    | endOfStream r' => exact ih
    | stopped r' rest => simp [LoopEnd.before]
    | raised r' rest => simp [LoopEnd.before]

theorem drain_all_of_loop
    (alive : loop decode serve stops r chunks.flatten = .endOfStream r') :
    drainAll decode serve r chunks = r' := by
  induction chunks generalizing r with
  | nil =>
    by_cases stop : stops r.state <;> simp [loop, stop] at alive
    exact alive
  | cons chunk chunks ih =>
    have first := drain_of_loop decode serve stops r chunk
    rw [List.flatten_cons, loop_append] at alive
    cases ended : loop decode serve stops r chunk with
    | endOfStream next =>
      rw [ended] at first alive
      have later := ih alive
      rwa [← first] at later
    | stopped next rest => simp [ended, LoopEnd.before] at alive
    | raised next rest => simp [ended, LoopEnd.before] at alive

theorem end_of_stream_prefix (within : bs <+: rest)
    (alive : loop decode serve stops r rest = .endOfStream r') :
    ∃ r', loop decode serve stops r bs = .endOfStream r' := by
  obtain ⟨later, rfl⟩ := within
  rw [loop_append] at alive
  cases ended : loop decode serve stops r bs with
  | endOfStream next => exact ⟨next, rfl⟩
  | stopped next left => simp [ended, LoopEnd.before] at alive
  | raised next left => simp [ended, LoopEnd.before] at alive

/-- Tasks that have been given all that the loop reads serve the same messages, unless there
    is one more behind the end of the loop. -/
theorem logs_agree_iff (r : Reader D S M) (chunks : List (List B)) {later : List B}
    (all : later = [] ∨ behind decode serve stops r chunks ≠ none) :
    (drainAll decode serve r chunks).log =
        (loop decode serve stops r (chunks.flatten ++ later)).reader.log ↔
      ¬ MessageBehind decode serve stops r chunks := by
  induction chunks generalizing r with
  | nil =>
    by_cases stop : stops r.state
    · cases later <;> simp [drainAll, loop, LoopEnd.reader, MessageBehind, behind, stop, completes]
    · have none : later = [] := by simpa [behind, stop] using all
      simp [none, drainAll, loop, LoopEnd.reader, MessageBehind, behind, stop]
  | cons chunk chunks ih =>
    have first := drain_of_loop decode serve stops r chunk
    rw [List.flatten_cons, List.append_assoc, loop_append]
    simp only [MessageBehind, behind] at all ⊢
    cases ended : loop decode serve stops r chunk with
    | endOfStream next =>
      simp only [ended] at first all
      simpa [LoopEnd.before, drainAll, first, MessageBehind] using ih next all
    | stopped next rest =>
      have past := log_drain_all_iff decode serve next (rest :: chunks)
      simp only [ended] at first
      simpa [LoopEnd.before, LoopEnd.reader, drainAll, first] using past
    | raised next rest =>
      have past := log_drain_all_iff decode serve next chunks
      simp only [ended] at first
      simpa [LoopEnd.before, LoopEnd.reader, drainAll, first] using past

theorem loop_stopped (stop : stops r.state = true) :
    (loop decode serve stops r bs).reader = r := by
  cases bs <;> simp [loop, LoopEnd.reader, stop]

theorem loop_log_last {m : M} (alive : stops r.state = false)
    (decoded : (decode r.decoder b).2 = .message m) (past : stops (serve r.state m).2 = true) :
    (loop decode serve stops r (b :: bs)).reader.log = r.log ++ [m] := by
  by_cases raises : (serve r.state m).1
  · simp [loop, LoopEnd.reader, alive, feed_message decoded, raises]
  · simp [loop, alive, feed_message decoded, raises, loop_stopped, past]

theorem loop_log_alike {inv : S → Prop} (keeps : ∀ s m, inv s → inv (serve s m).2)
    (alike : ∀ s m, inv s → serve s m = serve' s m ∨
      (stops (serve s m).2 = true ∧ stops (serve' s m).2 = true)) :
    ∀ r : Reader D S M, inv r.state → (loop decode serve stops r bs).reader.log =
      (loop decode serve' stops r bs).reader.log := by
  induction bs with
  | nil => intro r _; rfl
  | cons b bs ih =>
    intro r held
    by_cases stop : stops r.state
    · simp [loop, LoopEnd.reader, stop]
    · cases decoded : (decode r.decoder b).2 with
      | more =>
        have later := ih { r with decoder := (decode r.decoder b).1 } held
        simpa [loop, stop, feed_more decoded] using later
      | failure => simp [loop, LoopEnd.reader, stop, feed_failure decoded]
      | message m =>
        rcases alike r.state m held with same | ⟨past, past'⟩
        · have kept := keeps r.state m held
          by_cases raises : (serve r.state m).1
          · simp [loop, stop, feed_message decoded, ← same, raises]
          · have later := ih ⟨(decode r.decoder b).1, (serve r.state m).2, r.log ++ [m]⟩ kept
            simpa [loop, stop, feed_message decoded, ← same, raises] using later
        · have alive : stops r.state = false := by simpa using stop
          rw [loop_log_last alive decoded past, loop_log_last alive decoded past']

end Laws

end ReadLoops
