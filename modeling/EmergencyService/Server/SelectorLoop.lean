import EmergencyService.Foundation.GuardedRuns
import EmergencyService.Server.NonBlockingWrites
import Mathlib.Logic.Function.Basic

/- The loop of `Reactor.serve` with the keys of all connections, and the workers that send to
   a connection or close it between any two of its steps. -/
namespace SelectorLoop
open JavaRuntime NonBlockingWrites GuardedRuns

/-- A selected key of a connection, with its ready set. -/
structure ReadyKey (C : Type) where
  connection : C
  readable : Bool
  writable : Bool
  deriving DecidableEq

inductive SelectedKey (C : Type) where
  | serverSocket
  | client : ReadyKey C → SelectedKey C
  deriving DecidableEq

/-- Where the selector thread stands, in front of the step it is named after: `validTest` is
    the one behind a read without a task. It has `escaped` when a CancelledKeyException has
    left the loop. -/
inductive Stage (C : Type) where
  | select
  | tasks
  | next
  | acceptableTest : SelectedKey C → Stage C
  | readableTest : ReadyKey C → Stage C
  | read : ReadyKey C → Stage C
  | validTest : ReadyKey C → Stage C
  | writableTest : ReadyKey C → Stage C
  | writing : C → Stage C
  | escaped
  deriving DecidableEq

section Keys
variable {C : Type}

def SelectedKey.channel : SelectedKey C → Option C
  | .serverSocket => none
  | .client key => some key.connection

/-- The connection whose key is being handled. -/
def Stage.connection : Stage C → Option C
  | .acceptableTest key => key.channel
  | .readableTest key => some key.connection
  | .read key => some key.connection
  | .validTest key => some key.connection
  | .writableTest key => some key.connection
  | .writing c => some c
  | _ => none

/-- The connection whose key is about to be asked for its ready set, by `isAcceptable`,
    `isReadable` or `isWritable`. -/
def Stage.tests : Stage C → Option C
  | .acceptableTest key => key.channel
  | .readableTest key => some key.connection
  | .writableTest key => some key.connection
  | _ => none

end Keys

/-- Each connection has its own part of `selectorTasks`. What a worker has closed while it was
    open is `cut`. -/
structure Reactor (C : Type) where
  known : List C
  writers : C → Writer
  cut : C → Bool
  selected : List (SelectedKey C)
  stage : Stage C

/-- The first three are steps of the workers. -/
inductive ServeAction (C : Type) where
  | append : C → Text → ServeAction C
  | request : C → ServeAction C
  | close : C → ServeAction C
  | select : List (SelectedKey C) → ServeAction C
  | runTask : C → ServeAction C
  | accept : C → ServeAction C
  | read : Bool → ServeAction C
  | continueWrite : Bool → SelectorStep → ServeAction C
  | proceed

namespace Reactor
variable {C : Type}

def initial : Reactor C := ⟨[], fun _ => .initial, fun _ => false, [], .select⟩

section Keys
variable (s : Reactor C)

/-- `select` returns keys that are not cancelled, and ready for what they are set to. -/
def Selectable : SelectedKey C → Prop
  | .serverSocket => True
  | .client key => key.connection ∈ s.known ∧ (s.writers key.connection).isOpen = true ∧
      (key.readable = true → (s.writers key.connection).interestOps.read = true) ∧
      (key.writable = true → (s.writers key.connection).interestOps.write = true)

/-- `isValid`; the server socket is not closed while the loop runs. -/
def isValid : SelectedKey C → Bool
  | .serverSocket => true
  | .client key => (s.writers key.connection).isOpen

/-- The connection whose key the step uses: it asks for the ready set, or it is the
    `interestOps` of `updateInterestedOps` at the end of `continueWrite`. -/
def used : ServeAction C → Option C
  | .proceed => s.stage.tests
  | .continueWrite _ .proceed =>
      match s.stage with
      | .writing c => if (s.writers c).position = .updateOps then some c else none
      | _ => none
  | _ => none

end Keys

variable [DecidableEq C] (s : Reactor C)

instance (key : SelectedKey C) : Decidable (s.Selectable key) :=
  match key with
  | .serverSocket => inferInstanceAs (Decidable True)
  | .client _ => inferInstanceAs (Decidable (_ ∧ _ ∧ _ ∧ _))

def setWriter (c : C) (w : Writer) : Reactor C :=
  { s with writers := Function.update s.writers c w }

def cutOff (c : C) : Reactor C :=
  { s.setWriter c (s.writers c).close with
    cut := Function.update s.cut c (s.cut c || (s.writers c).isOpen) }

/-- The stage behind a step of `continueWrite`. -/
def stageAfter (c : C) (position : Position) : Stage C :=
  match position with
  | .away => .next
  | .escaped => .escaped
  | _ => .writing c

def proceed : Option (Reactor C) :=
  match s.stage with
  | .tasks =>
      if s.known.all fun c => (s.writers c).selectorTasks.isEmpty then
        some { s with stage := .next }
      else none
  | .next =>
      match s.selected with
      | [] => some { s with stage := .select }
      | key :: rest => some { s with
          selected := rest
          stage := if s.isValid key then .acceptableTest key else .next }
  | .acceptableTest (.client key) => some { s with
      stage := if (s.writers key.connection).isOpen then .readableTest key else .escaped }
  | .readableTest key => some { s with
      stage :=
        if (s.writers key.connection).isOpen then
          if key.readable then .read key else .writableTest key
        else .escaped }
  | .validTest key => some { s with
      stage := if (s.writers key.connection).isOpen then .writableTest key else .next }
  | .writableTest key =>
      if (s.writers key.connection).isOpen then
        if key.writable then some { s.setWriter key.connection
            { s.writers key.connection with position := .loopTest } with
          stage := .writing key.connection }
        else some { s with stage := .next }
      else some { s with stage := .escaped }
  | _ => none

/-- `continueRead`: without a task it has closed the channel. A closed channel throws. -/
def continueRead (success : Bool) : Option (Reactor C) :=
  match s.stage with
  | .read key =>
      if success && (s.writers key.connection).isOpen then
        some { s with stage := .writableTest key }
      else some { s.setWriter key.connection (s.writers key.connection).close with
        stage := .validTest key }
  | _ => none

/-- A step of `continueWrite` of the connection that is being written. -/
def writeStep (shouldTerminate : Bool) (step : SelectorStep) : Option (Reactor C) :=
  match s.stage with
  | .writing c =>
      (match step with
        | .proceed => (s.writers c).proceed shouldTerminate
        | .write n => (s.writers c).write n
        | .writeFails => (s.writers c).writeFails
        | _ => none).map fun w => { s.setWriter c w with stage := stageAfter c w.position }
  | _ => none

/-- `shouldTerminate` is read at a time of its own, so that its value comes with the step. -/
def act : ServeAction C → Option (Reactor C)
  | .append c msg =>
      if c ∈ s.known then some (s.setWriter c ((s.writers c).append msg)) else none
  | .request c => (s.writers c).request.map fun w => s.setWriter c w
  | .close c => if c ∈ s.known then some (s.cutOff c) else none
  | .select keys =>
      if s.stage = .select ∧ (keys.map SelectedKey.channel).Nodup ∧
          ∀ key ∈ keys, s.Selectable key then
        some { s with
          writers := fun c =>
            { s.writers c with registered := (s.writers c).registered && (s.writers c).isOpen }
          selected := keys
          stage := .tasks }
      else none
  | .runTask c =>
      if s.stage = .tasks then (s.writers c).runTask.map fun w => s.setWriter c w else none
  | .accept c =>
      if s.stage = .acceptableTest .serverSocket ∧ c ∉ s.known then
        some { s.setWriter c .initial with
          known := c :: s.known
          cut := Function.update s.cut c false
          stage := .next }
      else none
  | .read success => s.continueRead success
  | .continueWrite shouldTerminate step => s.writeStep shouldTerminate step
  | .proceed => s.proceed

end Reactor

/-- What the selector thread knows of a channel in `continueWrite`: where it goes on to
    change the interest set, it has not closed the channel itself. -/
structure Guarded (w : Writer) (cut : Bool) : Prop where
  inside : w.position ≠ .away ∧ w.position ≠ .escaped
  write : w.position = .write → w.writeQueue ≠ []
  loop : w.position = .loopTest ∨ w.position = .emptyTest →
    w.writeQueue ≠ [] ∨ w.isOpen = true ∨ cut = true
  used : w.position = .remainingTest ∨ w.position = .terminateTest ∨ w.position = .updateOps →
    w.isOpen = true ∨ cut = true

/-- What the workers and the tasks do to a connection in between. -/
structure Beside (w w' : Writer) (cut cut' : Bool) : Prop where
  position : w'.position = w.position
  registered : w'.registered = w.registered
  queue : w.writeQueue ≠ [] → w'.writeQueue ≠ []
  opened : w'.isOpen = true → w.isOpen = true
  shut : (cut = true → w.isOpen = false) → cut' = true → w'.isOpen = false
  kept : w.isOpen = true ∨ cut = true → w'.isOpen = true ∨ cut' = true

structure Sound {C : Type} (s : Reactor C) : Prop where
  stage : s.stage ≠ .escaped
  cut : ∀ c, s.cut c = true → (s.writers c).isOpen = false
  away : ∀ c, s.stage ≠ .writing c → (s.writers c).position = .away
  tested : ∀ c, s.stage.tests = some c → (s.writers c).isOpen = true ∨ s.cut c = true
  writing : ∀ c, s.stage = .writing c → Guarded (s.writers c) (s.cut c)
  registered : ∀ c, s.stage.connection = some c ∨ some c ∈ s.selected.map SelectedKey.channel →
    (s.writers c).registered = true
  joined : ∀ c, (s.writers c).isOpen = true → (s.writers c).registered = true

section Writes
variable {w w' : Writer} {cut cut' terminate : Bool} {n : Nat}

theorem guarded_beside (held : Guarded w cut) (beside : Beside w w' cut cut') :
    Guarded w' cut' := by
  have place := beside.position
  constructor
  · rw [place]
    exact held.inside
  · rw [place]
    exact fun write => beside.queue (held.write write)
  · rw [place]
    intro loop
    rcases held.loop loop with waiting | kept
    · exact Or.inl (beside.queue waiting)
    · exact Or.inr (beside.kept kept)
  · rw [place]
    exact fun used => beside.kept (held.used used)

theorem beside_append (cut : Bool) (msg : Text) : Beside w (w.append msg) cut cut where
  position := rfl
  registered := rfl
  queue := fun _ => by simp [Writer.append]
  opened := id
  shut := id
  kept := id

theorem beside_request (asked : w.request = some w') : Beside w w' cut cut := by
  unfold Writer.request at asked
  split at asked
  · cases asked
  · cases asked
    exact ⟨rfl, rfl, id, id, id, id⟩

theorem beside_run_task (ran : w.runTask = some w') : Beside w w' cut cut := by
  unfold Writer.runTask at ran
  split at ran
  · cases ran
    exact ⟨rfl, rfl, id, id, id, id⟩
  · cases ran

theorem beside_cut_off (w : Writer) (cut : Bool) : Beside w w.close cut (cut || w.isOpen) where
  position := rfl
  registered := rfl
  queue := id
  opened := nofun
  shut := fun _ _ => rfl
  kept := by
    rintro (isOpen | earlier)
    · exact Or.inr (by simp [isOpen])
    · exact Or.inr (by simp [earlier])

/-- What a step of `continueWrite` leaves, when it is not the use of a cancelled key. -/
structure Written (w w' : Writer) (cut : Bool) : Prop where
  shut : w.isOpen = false → w'.isOpen = false
  registered : w'.registered = w.registered
  place : w'.position = .away ∨ Guarded w' cut

theorem proceed_written (held : Guarded w cut) (registered : w.registered = true)
    (moved : w.proceed terminate = some w') :
    (w'.position = .escaped ∧ w.position = .updateOps ∧ w.isOpen = false) ∨
      Written w w' cut := by
  unfold Writer.proceed at moved
  split at moved
  · cases moved
  · rename_i test
    right
    split at moved
    · rename_i go
      cases moved
      exact ⟨id, rfl, Or.inr ⟨⟨nofun, nofun⟩, fun _ => go.1, by simp, by simp⟩⟩
    · cases moved
      exact ⟨id, rfl, Or.inr ⟨⟨nofun, nofun⟩, nofun, fun _ => held.loop (Or.inl test), by simp⟩⟩
  · cases moved
  · rename_i test
    right
    split at moved
    · cases moved
    · split at moved
      · cases moved
        exact ⟨id, rfl, Or.inl rfl⟩
      · cases moved
        have kept := held.used (Or.inl test)
        exact ⟨id, rfl, Or.inr ⟨⟨nofun, nofun⟩, nofun, fun _ => Or.inr kept, by simp⟩⟩
  · rename_i test
    right
    split at moved
    · rename_i empty
      cases moved
      have kept := (held.loop (Or.inr test)).resolve_left fun waiting => waiting empty
      exact ⟨id, rfl, Or.inr ⟨⟨nofun, nofun⟩, nofun, by simp, fun _ => kept⟩⟩
    · cases moved
      exact ⟨id, rfl, Or.inl rfl⟩
  · rename_i test
    right
    cases moved
    have kept := held.used (Or.inr (Or.inl test))
    refine ⟨id, rfl, Or.inr ⟨?_, ?_, ?_, fun _ => kept⟩⟩ <;> cases terminate <;> simp
  · right
    cases moved
    exact ⟨fun _ => rfl, rfl, Or.inl rfl⟩
  · rename_i update
    split at moved
    · cases moved
      exact Or.inr ⟨id, rfl, Or.inl rfl⟩
    · rename_i shut
      cases moved
      exact Or.inl ⟨rfl, update, by simpa using shut⟩
  · cases moved

theorem update_escapes (update : w.position = .updateOps) (shut : w.isOpen = false)
    (registered : w.registered = true) (moved : w.proceed terminate = some w') :
    w'.position = .escaped := by
  simp only [Writer.proceed, update, shut, registered] at moved
  cases moved
  rfl

theorem write_written (wrote : w.write n = some w') : Written w w' cut := by
  unfold Writer.write at wrote
  split at wrote
  · rename_i top rest _ queue
    split at wrote
    · rename_i isOpen
      cases wrote
      exact ⟨id, rfl, Or.inr ⟨⟨nofun, nofun⟩, nofun, by simp, fun _ => Or.inl isOpen⟩⟩
    · cases wrote
      have waiting : w.writeQueue ≠ [] := by simp [queue]
      exact ⟨id, rfl, Or.inr ⟨⟨nofun, nofun⟩, nofun, fun _ => Or.inl waiting, by simp⟩⟩
  · cases wrote

/-- The thread that closes the channel after an IOException leaves the message in the queue,
    so that it does not come to change the interest set. -/
theorem write_fails_written (held : Guarded w cut) (failed : w.writeFails = some w') :
    Written w w' cut := by
  unfold Writer.writeFails at failed
  split at failed
  · rename_i write
    cases failed
    have waiting := held.write write
    exact ⟨fun _ => rfl, rfl,
      Or.inr ⟨⟨nofun, nofun⟩, nofun, fun _ => Or.inl waiting, by simp⟩⟩
  · cases failed

end Writes

section Steps
variable {C : Type} {s s' : Reactor C} {c : C}

theorem sound_initial : Sound (.initial : Reactor C) where
  stage := nofun
  cut := nofun
  away := fun _ _ => rfl
  tested := nofun
  writing := nofun
  registered := fun _ _ => rfl
  joined := fun _ _ => rfl

theorem stage_after {w w' : Writer} {cut : Bool} (written : Written w w' cut) (c : C) :
    (w'.position = .away ∧ Reactor.stageAfter c w'.position = .next) ∨
      (Guarded w' cut ∧ Reactor.stageAfter c w'.position = .writing c) := by
  rcases written.place with away | guarded
  · exact Or.inl ⟨away, by rw [away]; rfl⟩
  · refine Or.inr ⟨guarded, ?_⟩
    have inside := guarded.inside
    unfold Reactor.stageAfter
    split
    · rename_i away
      exact absurd away inside.1
    · rename_i escaped
      exact absurd escaped inside.2
    · rfl

/-- No worker has closed the channel whose key the step uses. -/
def Undisturbed (s : Reactor C) (a : ServeAction C) : Prop :=
  ∀ c, s.used a = some c → s.cut c = false

def check (s : Reactor C) (a : ServeAction C) : Bool := (s.used a).all fun c => !s.cut c

theorem check_sound (s : Reactor C) (a : ServeAction C) (checked : check s a = true) :
    Undisturbed s a := by
  intro c used
  rw [check, used] at checked
  simpa using checked

/-- The loop goes on, and the step has used no key that a worker has cancelled. -/
structure Passed (s : Reactor C) (a : ServeAction C) (s' : Reactor C) : Prop where
  sound : Sound s'
  uncut : ∀ c, s.used a = some c → s.cut c = false

structure Stopped (s : Reactor C) (a : ServeAction C) (s' : Reactor C) : Prop where
  stage : s'.stage = .escaped
  used : ∃ c, s.used a = some c ∧ s.cut c = true

theorem uncut_of_open (held : Sound s) (isOpen : (s.writers c).isOpen = true) :
    s.cut c = false := by
  cases cut : s.cut c with
  | false => rfl
  | true =>
    have shut := held.cut c cut
    rw [isOpen] at shut
    cases shut

theorem sound_moved (held : Sound s) (elsewhere : ∀ c, s.stage ≠ .writing c)
    (writers : s'.writers = s.writers) (cuts : s'.cut = s.cut) (goes : s'.stage ≠ .escaped)
    (outside : ∀ c, s'.stage ≠ .writing c)
    (tested : ∀ c, s'.stage.tests = some c → (s.writers c).isOpen = true ∨ s.cut c = true)
    (handled : ∀ c, s'.stage.connection = some c ∨ some c ∈ s'.selected.map SelectedKey.channel →
      s.stage.connection = some c ∨ some c ∈ s.selected.map SelectedKey.channel) :
    Sound s' := by
  constructor
  · exact goes
  · rw [writers, cuts]
    exact held.cut
  · rw [writers]
    exact fun c _ => held.away c (elsewhere c)
  · rw [writers, cuts]
    exact tested
  · exact fun c writing => absurd writing (outside c)
  · rw [writers]
    exact fun c inside => held.registered c (handled c inside)
  · rw [writers]
    exact held.joined

/-- A test of the key of a channel goes on while the channel is open; at a closed one, a
    worker has cancelled the key. -/
theorem test_outcome (held : Sound s) (tests : s.stage.tests = some c)
    (passed : (s.writers c).isOpen = true → Sound s')
    (failed : (s.writers c).isOpen = false → s'.stage = .escaped) :
    Passed s .proceed s' ∨ Stopped s .proceed s' := by
  cases isOpen : (s.writers c).isOpen with
  | true =>
    left
    refine ⟨passed isOpen, ?_⟩
    intro d used
    have own : d = c := Option.some.inj (used.symm.trans tests)
    rw [own]
    exact uncut_of_open held isOpen
  | false =>
    right
    have cut := (held.tested c tests).resolve_left (by simp [isOpen])
    exact ⟨failed isOpen, c, tests, cut⟩

theorem sound_ahead {ahead : Stage C} (held : Sound s) (elsewhere : ∀ d, s.stage ≠ .writing d)
    (handles : s.stage.connection = some c) (isOpen : (s.writers c).isOpen = true)
    (goes : ahead ≠ .escaped) (outside : ∀ d, ahead ≠ .writing d)
    (same : ∀ d, ahead.connection = some d → d = c) : Sound { s with stage := ahead } := by
  refine sound_moved held elsewhere rfl rfl goes outside ?_ ?_
  · intro d tests
    have own : d = c := by
      apply same
      cases ahead <;> first | exact tests | cases tests
    rw [own]
    exact Or.inl isOpen
  · rintro d (now | later)
    · rw [same d now]
      exact Or.inl handles
    · exact Or.inr later

theorem sound_next (held : Sound s) (elsewhere : ∀ d, s.stage ≠ .writing d) :
    Sound { s with stage := .next } := by
  refine sound_moved held elsewhere rfl rfl nofun nofun nofun ?_
  rintro c (now | later)
  · cases now
  · exact Or.inr later

variable [DecidableEq C]

theorem sound_beside (held : Sound s) {w : Writer} {cut : Bool}
    (beside : Beside (s.writers c) w (s.cut c) cut) (stage : s'.stage = s.stage)
    (selected : s'.selected = s.selected)
    (writers : s'.writers = Function.update s.writers c w)
    (cuts : s'.cut = Function.update s.cut c cut) : Sound s' := by
  have at_c : s'.writers c = w ∧ s'.cut c = cut := by simp [writers, cuts]
  have other : ∀ d, d ≠ c → s'.writers d = s.writers d ∧ s'.cut d = s.cut d := by
    intro d differs
    simp [writers, cuts, differs]
  constructor
  · rw [stage]
    exact held.stage
  · intro d
    by_cases own : d = c
    · subst own
      rw [at_c.1, at_c.2]
      exact beside.shut (held.cut d)
    · rw [(other d own).1, (other d own).2]
      exact held.cut d
  · intro d elsewhere
    rw [stage] at elsewhere
    by_cases own : d = c
    · subst own
      rw [at_c.1, beside.position]
      exact held.away d elsewhere
    · rw [(other d own).1]
      exact held.away d elsewhere
  · intro d tests
    rw [stage] at tests
    by_cases own : d = c
    · subst own
      rw [at_c.1, at_c.2]
      exact beside.kept (held.tested d tests)
    · rw [(other d own).1, (other d own).2]
      exact held.tested d tests
  · intro d writing
    rw [stage] at writing
    by_cases own : d = c
    · subst own
      rw [at_c.1, at_c.2]
      exact guarded_beside (held.writing d writing) beside
    · rw [(other d own).1, (other d own).2]
      exact held.writing d writing
  · intro d inside
    rw [stage, selected] at inside
    by_cases own : d = c
    · subst own
      rw [at_c.1, beside.registered]
      exact held.registered d inside
    · rw [(other d own).1]
      exact held.registered d inside
  · intro d isOpen
    by_cases own : d = c
    · subst own
      rw [at_c.1] at isOpen ⊢
      rw [beside.registered]
      exact held.joined d (beside.opened isOpen)
    · rw [(other d own).1] at isOpen ⊢
      exact held.joined d isOpen

theorem sound_enter (held : Sound s) {key : ReadyKey C} (stage : s.stage = .writableTest key)
    (isOpen : (s.writers key.connection).isOpen = true) :
    Sound { s.setWriter key.connection
        { s.writers key.connection with position := .loopTest } with
      stage := .writing key.connection } := by
  have elsewhere : ∀ d, s.stage ≠ .writing d := by simp [stage]
  constructor
  · nofun
  · intro d cut
    have shut := held.cut d cut
    by_cases own : d = key.connection
    · subst own
      rw [isOpen] at shut
      cases shut
    · simpa [Reactor.setWriter, own] using shut
  · intro d other
    have own : d ≠ key.connection := fun same => other (by rw [same])
    simpa [Reactor.setWriter, own] using held.away d (elsewhere d)
  · nofun
  · rintro d ⟨⟩
    refine ⟨?_, ?_, ?_, ?_⟩ <;> simp [Reactor.setWriter, isOpen]
  · rintro d inside
    by_cases own : d = key.connection
    · subst own
      simpa [Reactor.setWriter] using held.registered key.connection (Or.inl (by rw [stage]; rfl))
    · have later := inside.resolve_left fun now => own (Option.some.inj now).symm
      simpa [Reactor.setWriter, own] using held.registered d (Or.inr later)
  · intro d now
    by_cases own : d = key.connection
    · subst own
      simpa [Reactor.setWriter] using held.joined key.connection isOpen
    · simp only [Reactor.setWriter, Function.update_of_ne own] at now ⊢
      exact held.joined d now

theorem next_sound (held : Sound s) (stage : s.stage = .next) (moved : s.proceed = some s') :
    Sound s' := by
  simp only [Reactor.proceed, stage] at moved
  split at moved
  · cases moved
    refine sound_moved held (by simp [stage]) rfl rfl nofun nofun nofun ?_
    rintro c (now | later)
    · cases now
    · exact Or.inr later
  · rename_i key rest selected
    have among : ∀ c, some c ∈ rest.map SelectedKey.channel →
        some c ∈ s.selected.map SelectedKey.channel := by
      intro c later
      rw [selected]
      exact List.mem_cons_of_mem _ later
    cases moved
    by_cases valid : s.isValid key = true
    · rw [if_pos valid]
      refine sound_moved held (by simp [stage]) rfl rfl nofun nofun ?_ ?_
      · intro c tests
        cases key with
        | serverSocket => cases tests
        | client key =>
          cases tests
          exact Or.inl valid
      · rintro c (now | later)
        · right
          rw [selected]
          exact List.mem_cons.mpr (Or.inl now.symm)
        · exact Or.inr (among c later)
    · rw [if_neg valid]
      refine sound_moved held (by simp [stage]) rfl rfl nofun nofun nofun ?_
      rintro c (now | later)
      · cases now
      · exact Or.inr (among c later)

theorem proceed_outcome (held : Sound s) (moved : s.proceed = some s') :
    Passed s .proceed s' ∨ Stopped s .proceed s' := by
  have quiet : s.stage.tests = none → ∀ c, s.used .proceed = some c → s.cut c = false := by
    intro none c used
    rw [Reactor.used, none] at used
    cases used
  have whole := moved
  unfold Reactor.proceed at moved
  split at moved
  · rename_i stage
    split at moved
    · cases moved
      exact Or.inl ⟨sound_next held (by simp [stage]), quiet (by rw [stage]; rfl)⟩
    · cases moved
  · rename_i stage
    exact Or.inl ⟨next_sound held stage whole, quiet (by rw [stage]; rfl)⟩
  · rename_i key stage
    cases moved
    apply test_outcome held (c := key.connection) (by rw [stage]; rfl)
    · intro isOpen
      rw [if_pos isOpen]
      exact sound_ahead held (by simp [stage]) (by rw [stage]; rfl) isOpen nofun nofun
        (by simp [Stage.connection])
    · intro shut
      simp [shut]
  · rename_i key stage
    cases moved
    apply test_outcome held (c := key.connection) (by rw [stage]; rfl)
    · intro isOpen
      rw [if_pos isOpen]
      apply sound_ahead held (by simp [stage]) (by rw [stage]; rfl) isOpen
      all_goals cases key.readable <;> simp [Stage.connection]
    · intro shut
      simp [shut]
  · rename_i key stage
    cases moved
    refine Or.inl ⟨?_, quiet (by rw [stage]; rfl)⟩
    by_cases isOpen : (s.writers key.connection).isOpen = true
    · rw [if_pos isOpen]
      exact sound_ahead held (by simp [stage]) (by rw [stage]; rfl) isOpen nofun nofun
        (by simp [Stage.connection])
    · rw [if_neg isOpen]
      exact sound_next held (by simp [stage])
  · rename_i key stage
    apply test_outcome held (c := key.connection) (by rw [stage]; rfl)
    · intro isOpen
      rw [if_pos isOpen] at moved
      split at moved <;> cases moved
      · exact sound_enter held stage isOpen
      · exact sound_next held (by simp [stage])
    · intro shut
      rw [if_neg (by simp [shut])] at moved
      cases moved
      rfl
  · cases moved

theorem continue_read_sound {success : Bool} (held : Sound s)
    (moved : s.continueRead success = some s') : Sound s' := by
  unfold Reactor.continueRead at moved
  split at moved
  · rename_i key stage
    have elsewhere : ∀ d, s.stage ≠ .writing d := by simp [stage]
    have handles : s.stage.connection = some key.connection := by rw [stage]; rfl
    split at moved
    · rename_i read
      cases moved
      have isOpen : (s.writers key.connection).isOpen = true := by
        simp only [Bool.and_eq_true] at read
        exact read.2
      exact sound_ahead held elsewhere handles isOpen nofun nofun (by simp [Stage.connection])
    · cases moved
      constructor
      · nofun
      · intro d cut
        have shut := held.cut d cut
        by_cases own : d = key.connection
        · subst own
          simp [Reactor.setWriter, Writer.close]
        · simpa [Reactor.setWriter, own] using shut
      · intro d _
        by_cases own : d = key.connection
        · subst own
          simpa [Reactor.setWriter, Writer.close] using held.away key.connection (elsewhere _)
        · simpa [Reactor.setWriter, own] using held.away d (elsewhere d)
      · nofun
      · nofun
      · intro d inside
        have before : (s.writers d).registered = true := by
          apply held.registered d
          rcases inside with now | later
          · exact Or.inl (handles.trans now)
          · exact Or.inr later
        by_cases own : d = key.connection
        · subst own
          simpa [Reactor.setWriter, Writer.close] using before
        · simpa [Reactor.setWriter, own] using before
      · intro d now
        by_cases own : d = key.connection
        · subst own
          simp [Reactor.setWriter, Writer.close] at now
        · simp only [Reactor.setWriter, Function.update_of_ne own] at now ⊢
          exact held.joined d now
  · cases moved

theorem sound_written {w : Writer} (held : Sound s) (stage : s.stage = .writing c)
    (written : Written (s.writers c) w (s.cut c)) :
    Sound { s.setWriter c w with stage := Reactor.stageAfter c w.position } := by
  have after := stage_after written c
  have elsewhere : ∀ d, d ≠ c → s.stage ≠ .writing d := by
    intro d differs writing
    rw [stage] at writing
    cases writing
    exact differs rfl
  constructor
  · rcases after with ⟨_, next⟩ | ⟨_, writing⟩
    · simp [next]
    · simp [writing]
  · intro d cut
    have shut := held.cut d cut
    by_cases own : d = c
    · subst own
      simpa [Reactor.setWriter] using written.shut shut
    · simpa [Reactor.setWriter, own] using shut
  · intro d other
    by_cases own : d = c
    · subst own
      rcases after with ⟨away, _⟩ | ⟨_, writing⟩
      · simpa [Reactor.setWriter] using away
      · exact absurd writing other
    · simpa [Reactor.setWriter, own] using held.away d (elsewhere d own)
  · intro d tests
    rcases after with ⟨_, next⟩ | ⟨_, writing⟩
    · simp [next, Stage.tests] at tests
    · simp [writing, Stage.tests] at tests
  · intro d now
    rcases after with ⟨_, next⟩ | ⟨guarded, writing⟩
    · simp [next] at now
    · have own : c = d := by simpa [writing] using now
      subst own
      simpa [Reactor.setWriter] using guarded
  · intro d inside
    by_cases own : d = c
    · subst own
      have before := held.registered d (Or.inl (by rw [stage]; rfl))
      simpa [Reactor.setWriter, written.registered] using before
    · have later : some d ∈ s.selected.map SelectedKey.channel := by
        apply inside.resolve_left
        rcases after with ⟨_, next⟩ | ⟨_, writing⟩
        · simp [next, Stage.connection]
        · simpa [writing, Stage.connection] using fun same => own same.symm
      simpa [Reactor.setWriter, own] using held.registered d (Or.inr later)
  · intro d now
    by_cases own : d = c
    · subst own
      simp only [Reactor.setWriter, Function.update_self] at now ⊢
      rw [written.registered]
      apply held.joined d
      by_contra shut
      rw [written.shut (by simpa using shut)] at now
      cases now
    · simp only [Reactor.setWriter, Function.update_of_ne own] at now ⊢
      exact held.joined d now

theorem write_step_outcome {terminate : Bool} {step : SelectorStep} (held : Sound s)
    (moved : s.writeStep terminate step = some s') :
    Passed s (.continueWrite terminate step) s' ∨ Stopped s (.continueWrite terminate step) s' := by
  unfold Reactor.writeStep at moved
  split at moved
  · rename_i c stage
    have guarded := held.writing c stage
    have registered := held.registered c (Or.inl (by rw [stage]; rfl))
    obtain ⟨w, wrote, rfl⟩ := Option.map_eq_some_iff.mp moved
    have passed (written : Written (s.writers c) w (s.cut c))
        (uncut : ∀ d, s.used (.continueWrite terminate step) = some d → s.cut d = false) :
        Passed s (.continueWrite terminate step)
          { s.setWriter c w with stage := Reactor.stageAfter c w.position } :=
      ⟨sound_written held stage written, uncut⟩
    cases step with
    | proceed =>
      rcases proceed_written guarded registered wrote with ⟨escaped, update, shut⟩ | written
      · right
        have cut := (guarded.used (Or.inr (Or.inr update))).resolve_left (by simp [shut])
        refine ⟨?_, c, ?_, cut⟩
        · rw [escaped]
          rfl
        · simp [Reactor.used, stage, update]
      · left
        apply passed written
        intro d used
        obtain ⟨update, rfl⟩ : (s.writers c).position = .updateOps ∧ c = d := by
          simpa [Reactor.used, stage] using used
        apply uncut_of_open held
        by_contra shut
        have escaped := update_escapes update (by simpa using shut) registered wrote
        rcases written.place with away | guarded'
        · rw [away] at escaped
          cases escaped
        · exact guarded'.inside.2 escaped
    | write n => exact Or.inl (passed (write_written wrote) nofun)
    | writeFails => exact Or.inl (passed (write_fails_written guarded wrote) nofun)
    | enter => cases wrote
    | runTask => cases wrote
    | select => cases wrote
  · cases moved

theorem select_sound {keys : List (SelectedKey C)} (held : Sound s)
    (selected : s.act (.select keys) = some s') : Sound s' := by
  simp only [Reactor.act] at selected
  split at selected
  · rename_i ready
    obtain ⟨stage, _, ready⟩ := ready
    cases selected
    constructor
    · nofun
    · exact held.cut
    · exact fun c _ => held.away c (by simp [stage])
    · nofun
    · nofun
    · rintro c (now | inside)
      · cases now
      · obtain ⟨key, member, channel⟩ := List.mem_map.mp inside
        have selectable := ready key member
        cases key with
        | serverSocket => cases channel
        | client key =>
          cases channel
          have isOpen := selectable.2.1
          simp [held.joined key.connection isOpen, isOpen]
    · intro c isOpen
      change (s.writers c).isOpen = true at isOpen
      simp [held.joined c isOpen, isOpen]
  · cases selected

theorem accept_sound (held : Sound s) (accepted : s.act (.accept c) = some s') : Sound s' := by
  simp only [Reactor.act] at accepted
  split at accepted
  · rename_i now
    cases accepted
    have elsewhere : ∀ d, s.stage ≠ .writing d := by simp [now.1]
    constructor
    · nofun
    · intro d
      by_cases own : d = c
      · subst own
        simp
      · simpa [Reactor.setWriter, own] using held.cut d
    · intro d _
      by_cases own : d = c
      · subst own
        simp [Reactor.setWriter, Writer.initial]
      · simpa [Reactor.setWriter, own] using held.away d (elsewhere d)
    · nofun
    · nofun
    · rintro d (handled | later)
      · cases handled
      · by_cases own : d = c
        · subst own
          simp [Reactor.setWriter, Writer.initial]
        · simpa [Reactor.setWriter, own] using held.registered d (Or.inr later)
    · intro d isOpen
      by_cases own : d = c
      · subst own
        simp [Reactor.setWriter, Writer.initial]
      · simp only [Reactor.setWriter, Function.update_of_ne own] at isOpen ⊢
        exact held.joined d isOpen
  · cases accepted

theorem act_outcome {a : ServeAction C} (held : Sound s) (acted : s.act a = some s') :
    Passed s a s' ∨ Stopped s a s' := by
  cases a with
  | append c msg =>
    simp only [Reactor.act] at acted
    split at acted
    · cases acted
      left
      refine ⟨sound_beside held (beside_append (s.cut c) msg) rfl rfl rfl ?_, nofun⟩
      exact (Function.update_eq_self c s.cut).symm
    · cases acted
  | request c =>
    obtain ⟨w, asked, rfl⟩ := Option.map_eq_some_iff.mp acted
    left
    refine ⟨sound_beside held (beside_request asked) rfl rfl rfl ?_, nofun⟩
    exact (Function.update_eq_self c s.cut).symm
  | close c =>
    simp only [Reactor.act] at acted
    split at acted
    · cases acted
      exact Or.inl ⟨sound_beside held (beside_cut_off (s.writers c) (s.cut c)) rfl rfl rfl rfl,
        nofun⟩
    · cases acted
  | select keys => exact Or.inl ⟨select_sound held acted, nofun⟩
  | runTask c =>
    simp only [Reactor.act] at acted
    split at acted
    · obtain ⟨w, ran, rfl⟩ := Option.map_eq_some_iff.mp acted
      left
      refine ⟨sound_beside held (beside_run_task ran) rfl rfl rfl ?_, nofun⟩
      exact (Function.update_eq_self c s.cut).symm
    · cases acted
  | accept c => exact Or.inl ⟨accept_sound held acted, nofun⟩
  | read success => exact Or.inl ⟨continue_read_sound held acted, nofun⟩
  | continueWrite terminate step => exact write_step_outcome held acted
  | proceed => exact proceed_outcome held acted

/-- The selector thread's own closing of channels, and the tasks, never stop the loop. -/
theorem loop_survives (runs : Runs Reactor.act Undisturbed (.initial : Reactor C) s) :
    s.stage ≠ .escaped := by
  have held : Sound s := by
    apply run_invariant Sound sound_initial _ runs
    intro a before after _ held undisturbed acted
    rcases act_outcome held acted with passed | ⟨_, c, used, cut⟩
    · exact passed.sound
    · rw [undisturbed c used] at cut
      cases cut
  exact held.stage

end Steps

section Sessions

def reading : List (ServeAction Nat) :=
  [.select [.serverSocket], .proceed, .proceed, .accept 0, .proceed,
    .select [.client ⟨0, true, false⟩], .proceed, .proceed, .proceed, .proceed, .read true,
    .proceed, .proceed]

/-- The worker answers them with an ERROR and closes the channel. -/
def refusing : List (ServeAction Nat) :=
  [.append 0 "ERROR\nmessage:Did not login\n\n\n", .request 0, .close 0]

/-- More bytes have come, and the selector thread has seen that the key is valid. -/
def selecting : List (ServeAction Nat) :=
  [.select [.client ⟨0, true, false⟩], .proceed, .proceed]

/-- The channel is closed before the next `select`, and one of the tasks finds the key
    cancelled. -/
theorem closed_before_select :
    ∃ s, actsWhere Reactor.act check
        (reading ++ refusing ++ [.select [], .runTask 0, .proceed, .proceed]) .initial = some s ∧
      (s.writers 0).isOpen = false ∧ s.stage ≠ .escaped := by
  have ran : (actsWhere Reactor.act check
      (reading ++ refusing ++ [.select [], .runTask 0, .proceed, .proceed]) .initial).any
        (fun s => !(s.writers 0).isOpen) = true := by decide +kernel
  obtain ⟨s, acted, shut⟩ := (Option.any_eq_true _ _).mp ran
  exact ⟨s, acted, by simpa using shut, loop_survives (run_of_acts_where check_sound _ acted)⟩

theorem one_client_stops_loop :
    ∃ s, acts Reactor.act (reading ++ selecting ++ refusing ++ [.proceed]) .initial = some s ∧
      s.stage = .escaped := by
  have ran : (acts Reactor.act (reading ++ selecting ++ refusing ++ [.proceed]) .initial).any
      (fun s => decide (s.stage = .escaped)) = true := by decide +kernel
  obtain ⟨s, acted, checked⟩ := (Option.any_eq_true _ _).mp ran
  exact ⟨s, acted, of_decide_eq_true checked⟩

end Sessions
end SelectorLoop
