import EmergencyService.Client.SessionProtocol
import EmergencyService.Foundation.StreamLines

/- `run_keyboard` from the terminal on: the loop with both of its tests and the bounded
   `getline` between them, beside the thread that reads the answers of the server. -/
namespace KeyboardInput
open JavaRuntime CppRuntime JavaFrame FrameStream EventReport ChannelCommands ServerResponses
open GuardedRuns StreamLines KeyboardLoop

def bufsize : Nat := 1024

/-- `std::string command(buf)` -/
def cString (buf : Text) : Text := buf.takeWhile (· ≠ nul)

/-- Where the keyboard thread is: at the test of the loop, in `getline`, at the second test
    with a command, with a command to carry out, or behind the loop. -/
inductive Place where
  | test | getline
  | check : Text → Place
  | carryOut | gone

/-- Both threads, the input of the terminal that has not been read, and the commands that
    have passed the second test so far. -/
structure Terminal where
  console : Console
  input : Input Char
  place : Place
  listening : Bool
  begun : List Text

inductive TerminalStep where
  | keyboard : EventsFiles → Nat → TerminalStep
  | answer : Text → TerminalStep
  | hangUp

namespace Terminal

def start (user : Text) (input : Input Char) : Terminal :=
  ⟨.connected user, input, .test, true, []⟩

def turn (t : Terminal) (files : EventsFiles) (taken : Nat) : Option Terminal :=
  match t.place with
  | .test =>
      some { t with place := if t.console.terminateKeyboard then .gone else .getline }
  | .getline =>
      let (buf, input) := StreamLines.getline '\n' bufsize t.input
      some { t with
        input := input
        place := if input.failed then .test else .check (cString buf) }
  | .check command =>
      if t.console.terminateKeyboard then some { t with place := .test }
      else some { t with
        console := { t.console with line := some command }
        place := .carryOut
        begun := t.begun ++ [command] }
  | .carryOut =>
      (t.console.act (.carryOut files taken)).map fun after =>
        { t with console := after.1, place := .test }
  | .gone => none

/-- When the other thread gets no answer any more, it stops the keyboard and ends. -/
def step (t : Terminal) : TerminalStep → Option Terminal
  | .keyboard files taken => t.turn files taken
  | .answer text =>
      if t.listening then
        (t.console.step (.answer text)).map fun console => { t with console := console }
      else none
  | .hangUp =>
      if t.listening = true ∧ t.console.terminateServerResponses = false then
        some { t with console := { t.console with terminateKeyboard := true }, listening := false }
      else none

/-- The commands that are still to come, from the input and in the thread's hand. -/
def ahead (t : Terminal) : List Text :=
  match t.place with
  | .check command => command :: (upcoming '\n' bufsize t.input).map cString
  | _ => (upcoming '\n' bufsize t.input).map cString

end Terminal

abbrev TerminalRuns (user : Text) (input : Input Char) (t : Terminal) : Prop :=
  Runs Terminal.step (fun _ _ => True) (.start user input) t

section Reading

theorem c_string_clean {buf : Text} (free : LineFree buf) :
    LineFree (cString buf) ∧ NulFree (cString buf) := by
  constructor
  · exact fun inside => free ((List.takeWhile_prefix _).subset inside)
  · intro inside
    have other := List.mem_takeWhile_imp inside
    simp at other

variable {console : Console} {files : EventsFiles} {taken : Nat} {line : Text}

def stopped (console : Console) : Console := { console with terminateKeyboard := true }

theorem put_stopped {n : Nat} {words : Client × List CppFrame.StompFrame} :
    (stopped console).put n words =
      (stopped (console.put n words).1, (console.put n words).2) := by
  unfold Console.put
  split <;> rfl

theorem command_stopped (words : List Text) : (stopped console).command files taken words =
    (console.command files taken words).map fun after => (stopped after.1, after.2) := by
  unfold Console.command
  split
  · rfl
  · rename_i first arguments
    split
    · change (runWords files console.client (first :: arguments)).map _ = _
      rw [Option.map_map]
      exact Option.map_congr fun words _ => put_stopped
    · split
      · rfl
      · split
        · split <;> rfl
        · rfl

theorem carry_out_stopped : (stopped console).carryOut files taken line =
    (console.carryOut files taken line).map fun after => (stopped after.1, after.2) := by
  unfold Console.carryOut
  split
  · rfl
  · exact command_stopped (split line ' ')

theorem carry_out_keeps_end {after : Console × List CppFrame.StompFrame}
    (ran : console.carryOut files taken line = some after)
    (ended : console.terminateKeyboard = true) : after.1.terminateKeyboard = true := by
  obtain ⟨n, ⟨words, found, rfl⟩ | rfl | rfl⟩ := carry_out_cases ran
  · unfold Console.put
    split <;> exact ended
  · rfl
  · exact ended

end Reading

section Steps
variable {user : Text} {typed : List Text} {t t' : Terminal}

/-- The console is one of the two threads' runs; when the answers have ended, but for the
    flag. -/
def Plays (user : Text) (t : Terminal) : Prop :=
  (t.listening = true ∧ ThreadRuns user t.console) ∨
    (t.listening = false ∧ ∃ console, ThreadRuns user console ∧ t.console = stopped console)

/-- The commands begun and those still to come are what has been typed, but for one that is
    read when the session is over. -/
structure InOrder (typed : List Text) (t : Terminal) : Prop where
  idle : t.place ≠ .carryOut → t.console.line = none
  clean : ∀ command, t.place = .check command → LineFree command ∧ NulFree command
  gone : t.place = .gone → t.console.terminateKeyboard = true
  told : t.listening = false → t.console.terminateKeyboard = true
  account : t.begun ++ t.ahead = typed ∨
    t.console.terminateKeyboard = true ∧ (t.place = .test ∨ t.place = .gone) ∧
      ∃ lost, t.begun ++ lost :: t.ahead = typed

theorem ahead_input (place : t.place = .test ∨ t.place = .getline ∨ t.place = .carryOut ∨
    t.place = .gone) : t.ahead = (upcoming '\n' bufsize t.input).map cString := by
  rcases place with here | here | here | here <;> simp only [Terminal.ahead, here]

theorem test_in_order (order : InOrder typed t) (here : t.place = .test) :
    InOrder typed { t with
      place := if t.console.terminateKeyboard then .gone else .getline } := by
  have idle : t.console.line = none := order.idle (by simp [here])
  have input := ahead_input (Or.inl here)
  by_cases ended : t.console.terminateKeyboard = true
  · rw [if_pos ended]
    refine ⟨fun _ => idle, nofun, fun _ => ended, order.told, ?_⟩
    rcases order.account with kept | ⟨_, _, lost, kept⟩
    · exact Or.inl (by rwa [input] at kept)
    · exact Or.inr ⟨ended, Or.inr rfl, lost, by rwa [input] at kept⟩
  · rw [if_neg ended]
    refine ⟨fun _ => idle, nofun, nofun, order.told, Or.inl ?_⟩
    rcases order.account with kept | ⟨finished, _⟩
    · rwa [input] at kept
    · exact absurd finished ended

theorem getline_in_order (order : InOrder typed t) (here : t.place = .getline) :
    InOrder typed { t with
      input := (StreamLines.getline '\n' bufsize t.input).2
      place := if (StreamLines.getline '\n' bufsize t.input).2.failed then .test
        else .check (cString (StreamLines.getline '\n' bufsize t.input).1) } := by
  have idle : t.console.line = none := order.idle (by simp [here])
  have kept : t.begun ++ (upcoming '\n' bufsize t.input).map cString = typed := by
    rcases order.account with kept | ⟨_, place, _⟩
    · rwa [ahead_input (Or.inr (Or.inl here))] at kept
    · simp [here] at place
  have free : LineFree (StreamLines.getline '\n' bufsize t.input).1 := getline_free
  rw [getline_upcoming] at kept
  revert kept free
  generalize StreamLines.getline '\n' bufsize t.input = after
  obtain ⟨buf, input⟩ := after
  intro kept free
  by_cases failed : input.failed = true
  · simp only [failed, if_true] at kept ⊢
    refine ⟨fun _ => idle, nofun, nofun, order.told, Or.inl ?_⟩
    rwa [Terminal.ahead, upcoming_failed failed]
  · simp only [failed, Bool.false_eq_true, if_false] at kept ⊢
    refine ⟨fun _ => idle, ?_, nofun, order.told, Or.inl kept⟩
    rintro command same
    cases same
    exact c_string_clean free

theorem turn_in_order {files : EventsFiles} {taken : Nat} (order : InOrder typed t)
    (turned : t.turn files taken = some t') : InOrder typed t' := by
  unfold Terminal.turn at turned
  split at turned
  · rename_i here
    cases turned
    exact test_in_order order here
  · rename_i here
    cases turned
    exact getline_in_order order here
  · rename_i command here
    have idle : t.console.line = none := order.idle (by simp [here])
    have kept : t.begun ++ t.ahead = typed := by
      rcases order.account with kept | ⟨_, place, _⟩
      · exact kept
      · simp [here] at place
    rw [Terminal.ahead, here] at kept
    split at turned
    · rename_i ended
      cases turned
      exact ⟨fun _ => idle, nofun, nofun, order.told, Or.inr ⟨ended, Or.inl rfl, command, kept⟩⟩
    · cases turned
      refine ⟨fun other => absurd rfl other, nofun, nofun, order.told, Or.inl ?_⟩
      rw [← kept, List.append_assoc]
      rfl
  · rename_i here
    obtain ⟨after, acted, rfl⟩ := Option.map_eq_some_iff.mp turned
    have kept : t.begun ++ t.ahead = typed := by
      rcases order.account with kept | ⟨_, place, _⟩
      · exact kept
      · simp [here] at place
    obtain ⟨line, step, _⟩ | ⟨_, _, line, same, waiting, ran⟩ := keyboard_cases acted
    · cases step
    have kept' := carry_out_keeps_end ran
    refine ⟨fun _ => carry_out_line ran, nofun, nofun, fun told => kept' (order.told told),
      Or.inl ?_⟩
    rwa [ahead_input (Or.inr (Or.inr (Or.inl here)))] at kept
  · cases turned

theorem ended_in_order (console : Console) (order : InOrder typed t)
    (line : console.line = t.console.line)
    (ended : t.console.terminateKeyboard = true → console.terminateKeyboard = true)
    {listening : Bool} (told : listening = false → console.terminateKeyboard = true) :
    InOrder typed { t with console := console, listening := listening } := by
  refine ⟨fun place => line.trans (order.idle place), order.clean,
    fun place => ended (order.gone place), told, ?_⟩
  rcases order.account with kept | ⟨finished, place, lost⟩
  · exact Or.inl kept
  · exact Or.inr ⟨ended finished, place, lost⟩

theorem answer_cases {answer : Text} {console console' : Console}
    (stepped : console.step (.answer answer) = some console') :
    ∃ listener, respond console.listener answer = .ok listener ∧
      console' = console.heard listener := by
  simp only [Console.step] at stepped
  split at stepped
  · cases stepped
  · split at stepped
    · cases stepped
    · exact ⟨_, ‹_›, (Option.some.inj stepped).symm⟩

theorem step_in_order {step : TerminalStep} (order : InOrder typed t)
    (stepped : t.step step = some t') : InOrder typed t' := by
  cases step with
  | keyboard files taken => exact turn_in_order order stepped
  | answer text =>
    simp only [Terminal.step] at stepped
    split at stepped
    · obtain ⟨console, answered, rfl⟩ := Option.map_eq_some_iff.mp stepped
      obtain ⟨listener, responded, rfl⟩ := answer_cases answered
      have keeps := SessionProtocol.respond_keeps_end responded
      exact ended_in_order (t.console.heard listener) order rfl keeps
        fun told => keeps (order.told told)
    · cases stepped
  | hangUp =>
    simp only [Terminal.step] at stepped
    split at stepped
    · cases stepped
      exact ended_in_order (stopped t.console) order rfl (fun _ => rfl) fun _ => rfl
    · cases stepped

theorem start_in_order (user : Text) (input : Input Char) :
    InOrder ((upcoming '\n' bufsize input).map cString) (.start user input) :=
  ⟨fun _ => rfl, nofun, nofun, nofun, Or.inl rfl⟩

theorem carry_out_plays {files : EventsFiles} {taken : Nat}
    {after : Console × List CppFrame.StompFrame} (plays : Plays user t)
    (acted : t.console.act (.carryOut files taken) = some after) :
    Plays user { t with console := after.1, place := .test } := by
  rcases plays with ⟨told, runs⟩ | ⟨told, console, runs, same⟩
  · refine Or.inl ⟨told, runs.tail ⟨.keyboard (.carryOut files taken), trivial, ?_⟩⟩
    rw [Console.step, acted, Option.map_some]
  · right
    rw [same] at acted
    obtain ⟨line, step, _⟩ | ⟨_, _, line, step, waiting, ran⟩ := keyboard_cases acted
    · cases step
    cases step
    change (stopped { console with line := none }).carryOut files taken line = some after at ran
    rw [carry_out_stopped] at ran
    obtain ⟨after', ran', rfl⟩ := Option.map_eq_some_iff.mp ran
    refine ⟨told, after'.1, runs.tail ⟨.keyboard (.carryOut files taken), trivial, ?_⟩, rfl⟩
    have held : console.line = some line := waiting
    simp [Console.step, Console.act, held, ran']

theorem turn_plays {files : EventsFiles} {taken : Nat} (plays : Plays user t)
    (order : InOrder typed t) (turned : t.turn files taken = some t') : Plays user t' := by
  unfold Terminal.turn at turned
  split at turned
  · cases turned
    exact plays
  · cases turned
    exact plays
  · rename_i command here
    split at turned
    · cases turned
      exact plays
    · rename_i running
      cases turned
      have idle : t.console.line = none := order.idle (by simp [here])
      rcases plays with ⟨told, runs⟩ | ⟨told, _⟩
      · refine Or.inl ⟨told, runs.tail ⟨.keyboard (.read command), order.clean command here, ?_⟩⟩
        simp [Console.step, Console.act, idle, running]
      · exact absurd (order.told told) running
  · obtain ⟨after, acted, rfl⟩ := Option.map_eq_some_iff.mp turned
    exact carry_out_plays plays acted
  · cases turned

theorem step_plays {step : TerminalStep} (plays : Plays user t) (order : InOrder typed t)
    (stepped : t.step step = some t') : Plays user t' := by
  cases step with
  | keyboard files taken => exact turn_plays plays order stepped
  | answer text =>
    simp only [Terminal.step] at stepped
    split at stepped
    · rename_i listening
      obtain ⟨console, answered, rfl⟩ := Option.map_eq_some_iff.mp stepped
      rcases plays with ⟨told, runs⟩ | ⟨told, _⟩
      · exact Or.inl ⟨told, runs.tail ⟨.answer text, trivial, answered⟩⟩
      · rw [told] at listening
        cases listening
    · cases stepped
  | hangUp =>
    simp only [Terminal.step] at stepped
    split at stepped
    · rename_i listening
      cases stepped
      rcases plays with ⟨_, runs⟩ | ⟨told, _⟩
      · exact Or.inr ⟨rfl, t.console, runs, rfl⟩
      · rw [told] at listening
        cases listening.1
    · cases stepped

theorem runs_in_order {input : Input Char} (runs : TerminalRuns user input t) :
    InOrder ((upcoming '\n' bufsize input).map cString) t ∧ Plays user t := by
  apply run_invariant
    (fun t => InOrder ((upcoming '\n' bufsize input).map cString) t ∧ Plays user t)
    ⟨start_in_order user input, Or.inl ⟨rfl, Relation.ReflTransGen.refl⟩⟩ _ runs
  rintro step before after _ ⟨order, plays⟩ _ stepped
  exact ⟨step_in_order order stepped, step_plays plays order stepped⟩

end Steps

section Progress
variable {t : Terminal} {command : Text} {more : List Text}

/-- Only the keyboard thread takes steps. -/
def KeyboardOnly (_ : Terminal) : TerminalStep → Prop
  | .keyboard _ _ => True
  | _ => False

/-- The thread goes on by itself until it begins the command. -/
def Begins (t : Terminal) (command : Text) : Prop :=
  ∃ t', Runs Terminal.step KeyboardOnly t t' ∧ t'.begun = t.begun ++ [command] ∧
    t'.place = .carryOut ∧ t'.console = { t.console with line := some command }

theorem turn_begins {t' : Terminal} (turned : t.turn (fun _ => none) 0 = some t')
    (begun : t'.begun = t.begun) (console : t'.console = t.console)
    (later : Begins t' command) : Begins t command := by
  obtain ⟨last, runs, commands, place, same⟩ := later
  rw [begun] at commands
  rw [console] at same
  exact ⟨last, runs.head ⟨.keyboard (fun _ => none) 0, trivial, turned⟩, commands, place, same⟩

theorem check_begins (running : t.console.terminateKeyboard = false)
    (here : t.place = .check command) : Begins t command := by
  have turned : t.turn (fun _ => none) 0 = some { t with
      console := { t.console with line := some command }
      place := .carryOut
      begun := t.begun ++ [command] } := by
    simp [Terminal.turn, here, running]
  exact ⟨_, Relation.ReflTransGen.single ⟨.keyboard (fun _ => none) 0, trivial, turned⟩, rfl, rfl,
    rfl⟩

theorem getline_begins (running : t.console.terminateKeyboard = false)
    (here : t.place = .getline) (next : t.ahead = command :: more) : Begins t command := by
  rw [ahead_input (Or.inr (Or.inl here)), getline_upcoming] at next
  split at next
  · cases next
  · rename_i got
    obtain ⟨rfl, _⟩ := List.cons.inj next
    have turned : t.turn (fun _ => none) 0 = some { t with
        input := (StreamLines.getline '\n' bufsize t.input).2
        place := .check (cString (StreamLines.getline '\n' bufsize t.input).1) } := by
      simp only [Terminal.turn, here, got, Bool.false_eq_true, if_false]
    exact turn_begins turned rfl rfl (check_begins running rfl)

theorem next_begins (running : t.console.terminateKeyboard = false)
    (next : t.ahead = command :: more) (free : t.place ≠ .carryOut) (loop : t.place ≠ .gone) :
    Begins t command := by
  cases here : t.place with
  | test =>
    have turned : t.turn (fun _ => none) 0 = some { t with place := .getline } := by
      simp only [Terminal.turn, here, running, Bool.false_eq_true, if_false]
    rw [ahead_input (Or.inl here)] at next
    exact turn_begins turned rfl rfl (getline_begins running rfl next)
  | getline => exact getline_begins running here next
  | check command' =>
    rw [Terminal.ahead, here] at next
    obtain ⟨rfl, _⟩ := List.cons.inj next
    exact check_begins running here
  | carryOut => exact absurd here free
  | gone => exact absurd here loop

end Progress

section Order
variable {user : Text} {input : Input Char} {t : Terminal}

/-- Commands are begun in the order in which they are typed, each at most once and none
    passed over, up to the first line that does not fit into the array. One more may be lost
    when the session is over; as long as it lasts, the next one is always begun. And the
    console is one of the runs of the two threads. -/
theorem commands_in_order (runs : TerminalRuns user input t) :
    Plays user t ∧
      (t.begun ++ t.ahead = (upcoming '\n' bufsize input).map cString ∨
        t.console.terminateKeyboard = true ∧
          ∃ lost, t.begun ++ lost :: t.ahead = (upcoming '\n' bufsize input).map cString) ∧
      (t.console.terminateKeyboard = false → t.place ≠ .carryOut →
        ∀ command more, t.ahead = command :: more → Begins t command) := by
  obtain ⟨order, plays⟩ := runs_in_order runs
  refine ⟨plays, ?_, ?_⟩
  · rcases order.account with kept | ⟨ended, _, lost, kept⟩
    · exact Or.inl kept
    · exact Or.inr ⟨ended, lost, kept⟩
  · intro running free command more next
    refine next_begins running next free fun here => ?_
    rw [order.gone here] at running
    cases running

end Order

section Example
open SubscriptionAgreement (noFiles)

def typedLines : Input Char := ⟨"join police\nexit police\n".toList, false, false⟩

/-- The connection is gone while the thread waits for its second line. -/
def hungUp : List TerminalStep :=
  List.replicate 5 (.keyboard noFiles 1) ++ .hangUp :: List.replicate 3 (.keyboard noFiles 1)

theorem second_line_lost : ∃ t, TerminalRuns "meni".toList typedLines t ∧
    t.begun = ["join police".toList] ∧ t.ahead = [] ∧ ∃ lost,
      t.begun ++ lost :: t.ahead = (upcoming '\n' bufsize typedLines).map cString := by
  have last : (acts Terminal.step hungUp (.start "meni".toList typedLines)).map
      (fun t => (t.begun, t.ahead)) = some (["join police".toList], []) := by decide
  obtain ⟨t, reached, same⟩ := Option.map_eq_some_iff.mp last
  obtain ⟨begun, ahead⟩ := Prod.mk.inj same
  have runs : TerminalRuns "meni".toList typedLines t := run_of_acts hungUp reached
  obtain ⟨_, kept | ⟨_, lost⟩, _⟩ := commands_in_order runs
  · rw [begun, ahead] at kept
    exact absurd kept (by decide)
  · exact ⟨t, runs, begun, ahead, lost⟩

end Example

end KeyboardInput
