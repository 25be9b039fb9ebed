import EmergencyService.Client.ServerResponses
import EmergencyService.Client.SubscriptionRequests

/- The client with both of its threads: `run_keyboard` with all its commands, whether the
   socket takes their frames or not, and the receipts that they issue. -/
namespace KeyboardLoop
open JavaRuntime CppRuntime JavaFrame FrameStream EventReport ReportLines ChannelCommands
open SubscriptionRequests ServerResponses

/-- The frame that `main` sends before it starts the threads. -/
def connectFrame (user passcode : Text) : CppFrame.StompFrame :=
  ⟨"CONNECT", insertNew "passcode" passcode (insertNew "login" user
    (insertNew "host" "stomp.cs.bgu.ac.il" (insertNew "accept-version" "1.2" ∅))), []⟩

def disconnectFrame (receipt : Int) : CppFrame.StompFrame :=
  ⟨"DISCONNECT", insertNew "receipt" (decimal receipt) ∅, []⟩

/-- What the two threads share. The keyboard thread has read `line` and has seen that it is
    to go on. -/
structure Console where
  client : Client
  terminateKeyboard : Bool
  terminateServerResponses : Bool
  closed : Bool
  channels : OrderedMap Channel
  line : Option Text

namespace Console

def connected (user : Text) : Console := ⟨.connected user, false, false, false, ∅, none⟩

def listener (console : Console) : Listener :=
  ⟨console.terminateKeyboard, console.terminateServerResponses, console.closed,
    console.client.receipts, console.channels⟩

def heard (console : Console) (listener : Listener) : Console :=
  { console with
    client := { console.client with receipts := listener.receipts }
    terminateKeyboard := listener.terminateKeyboard
    terminateServerResponses := listener.terminateServerResponses
    closed := listener.closed
    channels := listener.channels }

/-- `sendFrame` for the frames of one command, of which the socket takes only the first
    `taken`: a channel is entered or given up only when its frame has been sent. -/
def put (console : Console) (taken : Nat) (after : Client × List CppFrame.StompFrame) :
    Console × List CppFrame.StompFrame :=
  if after.2.length ≤ taken then ({ console with client := after.1 }, after.2)
  else
    ({ console with
        client := { after.1 with
          subscriptionId := console.client.subscriptionId
          subscriptions := console.client.subscriptions } },
      after.2.take taken)

/-- The branch of `logout` sets the flag whether the frame has been sent or not. -/
def logout (console : Console) (taken : Nat) : Console × List CppFrame.StompFrame :=
  let (receipt, client) := console.client.produceReceipt "DISCONNECT"
  ({ console with client := client, terminateKeyboard := true },
    [disconnectFrame receipt].take taken)

/-- The branches for the words of a line. `summary` writes what it finds to a file, `login`
    and a line that is no command only print. -/
def command (parseEventsFile : EventsFiles) (console : Console) (taken : Nat) :
    List Text → Option (Console × List CppFrame.StompFrame)
  | [] => none
  | first :: arguments =>
      if first = "join".toList ∨ first = "exit".toList ∨ first = "report".toList then
        (runWords parseEventsFile console.client (first :: arguments)).map (console.put taken)
      else if first = "summary".toList then some (console, [])
      else if first = "logout".toList then
        if arguments = [] then some (console.logout taken) else some (console, [])
      else some (console, [])

/-- The body of the loop, for a line that has been read. A socket that the client has
    closed takes nothing. -/
def carryOut (parseEventsFile : EventsFiles) (console : Console) (taken : Nat) (line : Text) :
    Option (Console × List CppFrame.StompFrame) :=
  if line = [] then some (console, [])
  else
    console.command parseEventsFile (if console.closed then 0 else taken) (split line ' ')

end Console

/-- What the keyboard thread does: it reads a line, unless it is to stop, and carries it
    out. -/
inductive KeyboardStep where
  | read : Text → KeyboardStep
  | carryOut : EventsFiles → Nat → KeyboardStep

def Console.act (console : Console) :
    KeyboardStep → Option (Console × List CppFrame.StompFrame)
  | .read line =>
      if console.line = none ∧ console.terminateKeyboard = false then
        some ({ console with line := some line }, [])
      else none
  | .carryOut parseEventsFile taken =>
      match console.line with
      | none => none
      | some line => { console with line := none }.carryOut parseEventsFile taken line

/-- A step of either thread; the one that reads answers is ended by an exception. -/
inductive ThreadStep where
  | keyboard : KeyboardStep → ThreadStep
  | answer : Text → ThreadStep

def Console.step (console : Console) : ThreadStep → Option Console
  | .keyboard step => (console.act step).map Prod.fst
  | .answer text =>
      if console.terminateServerResponses then none
      else
        match respond console.listener text with
        | .error _ => none
        | .ok listener => some (console.heard listener)

/-- `getline` puts a line into an array of characters without its newline, and the string
    that is made of the array ends in front of the first NUL. -/
def TextLine (_ : Console) : ThreadStep → Prop
  | .keyboard (.read line) => LineFree line ∧ NulFree line
  | _ => True

abbrev ThreadRuns (user : Text) (console : Console) : Prop :=
  GuardedRuns.Runs Console.step TextLine (.connected user) console

section Cases
variable {files : EventsFiles} {console : Console} {taken : Nat} {line : Text}
  {after : Console × List CppFrame.StompFrame}

theorem keyboard_cases {step : KeyboardStep} (acted : console.act step = some after) :
    (∃ line, step = .read line ∧ after = ({ console with line := some line }, [])) ∨
      ∃ files taken line, step = .carryOut files taken ∧ console.line = some line ∧
        { console with line := none }.carryOut files taken line = some after := by
  cases step with
  | read line =>
    simp only [Console.act] at acted
    split at acted
    · exact Or.inl ⟨line, rfl, (Option.some.inj acted).symm⟩
    · cases acted
  | carryOut files taken =>
    simp only [Console.act] at acted
    split at acted
    · cases acted
    · rename_i line waiting
      exact Or.inr ⟨files, taken, line, rfl, waiting, acted⟩

theorem carry_out_cases (ran : console.carryOut files taken line = some after) :
    ∃ n, (∃ words, runWords files console.client (split line ' ') = some words ∧
        after = console.put n words) ∨
      after = console.logout n ∨ after = (console, []) := by
  unfold Console.carryOut at ran
  split at ran
  · exact ⟨0, Or.inr (Or.inr (Option.some.inj ran).symm)⟩
  · generalize split line ' ' = words at ran ⊢
    unfold Console.command at ran
    refine ⟨if console.closed then 0 else taken, ?_⟩
    split at ran
    · cases ran
    · split at ran
      · obtain ⟨words, found, rfl⟩ := Option.map_eq_some_iff.mp ran
        exact Or.inl ⟨words, found, rfl⟩
      · split at ran
        · exact Or.inr (Or.inr (Option.some.inj ran).symm)
        · split at ran
          · split at ran
            · exact Or.inr (Or.inl (Option.some.inj ran).symm)
            · exact Or.inr (Or.inr (Option.some.inj ran).symm)
          · exact Or.inr (Or.inr (Option.some.inj ran).symm)

theorem carry_out_line (ran : console.carryOut files taken line = some after) :
    after.1.line = console.line := by
  obtain ⟨n, ⟨words, found, rfl⟩ | rfl | rfl⟩ := carry_out_cases ran
  · unfold Console.put
    split <;> rfl
  · rfl
  · rfl

end Cases

section Words

/-- The login and the channels are words that have been typed. -/
structure OwnWords (client : Client) : Prop where
  user : NulFree client.currentUser
  channels : ∀ ch id, client.subscriptions.lookup ch = some id → Word ch

theorem connected_own_words {user : Text} (free : NulFree user) :
    OwnWords (Client.connected user) where
  user := free
  channels := by
    intro ch id held
    simp [Client.connected] at held

variable {files : EventsFiles} {client : Client} {line : Text}
  {after : Client × List CppFrame.StompFrame}

theorem words_own_words (own : OwnWords client) (lineFree : LineFree line)
    (nulFree : NulFree line) (ran : runWords files client (split line ' ') = some after) :
    OwnWords after.1 := by
  rcases words_cases ran with ⟨channel, words, rfl⟩ | ⟨channel, words, rfl⟩ |
    ⟨path, channel, events, words, parsed, rfl⟩ | rfl
  · have word : Word channel := word_of_split lineFree nulFree (by simp [words])
    cases held : client.subscriptions.lookup channel with
    | some id =>
      rw [Client.join_again held]
      exact ⟨own.user, own.channels⟩
    | none =>
      rw [Client.join_new held]
      constructor
      · exact own.user
      intro ch id found
      change (insertNew channel client.subscriptionId client.subscriptions).lookup ch = some id
        at found
      by_cases here : ch = channel
      · exact here ▸ word
      · rw [insert_new_lookup_ne here] at found
        exact own.channels ch id found
  · cases held : client.subscriptions.lookup channel with
    | none =>
      rw [Client.exit_unknown held]
      exact ⟨own.user, own.channels⟩
    | some id =>
      rw [Client.exit_joined held]
      constructor
      · exact own.user
      intro ch id found
      change (client.subscriptions.erase channel).lookup ch = some id at found
      by_cases here : ch = channel
      · rw [here, AList.lookup_erase] at found
        cases found
      · rw [AList.lookup_erase_ne here] at found
        exact own.channels ch id found
  · unfold Client.report
    split <;> exact own
  · exact own

theorem carry_out_own_words {console : Console} {taken : Nat}
    {after : Console × List CppFrame.StompFrame} (own : OwnWords console.client)
    (lineFree : LineFree line) (nulFree : NulFree line)
    (ran : console.carryOut files taken line = some after) : OwnWords after.1.client := by
  obtain ⟨n, ⟨words, found, rfl⟩ | rfl | rfl⟩ := carry_out_cases ran
  · have later := words_own_words own lineFree nulFree found
    unfold Console.put
    split
    · exact later
    · exact ⟨later.user, own.channels⟩
  · exact ⟨own.user, own.channels⟩
  · exact own

/-- The words that are kept, and those of the line that has been read. -/
structure TextOnly (console : Console) : Prop where
  own : OwnWords console.client
  line : ∀ line, console.line = some line → LineFree line ∧ NulFree line

theorem step_text_only {console console' : Console} {step : ThreadStep}
    (text : TextOnly console) (typed : TextLine console step)
    (stepped : console.step step = some console') : TextOnly console' := by
  cases step with
  | keyboard step =>
    obtain ⟨after, acted, rfl⟩ := Option.map_eq_some_iff.mp stepped
    rcases keyboard_cases acted with ⟨line, rfl, rfl⟩ | ⟨files, taken, line, rfl, waiting, ran⟩
    · constructor
      · exact text.own
      · intro line' same
        cases same
        exact typed
    · obtain ⟨lineFree, nulFree⟩ := text.line line waiting
      have own : OwnWords ({ console with line := none } : Console).client := text.own
      constructor
      · exact carry_out_own_words own lineFree nulFree ran
      · intro line' same
        rw [carry_out_line ran] at same
        cases same
  | answer answer =>
    simp only [Console.step] at stepped
    split at stepped
    · cases stepped
    · split at stepped
      · cases stepped
      · cases stepped
        exact ⟨⟨text.own.user, text.own.channels⟩, text.line⟩

theorem threads_own_words {user : Text} {console : Console} (free : NulFree user)
    (runs : ThreadRuns user console) : OwnWords console.client := by
  have start : TextOnly (.connected user) := by
    constructor
    · exact connected_own_words free
    · intro line waiting
      cases waiting
  have text : TextOnly console := by
    apply GuardedRuns.run_invariant TextOnly start _ runs
    intro step before after _ held typed stepped
    exact step_text_only held typed stepped
  exact text.own

end Words

end KeyboardLoop
