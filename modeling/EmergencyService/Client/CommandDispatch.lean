import EmergencyService.Client.KeyboardLoop
import EmergencyService.Client.ProtocolSplit

/- The two prompts of the client as far as they look at the words of a line: the login prompt of
   `main` and the command loop of `run_keyboard`, with each of their accesses to the vector of
   the words. -/
namespace CommandDispatch
open JavaRuntime CppRuntime FrameStream ChannelCommands SubscriptionRequests KeyboardLoop
open SeparatedPieces ProtocolSplit

/-- An access behind the end of the vector, which `operator[]` does not test for. -/
structure BadAccess where
  index : Nat
  size : Nat
  deriving DecidableEq, Repr

/-- `partsOfCommand[k]` -/
def access (partsOfCommand : List Text) (k : Nat) : Except BadAccess Text :=
  match partsOfCommand[k]? with
  | none => .error ⟨k, partsOfCommand.length⟩
  | some part => .ok part

/-- What a branch of the command loop goes on to do. -/
inductive Command where
  | join : Text → Command
  | exit : Text → Command
  | report : Text → Command
  | summary : (channel_name user file_path : Text) → Command
  | logout
  | prints : Text → Command
  deriving DecidableEq, Repr

def invalidCommand : Command := .prints "Command is invalid. Enter a new command"

/-- The branches of `run_keyboard`. -/
def dispatch (partsOfCommand : List Text) : Except BadAccess Command := do
  if (← access partsOfCommand 0) = "join" then
    if partsOfCommand.length ≠ 2 then
      return .prints "join command needs 1 arguments {channel_name}"
    else return .join (← access partsOfCommand 1)
  else if (← access partsOfCommand 0) = "exit" then
    if partsOfCommand.length ≠ 2 then
      return .prints "exit command needs 1 arguments {channel_name}"
    else return .exit (← access partsOfCommand 1)
  else if (← access partsOfCommand 0) = "report" then
    if partsOfCommand.length ≠ 2 then
      return .prints "report command needs 1 arguments {file_path}"
    else return .report (← access partsOfCommand 1)
  else if (← access partsOfCommand 0) = "summary" then
    if partsOfCommand.length ≠ 4 then return invalidCommand
    else
      return .summary (← access partsOfCommand 1) (← access partsOfCommand 2)
        (← access partsOfCommand 3)
  else if (← access partsOfCommand 0) = "logout" then
    if partsOfCommand.length ≠ 1 then return invalidCommand else return .logout
  else if (← access partsOfCommand 0) = "login" then
    return .prints "The client is already logged in, log out before trying again"
  else return invalidCommand

/-- The command loop on a line in its buffer, which ends in front of the first NUL. -/
def keyboardPrompt (line : Text) : Except BadAccess Command :=
  let command := line.takeWhile (· ≠ nul)
  if command = [] then .ok invalidCommand else dispatch (split command ' ')

/-- What `main` goes on to do with a line. -/
inductive Login where
  | ignored
  | prints : Text → Login
  | throws : CppException → Login
  | refused : (host : Text) → (port : Int) → Login
  | sends : (host : Text) → (port : Int) → CppFrame.StompFrame → Login

/-- `int` to `short` -/
def toShort (n : Int) : Int := n.bmod (2 ^ 16)

/-- `main` up to the frame that it sends; `connect` is what `connectionHandler.connect()`
    returns. -/
def loginDispatch (connect : Text → Int → Bool) (partsOfCommand : List Text) :
    Except BadAccess Login := do
  if (← access partsOfCommand 0) = "login" then
    if partsOfCommand.length = 4 then
      let host := (CppFrame.headerOf (← access partsOfCommand 1)).1
      match stoi (CppFrame.headerOf (← access partsOfCommand 1)).2 with
      | .error e => return .throws e
      | .ok port =>
          if connect host (toShort port) then
            return .sends host (toShort port)
              (connectFrame (← access partsOfCommand 2) (← access partsOfCommand 3))
          else return .refused host (toShort port)
    else return .prints "login command needs 3 arguments: {port} {user} {passcode}"
  else return .ignored

def loginPrompt (connect : Text → Int → Bool) (line : Text) : Except BadAccess Login :=
  loginDispatch connect (split (line.takeWhile (· ≠ nul)) ' ')

/-- No access has gone behind the end of the vector. -/
def Within {A : Type} (x : Except BadAccess A) : Prop := ∃ a, x = .ok a

section Accesses
variable {A B : Type} {parts : List Text}

theorem access_first (first : Text) (arguments : List Text) :
    access (first :: arguments) 0 = .ok first := rfl

theorem within_pure (a : A) : Within (pure a) := ⟨a, rfl⟩

theorem within_bind {x : Except BadAccess A} {f : A → Except BadAccess B} (first : Within x)
    (rest : ∀ a, Within (f a)) : Within (x >>= f) := by
  obtain ⟨a, rfl⟩ := first
  exact rest a

theorem access_within {k : Nat} : Within (access parts k) ↔ k < parts.length := by
  unfold Within access
  cases part : parts[k]? with
  | none =>
    have beyond := List.getElem?_eq_none_iff.mp part
    simp only [reduceCtorEq, exists_false, false_iff]
    omega
  | some word =>
    obtain ⟨inside, _⟩ := List.getElem?_eq_some_iff.mp part
    simp [inside]

/-- A command of one argument tests the size before it looks behind the first word. -/
theorem argument_within (usage : A) (f : Text → A) :
    Within (if parts.length ≠ 2 then pure usage else do return f (← access parts 1)) := by
  split
  · exact within_pure _
  · exact within_bind (access_within.mpr (by omega)) fun _ => within_pure _

theorem dispatch_within : Within (dispatch parts) ↔ parts ≠ [] := by
  constructor
  · rintro ⟨command, ran⟩ rfl
    cases ran
  · intro words
    have zero : Within (access parts 0) := access_within.mpr (List.length_pos_iff.mpr words)
    unfold dispatch
    refine within_bind zero fun first => ?_
    split
    · exact argument_within _ _
    refine within_bind zero fun first => ?_
    split
    · exact argument_within _ _
    refine within_bind zero fun first => ?_
    split
    · exact argument_within _ _
    refine within_bind zero fun first => ?_
    split
    · split
      · exact within_pure _
      · refine within_bind (access_within.mpr (by omega)) fun _ => ?_
        refine within_bind (access_within.mpr (by omega)) fun _ => ?_
        exact within_bind (access_within.mpr (by omega)) fun _ => within_pure _
    refine within_bind zero fun first => ?_
    split
    · split <;> exact within_pure _
    refine within_bind zero fun first => ?_
    split <;> exact within_pure _

theorem login_within {connect : Text → Int → Bool} :
    Within (loginDispatch connect parts) ↔ parts ≠ [] := by
  constructor
  · rintro ⟨login, ran⟩ rfl
    cases ran
  · intro words
    have zero : Within (access parts 0) := access_within.mpr (List.length_pos_iff.mpr words)
    unfold loginDispatch
    refine within_bind zero fun first => ?_
    split
    · split
      · rename_i four
        have one : Within (access parts 1) := access_within.mpr (by omega)
        refine within_bind one fun _ => within_bind one fun _ => ?_
        split
        · exact within_pure _
        · split
          · refine within_bind (access_within.mpr (by omega)) fun _ => ?_
            exact within_bind (access_within.mpr (by omega)) fun _ => within_pure _
          · exact within_pure _
      · exact within_pure _
    · exact within_pure _

end Accesses

section Commands
variable (files : EventsFiles) (console : Console) (taken : Nat)

/-- The branches of the command loop, after the words have been looked at. -/
def perform : Command → Option (Console × List CppFrame.StompFrame)
  | .join channel => some (console.put taken (console.client.join channel))
  | .exit channel => some (console.put taken (console.client.exit channel))
  | .report path => (files path).map fun (channel, events) =>
      console.put taken (console.client.report channel events)
  | .logout => some (console.logout taken)
  | .summary _ _ _ => some (console, [])
  | .prints _ => some (console, [])

theorem dispatch_performs (parts : List Text) :
    console.command files taken parts =
      match dispatch parts with
      | .error _ => none
      | .ok command => perform files console taken command := by
  cases parts with
  | nil => rfl
  | cons first arguments =>
    unfold Console.command dispatch runWords
    simp only [access_first, ok_bind]
    by_cases join : first = "join".toList
    · rw [if_pos (Or.inl join), if_pos join, if_pos join]
      rcases arguments with _ | ⟨channel, _ | ⟨extra, more⟩⟩ <;> rfl
    rw [if_neg join, if_neg join]
    by_cases exit : first = "exit".toList
    · rw [if_pos (Or.inr (Or.inl exit)), if_pos exit, if_pos exit]
      rcases arguments with _ | ⟨channel, _ | ⟨extra, more⟩⟩ <;> rfl
    rw [if_neg exit, if_neg exit]
    by_cases report : first = "report".toList
    · rw [if_pos (Or.inr (Or.inr report)), if_pos report, if_pos report]
      rcases arguments with _ | ⟨path, _ | ⟨extra, more⟩⟩
      · rfl
      · change ((files path).map _).map _ = (files path).map _
        rw [Option.map_map]
        rfl
      · rfl
    rw [if_neg (by simp only [join, exit, report, or_self, not_false_eq_true]), if_neg report]
    by_cases summary : first = "summary".toList
    · rw [if_pos summary, if_pos summary]
      rcases arguments with _ | ⟨a, _ | ⟨b, _ | ⟨c, _ | ⟨extra, more⟩⟩⟩⟩ <;> rfl
    rw [if_neg summary, if_neg summary]
    by_cases logout : first = "logout".toList
    · rw [if_pos logout, if_pos logout]
      rcases arguments with _ | ⟨extra, more⟩ <;> rfl
    rw [if_neg logout, if_neg logout]
    by_cases login : first = "login".toList
    · rw [if_pos login]
      rfl
    · rw [if_neg login]
      rfl

end Commands

section Lines

theorem split_words_iff (line : Text) : split line ' ' ≠ [] ↔ ∃ c ∈ line, c ≠ ' ' := by
  have none : split line ' ' = [] ↔ ∀ c ∈ line, c = ' ' := pieces_eq_nil_iff
  rw [ne_eq, none]
  simp

/-- Every access of the command loop is within the words of the line exactly when the line is
    empty or has a character that is no blank, and at the login prompt when it has one. -/
theorem accesses_within_iff (connect : Text → Int → Bool) (line : Text) :
    (Within (keyboardPrompt line) ↔ line.takeWhile (· ≠ nul) = [] ∨
      ∃ c ∈ line.takeWhile (· ≠ nul), c ≠ ' ') ∧
    (Within (loginPrompt connect line) ↔ ∃ c ∈ line.takeWhile (· ≠ nul), c ≠ ' ') := by
  constructor
  · unfold keyboardPrompt
    dsimp only
    split
    · rename_i empty
      exact iff_of_true ⟨_, rfl⟩ (Or.inl empty)
    · rename_i typed
      rw [dispatch_within, split_words_iff]
      simp only [typed, false_or]
  · unfold loginPrompt
    rw [login_within, split_words_iff]

/-- A line of one blank, and the empty line. -/
theorem blank_line_accessed :
    keyboardPrompt " " = .error ⟨0, 0⟩ ∧ loginPrompt (fun _ _ => true) [] = .error ⟨0, 0⟩ := by
  have blank : split " " ' ' = [] := by
    rw [split_loops]
    decide
  have empty : split [] ' ' = [] := by
    rw [split_loops]
    decide
  constructor
  · unfold keyboardPrompt
    have command : (" " : String).toList.takeWhile (· ≠ nul) = " ".toList := by decide
    simp only [command, blank]
    rfl
  · unfold loginPrompt
    rw [List.takeWhile_nil, empty]
    rfl

end Lines

end CommandDispatch
