import EmergencyService.Client.EventReport

/- The keyboard commands that concern channels: `join`, `exit` and `report`, as
   `run_keyboard` carries them out. -/
namespace ChannelCommands
open JavaRuntime CppRuntime EventReport

/-- What the commands read and change of the connection handler and the protocol. -/
structure Client where
  currentUser : Text
  receiptNumber : Int
  receipts : OrderedMap Text
  subscriptionId : Int
  subscriptions : OrderedMap Int

/-- The objects `main` creates after it has sent CONNECT for a user. -/
def Client.connected (user : Text) : Client := ⟨user, 0, ∅, 0, ∅⟩

namespace Client
variable (client : Client)

def produceReceipt (command : Text) : Int × Client :=
  (client.receiptNumber,
    { client with
      receiptNumber := wrapInt (client.receiptNumber + 1)
      receipts := insertNew (decimal client.receiptNumber) command client.receipts })

def IncreamentSubId : Client :=
  { client with subscriptionId := wrapInt (client.subscriptionId + 1) }

def subscribeFrame (channel_name : Text) (id receipt : Int) : CppFrame.StompFrame :=
  ⟨"SUBSCRIBE", insertNew "receipt" (decimal receipt)
    (insertNew "id" (decimal id) (insertNew "destination" channel_name ∅)), []⟩

def unsubscribeFrame (id receipt : Int) : CppFrame.StompFrame :=
  ⟨"UNSUBSCRIBE", insertNew "receipt" (decimal receipt) (insertNew "id" (decimal id) ∅), []⟩

/-- The new state of the client, and the frames that it sends. -/
def join (channel_name : Text) : Client × List CppFrame.StompFrame :=
  let (receipt, client) := client.produceReceipt "SUBSCRIBE"
  match client.subscriptions.lookup channel_name with
  | none =>
      ({ client with
          subscriptions := insertNew channel_name client.subscriptionId client.subscriptions
        }.IncreamentSubId,
        [subscribeFrame channel_name client.subscriptionId receipt])
  | some _ => (client, [])

/-- Every `exit` produces one receipt, and one more when a frame is sent. -/
def exit (channel_name : Text) : Client × List CppFrame.StompFrame :=
  let (_, client) := client.produceReceipt "UNSUBSCRIBE"
  match client.subscriptions.lookup channel_name with
  | some subId =>
      let (receipt, client) := client.produceReceipt "UNSUBSCRIBE"
      ({ client with subscriptions := client.subscriptions.erase channel_name },
        [unsubscribeFrame subId receipt])
  | none => (client, [])

def report (channelName : Text) (events : List Event) : Client × List CppFrame.StompFrame :=
  match client.subscriptions.lookup channelName with
  | some _ => (client, reportFrames client.currentUser channelName ∅ events)
  | none => (client, [])

section Results
variable {client}

theorem join_new {channel : Text} (absent : client.subscriptions.lookup channel = none) :
    client.join channel =
      ({ (client.produceReceipt "SUBSCRIBE").2 with
          subscriptions := insertNew channel client.subscriptionId client.subscriptions
        }.IncreamentSubId,
        [subscribeFrame channel client.subscriptionId client.receiptNumber]) := by
  unfold join
  simp only [produceReceipt, absent]

theorem join_again {channel : Text} {id : Int}
    (held : client.subscriptions.lookup channel = some id) :
    client.join channel = ((client.produceReceipt "SUBSCRIBE").2, []) := by
  unfold join
  simp only [produceReceipt, held]

theorem exit_joined {channel : Text} {id : Int}
    (held : client.subscriptions.lookup channel = some id) :
    client.exit channel =
      ({ ((client.produceReceipt "UNSUBSCRIBE").2.produceReceipt "UNSUBSCRIBE").2 with
          subscriptions := client.subscriptions.erase channel },
        [unsubscribeFrame id (wrapInt (client.receiptNumber + 1))]) := by
  unfold exit
  simp only [produceReceipt, held]

theorem exit_unknown {channel : Text} (absent : client.subscriptions.lookup channel = none) :
    client.exit channel = ((client.produceReceipt "UNSUBSCRIBE").2, []) := by
  unfold exit
  simp only [produceReceipt, absent]

end Results

end Client

/-- What `parseEventsFile` makes of the file at a path: the channel and the events, or an
    exception. -/
abbrev EventsFiles := Text → Option (Text × List Event)

/-- The words of one command line, for the three commands. An exception of
    `parseEventsFile` ends the client; a wrong number of words does nothing. -/
def runWords (parseEventsFile : EventsFiles) (client : Client) :
    List Text → Option (Client × List CppFrame.StompFrame)
  | [] => none
  | first :: arguments =>
      if first = "join".toList then
        match arguments with
        | [channel_name] => some (client.join channel_name)
        | _ => some (client, [])
      else if first = "exit".toList then
        match arguments with
        | [channel_name] => some (client.exit channel_name)
        | _ => some (client, [])
      else if first = "report".toList then
        match arguments with
        | [file_path] => (parseEventsFile file_path).map fun (channelName, events) =>
            client.report channelName events
        | _ => some (client, [])
      else none

def runCommand (parseEventsFile : EventsFiles) (client : Client) (command : Text) :
    Option (Client × List CppFrame.StompFrame) :=
  runWords parseEventsFile client (split command ' ')

theorem words_cases {parseEventsFile : EventsFiles} {client : Client} {words : List Text}
    {after : Client × List CppFrame.StompFrame}
    (ran : runWords parseEventsFile client words = some after) :
    (∃ channel, words = ["join".toList, channel] ∧ after = client.join channel) ∨
    (∃ channel, words = ["exit".toList, channel] ∧ after = client.exit channel) ∨
    (∃ path channel events, words = ["report".toList, path] ∧
      parseEventsFile path = some (channel, events) ∧ after = client.report channel events) ∨
    after = (client, []) := by
  unfold runWords at ran
  split at ran
  · cases ran
  · rename_i first arguments
    by_cases join : first = "join".toList
    · rw [if_pos join] at ran
      split at ran
      · cases ran
        exact Or.inl ⟨_, by rw [join], rfl⟩
      · exact Or.inr (Or.inr (Or.inr (Option.some.inj ran).symm))
    rw [if_neg join] at ran
    by_cases exit : first = "exit".toList
    · rw [if_pos exit] at ran
      split at ran
      · cases ran
        exact Or.inr (Or.inl ⟨_, by rw [exit], rfl⟩)
      · exact Or.inr (Or.inr (Or.inr (Option.some.inj ran).symm))
    rw [if_neg exit] at ran
    by_cases report : first = "report".toList
    · rw [if_pos report] at ran
      split at ran
      · obtain ⟨⟨channel, events⟩, parsed, rfl⟩ := Option.map_eq_some_iff.mp ran
        exact Or.inr (Or.inr (Or.inl ⟨_, channel, events, by rw [report], parsed, rfl⟩))
      · exact Or.inr (Or.inr (Or.inr (Option.some.inj ran).symm))
    rw [if_neg report] at ran
    cases ran

end ChannelCommands
