import EmergencyService.Client.EventReport
import EmergencyService.Frames.FrameStream

/- `server_response_process`: the client's loop over the frames that the server sends. -/
namespace ServerResponses
open JavaRuntime CppRuntime EventReport FrameStream

structure Channel where
  channel_name : Text
  events : List Event

def Channel.addEvent (channel : Channel) (event : Event) : Channel :=
  { channel with events := channel.events ++ [event] }

/-- What the loop reads and changes of the protocol and the connection handler. -/
structure Listener where
  terminateKeyboard : Bool
  terminateServerResponses : Bool
  closed : Bool
  receipts : OrderedMap Text
  channels : OrderedMap Channel

/-- How an iteration can fail: an exception that nothing catches, or `->second` of an
    iterator that `find` has returned for a key that is not there. -/
inductive Failure where
  | exception : CppException → Failure
  | endIterator
  deriving DecidableEq, Repr

namespace Listener
variable (client : Listener)

def addReport (channel_name : Text) (report : Event) : Listener :=
  match client.channels.lookup channel_name with
  | none => { client with
      channels := insertNew channel_name (Channel.addEvent ⟨channel_name, []⟩ report)
        client.channels }
  | some channel => { client with
      channels := client.channels.insert channel_name (channel.addEvent report) }

def findReceiptCommand (receiptID : Text) : Except Failure Text :=
  match client.receipts.lookup receiptID with
  | none => .error .endIterator
  | some command => .ok command

def close : Listener := { client with closed := true }

end Listener

/-- The value of the last line that begins with "destination:", in the whole answer. -/
def channelName (answer : Text) : Text :=
  (split answer '\n').foldl
    (fun channel_name s => if startsWith s "destination:" then afterColon s else channel_name) []

def receiptBranch (client : Listener) (headers : OrderedMap Text) : Except Failure Listener :=
  match headers.lookup "receipt-id".toList with
  | none => .error .endIterator
  | some receiptID =>
      match client.findReceiptCommand receiptID with
      | .error e => .error e
      | .ok receiptCOMMAND =>
          if receiptCOMMAND = "DISCONNECT" then
            .ok { client with terminateServerResponses := true }.close
          else .ok client

def messageBranch (client : Listener) (answer report : Text) : Except Failure Listener :=
  let channel_name := channelName answer
  if channel_name ≠ [] then
    match parseEventReport report channel_name with
    | .error e => .error (.exception e)
    | .ok event => .ok (client.addReport channel_name event)
  else .ok client

def respond (client : Listener) (answer : Text) : Except Failure Listener :=
  match CppFrame.StompFrame.ofText answer with
  | .error e => .error (.exception e)
  | .ok frame =>
      if frame.command = "RECEIPT" then receiptBranch client frame.headers
      else if frame.command = "ERROR" then
        .ok { client with terminateKeyboard := true, terminateServerResponses := true }.close
      else if frame.command = "MESSAGE" then messageBranch client answer frame.body
      else .ok client

theorem line_rest_shorter {stream line rest : Text} (read : getLine stream = some (line, rest)) :
    rest.length < stream.length := by
  unfold getLine at read
  rw [get_frame_eq, Option.map_eq_some_iff] at read
  obtain ⟨⟨message, later⟩, found, same⟩ := read
  obtain ⟨rfl, rfl⟩ := Prod.mk.inj same
  obtain ⟨new, _, _, whole⟩ := TerminatedStream.next_message_some found
  rw [whole, TerminatedStream.terminated]
  simp only [List.length_append, List.length_cons, List.length_nil]
  omega

def server_response_process (client : Listener) (stream : Text) : Except Failure Listener :=
  if client.terminateServerResponses then .ok client
  else
    match _read : getLine stream with
    | none => .ok { client with terminateKeyboard := true }
    | some (answer, rest) =>
        match respond client answer with
        | .error e => .error e
        | .ok client => server_response_process client rest
termination_by stream.length
decreasing_by exact line_rest_shorter (by assumption)

theorem process_next {client : Listener} (listening : client.terminateServerResponses = false)
    {stream answer rest : Text} (read : getLine stream = some (answer, rest)) :
    server_response_process client stream =
      match respond client answer with
      | .error e => .error e
      | .ok client => server_response_process client rest := by
  rw [server_response_process]
  simp only [listening, Bool.false_eq_true, if_false]
  split
  · rename_i none'
    rw [none'] at read
    cases read
  · rename_i answer' rest' found
    rw [found] at read
    cases read
    rfl

end ServerResponses
