import EmergencyService.Frames.JavaFrame
import EmergencyService.Server.ConnectionsImpl

/- `StompProtocolImpl.process`: one frame of one connection, with all its branches. -/
namespace StompProtocolImpl
open JavaRuntime JavaFrame AtomicProgram MapCalls ConnectionsImpl

variable (w : Surroundings) (connectionID : Nat)

def orNull : Option Text → Text
  | some t => t
  | none => "null"

def parseIntOf : Option Text → Java Int
  | some s =>
      match parseInt s with
      | some n => .done n
      | none => .raise .numberFormat
  | none => .raise .numberFormat

/-- `get` on the headers of a frame; `none` is null. -/
def header (headers : HashMap Text Text) (name : Text) : Option Text := headers.lookup name

def put (headers : HashMap Text Text) (name value : Text) : HashMap Text Text :=
  headers.insert name value

def connectedFrame : StompFrame := ⟨"CONNECTED", put ∅ "version" "1.2", []⟩

def receiptFrame (receiptID : Option Text) : StompFrame :=
  ⟨"RECEIPT", put ∅ "receipt-id" (orNull receiptID), []⟩

def errorFrame (headers : HashMap Text Text) : StompFrame := ⟨"ERROR", headers, []⟩

def messageFrame (subscriptionID messageID : Int) (channel body : Text) : StompFrame :=
  ⟨"MESSAGE", put (put (put ∅ "subscription" (decimal subscriptionID))
    "message-id" (decimal messageID)) "destination" channel, body⟩

def alreadyConnected : StompFrame :=
  errorFrame (put ∅ "message" "User is already connected")

def wrongPassword : StompFrame := errorFrame (put ∅ "message" "Wrong password")

def notSubscribedId (receiptID : Option Text) (subscriptionID : Option Text) : StompFrame :=
  errorFrame (put (put ∅ "receipt-id" (orNull receiptID)) "message"
    ("The user isn't subscribed with that number: ".toList ++ orNull subscriptionID))

def alreadySubscribed (receiptID : Option Text) (channel : Option Text) : StompFrame :=
  errorFrame (put (put ∅ "receipt-id" (orNull receiptID)) "message"
    ("The user already subscribed to channel: ".toList ++ orNull channel))

def notSubscribedTo (channel : Option Text) : StompFrame :=
  errorFrame (put ∅ "message"
    ("The user isn't subscribed to channel: ".toList ++ orNull channel))

def reply (frame : StompFrame) : Java Bool := send connectionID (frame.createFrame w.headers)

/-- `close` of the handler: the flag falls before the socket is closed. -/
def closeHandler (handler : HandlerRef) : Java Unit := do
  let handler ← deref handler
  handler.close
  if w.closeFails then .raise .io else return ()

/-- The block that follows every ERROR reply; its `catch` swallows every exception. -/
def closeAfterError : Java Unit :=
  Program.catching (do
    let handler ← getConnection connectionID
    closeHandler w handler
    disconnect w connectionID
    removeConnection connectionID
    setShouldTerminate connectionID true) fun _ => return ()

/-- `if (send(error)) { close, disconnect, remove }`. -/
def refuse (frame : StompFrame) : Java Unit := do
  let sent ← reply w connectionID frame
  if sent then closeAfterError w connectionID else return ()

def processConnect (headers : HashMap Text Text) : Java Unit := do
  let login := header headers "login"
  let passcode := header headers "passcode"
  let userAlreadyConnected ← userConnectedAlready login
  if userAlreadyConnected then refuse w connectionID alreadyConnected
  else
    let done ← connectUser login passcode connectionID
    if done then
      let _ ← reply w connectionID connectedFrame
      return ()
    else
      -- the source sends this error twice
      let _ ← reply w connectionID wrongPassword
      refuse w connectionID wrongPassword

def processDisconnect (headers : HashMap Text Text) : Java Unit := do
  let receiptID := header headers "receipt"
  let _ ← reply w connectionID (receiptFrame receiptID)
  disconnect w connectionID

def processUnsubscribe (headers : HashMap Text Text) : Java Unit := do
  let receiptID := header headers "receipt"
  let subscriptionID := header headers "id"
  let id ← parseIntOf subscriptionID
  let handler ← getConnection connectionID
  let done ← removeChannelSubscription w id handler
  if done then
    let _ ← reply w connectionID (receiptFrame receiptID)
    return ()
  else refuse w connectionID (notSubscribedId receiptID subscriptionID)

def processSubscribe (headers : HashMap Text Text) : Java Unit := do
  let receiptID := header headers "receipt"
  let subscriptionID := header headers "id"
  let channel := header headers "destination"
  let id ← parseIntOf subscriptionID
  let handler ← getConnection connectionID
  let done ← addChannelSubscription channel id handler
  if done then
    let _ ← reply w connectionID (receiptFrame receiptID)
    return ()
  else refuse w connectionID (alreadySubscribed receiptID channel)

def processSend (headers : HashMap Text Text) (body : Text) : Java Unit := do
  let channel := header headers "destination"
  let subscriptionID ← getUserSubID channel connectionID
  if subscriptionID = -1 then
    -- the source sends this error twice
    let _ ← reply w connectionID (notSubscribedTo channel)
    refuse w connectionID (notSubscribedTo channel)
  else
    let channel ← deref channel
    let id ← messageID.get connectionID
    let frame := messageFrame subscriptionID id channel body
    messageID.increment connectionID
    sendChannel w channel (frame.createFrame w.headers)

def dispatch (frame : StompFrame) : Java Unit :=
  if frame.command = "CONNECT" then processConnect w connectionID frame.headers
  else if frame.command = "DISCONNECT" then processDisconnect w connectionID frame.headers
  else if frame.command = "UNSUBSCRIBE" then processUnsubscribe w connectionID frame.headers
  else if frame.command = "SUBSCRIBE" then processSubscribe w connectionID frame.headers
  else if frame.command = "SEND" then processSend w connectionID frame.headers frame.body
  else return ()

def process (message : Text) : Java Unit := do
  received connectionID message
  let frame ← ofExcept (StompFrame.ofText message)
  setShouldTerminate connectionID (decide (frame.command = "DISCONNECT"))
  dispatch w connectionID frame

end StompProtocolImpl
