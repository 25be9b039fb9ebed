import EmergencyService.Server.MapCalls

/- The methods of `ConnectionsImpl`, call by call. -/
namespace ConnectionsImpl
open JavaRuntime AtomicProgram MapCalls

variable (w : Surroundings)

/-- A for-each loop over a `HashMap`: every step checks that the map has not been
    changed since the iterator was made. -/
def forEachKey (subs : MapRef) (expected : Nat) (body : HandlerRef → Java Unit) :
    List HandlerRef → Java Unit
  | [] => .done ()
  | key :: rest => do
      let modCount ← subs.modCount expected
      if modCount = expected then
        body key
        forEachKey subs expected body rest
      else .raise .concurrentModification

def send (connectionId : Nat) (msg : Text) : Java Bool := do
  let handler ← deref (← activeClients.get connectionId)
  handler.send msg
  return true

def sendChannel (channel msg : Text) : Java Unit := do
  let subscribed ← deref (← channelsSubscriptions.get channel)
  let (keys, modCount) ← subscribed.iterator
  forEachKey subscribed modCount (fun connection => do
    let handler ← deref connection
    handler.send msg) ((w.subscribers channel).order keys)

/-- The body of the inner loop of `disconnect`; it reads the static counter, not the
    parameter of the method. -/
def removeIfCounted (subs : MapRef) (conn : HandlerRef) : Java Unit := do
  let counter ← counter.get
  let counted ← activeClients.get counter
  if conn = counted then subs.remove conn else return ()

def sweepChannel (channel : Text) : Java Unit := do
  let subs ← deref (← channelsSubscriptions.get channel)
  let (keys, modCount) ← subs.iterator
  forEachKey subs modCount (removeIfCounted subs) ((w.subscribers channel).order keys)

def sweepChannels : List Text → Java Unit
  | [] => .done ()
  | channel :: rest => do
      sweepChannel w channel
      sweepChannels rest

def disconnect (connectionId : Nat) : Java Unit := do
  loggedInUsers.removeValue w.logins connectionId
  let channels ← channelsSubscriptions.keySet
  sweepChannels w (w.channels.order channels)

def addConnection (connectionID : Nat) (connection : ConnectionHandler) : Java Unit :=
  activeClients.put connectionID connection

def addChannelSubscription (channel : Option Text) (subscriptionID : Int)
    (connection : HandlerRef) : Java Bool := do
  let channel ← deref channel
  let known ← channelsSubscriptions.containsKey channel
  if known then
    let subs ← deref (← channelsSubscriptions.get channel)
    let subscribed ← subs.containsKey connection
    if subscribed then return false
    else
      let subs ← deref (← channelsSubscriptions.get channel)
      subs.put connection subscriptionID
      return true
  else
    let newChannel ← newHashMap channel
    newChannel.put connection subscriptionID
    channelsSubscriptions.put newChannel
    return true

def removeFrom (subscriptionID : Int) (connection : HandlerRef) : List Text → Java Bool
  | [] => return false
  | channel :: rest => do
      let subs ← deref (← channelsSubscriptions.get channel)
      let subscribed ← subs.containsKey connection
      if subscribed then
        let subs ← deref (← channelsSubscriptions.get channel)
        let held ← subs.get connection
        -- `==` between two boxed integers
        if held.any fun id => sameInteger id subscriptionID then
          let subs ← deref (← channelsSubscriptions.get channel)
          subs.remove connection
          return true
        else removeFrom subscriptionID connection rest
      else removeFrom subscriptionID connection rest

def removeChannelSubscription (subscriptionID : Int) (connection : HandlerRef) :
    Java Bool := do
  let channels ← channelsSubscriptions.keySet
  removeFrom subscriptionID connection (w.channels.order channels)

def hasRegistered (login : Option Text) : Java Bool := do
  let login ← deref login
  users.containsKey login

def addUser (login passcode : Option Text) : Java Unit := do
  let login ← deref login
  let passcode ← deref passcode
  users.put login passcode

def userConnectedAlready (login : Option Text) : Java Bool := do
  let login ← deref login
  loggedInUsers.containsKey login

def logIn (login : Option Text) (connectionID : Nat) : Java Unit := do
  let login ← deref login
  loggedInUsers.put login connectionID

def connectUser (login passcode : Option Text) (connectionID : Nat) : Java Bool := do
  let registered ← hasRegistered login
  if registered then
    let name ← deref login
    let known ← deref (← users.get name)
    if some known = passcode then
      logIn login connectionID
      return true
    else return false
  else
    addUser login passcode
    logIn login connectionID
    return true

def getUserSubID (channel : Option Text) (connectionID : Nat) : Java Int := do
  let channel ← deref channel
  let known ← channelsSubscriptions.containsKey channel
  if known then
    let subs ← deref (← channelsSubscriptions.get channel)
    let handler ← activeClients.get connectionID
    let subscribed ← subs.containsKey handler
    if subscribed then
      let subs ← deref (← channelsSubscriptions.get channel)
      let handler ← activeClients.get connectionID
      deref (← subs.get handler)
    else return -1
  else return -1

def getConnection (connectionID : Nat) : Java HandlerRef := activeClients.get connectionID

def removeConnection (connectionID : Nat) : Java Unit := activeClients.remove connectionID

end ConnectionsImpl
