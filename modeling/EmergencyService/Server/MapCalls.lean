import EmergencyService.Foundation.AtomicProgram
import EmergencyService.Foundation.JavaRuntime

/- The state the handler threads share, and the calls they make on it. Every call on a
   map, on a handler or on the static counter is one atomic operation. -/
namespace MapCalls
open JavaRuntime AtomicProgram

/-- A handler object; its identity is the number it was constructed with. -/
structure ConnectionHandler where
  connectionID : Nat
  deriving DecidableEq, Repr

/-- What `activeClients.get` returns; `none` is null, which a `HashMap` takes as a key. -/
abbrev HandlerRef := Option ConnectionHandler

/-- One inner `HashMap` of a channel, with the counter its iterators check. -/
structure SubscriptionMap where
  entries : HashMap HandlerRef Int
  modCount : Nat

/-- A reference to an inner map: the `index`-th one that was created for the channel. -/
structure MapRef where
  channel : Text
  index : Nat
  deriving DecidableEq, Repr

structure StompProtocol where
  shouldTerminate : Bool
  messageID : Int

/- What a run of the server is judged by: the frames handed to `process`, the frames
   handed to handlers, and the calls of `disconnect`, the latest first. -/
inductive Event where
  | received : Nat → Text → Event
  | sent : ConnectionHandler → Text → Event
  | disconnected : Nat → Event
  deriving DecidableEq, Repr

structure ServerState where
  activeClients : HashMap Nat ConnectionHandler
  channelsSubscriptions : HashMap Text Nat
  subscriptionMaps : Text → Nat → SubscriptionMap
  created : Text → Nat
  users : HashMap Text Text
  loggedInUsers : HashMap Text Nat
  connectionID : Nat
  protocol : Nat → StompProtocol
  connected : Nat → Bool
  log : List Event

def ServerState.initial : ServerState where
  activeClients := ∅
  channelsSubscriptions := ∅
  subscriptionMaps := fun _ _ => ⟨∅, 0⟩
  created := fun _ => 0
  users := ∅
  loggedInUsers := ∅
  connectionID := 0
  protocol := fun _ => ⟨false, 0⟩
  connected := fun _ => true
  log := []

inductive MapCall where
  | activeGet : Nat → MapCall
  | activePut : Nat → ConnectionHandler → MapCall
  | activeRemove : Nat → MapCall
  | channelContains : Text → MapCall
  | channelGet : Text → MapCall
  | channelPut : MapRef → MapCall
  | channelKeys : MapCall
  | newMap : Text → MapCall
  | subsContains : MapRef → HandlerRef → MapCall
  | subsGet : MapRef → HandlerRef → MapCall
  | subsPut : MapRef → HandlerRef → Int → MapCall
  | subsRemove : MapRef → HandlerRef → MapCall
  | subsIterator : MapRef → MapCall
  | subsModCount : MapRef → Nat → MapCall
  | usersContains : Text → MapCall
  | usersGet : Text → MapCall
  | usersPut : Text → Text → MapCall
  | loggedInContains : Text → MapCall
  | loggedInPut : Text → Nat → MapCall
  | loggedInRemoveValue : IterationOrder Text → Nat → MapCall
  | counterGet : MapCall
  | counterIncrement : MapCall
  | setShouldTerminate : Nat → Bool → MapCall
  | messageIDGet : Nat → MapCall
  | messageIDIncrement : Nat → MapCall
  | handlerSend : ConnectionHandler → Text → MapCall
  | handlerClose : ConnectionHandler → MapCall
  | received : Nat → Text → MapCall

@[reducible] def MapCall.Ret : MapCall → Type
  | .activeGet _ => HandlerRef
  | .channelContains _ => Bool
  | .channelGet _ => Option MapRef
  | .channelKeys => List Text
  | .newMap _ => MapRef
  | .subsContains _ _ => Bool
  | .subsGet _ _ => Option Int
  | .subsIterator _ => List HandlerRef × Nat
  | .subsModCount _ _ => Nat
  | .usersContains _ => Bool
  | .usersGet _ => Option Text
  | .loggedInContains _ => Bool
  | .counterGet => Nat
  | .messageIDGet _ => Int
  | _ => Unit

namespace ServerState
variable (s : ServerState)

def mapAt (ref : MapRef) : SubscriptionMap := s.subscriptionMaps ref.channel ref.index

def setMap (ref : MapRef) (m : SubscriptionMap) : ServerState :=
  { s with subscriptionMaps := fun ch i =>
      if ch = ref.channel ∧ i = ref.index then m else s.subscriptionMaps ch i }

def record (e : Event) : ServerState := { s with log := e :: s.log }

def setProtocol (c : Nat) (p : StompProtocol) : ServerState :=
  { s with protocol := Function.update s.protocol c p }

/-- `put` is a structural change only when the key is new. -/
def putSubscription (ref : MapRef) (h : HandlerRef) (id : Int) : ServerState :=
  let m := s.mapAt ref
  s.setMap ref ⟨m.entries.insert h id, if h ∈ m.entries then m.modCount else m.modCount + 1⟩

def removeSubscription (ref : MapRef) (h : HandlerRef) : ServerState :=
  let m := s.mapAt ref
  s.setMap ref ⟨m.entries.erase h, if h ∈ m.entries then m.modCount + 1 else m.modCount⟩

/-- `new HashMap<>()`, in the place of the next map of the channel. -/
def createMap (channel : Text) : ServerState :=
  { s.setMap ⟨channel, s.created channel⟩ ⟨∅, 0⟩ with
    created := Function.update s.created channel (s.created channel + 1) }

end ServerState

def exec : (op : MapCall) → ServerState → op.Ret × ServerState
  | .activeGet c, s => (s.activeClients.lookup c, s)
  | .activePut c h, s => ((), { s with activeClients := s.activeClients.insert c h })
  | .activeRemove c, s => ((), { s with activeClients := s.activeClients.erase c })
  | .channelContains ch, s => (decide (ch ∈ s.channelsSubscriptions), s)
  | .channelGet ch, s => ((s.channelsSubscriptions.lookup ch).map fun i => ⟨ch, i⟩, s)
  | .channelPut ref, s => ((), { s with
      channelsSubscriptions := s.channelsSubscriptions.insert ref.channel ref.index })
  | .channelKeys, s => (s.channelsSubscriptions.keys, s)
  | .newMap ch, s => (⟨ch, s.created ch⟩, s.createMap ch)
  | .subsContains ref h, s => (decide (h ∈ (s.mapAt ref).entries), s)
  | .subsGet ref h, s => ((s.mapAt ref).entries.lookup h, s)
  | .subsPut ref h id, s => ((), s.putSubscription ref h id)
  | .subsRemove ref h, s => ((), s.removeSubscription ref h)
  | .subsIterator ref, s => (((s.mapAt ref).entries.keys, (s.mapAt ref).modCount), s)
  | .subsModCount ref _, s => ((s.mapAt ref).modCount, s)
  | .usersContains u, s => (decide (u ∈ s.users), s)
  | .usersGet u, s => (s.users.lookup u, s)
  | .usersPut u p, s => ((), { s with users := s.users.insert u p })
  | .loggedInContains u, s => (decide (u ∈ s.loggedInUsers), s)
  | .loggedInPut u c, s => ((), { s with loggedInUsers := s.loggedInUsers.insert u c })
  | .loggedInRemoveValue o c, s => ((), { s.record (.disconnected c) with
      loggedInUsers := removeValue o c s.loggedInUsers })
  | .counterGet, s => (s.connectionID, s)
  | .counterIncrement, s => ((), { s with connectionID := s.connectionID + 1 })
  | .setShouldTerminate c b, s => ((), s.setProtocol c ⟨b, (s.protocol c).messageID⟩)
  | .messageIDGet c, s => ((s.protocol c).messageID, s)
  | .messageIDIncrement c, s =>
      ((), s.setProtocol c ⟨(s.protocol c).shouldTerminate, wrapInt ((s.protocol c).messageID + 1)⟩)
  | .handlerSend h text, s => ((), s.record (.sent h text))
  | .handlerClose h, s =>
      ((), { s with connected := Function.update s.connected h.connectionID false })
  | .received c message, s => ((), s.record (.received c message))

abbrev Java (α : Type) := Program MapCall MapCall.Ret JavaException α

/- The calls as the methods make them. -/

def activeClients.get (c : Nat) : Java HandlerRef := perform (MapCall.activeGet c)

def activeClients.put (c : Nat) (h : ConnectionHandler) : Java Unit :=
  perform (MapCall.activePut c h)

def activeClients.remove (c : Nat) : Java Unit := perform (MapCall.activeRemove c)

def channelsSubscriptions.containsKey (ch : Text) : Java Bool :=
  perform (MapCall.channelContains ch)

def channelsSubscriptions.get (ch : Text) : Java (Option MapRef) := perform (MapCall.channelGet ch)

def channelsSubscriptions.put (ref : MapRef) : Java Unit := perform (MapCall.channelPut ref)

def channelsSubscriptions.keySet : Java (List Text) := perform MapCall.channelKeys

def newHashMap (ch : Text) : Java MapRef := perform (MapCall.newMap ch)

def MapRef.containsKey (m : MapRef) (h : HandlerRef) : Java Bool :=
  perform (MapCall.subsContains m h)

def MapRef.get (m : MapRef) (h : HandlerRef) : Java (Option Int) := perform (MapCall.subsGet m h)

def MapRef.put (m : MapRef) (h : HandlerRef) (id : Int) : Java Unit :=
  perform (MapCall.subsPut m h id)

def MapRef.remove (m : MapRef) (h : HandlerRef) : Java Unit := perform (MapCall.subsRemove m h)

def MapRef.iterator (m : MapRef) : Java (List HandlerRef × Nat) := perform (MapCall.subsIterator m)

/-- A step of an iterator, with the count that the iterator expects. -/
def MapRef.modCount (m : MapRef) (expected : Nat) : Java Nat :=
  perform (MapCall.subsModCount m expected)

def users.containsKey (u : Text) : Java Bool := perform (MapCall.usersContains u)

def users.get (u : Text) : Java (Option Text) := perform (MapCall.usersGet u)

def users.put (u p : Text) : Java Unit := perform (MapCall.usersPut u p)

def loggedInUsers.containsKey (u : Text) : Java Bool := perform (MapCall.loggedInContains u)

def loggedInUsers.put (u : Text) (c : Nat) : Java Unit := perform (MapCall.loggedInPut u c)

def loggedInUsers.removeValue (o : IterationOrder Text) (c : Nat) : Java Unit :=
  perform (MapCall.loggedInRemoveValue o c)

def counter.get : Java Nat := perform MapCall.counterGet

def counter.increment : Java Unit := perform MapCall.counterIncrement

def setShouldTerminate (c : Nat) (b : Bool) : Java Unit := perform (MapCall.setShouldTerminate c b)

def messageID.get (c : Nat) : Java Int := perform (MapCall.messageIDGet c)

def messageID.increment (c : Nat) : Java Unit := perform (MapCall.messageIDIncrement c)

def ConnectionHandler.send (h : ConnectionHandler) (text : Text) : Java Unit :=
  perform (MapCall.handlerSend h text)

def ConnectionHandler.close (h : ConnectionHandler) : Java Unit := perform (MapCall.handlerClose h)

def received (c : Nat) (message : Text) : Java Unit := perform (MapCall.received c message)

section Run
variable (s : ServerState)

@[simp] theorem run_activeClients_get (c : Nat) :
    run exec (activeClients.get c) s = (.ok (s.activeClients.lookup c), s) := rfl

@[simp] theorem run_activeClients_put (c : Nat) (h : ConnectionHandler) :
    run exec (activeClients.put c h) s =
      (.ok (), { s with activeClients := s.activeClients.insert c h }) := rfl

@[simp] theorem run_activeClients_remove (c : Nat) :
    run exec (activeClients.remove c) s =
      (.ok (), { s with activeClients := s.activeClients.erase c }) := rfl

@[simp] theorem run_channelsSubscriptions_containsKey (ch : Text) :
    run exec (channelsSubscriptions.containsKey ch) s =
      (.ok (decide (ch ∈ s.channelsSubscriptions)), s) := rfl

@[simp] theorem run_channelsSubscriptions_get (ch : Text) :
    run exec (channelsSubscriptions.get ch) s =
      (.ok ((s.channelsSubscriptions.lookup ch).map fun i => ⟨ch, i⟩), s) := rfl

@[simp] theorem run_channelsSubscriptions_put (ref : MapRef) :
    run exec (channelsSubscriptions.put ref) s =
      (.ok (), { s with channelsSubscriptions :=
        s.channelsSubscriptions.insert ref.channel ref.index }) := rfl

@[simp] theorem run_channelsSubscriptions_keySet :
    run exec channelsSubscriptions.keySet s = (.ok s.channelsSubscriptions.keys, s) := rfl

@[simp] theorem run_newHashMap (ch : Text) :
    run exec (newHashMap ch) s = (.ok ⟨ch, s.created ch⟩, s.createMap ch) := rfl

@[simp] theorem run_map_containsKey (m : MapRef) (h : HandlerRef) :
    run exec (MapRef.containsKey m h) s = (.ok (decide (h ∈ (s.mapAt m).entries)), s) := rfl

@[simp] theorem run_map_get (m : MapRef) (h : HandlerRef) :
    run exec (MapRef.get m h) s = (.ok ((s.mapAt m).entries.lookup h), s) := rfl

@[simp] theorem run_map_put (m : MapRef) (h : HandlerRef) (id : Int) :
    run exec (MapRef.put m h id) s = (.ok (), s.putSubscription m h id) := rfl

@[simp] theorem run_map_remove (m : MapRef) (h : HandlerRef) :
    run exec (MapRef.remove m h) s = (.ok (), s.removeSubscription m h) := rfl

@[simp] theorem run_map_iterator (m : MapRef) :
    run exec (MapRef.iterator m) s =
      (.ok ((s.mapAt m).entries.keys, (s.mapAt m).modCount), s) := rfl

@[simp] theorem run_map_modCount (m : MapRef) (expected : Nat) :
    run exec (MapRef.modCount m expected) s = (.ok ((s.mapAt m).modCount), s) := rfl

@[simp] theorem run_users_containsKey (u : Text) :
    run exec (users.containsKey u) s = (.ok (decide (u ∈ s.users)), s) := rfl

@[simp] theorem run_users_get (u : Text) :
    run exec (users.get u) s = (.ok (s.users.lookup u), s) := rfl

@[simp] theorem run_users_put (u p : Text) :
    run exec (users.put u p) s = (.ok (), { s with users := s.users.insert u p }) := rfl

@[simp] theorem run_loggedInUsers_containsKey (u : Text) :
    run exec (loggedInUsers.containsKey u) s = (.ok (decide (u ∈ s.loggedInUsers)), s) := rfl

@[simp] theorem run_loggedInUsers_put (u : Text) (c : Nat) :
    run exec (loggedInUsers.put u c) s =
      (.ok (), { s with loggedInUsers := s.loggedInUsers.insert u c }) := rfl

@[simp] theorem run_loggedInUsers_removeValue (o : IterationOrder Text) (c : Nat) :
    run exec (loggedInUsers.removeValue o c) s =
      (.ok (), { s.record (.disconnected c) with
        loggedInUsers := removeValue o c s.loggedInUsers }) := rfl

@[simp] theorem run_counter_get :
    run exec counter.get s = (.ok s.connectionID, s) := rfl

@[simp] theorem run_counter_increment :
    run exec counter.increment s = (.ok (), { s with connectionID := s.connectionID + 1 }) := rfl

@[simp] theorem run_setShouldTerminate (c : Nat) (b : Bool) :
    run exec (setShouldTerminate c b) s =
      (.ok (), s.setProtocol c ⟨b, (s.protocol c).messageID⟩) := rfl

@[simp] theorem run_messageID_get (c : Nat) :
    run exec (messageID.get c) s = (.ok ((s.protocol c).messageID), s) := rfl

@[simp] theorem run_messageID_increment (c : Nat) :
    run exec (messageID.increment c) s =
      (.ok (), s.setProtocol c ⟨(s.protocol c).shouldTerminate,
        wrapInt ((s.protocol c).messageID + 1)⟩) := rfl

@[simp] theorem run_handler_send (h : ConnectionHandler) (text : Text) :
    run exec (ConnectionHandler.send h text) s = (.ok (), s.record (.sent h text)) := rfl

@[simp] theorem run_handler_close (h : ConnectionHandler) :
    run exec (ConnectionHandler.close h) s =
      (.ok (), { s with connected := Function.update s.connected h.connectionID false }) := rfl

@[simp] theorem run_received (c : Nat) (message : Text) :
    run exec (received c message) s = (.ok (), s.record (.received c message)) := rfl

end Run

def deref {α : Type} : Option α → Java α
  | some a => .done a
  | none => .raise .nullPointer

@[simp] theorem run_deref_some {α : Type} (a : α) (s : ServerState) :
    run exec (deref (some a)) s = (.ok a, s) := rfl

@[simp] theorem run_deref_none {α : Type} (s : ServerState) :
    run exec (deref (none : Option α)) s = (.error .nullPointer, s) := rfl

/-- Everything a thread finds outside the shared state during one call of `process`: the
    iteration orders of the maps, and whether closing the socket fails. -/
structure Surroundings where
  headers : IterationOrder Text
  logins : IterationOrder Text
  channels : IterationOrder Text
  subscribers : Text → IterationOrder HandlerRef
  closeFails : Bool

def Surroundings.plain : Surroundings := ⟨.stored, .stored, .stored, fun _ => .stored, false⟩

namespace ServerState
variable (s : ServerState)

/-- What the channel maps say about a handler: the id it holds for the channel. -/
def subscription (channel : Text) (h : HandlerRef) : Option Int :=
  (s.channelsSubscriptions.lookup channel).bind fun i =>
    (s.subscriptionMaps channel i).entries.lookup h

/-- The handler `disconnect` looks for: the one registered under the static counter. -/
def counted : HandlerRef := s.activeClients.lookup s.connectionID

variable {s} {channel : Text} {i : Nat}

theorem subscription_of_current (current : s.channelsSubscriptions.lookup channel = some i)
    (h : HandlerRef) :
    s.subscription channel h = (s.subscriptionMaps channel i).entries.lookup h := by
  simp [subscription, current]

theorem subscription_put (current : s.channelsSubscriptions.lookup channel = some i)
    (h h' : HandlerRef) (id : Int) (ch : Text) :
    (s.putSubscription ⟨channel, i⟩ h id).subscription ch h' =
      if ch = channel ∧ h' = h then some id else s.subscription ch h' := by
  by_cases here : ch = channel
  · subst here
    by_cases same : h' = h
    · subst same
      simp [subscription, putSubscription, setMap, current, mapAt]
    · simp [subscription, putSubscription, setMap, current, mapAt, same]
  · simp [subscription, putSubscription, setMap, here]

theorem subscription_remove (current : s.channelsSubscriptions.lookup channel = some i)
    (h h' : HandlerRef) (ch : Text) :
    (s.removeSubscription ⟨channel, i⟩ h).subscription ch h' =
      if ch = channel ∧ h' = h then none else s.subscription ch h' := by
  by_cases here : ch = channel
  · subst here
    by_cases same : h' = h
    · subst same
      simp [subscription, removeSubscription, setMap, current, mapAt]
    · simp [subscription, removeSubscription, setMap, current, mapAt, same,
        AList.lookup_erase_ne same]
  · simp [subscription, removeSubscription, setMap, here]

end ServerState

end MapCalls
