import EmergencyService.Frames.FrameExchange
import EmergencyService.Server.ProcessRun

/- What one call of `process` adds to the history: the frames it hands to handlers and
   the calls of `disconnect`. -/
namespace FrameEvents
open JavaRuntime JavaFrame AtomicProgram MapCalls ConnectionsImpl StompProtocolImpl
open SubscriptionSweep ProcessRun

/-- The events of `s'` that `s` does not have, the latest first. -/
def newEvents (s s' : ServerState) : List Event := s'.log.take (s'.log.length - s.log.length)

theorem new_events_of_log {s s' : ServerState} {new : List Event}
    (grown : s'.log = new ++ s.log) : newEvents s s' = new := by
  unfold newEvents
  rw [grown, List.length_append, Nat.add_sub_cancel, List.take_left']
  rfl

/-- The value of a header that the client reads in a frame it receives. -/
def receivedHeader (name text : Text) : Option Text :=
  match CppFrame.StompFrame.ofText (text ++ ['\x00']) with
  | .ok f => header f.headers name
  | .error _ => none

theorem received_header {f : StompFrame} (nonempty : f.command ≠ [])
    (free : LineFree f.command) (clean : FrameExchange.CleanHeaders f.headers)
    (o : IterationOrder Text) (name : Text) :
    receivedHeader name (f.createFrame o) = f.headers.lookup name := by
  obtain ⟨headers, read, same⟩ := FrameExchange.cpp_reads_java o nonempty free clean
  unfold receivedHeader
  rw [read]
  exact same name

section Begin

/-- The state in which the branches of `process` start. -/
def begun (c : Nat) (message : Text) (frame : StompFrame) (s : ServerState) : ServerState :=
  (s.record (.received c message)).setProtocol c
    ⟨decide (frame.command = "DISCONNECT"), (s.protocol c).messageID⟩

variable {w : Surroundings} {c : Nat} {message : Text} {s : ServerState}

theorem process_malformed {e : JavaException} (bad : StompFrame.ofText message = .error e) :
    run exec (process w c message) s = (.error e, s.record (.received c message)) := by
  simp [process, run_bind, bad]

theorem process_parsed {frame : StompFrame} (parsed : StompFrame.ofText message = .ok frame) :
    run exec (process w c message) s =
      run exec (dispatch w c frame) (begun c message frame s) := by
  simp [process, run_bind, parsed, begun, ServerState.record]

end Begin

section Dispatch
variable {w : Surroundings} {c : Nat} {frame : StompFrame}

theorem dispatch_connect (command : frame.command = "CONNECT") :
    dispatch w c frame = processConnect w c frame.headers := by
  simp [dispatch, command]

theorem dispatch_disconnect (command : frame.command = "DISCONNECT") :
    dispatch w c frame = processDisconnect w c frame.headers := by
  simp [dispatch, command]

theorem dispatch_unsubscribe (command : frame.command = "UNSUBSCRIBE") :
    dispatch w c frame = processUnsubscribe w c frame.headers := by
  simp [dispatch, command]

theorem dispatch_subscribe (command : frame.command = "SUBSCRIBE") :
    dispatch w c frame = processSubscribe w c frame.headers := by
  simp [dispatch, command]

theorem dispatch_send (command : frame.command = "SEND") :
    dispatch w c frame = processSend w c frame.headers frame.body := by
  simp [dispatch, command]

end Dispatch

theorem cleaned_up_log (w : Surroundings) (c : Nat) (s : ServerState) :
    (cleanedUp w c s).log = s.log ∨ (cleanedUp w c s).log = .disconnected c :: s.log := by
  rcases cleaned_up_cases w with ⟨_, same⟩ | ⟨_, s', effect, same⟩ | ⟨_, e, s', effect, same⟩
  · exact Or.inl (by rw [same]; rfl)
  · refine Or.inr ?_
    rw [same]
    change s'.log = _
    rw [effect.frame]
    rfl
  · refine Or.inr ?_
    rw [same, effect.frame]
    rfl

theorem cleaned_up_events (w : Surroundings) (c : Nat) {s₀ s : ServerState} {new : List Event}
    (grown : s.log = new ++ s₀.log) :
    newEvents s₀ (cleanedUp w c s) = new ∨
      newEvents s₀ (cleanedUp w c s) = .disconnected c :: new := by
  rcases cleaned_up_log w c s with same | more
  · exact Or.inl (new_events_of_log (by rw [same, grown]))
  · exact Or.inr (new_events_of_log (by rw [more, grown, List.cons_append]))

section Relay
variable (w : Surroundings)

/-- The handlers a loop over the keys gets to: it fails at the null key. -/
def reachedHandlers : List HandlerRef → List ConnectionHandler
  | [] => []
  | none :: _ => []
  | some h :: rest => h :: reachedHandlers rest

def deliver (msg : Text) (handlers : List ConnectionHandler) (s : ServerState) : ServerState :=
  { s with log := (handlers.map fun h => Event.sent h msg).reverse ++ s.log }

theorem send_loop_run (msg : Text) (subs : MapRef) (keys : List HandlerRef) (s : ServerState) :
    ∃ result, run exec (forEachKey subs (s.mapAt subs).modCount (fun connection => do
        let handler ← deref connection
        handler.send msg) keys) s = (result, deliver msg (reachedHandlers keys) s) := by
  induction keys generalizing s with
  | nil => exact ⟨.ok (), by simp [forEachKey, reachedHandlers, deliver]⟩
  | cons key rest ih =>
    cases key with
    | none =>
      exact ⟨.error .nullPointer, by
        simp [forEachKey, run_bind, reachedHandlers, deliver]⟩
    | some h =>
      obtain ⟨result, later⟩ := ih (s.record (.sent h msg))
      refine ⟨result, ?_⟩
      have same : ((s.record (.sent h msg)).mapAt subs).modCount = (s.mapAt subs).modCount := rfl
      rw [same] at later
      have grown : deliver msg (reachedHandlers rest) (s.record (.sent h msg)) =
          deliver msg (reachedHandlers (some h :: rest)) s := by
        simp [deliver, reachedHandlers, ServerState.record]
      simp [forEachKey, run_bind, later, grown]

/-- The handlers that get a message sent to a channel. -/
def recipients (s : ServerState) (channel : Text) : List ConnectionHandler :=
  match s.channelsSubscriptions.lookup channel with
  | none => []
  | some i => reachedHandlers
      ((w.subscribers channel).order (s.subscriptionMaps channel i).entries.keys)

theorem send_channel_run (channel msg : Text) (s : ServerState) :
    ∃ result, run exec (sendChannel w channel msg) s =
      (result, deliver msg (recipients w s channel) s) := by
  cases current : s.channelsSubscriptions.lookup channel with
  | none =>
    exact ⟨.error .nullPointer, by
      simp [sendChannel, run_bind, current, recipients, deliver]⟩
  | some i =>
    obtain ⟨result, loop⟩ := send_loop_run msg ⟨channel, i⟩
      ((w.subscribers channel).order (s.subscriptionMaps channel i).entries.keys) s
    refine ⟨result, ?_⟩
    simp only [sendChannel, run_bind, run_channelsSubscriptions_get, current, Option.map_some,
      run_deref_some, run_map_iterator, recipients]
    exact loop

end Relay

end FrameEvents
