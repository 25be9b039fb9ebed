import EmergencyService.Foundation.CallTraces
import EmergencyService.Server.FrameEvents
import EmergencyService.Server.HandlerThreads
import EmergencyService.Server.MessageRelay
import EmergencyService.Server.OwnReplies

/- The relay of one SEND while all other threads go on: to whom it sends, whatever they do to
   the map that it iterates over. -/
namespace RelayTraces
open JavaRuntime JavaFrame AtomicProgram ThreadInterleaving GuardedRuns RecordedRuns CallTraces
open MapCalls ConnectionsImpl StompProtocolImpl CallFootprint OwnReplies HandlerThreads
open FrameExchange MessageRelay
open FrameEvents (dispatch_send receivedHeader)

abbrev Call := Answered MapCall MapCall.Ret

/-- The MESSAGE frames among the calls, with the handlers that they are given to. -/
def messages (calls : List Call) : List (ConnectionHandler × Text) :=
  calls.filterMap fun call =>
    match call.op with
    | .handlerSend h text => if commandOf text = "MESSAGE" then some (h, text) else none
    | _ => none

def Silent (op : MapCall) : Prop :=
  (∀ h text, op = .handlerSend h text → commandOf text ≠ "MESSAGE") ∧
    ∀ c, op ≠ .messageIDIncrement c

variable {calls before after : List Call}

theorem messages_append : messages (before ++ after) = messages before ++ messages after :=
  List.filterMap_append

theorem silent_of_own {c : Nat} {frame : StompFrame} {op : MapCall} (own : OwnReply c frame op) :
    Silent op :=
  ⟨fun h text same => reply_not_message (own.1 h text same).2,
    fun c same => own.2 (same ▸ .increment c)⟩

theorem silent_calls {α : Type} {p q : Java α} {c : Nat} {frame : StompFrame}
    (bounded : Calls HandlerAnswer (OwnReply c frame) p) (trace : Trace HandlerAnswer p calls q) :
    ∀ call ∈ calls, Silent call.op :=
  fun call member => silent_of_own (trace_allowed bounded trace call member)

theorem messages_silent (silent : ∀ call ∈ calls, Silent call.op) : messages calls = [] := by
  apply List.filterMap_eq_nil_iff.mpr
  rintro ⟨op, answer⟩ member
  cases op with
  | handlerSend h text => exact if_neg ((silent _ member).1 h text rfl)
  | _ => rfl

section Relay
variable {w : Surroundings} {c : Nat} {channel msg : Text} {q : Java Unit}

theorem loop_messages {subs : MapRef} {expected : Nat} (named : commandOf msg = "MESSAGE")
    {keys : List HandlerRef}
    (trace : Trace HandlerAnswer (forEachKey subs expected (fun connection => do
      let handler ← deref connection
      handler.send msg) keys) calls q) :
    ∃ hs : List ConnectionHandler, messages calls = hs.map (·, msg) ∧ hs.map some <+: keys ∧
      (q = .done () → hs.map some = keys) := by
  induction keys generalizing calls with
  | nil =>
    obtain ⟨rfl, rfl⟩ := trace_done trace
    exact ⟨[], rfl, List.prefix_rfl, fun _ => rfl⟩
  | cons key rest ih =>
    rcases trace_perform_bind _ trace with ⟨rfl, running⟩ | ⟨modCount, later, _, rfl, checked⟩
    · exact ⟨[], rfl, List.nil_prefix, fun finished => absurd finished (running ())⟩
    have same : messages (⟨.subsModCount subs expected, modCount⟩ :: later) = messages later := rfl
    rw [same]
    split at checked
    · cases key with
      | none =>
        obtain ⟨rfl, rfl⟩ := trace_raise checked
        exact ⟨[], rfl, List.nil_prefix, nofun⟩
      | some h =>
        rcases trace_perform_bind _ checked with ⟨rfl, running⟩ | ⟨_, more, _, rfl, onward⟩
        · exact ⟨[], rfl, List.nil_prefix, fun finished => absurd finished (running ())⟩
        · obtain ⟨hs, sent, reached, all⟩ := ih onward
          refine ⟨h :: hs, ?_, List.cons_prefix_cons.mpr ⟨rfl, reached⟩, ?_⟩
          · have first : messages (⟨.handlerSend h msg, ()⟩ :: more) = (h, msg) :: messages more :=
              List.filterMap_cons_some (if_pos named)
            rw [first, sent, List.map_cons]
          · intro finished
            rw [List.map_cons, all finished]
    · obtain ⟨rfl, rfl⟩ := trace_raise checked
      exact ⟨[], rfl, List.nil_prefix, nofun⟩

/-- To whom a relay has sent: some of the keys that its iterator had, in their order; all of
    them when it has come to its end. -/
structure Relayed (w : Surroundings) (channel : Text) (calls : List Call) (q : Java Unit)
    (hs : List ConnectionHandler) (keys : List HandlerRef) : Prop where
  reached : hs.map some <+: (w.subscribers channel).order keys
  all : q = .done () → hs.map some = (w.subscribers channel).order keys
  iterated : ∃ ref n, ref.channel = channel ∧ ⟨.subsIterator ref, (keys, n)⟩ ∈ calls

theorem relay_messages (named : commandOf msg = "MESSAGE")
    (trace : Trace HandlerAnswer (sendChannel w channel msg) calls q) :
    ∃ hs : List ConnectionHandler, messages calls = hs.map (·, msg) ∧
      ((hs = [] ∧ q ≠ .done ()) ∨ ∃ keys, Relayed w channel calls q hs keys) := by
  rcases trace_perform_bind _ trace with ⟨rfl, running⟩ | ⟨found, later, known, rfl, looked⟩
  · exact ⟨[], rfl, Or.inl ⟨rfl, running ()⟩⟩
  cases found with
  | none =>
    obtain ⟨rfl, rfl⟩ := trace_raise looked
    exact ⟨[], rfl, Or.inl ⟨rfl, nofun⟩⟩
  | some ref =>
    rcases trace_perform_bind _ looked with ⟨rfl, running⟩ | ⟨⟨keys, n⟩, more, _, rfl, loop⟩
    · exact ⟨[], rfl, Or.inl ⟨rfl, running ()⟩⟩
    · obtain ⟨hs, sent, reached, all⟩ := loop_messages named loop
      have same : ref.channel = channel := known ref rfl
      exact ⟨hs, sent, Or.inr ⟨keys, reached, all, ref, n, same, by simp⟩⟩

/-- The text carries the number that the thread has read from its counter. -/
def Numbered (c : Nat) (text : Text) (calls : List Call) : Prop :=
  ∃ number : Int, receivedHeader "message-id" text = some (decimal number) ∧
    (⟨.messageIDGet c, number⟩ : Call) ∈ calls

/-- What the calls of one frame deliver: nothing, and then a SEND has not been counted or the
    thread is still at work; or one frame, with its number, to handlers of the channel. -/
def Delivers (w : Surroundings) (c : Nat) (destination : Option Text) (calls : List Call)
    (q : Java Unit) : Prop :=
  ∃ (hs : List ConnectionHandler) (text : Text), messages calls = hs.map (·, text) ∧
    ((hs = [] ∧ (q = .done () → ∀ call ∈ calls, call.op ≠ .messageIDIncrement c)) ∨
      Numbered c text calls ∧
        ∃ channel keys, destination = some channel ∧ Relayed w channel calls q hs keys)

variable {destination : Option Text}

theorem delivers_running (nothing : messages calls = []) (running : q ≠ .done ()) :
    Delivers w c destination calls q :=
  ⟨[], [], nothing, Or.inl ⟨rfl, fun finished => absurd finished running⟩⟩

theorem delivers_quiet {p : Java Unit} (frame : StompFrame)
    (bounded : Calls HandlerAnswer (OwnReply c frame) p) (trace : Trace HandlerAnswer p calls q) :
    Delivers w c destination calls q := by
  have silent := silent_calls bounded trace
  exact ⟨[], [], messages_silent silent,
    Or.inl ⟨rfl, fun _ call member => (silent call member).2 c⟩⟩

theorem delivers_after (silent : ∀ call ∈ before, Silent call.op)
    (later : Delivers w c destination after q) : Delivers w c destination (before ++ after) q := by
  obtain ⟨hs, text, sent, way⟩ := later
  refine ⟨hs, text, by rw [messages_append, messages_silent silent, sent, List.nil_append], ?_⟩
  rcases way with ⟨none', uncounted⟩ | ⟨⟨number, carried, taken⟩, channel, keys, target, relayed⟩
  · refine Or.inl ⟨none', fun finished call member => ?_⟩
    rcases List.mem_append.mp member with early | late
    · exact (silent call early).2 c
    · exact uncounted finished call late
  · obtain ⟨reached, all, ref, n, same, member⟩ := relayed
    exact Or.inr ⟨⟨number, carried, List.mem_append_right _ taken⟩, channel, keys, target, reached,
      all, ref, n, same, List.mem_append_right _ member⟩

theorem send_delivers {headers : HashMap Text Text} {body : Text} (clean : CleanHeaders headers)
    (trace : Trace HandlerAnswer (processSend w c headers body) calls q) :
    Delivers w c (header headers "destination") calls q := by
  have looking : Calls HandlerAnswer (OwnReply c ⟨"SEND", headers, body⟩)
      (getUserSubID (header headers "destination") c) := quiet_get_user_sub_id c _
  rcases trace_bind trace with ⟨⟨q', first⟩, running⟩ | ⟨id, before, after, rfl, first, later⟩
  · exact delivers_running (messages_silent (silent_calls looking first)) (running ())
  apply delivers_after (silent_calls looking first)
  split at later
  · exact delivers_quiet ⟨"SEND", headers, body⟩
      (calls_bind (quiet_error w c _) fun _ => quiet_refuse w c _) later
  · cases target : header headers "destination" with
    | none =>
      rw [target] at later
      obtain ⟨rfl, rfl⟩ := trace_raise later
      exact delivers_running rfl nofun
    | some channel =>
      rw [target] at later
      rcases trace_perform_bind _ later with ⟨rfl, running⟩ | ⟨number, rest, _, rfl, counting⟩
      · exact delivers_running rfl (running ())
      rcases trace_perform_bind _ counting with ⟨rfl, running⟩ | ⟨_, rest', _, rfl, relaying⟩
      · exact delivers_running rfl (running ())
      have named := message_command w.headers id number channel body
      have carried : receivedHeader "message-id"
          ((messageFrame id number channel body).createFrame w.headers) = some (decimal number) :=
        message_id w.headers id number (clean _ _ target).2.2 body
      obtain ⟨hs, sent, way⟩ := relay_messages named relaying
      refine ⟨hs, _, sent, ?_⟩
      rcases way with ⟨none', running⟩ | ⟨keys, reached, all, ref, n, same, member⟩
      · exact Or.inl ⟨none', fun finished => absurd finished running⟩
      · exact Or.inr ⟨⟨number, carried, by simp⟩, channel, keys, rfl, reached, all, ref, n, same,
          List.mem_cons_of_mem _ (List.mem_cons_of_mem _ member)⟩

def destinationOf (message : Text) : Option Text :=
  match StompFrame.ofText message with
  | .error _ => none
  | .ok frame => if frame.command = "SEND" then header frame.headers "destination" else none

theorem process_delivers {message : Text}
    (trace : Trace HandlerAnswer (process w c message) calls q) :
    Delivers w c (destinationOf message) calls q := by
  have single : ∀ {op : MapCall} {r : op.Ret}, Silent op →
      ∀ call ∈ [(⟨op, r⟩ : Call)], Silent call.op := by
    intro op r silent call member
    rw [List.mem_singleton.mp member]
    exact silent
  rcases trace_perform_bind _ trace with ⟨rfl, running⟩ | ⟨_, rest, _, rfl, read⟩
  · exact delivers_running rfl (running ())
  have entry : Silent (.received c message) := ⟨nofun, nofun⟩
  apply delivers_after (single entry)
  unfold destinationOf
  cases parsed : StompFrame.ofText message with
  | error e =>
    rw [parsed] at read
    obtain ⟨rfl, rfl⟩ := trace_raise read
    exact delivers_running rfl nofun
  | ok frame =>
    rw [parsed] at read
    rcases trace_perform_bind _ read with ⟨rfl, running⟩ | ⟨_, rest', _, rfl, dispatched⟩
    · exact delivers_running rfl (running ())
    have flag : Silent (.setShouldTerminate c (decide (frame.command = "DISCONNECT".toList))) :=
      ⟨nofun, nofun⟩
    apply delivers_after (single flag)
    dsimp only
    by_cases send : frame.command = "SEND"
    · rw [dispatch_send send] at dispatched
      rw [if_pos send]
      exact send_delivers (parsed_headers_clean parsed) dispatched
    · exact delivers_quiet frame (quiet_dispatch w c send) dispatched

end Relay

section Interleavings
variable {pool : ServerPool} {c : Nat} {w : Surroundings} {message : Text} {q : Java Unit}
  {transcript : List (Observation MapCall MapCall.Ret JavaException Unit Thread Work)}

/-- An interleaving of the server's threads, with all that can be seen of it. -/
abbrev Observed (pool : ServerPool)
    (transcript : List (Observation MapCall MapCall.Ret JavaException Unit Thread Work)) : Prop :=
  Recorded (observe exec code) (Legal mayStart fun _ _ _ => True)
    (Pool.idle ServerState.initial) pool transcript

/-- An answer that the shared state has given. -/
def Given (op : MapCall) (r : op.Ret) : Prop := ∃ s, ReachableState s ∧ r = (exec op s).1

theorem observed_traces (observed : Observed pool transcript) {t : Thread} {work : Work}
    (busy : pool.running t = some (work, q)) :
    Trace Given (code t work) (current t transcript) q := by
  refine thread_traces ?_ observed t work q busy
  intro pool runs op
  exact ⟨pool.shared, ⟨pool, runs, rfl⟩, rfl⟩

/-- However the threads interleave: what a thread has sent for a frame is one MESSAGE, to no
    handler twice, and only to handlers that its iterator found in a map of the channel. When it
    has come to the end of a SEND that was counted, it has sent to all of them. -/
theorem relay_at_most_once (observed : Observed pool transcript)
    (busy : pool.running (.handler c) = some (.frame w message, q)) :
    ∃ (hs : List ConnectionHandler) (text : Text),
      messages (current (.handler c) transcript) = hs.map (·, text) ∧ hs.Nodup ∧
      ((hs = [] ∧ (q = .done () → ∀ call ∈ current (.handler c) transcript,
          call.op ≠ .messageIDIncrement c)) ∨
        ∃ ref s n, destinationOf message = some ref.channel ∧ ReachableState s ∧
          ⟨.subsIterator ref, ((s.mapAt ref).entries.keys, n)⟩ ∈
            current (.handler c) transcript ∧
          hs.map some <+: (w.subscribers ref.channel).order (s.mapAt ref).entries.keys ∧
          (q = .done () →
            hs.map some = (w.subscribers ref.channel).order (s.mapAt ref).entries.keys)) := by
  have trace := observed_traces observed busy
  have answered : ∀ op r, Given op r → HandlerAnswer op r := by
    rintro op r ⟨s, reachable, rfl⟩
    exact exec_answer op (handler_ids_reachable reachable)
  obtain ⟨hs, text, sent, way⟩ := process_delivers (trace_mono trace answered)
  refine ⟨hs, text, sent, ?_⟩
  rcases way with ⟨rfl, uncounted⟩ | ⟨_, channel, keys, target, reached, all, ref, n, rfl, member⟩
  · exact ⟨List.nodup_nil, Or.inl ⟨rfl, uncounted⟩⟩
  · obtain ⟨s, reachable, same⟩ := trace_answered trace _ member
    obtain ⟨rfl, rfl⟩ := Prod.mk.inj same
    refine ⟨?_, Or.inr ⟨ref, s, _, target, reachable, member, reached, all⟩⟩
    have distinct := (w.subscribers ref.channel).order_nodup (s.mapAt ref).entries.keys_nodup
    exact List.Nodup.of_map some (distinct.sublist reached.sublist)

end Interleavings

section Example
open MessageRelay

def scheduled (c : Nat) (message : Text) (n : Nat) : List (Move Thread Work) :=
  .start (.handler c) (.frame .plain message) :: List.replicate n (.turn (.handler c))

def accepting : List (Move Thread Work) :=
  .start .acceptor .accept :: List.replicate 4 (.turn .acceptor)

/-- Two subscribers of one channel; the second relays a frame of its own while the first is in
    the loop of its relay. -/
def relayingPool : Option ServerPool :=
  Pool.moves exec code mayStart (fun _ _ _ => True)
    (accepting ++ accepting ++
      scheduled 0 (subscribeText "7") 10 ++ scheduled 1 (subscribeText "9") 11 ++
      scheduled 0 sendText 13 ++ scheduled 1 sendText 17 ++
      List.replicate 4 (.turn (.handler 0)))
    (Pool.idle ServerState.initial)

def frameOver : Option (Work × Java Unit) → Bool
  | some (.frame _ _, .done ()) => true
  | _ => false

theorem frame_over {task : Option (Work × Java Unit)} (finished : frameOver task = true) :
    ∃ w message, task = some (.frame w message, .done ()) := by
  unfold frameOver at finished
  split at finished
  · exact ⟨_, _, rfl⟩
  · cases finished

theorem both_relayed : ∃ pool transcript, Observed pool transcript ∧
    ∀ c ∈ [0, 1], ∃ w message, pool.running (.handler c) = some (.frame w message, .done ()) ∧
      ∃ (hs : List ConnectionHandler) (text : Text),
        messages (current (.handler c) transcript) = hs.map (·, text) ∧ hs.Nodup := by
  have ends : relayingPool.map (fun pool => [0, 1].all fun c =>
      frameOver (pool.running (.handler c))) = some true := by decide +kernel
  obtain ⟨pool, ran, finished⟩ := Option.map_eq_some_iff.mp ends
  obtain ⟨transcript, observed⟩ := exists_observed (reached_of_moves exec code mayStart ran)
  refine ⟨pool, transcript, observed, ?_⟩
  intro c member
  obtain ⟨w, message, busy⟩ := frame_over (List.all_eq_true.mp finished c member)
  obtain ⟨hs, text, sent, distinct, _⟩ := relay_at_most_once observed busy
  exact ⟨w, message, busy, hs, text, sent, distinct⟩

end Example

end RelayTraces
