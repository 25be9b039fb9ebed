import EmergencyService.Foundation.RecordedRuns
import EmergencyService.Server.SendAcceptance
import EmergencyService.Server.SubscriberLogins

/- The accepted SENDs of a run as one sequence of broadcasts. Each handler gets those that are
   addressed to it, in the order of the sequence. -/
namespace ChannelOrder
open JavaRuntime JavaFrame MapCalls ConnectionsImpl StompProtocolImpl GuardedRuns RecordedRuns
open SubscriptionSweep ProcessRun FrameEvents BranchOutcomes HandlerThreads ServerRuns FrameOutcome
open CallFootprint MessageRelay SubscriberLogins SendAcceptance ReplyCount

/-- A SEND that was accepted, as its sender and the MESSAGE frame made of it. -/
structure Relay where
  sender : Nat
  message : Text
  deriving DecidableEq

/-- What `process` makes of a text that is a SEND and accepted. -/
def relayOf (w : Surroundings) (c : Nat) (message : Text) (s : ServerState) : Option Relay :=
  match StompFrame.ofText message with
  | .error _ => none
  | .ok frame =>
      if frame.command = "SEND" then
        (header frame.headers "destination").bind fun channel =>
          (s.subscription channel (s.activeClients.lookup c)).bind fun id =>
            if id = -1 then none
            else some ⟨c, (messageFrame id (s.protocol c).messageID channel frame.body).createFrame
              w.headers⟩
      else none

section Relays
variable {w : Surroundings} {c : Nat} {message : Text} {s : ServerState} {relay : Relay}

theorem relay_cases (made : relayOf w c message s = some relay) :
    ∃ frame channel id, StompFrame.ofText message = .ok frame ∧ frame.command = "SEND" ∧
      header frame.headers "destination" = some channel ∧
      s.subscription channel (s.activeClients.lookup c) = some id ∧ id ≠ -1 ∧
      relay = ⟨c, (messageFrame id (s.protocol c).messageID channel frame.body).createFrame
        w.headers⟩ := by
  unfold relayOf at made
  split at made
  · cases made
  · rename_i frame parsed
    split at made
    · rename_i command
      obtain ⟨channel, target, made⟩ := Option.bind_eq_some_iff.mp made
      obtain ⟨id, held, made⟩ := Option.bind_eq_some_iff.mp made
      split at made
      · cases made
      · rename_i valid
        exact ⟨frame, channel, id, parsed, command, target, held, valid,
          (Option.some.inj made).symm⟩
    · cases made

theorem relay_of_held {frame : StompFrame} {channel : Text} {id : Int}
    (parsed : StompFrame.ofText message = .ok frame) (command : frame.command = "SEND")
    (target : header frame.headers "destination" = some channel)
    (held : s.subscription channel (s.activeClients.lookup c) = some id) (valid : id ≠ -1) :
    relayOf w c message s = some ⟨c, (messageFrame id (s.protocol c).messageID channel
      frame.body).createFrame w.headers⟩ := by
  simp only [relayOf, parsed, command, if_true, target, Option.bind_some, held, valid, if_false]

theorem message_is_relay (ids : HandlerIds s) {r : ConnectionHandler} {text : Text}
    (sent : .sent r text ∈ newEvents s (processed w c message s))
    (named : commandOf text = "MESSAGE") : relayOf w c message s = some ⟨c, text⟩ := by
  obtain ⟨frame, channel, id, parsed, command, target, held, valid, _, rfl⟩ :=
    message_source ids sent named
  exact relay_of_held parsed command target held valid

end Relays

/-- An accepted SEND as the frame that it becomes and the handlers that this frame goes to. -/
structure Broadcast where
  relay : Relay
  channel : Text
  body : Text
  audience : List ConnectionHandler

def broadcastOf (w : Surroundings) (c : Nat) (message : Text) (s : ServerState) :
    Option Broadcast :=
  match StompFrame.ofText message with
  | .error _ => none
  | .ok frame => (relayOf w c message s).map fun relay =>
      ⟨relay, (header frame.headers "destination").getD [], frame.body,
        recipients w s ((header frame.headers "destination").getD [])⟩

def broadcastBy (s : ServerState) : Action → Option Broadcast
  | .frame w c message => broadcastOf w c message s
  | _ => none

/-- An action of the server, with the broadcast that it makes. -/
def announce (server : Server) (a : Action) : Option (Server × List Broadcast) :=
  (server.act a).map fun next => (next, (broadcastBy server.state a).toList)

/-- The MESSAGE frames of a history that connection `c` was sent, in their order. -/
def messagesTo (c : Nat) (log : List Event) : List Text :=
  ((framesTo c log).filter fun text => commandOf text = "MESSAGE").reverse

def heardBy (c : Nat) (announced : List Broadcast) : List Broadcast :=
  announced.filter fun b => ⟨c⟩ ∈ b.audience

section Logs
variable {w : Surroundings} {c d : Nat} {message text : Text} {s s' : ServerState}
  {new log : List Event}

theorem messages_append : messagesTo c (new ++ log) = messagesTo c log ++ messagesTo c new := by
  unfold messagesTo
  rw [frames_to_append, List.filter_append, List.reverse_append]

theorem messages_none (quiet : ∀ r text, .sent r text ∈ new → commandOf text ≠ "MESSAGE") :
    messagesTo c new = [] := by
  unfold messagesTo
  rw [List.reverse_eq_nil_iff, List.filter_eq_nil_iff]
  intro text member named
  exact quiet _ text (mem_frames_to_iff.mp member) (of_decide_eq_true named)

theorem messages_delivered {audience : List ConnectionHandler} (distinct : audience.Nodup)
    (named : commandOf text = "MESSAGE") :
    messagesTo c ((audience.map fun h => Event.sent h text).reverse ++ [.received d message]) =
      if ⟨c⟩ ∈ audience then [text] else [] := by
  unfold messagesTo
  rw [frames_to_deliver]
  by_cases member : ⟨c⟩ ∈ audience
  · rw [if_pos member, List.count_eq_one_of_mem distinct member]
    simp [named]
  · rw [if_neg member, List.count_eq_zero.mpr member]
    rfl

end Logs

section Steps
variable {w : Surroundings} {c : Nat} {message : Text} {s : ServerState} {b : Broadcast}

theorem broadcast_cases (made : broadcastOf w c message s = some b) :
    ∃ frame channel id, StompFrame.ofText message = .ok frame ∧ frame.command = "SEND" ∧
      header frame.headers "destination" = some channel ∧
      s.subscription channel (s.activeClients.lookup c) = some id ∧ id ≠ -1 ∧
      b = ⟨⟨c, (messageFrame id (s.protocol c).messageID channel frame.body).createFrame w.headers⟩,
        channel, frame.body, recipients w s channel⟩ := by
  unfold broadcastOf at made
  split at made
  · cases made
  · rename_i frame parsed
    obtain ⟨relay, relayed, rfl⟩ := Option.map_eq_some_iff.mp made
    obtain ⟨frame', channel, id, parsed', command, target, held, valid, rfl⟩ := relay_cases relayed
    cases parsed.symm.trans parsed'
    exact ⟨frame, channel, id, parsed, command, target, held, valid, by rw [target]; rfl⟩

theorem broadcast_of_relay {relay : Relay} (made : relayOf w c message s = some relay) :
    ∃ b, broadcastOf w c message s = some b ∧ b.relay = relay := by
  obtain ⟨frame, channel, id, parsed, _⟩ := relay_cases made
  unfold broadcastOf
  rw [parsed]
  dsimp only
  rw [made]
  exact ⟨_, rfl, rfl⟩

theorem processed_log (ids : HandlerIds s) : (processed w c message s).log =
    newEvents s (processed w c message s) ++ s.log := by
  have grown : ∃ new, (processed w c message s).log = new ++ s.log := by
    rcases process_outcome w c message ids with ⟨e, _, same⟩ | ⟨frame, _, outcome⟩
    · exact ⟨[.received c message], by rw [same]; rfl⟩
    · rcases outcome_messages outcome with ⟨new, grown, _⟩ | ⟨channel, id, _, _, _, _, grown⟩
      · exact ⟨new ++ [.received c message], by rw [grown, List.append_assoc]; rfl⟩
      · exact ⟨_ ++ [.received c message], by rw [grown, List.append_assoc]; rfl⟩
  obtain ⟨new, grown⟩ := grown
  rw [new_events_of_log grown, grown]

theorem processed_heard (ids : HandlerIds s) (d : Nat) :
    messagesTo d (processed w c message s).log =
      messagesTo d s.log ++
        (heardBy d (broadcastOf w c message s).toList).map fun b => b.relay.message := by
  rw [processed_log ids, messages_append]
  cases made : broadcastOf w c message s with
  | none =>
    have quiet : ∀ r text, .sent r text ∈ newEvents s (processed w c message s) →
        commandOf text ≠ "MESSAGE" := by
      intro r text sent named
      obtain ⟨b, found, _⟩ := broadcast_of_relay (message_is_relay ids sent named)
      rw [made] at found
      cases found
    rw [messages_none quiet]
    rfl
  | some b =>
    obtain ⟨frame, channel, id, parsed, command, target, held, valid, rfl⟩ := broadcast_cases made
    rw [send_accepted_events parsed command target held valid,
      messages_delivered recipients_nodup (message_command ..)]
    unfold heardBy
    by_cases member : ⟨d⟩ ∈ recipients w s channel
    · simp [member]
    · simp [member]

end Steps

section Runs
variable {condition : Server → Action → Prop} {server : Server} {announced : List Broadcast}

theorem announce_act : (fun server a => (announce server a).map Prod.fst) = Server.act := by
  funext server a
  unfold announce
  rw [Option.map_map]
  exact Option.map_id'

theorem announced_runs (runs : Recorded announce condition Server.initial server announced) :
    GuardedRuns.Runs Server.act condition Server.initial server := by
  have forgotten := recorded_runs runs
  rwa [announce_act] at forgotten

theorem announced_ids (runs : Recorded announce condition Server.initial server announced) :
    HandlerIds server.state := by
  have free : ServerRuns.Runs (fun _ _ => True) Server.initial server :=
    run_weaken (fun _ _ _ => trivial) (announced_runs runs)
  exact runs_handler_ids free

theorem heard_append (d : Nat) (first second : List Broadcast) :
    heardBy d (first ++ second) = heardBy d first ++ heardBy d second :=
  List.filter_append ..

/-- What a handler has got are the broadcasts so far that are addressed to it. -/
def Heard (d : Nat) (now : Server × List Broadcast) : Prop :=
  messagesTo d now.1.state.log = (heardBy d now.2).map fun b => b.relay.message

theorem heard_run (runs : Recorded announce condition Server.initial server announced)
    (d : Nat) : Heard d (server, announced) := by
  have start : Heard d (Server.initial, []) := rfl
  refine run_invariant (Heard d) start ?_ runs
  rintro a ⟨before, earlier⟩ ⟨after, all⟩ started ih _ acted
  obtain ⟨out, found, rfl⟩ := recorded_some acted
  obtain ⟨next, moved, same⟩ := Option.map_eq_some_iff.mp found
  obtain ⟨rfl, rfl⟩ := Prod.mk.inj same
  unfold Heard at ih ⊢
  dsimp only at ih ⊢
  rw [heard_append, List.map_append, ← ih]
  obtain ⟨rfl, _, rfl⟩ | ⟨rfl, _, rfl⟩ | ⟨w, c, message, rfl, _, rfl⟩ := act_cases moved
  · exact (List.append_nil _).symm
  · exact (List.append_nil _).symm
  · exact processed_heard (announced_ids started) d

/-- In every run each handler has got the broadcasts that are addressed to it, each once, in
    their common order, and no other MESSAGE. -/
theorem messages_in_order (runs : Recorded announce condition Server.initial server announced)
    (d : Nat) : messagesTo d server.state.log =
      (heardBy d announced).map fun b => b.relay.message :=
  heard_run runs d

/-- Two connections that have subscribed to a channel, and what they send after that. -/
def subscribing : List Action :=
  [.construct, .increment, .construct, .increment, .frame .plain 0 (subscribeText "7"),
    .frame .plain 1 (subscribeText "9")]

def sendingBoth : List Action := subscribing ++ [.frame .plain 0 sendText, .frame .plain 1 sendText]

/-- Two subscribers, who send one after the other. -/
theorem both_heard_both : ∃ server announced,
    Recorded announce (fun _ _ => True) Server.initial server announced ∧
      announced.length = 2 ∧ heardBy 0 announced = heardBy 1 announced ∧
      messagesTo 0 server.state.log = messagesTo 1 server.state.log := by
  obtain ⟨⟨server, announced⟩, acted⟩ : ∃ now,
      acts (recorded announce) sendingBoth (Server.initial, []) = some now :=
    Option.isSome_iff_exists.mp (by decide +kernel)
  have audiences : (acts (recorded announce) sendingBoth (Server.initial, [])).map
      (fun now => now.2.map Broadcast.audience) = some [[⟨1⟩, ⟨0⟩], [⟨1⟩, ⟨0⟩]] := by
    decide +kernel
  rw [acted, Option.map_some, Option.some.injEq] at audiences
  dsimp only at audiences
  have runs : Recorded announce (fun _ _ => True) Server.initial server announced :=
    run_of_acts sendingBoth acted
  have everyone : ∀ c, (⟨c⟩ : ConnectionHandler) ∈ [(⟨1⟩ : ConnectionHandler), ⟨0⟩] →
      heardBy c announced = announced := by
    intro c member
    apply List.filter_eq_self.mpr
    intro b known
    have audience := List.mem_map_of_mem (f := Broadcast.audience) known
    rw [audiences] at audience
    have same : b.audience = [⟨1⟩, ⟨0⟩] := by simpa using audience
    rw [same]
    exact decide_eq_true member
  refine ⟨server, announced, runs, by simpa using congrArg List.length audiences, ?_, ?_⟩
  · rw [everyone 0 (by decide), everyone 1 (by decide)]
  · rw [messages_in_order runs, messages_in_order runs, everyone 0 (by decide),
      everyone 1 (by decide)]

end Runs

end ChannelOrder
