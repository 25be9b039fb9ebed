import EmergencyService.Frames.FrameStream
import EmergencyService.Server.BranchOutcomes

/- A SEND that is accepted: one frame, built from the sender's id, goes to every handler
   in the channel's map. -/
namespace MessageRelay
open JavaRuntime JavaFrame AtomicProgram MapCalls ConnectionsImpl StompProtocolImpl
open FrameExchange FrameStream ProcessRun FrameEvents CallFootprint BranchOutcomes HandlerThreads
open ServerRuns

theorem message_headers_clean (id messageID : Int) {channel : Text} (free : LineFree channel)
    (body : Text) : CleanHeaders (messageFrame id messageID channel body).headers := by
  have none_clean : CleanHeaders ∅ := by
    intro k v found
    simp at found
  have first : ':' ∉ "subscription".toList ∧ LineFree "subscription" := by decide
  have second : ':' ∉ "message-id".toList ∧ LineFree "message-id" := by decide
  have third : ':' ∉ "destination".toList ∧ LineFree "destination" := by decide
  unfold messageFrame put
  refine clean_insert (clean_insert (clean_insert none_clean ?_) ?_) ?_
  · exact ⟨first.1, first.2, decimal_line_free id⟩
  · exact ⟨second.1, second.2, decimal_line_free messageID⟩
  · exact ⟨third.1, third.2, free⟩

theorem message_headers_nul_free (id messageID : Int) {channel : Text}
    (free : NulFree channel) (body : Text) :
    NulFreeHeaders (messageFrame id messageID channel body).headers := by
  have none_free : NulFreeHeaders ∅ := by
    intro k v found
    simp at found
  have first : NulFree "subscription" := by decide
  have second : NulFree "message-id" := by decide
  have third : NulFree "destination" := by decide
  unfold messageFrame put
  refine entry_insert (entry_insert (entry_insert none_free ?_) ?_) ?_
  · exact ⟨first, decimal_nul_free id⟩
  · exact ⟨second, decimal_nul_free messageID⟩
  · exact ⟨third, free⟩

theorem message_frame_nul_free (o : IterationOrder Text) (id messageID : Int) {channel body : Text}
    (free : NulFree channel) (clean : NulFree body) :
    NulFree ((messageFrame id messageID channel body).createFrame o) := by
  have command : NulFree "MESSAGE" := by decide
  exact java_frame_nul_free o command (message_headers_nul_free id messageID free body) clean

theorem message_subscription (o : IterationOrder Text) (id messageID : Int) {channel : Text}
    (free : LineFree channel) (body : Text) :
    receivedHeader "subscription" ((messageFrame id messageID channel body).createFrame o) =
      some (decimal id) := by
  have line : LineFree "MESSAGE" := by decide
  have named : ("MESSAGE".toList : Text) ≠ [] := by decide
  have first : ("subscription".toList : Text) ≠ "destination".toList := by decide
  have second : ("subscription".toList : Text) ≠ "message-id".toList := by decide
  rw [received_header (f := messageFrame id messageID channel body) named line
    (message_headers_clean id messageID free body)]
  change (put (put (put ∅ "subscription" (decimal id)) "message-id" (decimal messageID))
    "destination" channel).lookup "subscription".toList = some (decimal id)
  unfold put
  rw [AList.lookup_insert_ne first, AList.lookup_insert_ne second, AList.lookup_insert]

theorem message_id (o : IterationOrder Text) (id messageID : Int) {channel : Text}
    (free : LineFree channel) (body : Text) :
    receivedHeader "message-id" ((messageFrame id messageID channel body).createFrame o) =
      some (decimal messageID) := by
  have line : LineFree "MESSAGE" := by decide
  have named : ("MESSAGE".toList : Text) ≠ [] := by decide
  have other : ("message-id".toList : Text) ≠ "destination".toList := by decide
  rw [received_header (f := messageFrame id messageID channel body) named line
    (message_headers_clean id messageID free body)]
  change (put (put (put ∅ "subscription" (decimal id)) "message-id" (decimal messageID))
    "destination" channel).lookup "message-id".toList = some (decimal messageID)
  unfold put
  rw [AList.lookup_insert_ne other, AList.lookup_insert]

/-- Every MESSAGE among the new frames names the id its recipient has for the channel. -/
def CarryOwnIds (channel : Text) (s s' : ServerState) : Prop :=
  ∀ r text, .sent r text ∈ newEvents s s' → commandOf text = "MESSAGE" →
    ∃ id, s.subscription channel (some r) = some id ∧
      receivedHeader "subscription" text = some (decimal id)

/-- The sender's id is the one that stands for no subscription, or every handler that is
    reached has the same id. -/
def SharesId (w : Surroundings) (c : Nat) (channel : Text) (s : ServerState) : Prop :=
  ∀ id, s.subscription channel (s.activeClients.lookup c) = some id →
    id = -1 ∨ ∀ r ∈ recipients w s channel, s.subscription channel (some r) = some id

section Relay
variable {w : Surroundings} {c : Nat} {message channel : Text} {frame : StompFrame}
  {s : ServerState}

theorem send_accepted_events (parsed : StompFrame.ofText message = .ok frame)
    (command : frame.command = "SEND")
    (target : header frame.headers "destination" = some channel) {id : Int}
    (held : s.subscription channel (s.activeClients.lookup c) = some id) (valid : id ≠ -1) :
    newEvents s (processed w c message s) =
      ((recipients w s channel).map fun h => Event.sent h
        ((messageFrame id (s.protocol c).messageID channel frame.body).createFrame
          w.headers)).reverse ++ [.received c message] := by
  have begun_id : ((begun c message frame s).protocol c).messageID = (s.protocol c).messageID := by
    simp [begun, ServerState.setProtocol]
  obtain ⟨result, s₁, moved, ran⟩ := process_send_accepted w frame.body target
    (s := begun c message frame s) held valid
  rw [begun_id] at ran
  apply new_events_of_log
  unfold processed
  rw [process_parsed parsed, dispatch_send command, ran, moved]
  simp [deliver, begun, ServerState.setProtocol, ServerState.record]
  rfl

theorem send_refused_events (parsed : StompFrame.ofText message = .ok frame)
    (command : frame.command = "SEND")
    (target : header frame.headers "destination" = some channel)
    (refused : (s.subscription channel (s.activeClients.lookup c)).getD (-1) = -1)
    (ids : HandlerIds s) {r : ConnectionHandler} {text : Text}
    (sent : .sent r text ∈ newEvents s (processed w c message s)) : commandOf text = "ERROR" := by
  have ran := process_parsed (w := w) (c := c) (s := s) parsed
  rw [dispatch_send command] at ran
  cases found : s.activeClients.lookup c with
  | none =>
    rw [process_send_missing w frame.body (s := begun c message frame s) target
      (found ▸ refused) found] at ran
    have log : newEvents s (processed w c message s) = [.received c message] := by
      apply new_events_of_log
      unfold processed
      rw [ran]
      rfl
    simp [log] at sent
  | some h =>
    have own : s.activeClients.lookup c = some ⟨c⟩ := by rw [found, ids c h found]
    rw [process_send_refused w frame.body (s := begun c message frame s) target refused own] at ran
    have error := error_command w.headers (notSubscribedTo (some channel)).headers
    have grown : (answered w c (notSubscribedTo (some channel)) (answered w c
        (notSubscribedTo (some channel)) (begun c message frame s))).log =
        [.sent ⟨c⟩ ((notSubscribedTo (some channel)).createFrame w.headers),
          .sent ⟨c⟩ ((notSubscribedTo (some channel)).createFrame w.headers),
          .received c message] ++ s.log := rfl
    have after : processed w c message s = _ := congrArg Prod.snd ran
    rw [after] at sent
    have reply : r = ⟨c⟩ ∧ text = (notSubscribedTo (some channel)).createFrame w.headers := by
      rcases cleaned_up_events w c grown with new | new
      · simpa [new] using sent
      · simpa [new] using sent
    rw [reply.2]
    exact error

theorem relayed_message (reachable : ReachableState s)
    (parsed : StompFrame.ofText message = .ok frame) (command : frame.command = "SEND")
    (target : header frame.headers "destination" = some channel) {r : ConnectionHandler}
    {text : Text} (sent : .sent r text ∈ newEvents s (processed w c message s))
    (named : commandOf text = "MESSAGE") :
    ∃ id, s.subscription channel (s.activeClients.lookup c) = some id ∧ id ≠ -1 ∧
      r ∈ recipients w s channel ∧
      text = (messageFrame id (s.protocol c).messageID channel frame.body).createFrame
        w.headers := by
  have ids := handler_ids_reachable reachable
  by_cases refused : (s.subscription channel (s.activeClients.lookup c)).getD (-1) = -1
  · rw [send_refused_events parsed command target refused ids sent] at named
    exact absurd named (by decide)
  · obtain ⟨id, held, valid⟩ := held_of_accepted refused
    rw [send_accepted_events (w := w) parsed command target held valid] at sent
    simp only [List.mem_append, List.mem_reverse, List.mem_map, List.mem_singleton,
      reduceCtorEq, or_false, Event.sent.injEq] at sent
    obtain ⟨h, member, rfl, rfl⟩ := sent
    exact ⟨id, held, valid, member, rfl⟩

/-- Every MESSAGE of a SEND names its recipient's own id exactly when all the recipients
    share the sender's id. -/
theorem relay_own_ids_iff (reachable : ReachableState s)
    (parsed : StompFrame.ofText message = .ok frame) (command : frame.command = "SEND")
    (target : header frame.headers "destination" = some channel) :
    CarryOwnIds channel s (processed w c message s) ↔ SharesId w c channel s := by
  have free : LineFree channel := (parsed_headers_clean parsed _ _ target).2.2
  constructor
  · intro carry id held
    by_cases valid : id = -1
    · exact Or.inl valid
    · refine Or.inr fun r member => ?_
      have events := send_accepted_events (w := w) parsed command target held valid
      have sent : Event.sent r ((messageFrame id (s.protocol c).messageID channel
          frame.body).createFrame w.headers) ∈ newEvents s (processed w c message s) := by
        rw [events]
        simp [member]
      obtain ⟨own, subscribed, carried⟩ := carry r _ sent (message_command ..)
      rw [message_subscription _ _ _ free] at carried
      rw [subscribed, decimal_injective (Option.some.inj carried)]
  · intro shares r text sent named
    obtain ⟨id, held, valid, member, rfl⟩ :=
      relayed_message reachable parsed command target sent named
    have same := (shares id held).resolve_left valid
    exact ⟨id, same r member, message_subscription _ _ _ free _⟩

end Relay

section Example

def subscribeText (id : Text) : Text :=
  "SUBSCRIBE\ndestination:police\nid:".toList ++ id ++ "\nreceipt:0\n\n".toList

/-- Two connections that have subscribed to one channel under the ids given. -/
def pairSubscribed (first second : Text) : ServerState :=
  processed .plain 1 (subscribeText second)
    (processed .plain 0 (subscribeText first) (accepted (accepted ServerState.initial)))

def sendText : Text := "SEND\ndestination:police\n\n\nuser:a\n\n"

theorem pair_reachable {first second : Text} (acted : Server.acts [.construct, .increment,
      .construct, .increment, .frame .plain 0 (subscribeText first),
      .frame .plain 1 (subscribeText second)] Server.initial =
        some ⟨pairSubscribed first second, false⟩) :
    ReachableState (pairSubscribed first second) := acts_reachable acted

def sentFrame : StompFrame := ⟨"SEND", put ∅ "destination" "police", "user:a\n\n"⟩

theorem relay_own_ids_equal :
    CarryOwnIds "police" (pairSubscribed "7" "7")
      (processed .plain 0 sendText (pairSubscribed "7" "7")) := by
  have parsed : StompFrame.ofText sendText = .ok sentFrame := rfl
  have target : header sentFrame.headers "destination" = some "police".toList := rfl
  have sender : (pairSubscribed "7" "7").subscription "police"
      ((pairSubscribed "7" "7").activeClients.lookup 0) = some 7 := rfl
  have reached : recipients .plain (pairSubscribed "7" "7") "police" = [⟨1⟩, ⟨0⟩] := rfl
  refine (relay_own_ids_iff (pair_reachable rfl) parsed rfl target).mpr ?_
  intro id held
  obtain rfl : 7 = id := Option.some.inj (sender.symm.trans held)
  right
  rw [reached]
  decide

theorem relay_wrong_id :
    ReachableState (pairSubscribed "7" "9") ∧
      (pairSubscribed "7" "9").subscription "police" (some ⟨0⟩) = some 7 ∧
      ¬ CarryOwnIds "police" (pairSubscribed "7" "9")
        (processed .plain 0 sendText (pairSubscribed "7" "9")) := by
  refine ⟨pair_reachable rfl, by decide, ?_⟩
  intro carry
  have own : (pairSubscribed "7" "9").subscription "police" (some ⟨1⟩) = some 9 := by decide
  obtain ⟨id, subscribed, carried⟩ := carry ⟨1⟩
    ((messageFrame 7 0 "police" "user:a\n\n").createFrame .stored) (by decide) (by decide)
  rw [own] at subscribed
  obtain rfl := Option.some.inj subscribed
  rw [message_subscription .stored 7 0 (by decide)] at carried
  exact absurd (decimal_injective (Option.some.inj carried)) (by decide)

end Example

end MessageRelay
