import EmergencyService.Client.ChannelCommands
import EmergencyService.Client.ReportLines
import EmergencyService.Foundation.PendingOperations
import EmergencyService.Server.OtherConnections

/- The frames of `join`, `exit` and `report` as operations on one table, from channels to
   ids, and what the server does when it processes them. -/
namespace SubscriptionRequests
open JavaRuntime CppRuntime JavaFrame FrameExchange FrameStream ReportLines ChannelCommands
open AtomicProgram MapCalls StompProtocolImpl ProcessRun FrameEvents CallFootprint
open BranchOutcomes HandlerThreads ServerRuns OtherConnections PendingOperations

/-- An UNSUBSCRIBE does not name its channel; the client knows it. -/
inductive Request where
  | subscribe (channel : Text) (id receipt : Int)
  | unsubscribe (channel : Text) (id receipt : Int)
  | send (channel body : Text)

def Request.frame : Request → CppFrame.StompFrame
  | .subscribe channel id receipt => Client.subscribeFrame channel id receipt
  | .unsubscribe _ id receipt => Client.unsubscribeFrame id receipt
  | .send channel body => ⟨"SEND", insertNew "destination" channel ∅, body⟩

abbrev Table := Text → Option Int

/-- What the client promises about a request: the server finds ids by comparing boxed
    integers, so only a small id can be given up. -/
def Request.Sound : Request → Prop
  | .subscribe channel id _ => Word channel ∧ IntRange id
  | .unsubscribe _ id _ => 0 ≤ id ∧ id ≤ 127
  | .send channel body => Word channel ∧ NulFree body

def Request.Effect : Request → Table → Table → Prop
  | .subscribe channel id _, t, t' =>
      t channel = none ∧ t' = Function.update t channel (some id)
  | .unsubscribe channel id _, t, t' =>
      t channel = some id ∧ (∀ ch, t ch = some id → ch = channel) ∧
        t' = Function.update t channel none
  | .send channel _, t, t' => (∃ id, t channel = some id ∧ id ≠ -1) ∧ t' = t

def Step (r : Request) (t t' : Table) : Prop := r.Sound ∧ r.Effect t t'

section Texts

theorem number_header {name : Text} (n : Int)
    (title : ':' ∉ name ∧ LineFree name ∧ NulFree name) : SafeHeader name (decimal n) :=
  ⟨⟨title.1, title.2.1, decimal_line_free n⟩, title.2.2, decimal_nul_free n⟩

theorem id_title : ':' ∉ "id".toList ∧ LineFree "id" ∧ NulFree "id" := by decide

theorem receipt_title : ':' ∉ "receipt".toList ∧ LineFree "receipt" ∧ NulFree "receipt" := by
  decide

theorem subscribe_sendable {channel : Text} (word : Word channel) (id receipt : Int) :
    Sendable (Client.subscribeFrame channel id receipt) := by
  have destination : ':' ∉ "destination".toList ∧ LineFree "destination" ∧
      NulFree "destination" := by decide
  have target : SafeHeader "destination" channel :=
    ⟨⟨destination.1, destination.2.1, word.lineFree⟩, destination.2.2, word.nulFree⟩
  have named : ("SUBSCRIBE".toList : Text) ≠ [] := by decide
  have line : LineFree "SUBSCRIBE" ∧ NulFree "SUBSCRIBE" := by decide
  have empty : NulFree [] := by decide
  have headers := safe_insert_new (safe_insert_new (safe_insert_new safe_empty target)
    (number_header id id_title)) (number_header receipt receipt_title)
  exact ⟨named, line.1, line.2, headers, empty⟩

theorem unsubscribe_sendable (id receipt : Int) :
    Sendable (Client.unsubscribeFrame id receipt) := by
  have named : ("UNSUBSCRIBE".toList : Text) ≠ [] := by decide
  have line : LineFree "UNSUBSCRIBE" ∧ NulFree "UNSUBSCRIBE" := by decide
  have empty : NulFree [] := by decide
  have headers := safe_insert_new (safe_insert_new safe_empty (number_header id id_title))
    (number_header receipt receipt_title)
  exact ⟨named, line.1, line.2, headers, empty⟩

theorem request_sendable {r : Request} (sound : r.Sound) : Sendable r.frame := by
  cases r with
  | subscribe channel id receipt => exact subscribe_sendable sound.1 id receipt
  | unsubscribe channel id receipt => exact unsubscribe_sendable id receipt
  | send channel body => exact send_sendable sound.1 sound.2

theorem subscribe_headers (channel : Text) (id receipt : Int) :
    (Client.subscribeFrame channel id receipt).headers.lookup "destination".toList =
        some channel ∧
      (Client.subscribeFrame channel id receipt).headers.lookup "id".toList =
        some (decimal id) := by
  have first : "destination".toList ≠ "receipt".toList := by decide
  have second : "destination".toList ≠ "id".toList := by decide
  have third : "id".toList ≠ "receipt".toList := by decide
  have absent : "id".toList ∉ insertNew "destination" channel (∅ : OrderedMap Text) := by
    rw [← AList.lookup_eq_none, insert_new_lookup_ne second.symm, AList.lookup_empty]
  unfold Client.subscribeFrame
  rw [insert_new_lookup_ne first, insert_new_lookup_ne second, insert_new_lookup_ne third]
  exact ⟨destination_found channel, insert_new_lookup absent _⟩

theorem unsubscribe_header (id receipt : Int) :
    (Client.unsubscribeFrame id receipt).headers.lookup "id".toList = some (decimal id) := by
  have other : "id".toList ≠ "receipt".toList := by decide
  unfold Client.unsubscribeFrame
  rw [insert_new_lookup_ne other]
  exact insert_new_lookup (AList.notMem_empty _) _

end Texts

section Serving
variable {w : Surroundings} {c : Nat} {message : Text} {frame : StompFrame} {s : ServerState}

/-- The server's maps, restricted to the handler of one connection. -/
def view (c : Nat) (s : ServerState) : Table := fun ch => s.subscription ch (some ⟨c⟩)

theorem quiet_receipt (message : Text) (frame : StompFrame) {receiptID : Option Text}
    {s' : ServerState} (changed : Quiet c (begun c message frame s) s') :
    Quiet c s (answered w c (receiptFrame receiptID) s') := by
  have started : Quiet c s (begun c message frame s) := (untouched_begun frame).toQuiet
  have named : commandOf ((receiptFrame receiptID).createFrame w.headers) ≠ "ERROR" := by
    rw [receipt_command]
    decide
  exact quiet_trans (quiet_trans started changed) (untouched_answered (Or.inr named)).toQuiet

theorem first_match_only {channel : Text} {id : Int} (cached : sameInteger id id)
    (held : view c s channel = some id) (only : ∀ ch, view c s ch = some id → ch = channel) :
    firstMatch w id (some ⟨c⟩) s = some channel := by
  have listed : s.subscription channel (some ⟨c⟩) ≠ none := by
    change view c s channel ≠ none
    simp [held]
  obtain ⟨i, current, _⟩ := index_of_subscription listed
  have known : channel ∈ s.channelsSubscriptions.keys :=
    AList.mem_keys.mp (AList.lookup_isSome.mp (by simp [current]))
  have matches_it : matching id (some ⟨c⟩) s channel = true := by
    change (view c s channel).any (fun held => sameInteger held id) = true
    simp [held, cached]
  unfold firstMatch
  cases found : (w.channels.order s.channelsSubscriptions.keys).find?
      (matching id (some ⟨c⟩) s) with
  | none =>
    have missed := List.find?_eq_none.mp found channel (w.channels.mem_order.mpr known)
    exact absurd matches_it missed
  | some ch =>
    have hit : matching id (some ⟨c⟩) s ch = true := List.find?_some found
    change (view c s ch).any (fun held => sameInteger held id) = true at hit
    cases other : view c s ch with
    | none => simp [other] at hit
    | some id' =>
      have same : sameInteger id' id := by simpa [other] using hit
      rw [only ch (same.1 ▸ other)]

theorem first_match_large {id : Int} (large : 127 < id) (h : HandlerRef) (s : ServerState) :
    firstMatch w id h s = none := by
  refine List.find?_eq_none.mpr fun ch _ hit => ?_
  change (s.subscription ch h).any (fun held => sameInteger held id) = true at hit
  cases held : s.subscription ch h with
  | none => simp [held] at hit
  | some id' =>
    have same : sameInteger id' id := by simpa [held] using hit
    obtain ⟨rfl, _, high⟩ := same
    omega

variable (parsed : StompFrame.ofText message = .ok frame)
  (active : s.activeClients.lookup c = some ⟨c⟩)
include parsed active

theorem subscribe_served {channel : Text} {id : Int} (command : frame.command = "SUBSCRIBE")
    (target : header frame.headers "destination" = some channel)
    (number : parseIntOf (header frame.headers "id") = .done id)
    (absent : view c s channel = none) :
    view c (processed w c message s) = Function.update (view c s) channel (some id) ∧
      Quiet c s (processed w c message s) := by
  obtain ⟨s', added, ran⟩ := subscribe_done w (c := c) target number
    (s := begun c message frame s) active absent
  rw [← dispatch_subscribe command] at ran
  rw [processed_eq parsed ran]
  constructor
  · funext ch
    change s'.subscription ch (some ⟨c⟩) = _
    rw [added.view]
    by_cases here : ch = channel
    · simp [here]
    · simp only [here, false_and, if_false, Function.update_of_ne here]
      rfl
  · refine quiet_receipt message frame
      ⟨by rw [added.frame], fun text member _ => ?_⟩
    rwa [added.frame] at member

theorem unsubscribe_served {channel : Text} {id : Int} (command : frame.command = "UNSUBSCRIBE")
    (number : parseIntOf (header frame.headers "id") = .done id) (cached : sameInteger id id)
    (held : view c s channel = some id) (only : ∀ ch, view c s ch = some id → ch = channel) :
    view c (processed w c message s) = Function.update (view c s) channel none ∧
      Quiet c s (processed w c message s) := by
  have here : firstMatch w id (some ⟨c⟩) (begun c message frame s) = some channel :=
    first_match_only (s := begun c message frame s) cached held only
  rcases unsubscribe_cases w (c := c) (s := begun c message frame s) number active with
    ⟨nothing, _⟩ | ⟨ch, i, found, current, ran⟩
  · cases here.symm.trans nothing
  · cases here.symm.trans found
    rw [← dispatch_unsubscribe command] at ran
    rw [processed_eq parsed ran]
    constructor
    · funext ch
      change ((begun c message frame s).removeSubscription ⟨channel, i⟩
        (some ⟨c⟩)).subscription ch (some ⟨c⟩) = _
      rw [ServerState.subscription_remove current]
      by_cases same : ch = channel
      · simp [same]
      · simp only [same, false_and, if_false, Function.update_of_ne same]
        rfl
    · exact quiet_receipt message frame ⟨rfl, fun _ member _ => member⟩

theorem unsubscribe_large {id : Int} (command : frame.command = "UNSUBSCRIBE")
    (number : parseIntOf (header frame.headers "id") = .done id) (large : 127 < id) :
    ∃ text, .sent ⟨c⟩ text ∈ (processed w c message s).log ∧ commandOf text = "ERROR" := by
  have missed := first_match_large (w := w) large (some ⟨c⟩) (begun c message frame s)
  rcases unsubscribe_cases w (c := c) (s := begun c message frame s) number active with
    ⟨_, ran⟩ | ⟨ch, i, found, _⟩
  · rw [← dispatch_unsubscribe command] at ran
    rw [processed_eq parsed ran]
    have error := error_command w.headers (notSubscribedId (header frame.headers "receipt")
      (header frame.headers "id")).headers
    refine ⟨_, ?_, error⟩
    rcases cleaned_up_log w c (answered w c (notSubscribedId (header frame.headers "receipt")
      (header frame.headers "id")) (begun c message frame s)) with same | more
    · rw [same]
      exact List.mem_cons_self
    · rw [more]
      exact List.mem_cons_of_mem _ List.mem_cons_self
  · cases missed.symm.trans found

theorem send_served {channel : Text} {id : Int} (command : frame.command = "SEND")
    (target : header frame.headers "destination" = some channel)
    (held : view c s channel = some id) (valid : id ≠ -1) :
    view c (processed w c message s) = view c s ∧ Quiet c s (processed w c message s) := by
  have subscribed : (begun c message frame s).subscription channel
      ((begun c message frame s).activeClients.lookup c) = some id := by
    change s.subscription channel (s.activeClients.lookup c) = some id
    rw [active]
    exact held
  obtain ⟨result, s₁, moved, ran⟩ := process_send_accepted w frame.body target subscribed valid
  rw [← dispatch_send command] at ran
  rw [processed_eq parsed ran, moved]
  have named : commandOf ((messageFrame id ((begun c message frame s).protocol c).messageID
      channel frame.body).createFrame w.headers) ≠ "ERROR" := by
    rw [message_command]
    decide
  have started : Untouched c s (begun c message frame s) := untouched_begun frame
  have counted : Untouched c (begun c message frame s) ((begun c message frame s).setProtocol c
      ⟨((begun c message frame s).protocol c).shouldTerminate,
        wrapInt (((begun c message frame s).protocol c).messageID + 1)⟩) :=
    untouched_unrecorded rfl rfl fun _ => rfl
  have all := untouched_trans (untouched_trans started counted) (untouched_deliver named
    (recipients w (begun c message frame s) channel))
  exact ⟨funext all.view, all.toQuiet⟩

end Serving

section Requests
variable {w : Surroundings} {c : Nat} {s : ServerState} {t : Table}

theorem number_read {headers : HashMap Text Text} {id : Int} (range : IntRange id)
    (held : headers.lookup "id".toList = some (decimal id)) :
    parseIntOf (header headers "id") = .done id := by
  change parseIntOf (headers.lookup "id".toList) = .done id
  rw [held]
  simp [parseIntOf, parseInt_decimal range]

theorem request_served {r : Request} (active : s.activeClients.lookup c = some ⟨c⟩)
    (step : Step r (view c s) t) :
    view c (processed w c r.frame.createFrame s) = t ∧
      Quiet c s (processed w c r.frame.createFrame s) := by
  obtain ⟨sound, effect⟩ := step
  obtain ⟨headers, parsed, same⟩ := (request_sendable sound).parsed
  cases r with
  | subscribe channel id receipt =>
    obtain ⟨absent, rfl⟩ := effect
    obtain ⟨target, number⟩ := subscribe_headers channel id receipt
    exact subscribe_served parsed active rfl ((same _).trans target)
      (number_read sound.2 ((same _).trans number)) absent
  | unsubscribe channel id receipt =>
    obtain ⟨held, only, rfl⟩ := effect
    obtain ⟨low, high⟩ := sound
    have range : IntRange id := ⟨by omega, by omega⟩
    have cached : sameInteger id id := ⟨rfl, by omega, by omega⟩
    exact unsubscribe_served parsed active rfl
      (number_read range ((same _).trans (unsubscribe_header id receipt))) cached held only
  | send channel body =>
    obtain ⟨⟨id, held, valid⟩, rfl⟩ := effect
    exact send_served parsed active rfl ((same _).trans (destination_found channel)) held valid

end Requests

end SubscriptionRequests
