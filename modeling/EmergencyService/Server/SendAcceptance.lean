import EmergencyService.Server.FrameOutcome
import EmergencyService.Server.MessageRelay
import EmergencyService.Server.ReplyCount

/- Which SEND frames are accepted, and who is sent what for them. -/
namespace SendAcceptance
open JavaRuntime JavaFrame AtomicProgram MapCalls ConnectionsImpl StompProtocolImpl
open SubscriptionSweep ProcessRun FrameEvents BranchOutcomes FrameOutcome HandlerThreads ServerRuns
open CallFootprint ReplyCount MessageRelay

/-- The sender is sent no ERROR. -/
def Accepted (c : Nat) (events : List Event) : Prop :=
  ∀ text, .sent ⟨c⟩ text ∈ events → commandOf text ≠ "ERROR"

def InMap (channel : Text) (s : ServerState) (r : ConnectionHandler) : Prop :=
  s.subscription channel (some r) ≠ none

structure SameMaps (s s' : ServerState) : Prop where
  activeClients : s'.activeClients = s.activeClients
  channelsSubscriptions : s'.channelsSubscriptions = s.channelsSubscriptions
  subscriptionMaps : s'.subscriptionMaps = s.subscriptionMaps
  users : s'.users = s.users
  loggedInUsers : s'.loggedInUsers = s.loggedInUsers

/-- One MESSAGE for the channel, with the body, goes to each handler in its map, nothing to
    any other one, and the maps are as before. -/
structure Relays (w : Surroundings) (channel body : Text) (s s' : ServerState) : Prop where
  members : ∀ r, InMap channel s r → ∃ id messageID, framesTo r.connectionID (newEvents s s') =
    [(messageFrame id messageID channel body).createFrame w.headers]
  others : ∀ r, ¬ InMap channel s r → framesTo r.connectionID (newEvents s s') = []
  maps : SameMaps s s'

/-- What a SEND of connection `c` to the channel is to do. -/
structure SendRule (w : Surroundings) (c : Nat) (channel body : Text) (s s' : ServerState) :
    Prop where
  accepted : Accepted c (newEvents s s') ↔ InMap channel s ⟨c⟩
  relayed : Accepted c (newEvents s s') → Relays w channel body s s'
  refused : ¬ Accepted c (newEvents s s') →
    ∀ r : ConnectionHandler, r ≠ ⟨c⟩ → framesTo r.connectionID (newEvents s s') = []

/-- The null key of a channel's map, if it has one, is the last that an iterator gives. -/
def NullLast (w : Surroundings) (channel : Text) (s : ServerState) : Prop :=
  ∀ i, s.channelsSubscriptions.lookup channel = some i →
    none ∈ (s.subscriptionMaps channel i).entries →
      ((w.subscribers channel).order (s.subscriptionMaps channel i).entries.keys).getLast? =
        some none

section Reached
variable {keys : List HandlerRef}

theorem reached_sublist (keys : List HandlerRef) :
    ((reachedHandlers keys).map some).Sublist keys := by
  induction keys with
  | nil => exact List.Sublist.refl _
  | cons key rest ih =>
    cases key with
    | none => exact List.nil_sublist _
    | some h => exact ih.cons_cons _

theorem reached_nodup (distinct : keys.Nodup) : (reachedHandlers keys).Nodup :=
  (distinct.sublist (reached_sublist keys)).of_map some

theorem reaches_all_iff (distinct : keys.Nodup) :
    (∀ r, some r ∈ keys → r ∈ reachedHandlers keys) ↔
      (none ∈ keys → keys.getLast? = some none) := by
  induction keys with
  | nil => simp [reachedHandlers]
  | cons key rest ih =>
    obtain ⟨fresh, others⟩ := List.nodup_cons.mp distinct
    cases key with
    | none =>
      rw [last_of_first fresh]
      constructor
      · intro all _
        apply List.eq_nil_iff_forall_not_mem.mpr
        intro key member
        cases key with
        | none => exact fresh member
        | some r => exact absurd (all r (List.mem_cons_of_mem _ member)) List.not_mem_nil
      · intro last r member
        rw [last List.mem_cons_self] at member
        simp at member
    | some h =>
      have rest_iff := ih others
      constructor
      · intro all member
        have later : none ∈ rest := by simpa using member
        rw [last_of_cons later]
        apply rest_iff.mp _ later
        intro r inside
        rcases List.mem_cons.mp (all r (List.mem_cons_of_mem _ inside)) with same | reached
        · rw [same] at inside
          exact absurd inside fresh
        · exact reached
      · intro last r member
        rcases List.mem_cons.mp member with same | inside
        · rw [Option.some.inj same]
          exact List.mem_cons_self
        · apply List.mem_cons_of_mem
          apply rest_iff.mpr _ r inside
          intro later
          rw [← last_of_cons (a := some h) later]
          exact last (List.mem_cons_of_mem _ later)

end Reached
section Recipients
variable {w : Surroundings} {channel : Text} {s : ServerState}

theorem in_map_iff {i : Nat} (current : s.channelsSubscriptions.lookup channel = some i)
    (r : ConnectionHandler) :
    InMap channel s r ↔ some r ∈ (w.subscribers channel).order
      (s.subscriptionMaps channel i).entries.keys := by
  rw [IterationOrder.mem_order]
  exact (subscription_iff_mem current).trans AList.mem_keys

theorem recipients_nodup : (recipients w s channel).Nodup := by
  unfold recipients
  split
  · exact List.nodup_nil
  · exact reached_nodup (IterationOrder.order_nodup _ (AList.keys_nodup _))

theorem recipients_in_map {r : ConnectionHandler} (member : r ∈ recipients w s channel) :
    InMap channel s r := by
  unfold recipients at member
  split at member
  · cases member
  · rename_i i current
    rw [in_map_iff (w := w) current]
    have inside := List.mem_map_of_mem (f := some) member
    exact (reached_sublist _).subset inside

theorem recipients_all_iff :
    (∀ r, InMap channel s r → r ∈ recipients w s channel) ↔ NullLast w channel s := by
  cases current : s.channelsSubscriptions.lookup channel with
  | none =>
    constructor
    · intro _ i found
      rw [current] at found
      cases found
    · intro _ r inside
      exact absurd (by simp [ServerState.subscription, current]) inside
  | some i =>
    have distinct := IterationOrder.order_nodup (w.subscribers channel)
      (AList.keys_nodup (s.subscriptionMaps channel i).entries)
    have all := reaches_all_iff distinct
    have reached : recipients w s channel = reachedHandlers ((w.subscribers channel).order
        (s.subscriptionMaps channel i).entries.keys) := by
      simp [recipients, current]
    rw [reached]
    simp only [in_map_iff (w := w) current]
    rw [all, IterationOrder.mem_order]
    constructor
    · intro last j found
      rw [current] at found
      cases found
      exact last
    · intro last inside
      exact last i current (AList.mem_keys.mpr inside)

end Recipients

section Counting
variable {c : Nat}

theorem frames_to_append (first later : List Event) :
    framesTo c (first ++ later) = framesTo c first ++ framesTo c later := by
  simp [framesTo, sentFrames, List.filterMap_append, List.filter_append]

theorem frames_to_one (h : ConnectionHandler) (msg : Text) :
    framesTo c [.sent h msg] = if h = ⟨c⟩ then [msg] else [] := by
  unfold framesTo sentFrames
  by_cases own : h = ⟨c⟩
  · simp [own]
  · simp [own]

theorem frames_to_deliver (d : Nat) (msg message : Text) (handlers : List ConnectionHandler) :
    framesTo c ((handlers.map fun h => Event.sent h msg).reverse ++ [.received d message]) =
      List.replicate (handlers.count ⟨c⟩) msg := by
  have received : framesTo c [.received d message] = [] := rfl
  rw [frames_to_append, received, List.append_nil]
  induction handlers with
  | nil => rfl
  | cons h rest ih =>
    rw [List.map_cons, List.reverse_cons, frames_to_append, ih, frames_to_one]
    by_cases own : h = ⟨c⟩
    · rw [own, if_pos rfl, List.count_cons_self, List.replicate_succ']
    · rw [if_neg own, List.append_nil, List.count_cons_of_ne own]

end Counting

section Send
variable {w : Surroundings} {c : Nat} {message channel : Text} {frame : StompFrame}
  {s : ServerState}

theorem refused_frames (parsed : StompFrame.ofText message = .ok frame)
    (command : frame.command = "SEND")
    (target : header frame.headers "destination" = some channel)
    (own : s.activeClients.lookup c = some ⟨c⟩)
    (refused : (s.subscription channel (some ⟨c⟩)).getD (-1) = -1) :
    sentFrames (newEvents s (processed w c message s)) =
      [(⟨c⟩, (notSubscribedTo (some channel)).createFrame w.headers),
        (⟨c⟩, (notSubscribedTo (some channel)).createFrame w.headers)] := by
  have ran := process_send_refused w frame.body (s := begun c message frame s) target
    (own ▸ refused) own
  rw [processed_eq parsed ((dispatch_send command).symm ▸ ran)]
  exact twice_refused w rfl

theorem accepted_frames (parsed : StompFrame.ofText message = .ok frame)
    (command : frame.command = "SEND")
    (target : header frame.headers "destination" = some channel)
    (own : s.activeClients.lookup c = some ⟨c⟩) {id : Int}
    (held : s.subscription channel (some ⟨c⟩) = some id) (valid : id ≠ -1) :
    Accepted c (newEvents s (processed w c message s)) ∧
      ∀ r : ConnectionHandler, framesTo r.connectionID (newEvents s (processed w c message s)) =
        if r ∈ recipients w s channel then
          [(messageFrame id (s.protocol c).messageID channel frame.body).createFrame w.headers]
        else [] := by
  have events := send_accepted_events (w := w) parsed command target (own ▸ held) valid
  rw [events]
  constructor
  · intro text sent
    simp only [List.mem_append, List.mem_reverse, List.mem_map, List.mem_singleton,
      reduceCtorEq, or_false, Event.sent.injEq] at sent
    obtain ⟨_, _, _, rfl⟩ := sent
    rw [message_command]
    decide
  · intro r
    rw [frames_to_deliver]
    by_cases member : r ∈ recipients w s channel
    · rw [if_pos member, List.count_eq_one_of_mem recipients_nodup member]
      rfl
    · rw [if_neg member, List.count_eq_zero.mpr member]
      rfl

theorem accepted_maps (parsed : StompFrame.ofText message = .ok frame)
    (command : frame.command = "SEND")
    (target : header frame.headers "destination" = some channel)
    (own : s.activeClients.lookup c = some ⟨c⟩) {id : Int}
    (held : s.subscription channel (some ⟨c⟩) = some id) (valid : id ≠ -1) :
    SameMaps s (processed w c message s) := by
  obtain ⟨result, s₁, moved, ran⟩ := process_send_accepted w frame.body target
    (s := begun c message frame s) (own ▸ held) valid
  rw [processed_eq parsed ((dispatch_send command).symm ▸ ran), moved]
  exact ⟨rfl, rfl, rfl, rfl, rfl⟩

theorem refused_rule_iff (parsed : StompFrame.ofText message = .ok frame)
    (command : frame.command = "SEND")
    (target : header frame.headers "destination" = some channel)
    (own : s.activeClients.lookup c = some ⟨c⟩)
    (refused : (s.subscription channel (some ⟨c⟩)).getD (-1) = -1) :
    SendRule w c channel frame.body s (processed w c message s) ↔ ¬ InMap channel s ⟨c⟩ := by
  have frames := refused_frames (w := w) parsed command target own refused
  have error : ¬ Accepted c (newEvents s (processed w c message s)) := by
    intro accepted
    apply accepted _ ((sent_iff_frame _ _ _).mpr (by rw [frames]; exact List.mem_cons_self))
    exact error_command w.headers _
  constructor
  · intro rule inside
    exact error (rule.accepted.mpr inside)
  · intro outside
    constructor
    · exact ⟨fun accepted => absurd accepted error, fun inside => absurd inside outside⟩
    · exact fun accepted => absurd accepted error
    · intro _ r other
      simp [framesTo, frames, Ne.symm other]

theorem accepted_rule_iff (parsed : StompFrame.ofText message = .ok frame)
    (command : frame.command = "SEND")
    (target : header frame.headers "destination" = some channel)
    (own : s.activeClients.lookup c = some ⟨c⟩) {id : Int}
    (held : s.subscription channel (some ⟨c⟩) = some id) (valid : id ≠ -1) :
    SendRule w c channel frame.body s (processed w c message s) ↔
      ∀ r, InMap channel s r → r ∈ recipients w s channel := by
  obtain ⟨accepted, frames⟩ := accepted_frames (w := w) parsed command target own held valid
  constructor
  · intro rule r member
    obtain ⟨_, _, one⟩ := (rule.relayed accepted).members r member
    rw [frames r] at one
    by_contra missed
    rw [if_neg missed] at one
    cases one
  · intro all
    have inside : InMap channel s ⟨c⟩ := by simp [InMap, held]
    constructor
    · exact ⟨fun _ => inside, fun _ => accepted⟩
    · intro _
      constructor
      · intro r member
        exact ⟨id, (s.protocol c).messageID, by rw [frames r, if_pos (all r member)]⟩
      · intro r outside
        rw [frames r, if_neg fun member => outside (recipients_in_map member)]
      · exact accepted_maps parsed command target own held valid
    · exact fun error => absurd accepted error

/-- A SEND does what it is to do exactly when its sender does not have the id that stands for
    no subscription, and, if it is subscribed, no handler comes behind a null key. -/
theorem send_rule_iff (reachable : ReachableState s)
    (parsed : StompFrame.ofText message = .ok frame) (command : frame.command = "SEND")
    (target : header frame.headers "destination" = some channel) (active : c ∈ s.activeClients) :
    SendRule w c channel frame.body s (processed w c message s) ↔
      s.subscription channel (some ⟨c⟩) ≠ some (-1) ∧
        (InMap channel s ⟨c⟩ → NullLast w channel s) := by
  have own := own_handler (handler_ids_reachable reachable) active
  cases held : s.subscription channel (some ⟨c⟩) with
  | none =>
    have refused : (s.subscription channel (some ⟨c⟩)).getD (-1) = -1 := by rw [held]; rfl
    have outside : ¬ InMap channel s ⟨c⟩ := fun inside => inside held
    rw [refused_rule_iff parsed command target own refused]
    constructor
    · intro _
      exact ⟨nofun, fun inside => absurd inside outside⟩
    · intro _
      exact outside
  | some id =>
    have inside : InMap channel s ⟨c⟩ := by simp [InMap, held]
    by_cases marker : id = -1
    · subst marker
      have refused : (s.subscription channel (some ⟨c⟩)).getD (-1) = -1 := by rw [held]; rfl
      rw [refused_rule_iff parsed command target own refused]
      constructor
      · exact fun outside => absurd inside outside
      · exact fun unmarked => absurd rfl unmarked.1
    · rw [accepted_rule_iff parsed command target own held marker, recipients_all_iff]
      constructor
      · intro last
        exact ⟨fun same => marker (Option.some.inj same), fun _ => last⟩
      · intro rule
        exact rule.2 inside

end Send

section Example

theorem pair_send_rule :
    SendRule .plain 0 "police" sentFrame.body (pairSubscribed "7" "9")
      (processed .plain 0 sendText (pairSubscribed "7" "9")) := by
  have parsed : StompFrame.ofText sendText = .ok sentFrame := rfl
  have active : 0 ∈ (pairSubscribed "7" "9").activeClients := by decide +kernel
  apply (send_rule_iff (pair_reachable rfl) parsed rfl rfl active).mpr
  constructor
  · decide +kernel
  · intro _ i current null
    have only : (pairSubscribed "7" "9").subscription "police" none = none := by decide +kernel
    exact absurd only ((subscription_iff_mem current).mpr null)

/-- A subscriber whose id is -1 is told that it is not subscribed. -/
theorem marker_id_refused :
    ReachableState (pairSubscribed "-1" "9") ∧
      (pairSubscribed "-1" "9").subscription "police" (some ⟨0⟩) = some (-1) ∧
      ¬ SendRule .plain 0 "police" sentFrame.body (pairSubscribed "-1" "9")
        (processed .plain 0 sendText (pairSubscribed "-1" "9")) := by
  have held : (pairSubscribed "-1" "9").subscription "police" (some ⟨0⟩) = some (-1) := by
    decide +kernel
  have refused : .sent ⟨0⟩ ((notSubscribedTo (some "police")).createFrame .stored) ∈
      newEvents (pairSubscribed "-1" "9")
        (processed .plain 0 sendText (pairSubscribed "-1" "9")) := by decide +kernel
  apply And.intro (pair_reachable rfl)
  apply And.intro held
  intro rule
  have inside : InMap "police" (pairSubscribed "-1" "9") ⟨0⟩ := by
    rw [InMap, held]
    nofun
  have accepted := rule.accepted.mpr inside
  exact accepted _ refused (error_command .stored _)

end Example
end SendAcceptance
