import EmergencyService.Server.StompProtocolImpl
import EmergencyService.Server.SubscriptionSweep

/- What each part of `process` computes when it runs alone, one lemma for each method. -/
namespace ProcessRun
open JavaRuntime JavaFrame AtomicProgram MapCalls ConnectionsImpl StompProtocolImpl
open SubscriptionSweep

variable (w : Surroundings) (c : Nat) (s : ServerState)

section Replies
variable {c s} {h : ConnectionHandler}

theorem send_run (active : s.activeClients.lookup c = some h) (msg : Text) :
    run exec (send c msg) s = (.ok true, s.record (.sent h msg)) := by
  simp [send, run_bind, active]

theorem send_missing (missing : s.activeClients.lookup c = none) (msg : Text) :
    run exec (send c msg) s = (.error .nullPointer, s) := by
  simp [send, run_bind, missing]

end Replies

section Cleanup

def closed : ServerState := { s with connected := Function.update s.connected c false }

/-- The end of the cleanup, after `disconnect` has returned. -/
def removed : ServerState :=
  { s with activeClients := s.activeClients.erase c }.setProtocol c
    ⟨true, (s.protocol c).messageID⟩

def cleanedUp : ServerState :=
  if w.closeFails then closed c s
  else match run exec (disconnect w c) (closed c s) with
    | (.ok _, s') => removed c s'
    | (.error _, s') => s'

variable {c s}

theorem close_after_error_run (active : s.activeClients.lookup c = some ⟨c⟩) :
    run exec (closeAfterError w c) s = (.ok (), cleanedUp w c s) := by
  have shut : run exec (closeHandler w (some ⟨c⟩)) s =
      (if w.closeFails then .error .io else .ok (), closed c s) := by
    by_cases fails : w.closeFails <;> simp [closeHandler, run_bind, fails, closed]
  unfold closeAfterError cleanedUp getConnection removeConnection
  rw [run_catching]
  simp only [run_bind, run_activeClients_get, active, shut]
  by_cases fails : w.closeFails
  · simp [fails]
  · simp only [fails, if_false, Bool.false_eq_true]
    cases ran : run exec (disconnect w c) (closed c s) with
    | mk result s' =>
      cases result with
      | error e => simp
      | ok done => simp [removed]

/-- The three ways the cleanup can go: the socket does not close, everything is done, or
    an iterator of `disconnect` fails and the exception is swallowed. -/
theorem cleaned_up_cases :
    (w.closeFails = true ∧ cleanedUp w c s = closed c s) ∨
    (w.closeFails = false ∧ ∃ s', Disconnected w c (closed c s) (.ok ()) s' ∧
      cleanedUp w c s = removed c s') ∨
    (w.closeFails = false ∧ ∃ e s', Disconnected w c (closed c s) (.error e) s' ∧
      cleanedUp w c s = s') := by
  unfold cleanedUp
  by_cases fails : w.closeFails
  · simp [fails]
  · simp only [fails, if_false, Bool.false_eq_true]
    obtain ⟨result, s', ran, effect⟩ := disconnect_run w c (closed c s)
    rw [ran]
    cases result with
    | ok done => exact Or.inr (Or.inl ⟨trivial, s', effect, rfl⟩)
    | error e => exact Or.inr (Or.inr ⟨trivial, e, s', effect, rfl⟩)

theorem refuse_run (active : s.activeClients.lookup c = some ⟨c⟩) (frame : StompFrame) :
    run exec (refuse w c frame) s =
      (.ok (), cleanedUp w c (s.record (.sent ⟨c⟩ (frame.createFrame w.headers)))) := by
  have after : (s.record (.sent ⟨c⟩ (frame.createFrame w.headers))).activeClients.lookup c =
      some ⟨c⟩ := active
  simp [refuse, reply, run_bind, send_run active, close_after_error_run w after]

end Cleanup

section Subscriptions
variable {s}

theorem index_of_subscription {channel : Text} {h : HandlerRef}
    (held : s.subscription channel h ≠ none) :
    ∃ i, s.channelsSubscriptions.lookup channel = some i ∧
      h ∈ (s.subscriptionMaps channel i).entries := by
  unfold ServerState.subscription at held
  cases current : s.channelsSubscriptions.lookup channel with
  | none => simp [current] at held
  | some i =>
    refine ⟨i, rfl, AList.lookup_isSome.mp ?_⟩
    simpa [current, Option.isSome_iff_ne_none] using held

theorem subscription_iff_mem {channel : Text} {i : Nat} {h : HandlerRef}
    (current : s.channelsSubscriptions.lookup channel = some i) :
    s.subscription channel h ≠ none ↔ h ∈ (s.subscriptionMaps channel i).entries := by
  rw [ServerState.subscription_of_current current, ← AList.lookup_isSome,
    Option.isSome_iff_ne_none]

/-- A subscription was added: the handler holds the id, and nothing else has changed. -/
structure Subscribed (channel : Text) (id : Int) (h : HandlerRef) (s s' : ServerState) : Prop where
  frame : s' = { s with
    channelsSubscriptions := s'.channelsSubscriptions
    subscriptionMaps := s'.subscriptionMaps
    created := s'.created }
  view : ∀ ch h', s'.subscription ch h' =
    if ch = channel ∧ h' = h then some id else s.subscription ch h'

theorem add_subscription_refused {channel : Text} {h : HandlerRef} (id : Int)
    (held : s.subscription channel h ≠ none) :
    run exec (addChannelSubscription (some channel) id h) s = (.ok false, s) := by
  obtain ⟨i, current, member⟩ := index_of_subscription held
  have known : channel ∈ s.channelsSubscriptions := AList.lookup_isSome.mp (by simp [current])
  simp [addChannelSubscription, run_bind, known, current, ServerState.mapAt, member]

theorem add_subscription_run {channel : Text} {h : HandlerRef} (id : Int)
    (absent : s.subscription channel h = none) :
    ∃ s', run exec (addChannelSubscription (some channel) id h) s = (.ok true, s') ∧
      Subscribed channel id h s s' := by
  by_cases known : channel ∈ s.channelsSubscriptions
  · obtain ⟨i, current⟩ := Option.isSome_iff_exists.mp (AList.lookup_isSome.mpr known)
    have fresh : h ∉ (s.subscriptionMaps channel i).entries := by
      rw [← subscription_iff_mem current]
      simpa using absent
    refine ⟨s.putSubscription ⟨channel, i⟩ h id, ?_, rfl, ?_⟩
    · simp [addChannelSubscription, run_bind, known, current, ServerState.mapAt, fresh]
    · intro ch h'
      exact ServerState.subscription_put current h h' id ch
  · have unknown : s.channelsSubscriptions.lookup channel = none :=
      AList.lookup_eq_none.mpr known
    refine ⟨{ (s.createMap channel).putSubscription ⟨channel, s.created channel⟩ h id with
      channelsSubscriptions := s.channelsSubscriptions.insert channel (s.created channel) },
      ?_, rfl, ?_⟩
    · simp [addChannelSubscription, run_bind, known]
      rfl
    · intro ch h'
      by_cases here : ch = channel
      · subst here
        by_cases same : h' = h
        · subst same
          simp [ServerState.subscription, ServerState.putSubscription, ServerState.setMap,
            ServerState.createMap, ServerState.mapAt, -AList.insert_empty]
        · simp [ServerState.subscription, ServerState.putSubscription, ServerState.setMap,
            ServerState.createMap, ServerState.mapAt, same, unknown, -AList.insert_empty,
            AList.lookup_insert_ne same]
      · simp [ServerState.subscription, ServerState.putSubscription, ServerState.setMap,
          ServerState.createMap, here]

/-- The channel that `removeChannelSubscription` stops at. -/
def matching (id : Int) (h : HandlerRef) (s : ServerState) (channel : Text) : Bool :=
  (s.subscription channel h).any fun held => sameInteger held id

theorem remove_from_run (id : Int) (h : HandlerRef) (channels : List Text)
    (known : ∀ ch ∈ channels, ch ∈ s.channelsSubscriptions) :
    (channels.find? (matching id h s) = none ∧
      run exec (removeFrom id h channels) s = (.ok false, s)) ∨
    ∃ ch i, channels.find? (matching id h s) = some ch ∧
      s.channelsSubscriptions.lookup ch = some i ∧
      run exec (removeFrom id h channels) s = (.ok true, s.removeSubscription ⟨ch, i⟩ h) := by
  induction channels with
  | nil => exact Or.inl ⟨rfl, rfl⟩
  | cons channel rest ih =>
    have later := ih fun ch member => known ch (List.mem_cons_of_mem _ member)
    obtain ⟨i, current⟩ := Option.isSome_iff_exists.mp
      (AList.lookup_isSome.mpr (known channel List.mem_cons_self))
    have view := ServerState.subscription_of_current current h
    by_cases hit : matching id h s channel = true
    · refine Or.inr ⟨channel, i, by simp [hit], current, ?_⟩
      have member : h ∈ (s.subscriptionMaps channel i).entries := by
        rw [← subscription_iff_mem current]
        intro absent
        simp [matching, absent] at hit
      rw [matching, view] at hit
      simp [removeFrom, run_bind, current, ServerState.mapAt, member, hit]
    · have skip : run exec (removeFrom id h (channel :: rest)) s =
          run exec (removeFrom id h rest) s := by
        by_cases member : h ∈ (s.subscriptionMaps channel i).entries
        · rw [matching, view] at hit
          simp [removeFrom, run_bind, current, ServerState.mapAt, member, hit]
        · simp [removeFrom, run_bind, current, ServerState.mapAt, member]
      rw [skip, List.find?_cons_of_neg hit]
      exact later

theorem held_of_accepted {held : Option Int} (accepted : ¬ held.getD (-1) = -1) :
    ∃ id, held = some id ∧ id ≠ -1 := by
  cases held with
  | none => exact absurd rfl accepted
  | some id => exact ⟨id, rfl, accepted⟩

theorem get_user_sub_id_run (channel : Text) :
    run exec (getUserSubID (some channel) c) s =
      (.ok ((s.subscription channel (s.activeClients.lookup c)).getD (-1)), s) := by
  cases current : s.channelsSubscriptions.lookup channel with
  | none =>
    have unknown : channel ∉ s.channelsSubscriptions := AList.lookup_eq_none.mp current
    simp [getUserSubID, run_bind, unknown, ServerState.subscription, current]
  | some i =>
    have known : channel ∈ s.channelsSubscriptions := AList.lookup_isSome.mp (by simp [current])
    have view := ServerState.subscription_of_current current (s.activeClients.lookup c)
    cases held : s.subscription channel (s.activeClients.lookup c) with
    | none =>
      have absent : s.activeClients.lookup c ∉ (s.subscriptionMaps channel i).entries := by
        rw [← subscription_iff_mem current]
        simpa using held
      simp [getUserSubID, run_bind, known, current, ServerState.mapAt, absent]
    | some id =>
      have member : s.activeClients.lookup c ∈ (s.subscriptionMaps channel i).entries := by
        rw [← subscription_iff_mem current]
        simp [held]
      rw [held] at view
      simp [getUserSubID, run_bind, known, current, ServerState.mapAt, member, ← view]

end Subscriptions

end ProcessRun
