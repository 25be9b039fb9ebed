import EmergencyService.Server.ConnectionsImpl

/- What `disconnect` computes. Its inner loops remove one handler, the one registered
   under the static counter; a loop fails when that handler is not the last one that its
   iterator hands out. -/
namespace SubscriptionSweep
open JavaRuntime AtomicProgram MapCalls ConnectionsImpl

variable (w : Surroundings)

theorem last_of_cons {α : Type} {a v : α} {rest : List α} (later : v ∈ rest) :
    (a :: rest).getLast? = some v ↔ rest.getLast? = some v := by
  cases rest with
  | nil => simp at later
  | cons b more => simp

theorem last_of_first {α : Type} {v : α} {rest : List α} (fresh : v ∉ rest) :
    (v :: rest).getLast? = some v ↔ rest = [] := by
  constructor
  · intro last
    cases rest with
    | nil => rfl
    | cons b more =>
      rw [List.getLast?_cons_cons] at last
      exact absurd (List.mem_of_getLast? last) fresh
  · intro empty
    simp [empty]

theorem mod_count_remove (s : ServerState) (ref : MapRef) (h : HandlerRef)
    (member : h ∈ (s.mapAt ref).entries) :
    ((s.removeSubscription ref h).mapAt ref).modCount = (s.mapAt ref).modCount + 1 := by
  simp [ServerState.removeSubscription, ServerState.setMap, ServerState.mapAt] at member ⊢
  simp [member]

theorem loop_run (s : ServerState) (ref : MapRef) (keys : List HandlerRef)
    (distinct : keys.Nodup) (present : ∀ k ∈ keys, k ∈ (s.mapAt ref).entries) :
    run exec (forEachKey ref (s.mapAt ref).modCount (removeIfCounted ref) keys) s =
      if s.counted ∈ keys then
        (if keys.getLast? = some s.counted then .ok () else .error .concurrentModification,
          s.removeSubscription ref s.counted)
      else (.ok (), s) := by
  induction keys with
  | nil => simp [forEachKey]
  | cons k rest ih =>
    obtain ⟨fresh, distinct⟩ := List.nodup_cons.mp distinct
    have later := ih distinct fun k' m => present k' (List.mem_cons_of_mem k m)
    by_cases found : k = s.counted
    · subst found
      have changed := mod_count_remove s ref _ (present _ List.mem_cons_self)
      have last := last_of_first fresh
      cases rest with
      | nil => simp [forEachKey, removeIfCounted, run_bind, ServerState.counted]
      | cons next more =>
        simp only [reduceCtorEq, iff_false] at last
        simp [forEachKey, removeIfCounted, run_bind, ServerState.counted] at changed last ⊢
        simp [changed, last]
    · have other : s.counted ∈ k :: rest ↔ s.counted ∈ rest := by
        simp [Ne.symm found]
      have step : run exec (forEachKey ref (s.mapAt ref).modCount (removeIfCounted ref)
          (k :: rest)) s = run exec (forEachKey ref (s.mapAt ref).modCount
          (removeIfCounted ref) rest) s := by
        have skip : ¬ k = s.activeClients.lookup s.connectionID := found
        simp [forEachKey, removeIfCounted, run_bind, skip]
      rw [step, later]
      by_cases inside : s.counted ∈ rest
      · simp only [other, inside, if_true, last_of_cons inside]
      · simp only [other, inside, if_false]

/-- The handler looked for is not in the map of the channel, or its iterator hands it
    out last. -/
def LastIfPresent (s : ServerState) (channel : Text) : Prop :=
  ∀ i, s.channelsSubscriptions.lookup channel = some i →
    s.counted ∈ (s.subscriptionMaps channel i).entries →
      ((w.subscribers channel).order (s.subscriptionMaps channel i).entries.keys).getLast? =
        some s.counted

theorem sweep_channel_run {s : ServerState} {channel : Text} {i : Nat}
    (current : s.channelsSubscriptions.lookup channel = some i) :
    run exec (sweepChannel w channel) s =
      if s.counted ∈ (s.subscriptionMaps channel i).entries then
        (if ((w.subscribers channel).order
            (s.subscriptionMaps channel i).entries.keys).getLast? = some s.counted
          then .ok () else .error .concurrentModification,
          s.removeSubscription ⟨channel, i⟩ s.counted)
      else (.ok (), s) := by
  have loop := loop_run s ⟨channel, i⟩
    ((w.subscribers channel).order (s.subscriptionMaps channel i).entries.keys)
    (IterationOrder.order_nodup _ (AList.keys_nodup _))
    (fun k member => AList.mem_keys.mpr ((w.subscribers channel).mem_order.mp member))
  simp only [IterationOrder.mem_order, ← AList.mem_keys] at loop
  simp only [sweepChannel, run_bind, run_channelsSubscriptions_get, current, Option.map_some,
    run_deref_some, run_map_iterator]
  exact loop

/-- A sweep gets to a channel when no iterator fails before. -/
def Reaches (channels : List Text) (s : ServerState) (channel : Text) : Prop :=
  ∀ before after, channels = before ++ channel :: after → ∀ ch ∈ before, LastIfPresent w s ch

/-- What a sweep over some channels does to the state it starts from. -/
structure Swept (channels : List Text) (s : ServerState) (result : Except JavaException Unit)
    (s' : ServerState) : Prop where
  frame : s' = { s with subscriptionMaps := s'.subscriptionMaps }
  away : ∀ ch, ch ∉ channels → s'.subscriptionMaps ch = s.subscriptionMaps ch
  others : ∀ ch h, h ≠ s.counted → s'.subscription ch h = s.subscription ch h
  fewer : ∀ ch h, s'.subscription ch h = none ∨ s'.subscription ch h = s.subscription ch h
  gone : result = .ok () → ∀ ch ∈ channels, s'.subscription ch s.counted = none
  reached : ∀ ch ∈ channels, Reaches w channels s ch → s'.subscription ch s.counted = none
  ending : result = .ok () ∨ result = .error .concurrentModification
  quiet : result = .ok () ↔ ∀ ch ∈ channels, LastIfPresent w s ch

theorem swept_nothing (s : ServerState) : Swept w [] s (.ok ()) s :=
  ⟨rfl, fun _ _ => rfl, fun _ _ _ => rfl, fun _ _ => Or.inr rfl, by simp, by simp, Or.inl rfl,
    by simp⟩

theorem sweep_channel_swept {s : ServerState} {channel : Text} {i : Nat}
    (current : s.channelsSubscriptions.lookup channel = some i) :
    ∃ result s', run exec (sweepChannel w channel) s = (result, s') ∧
      Swept w [channel] s result s' := by
  have lookup := ServerState.subscription_of_current current s.counted
  have last : LastIfPresent w s channel ↔
      (s.counted ∈ (s.subscriptionMaps channel i).entries →
        ((w.subscribers channel).order (s.subscriptionMaps channel i).entries.keys).getLast? =
          some s.counted) := by
    unfold LastIfPresent
    simp [current]
  by_cases inside : s.counted ∈ (s.subscriptionMaps channel i).entries
  · have removed := ServerState.subscription_remove current s.counted
    refine ⟨_, _, by rw [sweep_channel_run w current, if_pos inside], ?_⟩
    constructor
    · rfl
    · intro ch other
      have ne : ch ≠ channel := by simpa using other
      funext j
      simp [ServerState.removeSubscription, ServerState.setMap, ne]
    · intro ch h other
      rw [removed, if_neg fun both => other both.2]
    · intro ch h
      rw [removed]
      by_cases both : ch = channel ∧ h = s.counted
      · exact Or.inl (if_pos both)
      · exact Or.inr (if_neg both)
    · intro _ ch member
      rw [removed, if_pos ⟨by simpa using member, rfl⟩]
    · intro ch member _
      rw [removed, if_pos ⟨by simpa using member, rfl⟩]
    · by_cases final : ((w.subscribers channel).order
          (s.subscriptionMaps channel i).entries.keys).getLast? = some s.counted
      · exact Or.inl (if_pos final)
      · exact Or.inr (if_neg final)
    · simp [last, inside]
  · have absent : s.subscription channel s.counted = none := by
      rw [lookup, AList.lookup_eq_none]
      exact inside
    refine ⟨_, _, by rw [sweep_channel_run w current, if_neg inside], ?_⟩
    constructor
    · rfl
    · exact fun _ _ => rfl
    · exact fun _ _ _ => rfl
    · exact fun _ _ => Or.inr rfl
    · intro _ ch member
      rw [List.mem_singleton.mp member, absent]
    · intro ch member _
      rw [List.mem_singleton.mp member, absent]
    · exact Or.inl rfl
    · simp [last, inside]

/-- A sweep that went through the first channel goes on with the others; one that failed
    there ends. -/
theorem swept_cons {s s₁ s₂ : ServerState} {channel : Text} {rest : List Text}
    {result : Except JavaException Unit} (fresh : channel ∉ rest)
    (first : Swept w [channel] s (.ok ()) s₁) (later : Swept w rest s₁ result s₂) :
    Swept w (channel :: rest) s result s₂ := by
  have clients : s₁.activeClients = s.activeClients := by rw [first.frame]
  have index : s₁.channelsSubscriptions = s.channelsSubscriptions := by rw [first.frame]
  have counter : s₁.connectionID = s.connectionID := by rw [first.frame]
  have counted : s₁.counted = s.counted := by
    unfold ServerState.counted
    rw [clients, counter]
  have same : ∀ ch ∈ rest, (LastIfPresent w s₁ ch ↔ LastIfPresent w s ch) := by
    intro ch member
    have ne : ch ∉ [channel] := by
      rintro here
      exact fresh (List.mem_singleton.mp here ▸ member)
    simp [LastIfPresent, counted, index, first.away ch ne]
  -- what the sweep of the first channel has removed, the later ones do not bring back
  have head : s₂.subscription channel s.counted = none := by
    rcases later.fewer channel s.counted with none' | kept
    · exact none'
    · rw [kept]
      exact first.gone rfl channel (by simp)
  constructor
  · rw [later.frame, first.frame]
  · intro ch other
    rw [List.mem_cons, not_or] at other
    rw [later.away ch other.2, first.away ch (by simpa using other.1)]
  · intro ch h other
    rw [later.others ch h (counted ▸ other), first.others ch h other]
  · intro ch h
    rcases later.fewer ch h with none' | kept
    · exact Or.inl none'
    · rw [kept]
      exact first.fewer ch h
  · intro ok ch member
    rcases List.mem_cons.mp member with rfl | member
    · exact head
    · rw [← counted]
      exact later.gone ok ch member
  · intro ch member reaches
    rcases List.mem_cons.mp member with rfl | member
    · exact head
    · rw [← counted]
      refine later.reached ch member fun before after split ch' earlier => ?_
      have here : ch' ∈ rest := by
        rw [split]
        exact List.mem_append_left _ earlier
      refine (same ch' here).mpr (reaches (channel :: before) after ?_ ch' ?_)
      · rw [split, List.cons_append]
      · exact List.mem_cons_of_mem _ earlier
  · exact later.ending
  · have before := first.quiet.mp rfl channel (by simp)
    rw [later.quiet]
    constructor
    · intro all ch member
      rcases List.mem_cons.mp member with rfl | member
      · exact before
      · exact (same ch member).mp (all ch member)
    · intro all ch member
      exact (same ch member).mpr (all ch (List.mem_cons_of_mem _ member))

theorem swept_failed {s s' : ServerState} {channel : Text} {rest : List Text}
    {e : JavaException} (fresh : channel ∉ rest) (first : Swept w [channel] s (.error e) s') :
    Swept w (channel :: rest) s (.error e) s' := by
  constructor
  · exact first.frame
  · intro ch other
    exact first.away ch fun here => other (by simp [List.mem_singleton.mp here])
  · exact first.others
  · exact first.fewer
  · intro ok
    cases ok
  · intro ch member reaches
    rcases List.mem_cons.mp member with rfl | member
    · exact first.reached ch (by simp) fun before after split ch' earlier => by
        cases before with
        | nil => cases earlier
        | cons b more => simp at split
    · obtain ⟨before, after, split⟩ := List.append_of_mem member
      have last := reaches (channel :: before) after (by rw [split, List.cons_append]) channel
        List.mem_cons_self
      have ok := first.quiet.mpr fun ch' here => by rwa [List.mem_singleton.mp here]
      cases ok
  · exact first.ending
  · constructor
    · intro ok
      cases ok
    · intro all
      exact first.quiet.mpr fun ch here => all ch (by simp [List.mem_singleton.mp here])

theorem sweep_channels_run (channels : List Text) (s : ServerState) (distinct : channels.Nodup)
    (known : ∀ ch ∈ channels, ch ∈ s.channelsSubscriptions) :
    ∃ result s', run exec (sweepChannels w channels) s = (result, s') ∧
      Swept w channels s result s' := by
  induction channels generalizing s with
  | nil => exact ⟨_, _, rfl, swept_nothing w s⟩
  | cons channel rest ih =>
    obtain ⟨fresh, distinct⟩ := List.nodup_cons.mp distinct
    obtain ⟨i, current⟩ := Option.isSome_iff_exists.mp
      (AList.lookup_isSome.mpr (known channel List.mem_cons_self))
    obtain ⟨result, s₁, first, swept⟩ := sweep_channel_swept w current
    cases result with
    | error e =>
      exact ⟨_, _, run_bind_error exec s first, swept_failed w fresh swept⟩
    | ok done =>
      have index : s₁.channelsSubscriptions = s.channelsSubscriptions := by rw [swept.frame]
      obtain ⟨result, s₂, later, rest_swept⟩ := ih s₁ distinct fun ch member => by
        rw [index]
        exact known ch (List.mem_cons_of_mem _ member)
      refine ⟨result, s₂, ?_, swept_cons w fresh swept rest_swept⟩
      rw [← later]
      exact run_bind_ok exec s first

/-- What `disconnect` does, whether it returns or fails. -/
structure Disconnected (c : Nat) (s : ServerState) (result : Except JavaException Unit)
    (s' : ServerState) : Prop where
  frame : s' = { s with
    subscriptionMaps := s'.subscriptionMaps
    loggedInUsers := removeValue w.logins c s.loggedInUsers
    log := .disconnected c :: s.log }
  others : ∀ ch h, h ≠ s.counted → s'.subscription ch h = s.subscription ch h
  fewer : ∀ ch h, s'.subscription ch h = none ∨ s'.subscription ch h = s.subscription ch h
  gone : result = .ok () → ∀ ch, s'.subscription ch s.counted = none
  reached : ∀ ch, Reaches w (w.channels.order s.channelsSubscriptions.keys) s ch →
    s'.subscription ch s.counted = none
  ending : result = .ok () ∨ result = .error .concurrentModification
  quiet : result = .ok () ↔ ∀ ch, LastIfPresent w s ch

theorem disconnect_run (c : Nat) (s : ServerState) :
    ∃ result s', run exec (disconnect w c) s = (result, s') ∧ Disconnected w c s result s' := by
  obtain ⟨result, s', sweep, swept⟩ := sweep_channels_run w
    (w.channels.order s.channelsSubscriptions.keys)
    { s.record (.disconnected c) with loggedInUsers := removeValue w.logins c s.loggedInUsers }
    (IterationOrder.order_nodup _ (AList.keys_nodup _))
    (fun ch member => AList.mem_keys.mpr (w.channels.mem_order.mp member))
  have index : s'.channelsSubscriptions = s.channelsSubscriptions := by
    rw [swept.frame]
    rfl
  have listed : ∀ ch, ch ∈ w.channels.order s.channelsSubscriptions.keys ∨
      s'.subscription ch s.counted = none := by
    intro ch
    by_cases known : ch ∈ s.channelsSubscriptions
    · exact Or.inl (w.channels.mem_order.mpr (AList.mem_keys.mp known))
    · have nothing : s'.channelsSubscriptions.lookup ch = none := by
        rw [index]
        exact AList.lookup_eq_none.mpr known
      exact Or.inr (by simp [ServerState.subscription, nothing])
  refine ⟨result, s', ?_, ?_⟩
  · rw [← sweep]
    simp [disconnect, run_bind, ServerState.record]
  constructor
  · exact swept.frame
  · exact swept.others
  · exact swept.fewer
  · intro ok ch
    rcases listed ch with member | absent
    · exact swept.gone ok ch member
    · exact absent
  · intro ch reaches
    rcases listed ch with member | absent
    · exact swept.reached ch member reaches
    · exact absent
  · exact swept.ending
  · rw [swept.quiet]
    constructor
    · intro all ch i current
      have known : ch ∈ s.channelsSubscriptions := AList.lookup_isSome.mp (by simp [current])
      exact all ch (w.channels.mem_order.mpr (AList.mem_keys.mp known)) i current
    · intro all ch _
      exact all ch

end SubscriptionSweep
