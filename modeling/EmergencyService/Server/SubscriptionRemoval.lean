import EmergencyService.Server.MessageRelay

/- What `removeChannelSubscription` removes: it compares the ids as boxed integers. -/
namespace SubscriptionRemoval
open JavaRuntime AtomicProgram MapCalls ConnectionsImpl
open ProcessRun BranchOutcomes HandlerThreads ServerRuns MessageRelay

/-- The handler is subscribed to some channel under the id. -/
def HasId (id : Int) (h : HandlerRef) (s : ServerState) : Prop :=
  ∃ ch, s.subscription ch h = some id

/-- The entry of the handler for the channel is gone, and nothing else has changed. -/
structure OnlyGone (channel : Text) (h : HandlerRef) (s s' : ServerState) : Prop where
  frame : s' = { s with subscriptionMaps := s'.subscriptionMaps }
  view : ∀ ch h', s'.subscription ch h' =
    if ch = channel ∧ h' = h then none else s.subscription ch h'

/-- The call answers whether the handler has the id, and removes one entry or none. -/
structure RemovesById (id : Int) (h : HandlerRef) (s : ServerState)
    (result : Except JavaException Bool) (s' : ServerState) : Prop where
  returns : result = .ok true ∨ result = .ok false
  found : result = .ok true ↔ HasId id h s
  removed : result = .ok true → ∃ ch, s.subscription ch h = some id ∧ OnlyGone ch h s s'
  kept : result = .ok false → s' = s

/-- The id is one of the integers that are boxed once. -/
def Cached (id : Int) : Prop := -128 ≤ id ∧ id ≤ 127

section Removal
variable (w : Surroundings) (id : Int) (h : HandlerRef) (s : ServerState)

theorem matching_iff (channel : Text) :
    matching id h s channel = true ↔ s.subscription channel h = some id ∧ Cached id := by
  unfold matching
  cases held : s.subscription channel h with
  | none => simp
  | some value =>
    rw [Option.any_some, decide_eq_true_iff, Option.some.injEq]
    unfold sameInteger Cached
    constructor
    · rintro ⟨rfl, small⟩
      exact ⟨rfl, small⟩
    · rintro ⟨rfl, small⟩
      exact ⟨rfl, small⟩

theorem remove_cases :
    (firstMatch w id h s = none ∧
      run exec (removeChannelSubscription w id h) s = (.ok false, s)) ∨
    ∃ ch i, firstMatch w id h s = some ch ∧ s.channelsSubscriptions.lookup ch = some i ∧
      run exec (removeChannelSubscription w id h) s =
        (.ok true, s.removeSubscription ⟨ch, i⟩ h) := by
  have known : ∀ ch ∈ w.channels.order s.channelsSubscriptions.keys,
      ch ∈ s.channelsSubscriptions :=
    fun ch member => AList.mem_keys.mpr (w.channels.mem_order.mp member)
  simp only [removeChannelSubscription, run_bind, run_channelsSubscriptions_keySet]
  exact remove_from_run id h _ known

theorem no_match_iff : firstMatch w id h s = none ↔ ¬ (Cached id ∧ HasId id h s) := by
  unfold firstMatch
  rw [List.find?_eq_none]
  constructor
  · rintro nothing ⟨cached, ch, held⟩
    have subscribed : s.subscription ch h ≠ none := by simp [held]
    obtain ⟨i, current, _⟩ := index_of_subscription subscribed
    have key : ch ∈ s.channelsSubscriptions.keys :=
      AList.mem_keys.mp (AList.lookup_isSome.mp (by simp [current]))
    exact nothing ch (w.channels.mem_order.mpr key)
      ((matching_iff id h s ch).mpr ⟨held, cached⟩)
  · intro absent ch _ found
    obtain ⟨held, cached⟩ := (matching_iff id h s ch).mp found
    exact absent ⟨cached, ch, held⟩

/-- The call does what it is for exactly when the id is small or the handler does not
    have it. -/
theorem removes_by_id_iff :
    RemovesById id h s (run exec (removeChannelSubscription w id h) s).1
        (run exec (removeChannelSubscription w id h) s).2 ↔
      Cached id ∨ ¬ HasId id h s := by
  rcases remove_cases w id h s with ⟨nothing, ran⟩ | ⟨ch, i, first, current, ran⟩
  · rw [ran]
    have absent := (no_match_iff w id h s).mp nothing
    constructor
    · intro removes
      right
      intro has
      have answer := removes.found.mpr has
      cases answer
    · intro small
      have lacks : ¬ HasId id h s := by
        intro has
        rcases small with cached | lacks
        · exact absent ⟨cached, has⟩
        · exact lacks has
      constructor
      · exact Or.inr rfl
      · constructor
        · intro answer
          cases answer
        · intro has
          exact absurd has lacks
      · intro answer
        cases answer
      · exact fun _ => rfl
  · rw [ran]
    obtain ⟨held, cached⟩ := (matching_iff id h s ch).mp (List.find?_some first)
    constructor
    · exact fun _ => Or.inl cached
    · intro _
      constructor
      · exact Or.inl rfl
      · exact ⟨fun _ => ⟨ch, held⟩, fun _ => rfl⟩
      · intro _
        apply Exists.intro ch
        apply And.intro held
        exact ⟨rfl, fun ch' h' => ServerState.subscription_remove current h h' ch'⟩
      · intro answer
        cases answer

theorem large_id_not_removed :
    ReachableState (pairSubscribed "300" "7") ∧ HasId 300 (some ⟨0⟩) (pairSubscribed "300" "7") ∧
      ¬ RemovesById 300 (some ⟨0⟩) (pairSubscribed "300" "7")
        (run exec (removeChannelSubscription .plain 300 (some ⟨0⟩)) (pairSubscribed "300" "7")).1
        (run exec (removeChannelSubscription .plain 300 (some ⟨0⟩))
          (pairSubscribed "300" "7")).2 := by
  have held : (pairSubscribed "300" "7").subscription "police" (some ⟨0⟩) = some 300 := by
    decide +kernel
  have answer : (run exec (removeChannelSubscription .plain 300 (some ⟨0⟩))
      (pairSubscribed "300" "7")).1 = .ok false := by decide +kernel
  apply And.intro (pair_reachable rfl)
  apply And.intro ⟨_, held⟩
  intro removes
  have found := removes.found.mpr ⟨_, held⟩
  rw [answer] at found
  cases found

end Removal
end SubscriptionRemoval
