import EmergencyService.Foundation.GhostOutlines
import EmergencyService.Server.DisconnectEffect
import EmergencyService.Server.SubscriptionRaces

/- The cleanup after an ERROR reply, call by call, while the other threads move: under which
   conditions on its calls nothing of the connection is left behind. -/
namespace CleanupOutline
open JavaRuntime JavaFrame AtomicProgram ThreadInterleaving GhostOutlines MapCalls ConnectionsImpl
open StompProtocolImpl CallFootprint HandlerThreads SubscriptionRaces DisconnectEffect

/-- Which connection has created a map that is not installed yet. -/
abbrev Notes := MapRef → Option Nat

abbrev Noted := ServerState × Notes

def note (t : Thread) : (op : MapCall) → op.Ret → Notes → Notes
  | .newMap _, ref, notes =>
      match t with
      | .handler c => Function.update notes ref (some c)
      | .acceptor => notes
  | .channelPut ref, _, notes => Function.update notes ref none
  | _, _, notes => notes

/-- The cleanup of the connection has closed the handler and has not removed it yet. -/
structure Cleaning (c : Nat) (s : ServerState) : Prop where
  down : s.connected c = false
  active : c ∈ s.activeClients

/-- The connection has been closed and removed. -/
structure Gone (c : Nat) (s : ServerState) : Prop where
  down : s.connected c = false
  removed : c ∉ s.activeClients

/-- No login and no subscription of the connection is left. -/
structure Unused (c : Nat) (s : ServerState) : Prop where
  logins : ∀ u, s.loggedInUsers.lookup u ≠ some c
  subscriptions : ∀ ch, s.subscription ch (some ⟨c⟩) = none

/-- The handler has been constructed, also when it has been removed since. -/
def Started (s : ServerState) (c : Nat) : Prop := Constructed s c ∨ s.connected c = false

instance (s : ServerState) (c : Nat) : Decidable (Started s c) :=
  inferInstanceAs (Decidable (_ ∨ _))

/-- What a call of a handler finds when the cleanup is to be complete: a login is entered for
    a registered client; the cleanup finds one login, the own number in the static counter as
    long as there is a subscription, and every map as its iterator has left it. -/
def Thorough : Thread → MapCall → ServerState → Prop
  | .handler c, .loggedInPut _ _, s => c ∈ s.activeClients
  | .handler c, .loggedInRemoveValue _ _, s => Cleaning c s → SingleLogin c s
  | .handler c, .counterGet, s => Cleaning c s →
      s.connectionID = c ∨ ∀ ch, s.subscription ch (some ⟨c⟩) = none
  | .handler c, .subsModCount ref expected, s => Cleaning c s → (s.mapAt ref).modCount = expected
  | _, _, _ => True

/-- An inner map that has been installed, now or some time ago. -/
structure Settled (ref : MapRef) (x : Noted) : Prop where
  created : Created ref x.1
  installed : x.2 ref = none

structure Coherent (x : Noted) : Prop where
  ids : HandlerIds x.1
  known : KnownMaps x.1
  installed : ∀ ch i, x.1.channelsSubscriptions.lookup ch = some i → x.2 ⟨ch, i⟩ = none
  noted : ∀ ref c, x.2 ref = some c → Created ref x.1
  gone : ∀ c, Gone c x.1 → Unused c x.1

/-- What a handler thread can count on while the others move. -/
structure Relied (c : Nat) (x y : Noted) : Prop where
  connected : y.1.connected c = x.1.connected c
  active : c ∈ x.1.activeClients → c ∈ y.1.activeClients
  gone : Gone c x.1 → c ∉ y.1.activeClients
  counter : x.1.connectionID ≤ y.1.connectionID
  logins : ∀ u, y.1.loggedInUsers.lookup u = some c → x.1.loggedInUsers.lookup u = some c
  channels : ∀ ch ∈ x.1.channelsSubscriptions, ch ∈ y.1.channelsSubscriptions
  subscribed : ∀ ch, y.1.subscription ch (some ⟨c⟩) ≠ none →
    x.1.subscription ch (some ⟨c⟩) ≠ none ∧
      y.1.channelsSubscriptions.lookup ch = x.1.channelsSubscriptions.lookup ch
  own : ∀ ref, x.2 ref = some c → y.2 ref = some c ∧
    ∀ h ∈ (y.1.mapAt ref).entries, h ∈ (x.1.mapAt ref).entries
  settled : ∀ ref, Settled ref x → Settled ref y
  created : ∀ ch, x.1.created ch ≤ y.1.created ch

/-- The acceptor has its counter for itself, and the numbers from there on are free. -/
structure Awaited (x y : Noted) : Prop where
  counter : y.1.connectionID = x.1.connectionID
  free : ∀ c, ¬ Started x.1 c → ¬ Started y.1 c

def cleaning : Discipline Noted Thread MapCall where
  inv := Coherent
  rely
    | .acceptor => Awaited
    | .handler c => Relied c
  keeps x y := ∀ c, Gone c x.1 → Gone c y.1
  permitted t op x := Thorough t op x.1

/-- A connection that is closed and not being handled has been removed. -/
def rest : Thread → Noted → Prop
  | .acceptor, x => ∀ c, x.1.connectionID ≤ c → ¬ Started x.1 c
  | .handler c, x => x.1.connected c = false → c ∉ x.1.activeClients

abbrev Cleans (t : Thread) {α : Type} (Q : Except JavaException α → Noted → Prop) (p : Java α)
    (A : Noted → Prop) : Prop :=
  cleaning.Outline (annotated exec note t) t Q p A

section Stable
variable {c : Nat} {x y : Noted}

theorem started_relied (relied : Relied c x y) (started : Started x.1 c) : Started y.1 c := by
  rcases started with (before | active) | down
  · exact Or.inl (Or.inl (lt_of_lt_of_le before relied.counter))
  · exact Or.inl (Or.inr (relied.active active))
  · exact Or.inr (relied.connected.trans down)

theorem stable_rest (t : Thread) : cleaning.Stable t (rest t) := by
  intro x y _ _ relied quiet
  cases t with
  | acceptor =>
    intro c above
    rw [relied.counter] at above
    exact relied.free c (quiet c above)
  | handler c =>
    intro down
    have before : x.1.connected c = false := relied.connected.symm.trans down
    exact relied.gone ⟨before, quiet before⟩

structure Working (c : Nat) (x : Noted) : Prop where
  started : Started x.1 c
  quiet : rest (.handler c) x

theorem stable_working : cleaning.Stable (.handler c) (Working c) := by
  intro x y inv inv' relied working
  exact ⟨started_relied relied working.started,
    stable_rest (.handler c) x y inv inv' relied working.quiet⟩

/-- What is left during the cleanup: no login, and subscriptions only where `seen` says. -/
structure Clearing (c : Nat) (left : List Text) (seen : Text → Option Nat → Prop) (x : Noted) :
    Prop where
  cleaning : Cleaning c x.1
  logins : ∀ u, x.1.loggedInUsers.lookup u ≠ some c
  present : ∀ ch ∈ left, ch ∈ x.1.channelsSubscriptions
  seen : ∀ ch, x.1.subscription ch (some ⟨c⟩) ≠ none → seen ch (x.1.channelsSubscriptions.lookup ch)

theorem stable_cleaning : cleaning.Stable (.handler c) fun x => Cleaning c x.1 :=
  fun _ _ _ _ relied now => ⟨relied.connected.trans now.down, relied.active now.active⟩

theorem stable_clearing {left : List Text} {seen : Text → Option Nat → Prop} :
    cleaning.Stable (.handler c) (Clearing c left seen) := by
  intro x y inv inv' relied clearing
  refine ⟨stable_cleaning x y inv inv' relied clearing.cleaning, fun u held => ?_,
    fun ch member => relied.channels ch (clearing.present ch member), fun ch held => ?_⟩
  · exact clearing.logins u (relied.logins u held)
  · obtain ⟨before, same⟩ := relied.subscribed ch held
    rw [same]
    exact clearing.seen ch before

def Unsubscribed (c : Nat) (x : Noted) : Prop := ∀ ch, x.1.subscription ch (some ⟨c⟩) = none

theorem stable_unsubscribed : cleaning.Stable (.handler c) (Unsubscribed c) := by
  intro x y _ _ relied nothing ch
  by_contra held
  exact (relied.subscribed ch held).1 (nothing ch)

theorem stable_and {A B : Noted → Prop} {t : Thread} (first : cleaning.Stable t A)
    (second : cleaning.Stable t B) : cleaning.Stable t fun x => A x ∧ B x :=
  fun x y inv inv' relied now =>
    ⟨first x y inv inv' relied now.1, second x y inv inv' relied now.2⟩

theorem stable_or {A B : Noted → Prop} {t : Thread} (first : cleaning.Stable t A)
    (second : cleaning.Stable t B) : cleaning.Stable t fun x => A x ∨ B x :=
  fun x y inv inv' relied now => now.imp (first x y inv inv' relied) (second x y inv inv' relied)

theorem stable_pure {t : Thread} (fact : Prop) : cleaning.Stable t fun _ => fact :=
  fun _ _ _ _ _ now => now

end Stable

section Effects
variable {c : Nat} {x y : Noted} {s s' : ServerState} {g : Notes}

theorem subscribed_iff {ch : Text} {h : HandlerRef} : s.subscription ch h ≠ none ↔
    ∃ i, s.channelsSubscriptions.lookup ch = some i ∧ h ∈ (s.mapAt ⟨ch, i⟩).entries := by
  rw [← Option.isSome_iff_ne_none, ServerState.subscription, Option.isSome_iff_exists]
  constructor
  · rintro ⟨id, held⟩
    obtain ⟨i, current, entry⟩ := Option.bind_eq_some_iff.mp held
    exact ⟨i, current, AList.lookup_isSome.mp (Option.isSome_iff_exists.mpr ⟨id, entry⟩)⟩
  · rintro ⟨i, current, member⟩
    obtain ⟨id, entry⟩ := Option.isSome_iff_exists.mp (AList.lookup_isSome.mpr member)
    exact ⟨id, Option.bind_eq_some_iff.mpr ⟨i, current, entry⟩⟩

/-- What the calls of a handler do that matters here: nothing of another connection is
    added, and no map that another thread has not installed yet is filled. -/
structure Effect (c : Nat) (x y : Noted) : Prop where
  ids : HandlerIds y.1
  known : KnownMaps y.1
  installed : ∀ ch i, y.1.channelsSubscriptions.lookup ch = some i → y.2 ⟨ch, i⟩ = none
  noted : ∀ ref c, y.2 ref = some c → Created ref y.1
  counter : y.1.connectionID = x.1.connectionID
  others : ∀ c', c' ≠ c → (c' ∈ y.1.activeClients ↔ c' ∈ x.1.activeClients) ∧
    y.1.connected c' = x.1.connected c'
  active : c ∈ y.1.activeClients → c ∈ x.1.activeClients
  down : x.1.connected c = false → y.1.connected c = false
  logins : ∀ u c', c' ≠ c → y.1.loggedInUsers.lookup u = some c' →
    x.1.loggedInUsers.lookup u = some c'
  channels : ∀ ch ∈ x.1.channelsSubscriptions, ch ∈ y.1.channelsSubscriptions
  subscribed : ∀ ch c', c' ≠ c → y.1.subscription ch (some ⟨c'⟩) ≠ none →
    x.1.subscription ch (some ⟨c'⟩) ≠ none ∧
      y.1.channelsSubscriptions.lookup ch = x.1.channelsSubscriptions.lookup ch
  own : ∀ ref c', c' ≠ c → x.2 ref = some c' → y.2 ref = some c' ∧
    ∀ h ∈ (y.1.mapAt ref).entries, h ∈ (x.1.mapAt ref).entries
  settled : ∀ ref, Settled ref x → Settled ref y
  created : ∀ ch, x.1.created ch ≤ y.1.created ch
  gone : Gone c y.1 → Unused c y.1

theorem gone_kept (effect : Effect c x y) {c' : Nat} (gone : Gone c' x.1) : Gone c' y.1 := by
  by_cases own : c' = c
  · subst own
    exact ⟨effect.down gone.down, fun member => gone.removed (effect.active member)⟩
  · obtain ⟨active, connected⟩ := effect.others c' own
    exact ⟨connected.trans gone.down, fun member => gone.removed (active.mp member)⟩

theorem safe_of_effect (inv : Coherent x) (started : Started x.1 c) (effect : Effect c x y) :
    cleaning.Safe (.handler c) x y := by
  refine ⟨⟨effect.ids, effect.known, effect.installed, effect.noted, fun c' gone => ?_⟩,
    fun c' => gone_kept effect, fun t other => ?_⟩
  · by_cases own : c' = c
    · subst own
      exact effect.gone gone
    · obtain ⟨active, connected⟩ := effect.others c' own
      have unused := inv.gone c' ⟨connected.symm.trans gone.down,
        fun member => gone.removed (active.mpr member)⟩
      refine ⟨fun u held => unused.logins u (effect.logins u c' own held), fun ch => ?_⟩
      by_contra held
      exact (effect.subscribed ch c' own held).1 (unused.subscriptions ch)
  · cases t with
    | acceptor =>
      refine ⟨effect.counter, fun c' free now => ?_⟩
      have own : c' ≠ c := by
        rintro rfl
        exact free started
      obtain ⟨active, connected⟩ := effect.others c' own
      rcases now with (before | member) | down
      · exact free (Or.inl (Or.inl (effect.counter ▸ before)))
      · exact free (Or.inl (Or.inr (active.mp member)))
      · exact free (Or.inr (connected.symm.trans down))
    | handler c' =>
      have own : c' ≠ c := by
        rintro rfl
        exact other rfl
      obtain ⟨active, connected⟩ := effect.others c' own
      exact ⟨connected, active.mpr, fun gone member => gone.removed (active.mp member),
        effect.counter.ge, fun u => effect.logins u c' own, effect.channels,
        fun ch => effect.subscribed ch c' own, fun ref => effect.own ref c' own, effect.settled,
        effect.created⟩

/-- The call of a handler that adds nothing, and removes at most logins and subscriptions. -/
structure Lessens (s s' : ServerState) : Prop where
  active : s'.activeClients = s.activeClients
  counter : s'.connectionID = s.connectionID
  connected : s'.connected = s.connected
  channels : s'.channelsSubscriptions = s.channelsSubscriptions
  created : s'.created = s.created
  entries : ∀ ref, ∀ h ∈ (s'.mapAt ref).entries, h ∈ (s.mapAt ref).entries
  logins : ∀ u c, s'.loggedInUsers.lookup u = some c → s.loggedInUsers.lookup u = some c

def Quiet : MapCall → Prop
  | .activePut _ _ | .activeRemove _ | .channelPut _ | .newMap _ | .subsPut _ _ _
  | .loggedInPut _ _ | .counterIncrement | .handlerClose _ => False
  | _ => True

theorem lessens_of_quiet {op : MapCall} (quiet : Quiet op) : Lessens s (exec op s).2 := by
  cases op with
  | subsRemove ref h =>
    refine ⟨rfl, rfl, rfl, rfl, rfl, fun ref' h' member => ?_, fun _ _ held => held⟩
    change h' ∈ (if ref'.channel = ref.channel ∧ ref'.index = ref.index then _ else _ :
      SubscriptionMap).entries at member
    split at member
    · rename_i here
      have same : ref' = ref := by
        cases ref'
        cases ref
        exact MapRef.mk.injEq .. ▸ here
      rw [same]
      exact (AList.mem_erase.mp member).2
    · exact member
  | loggedInRemoveValue o c =>
    exact ⟨rfl, rfl, rfl, rfl, rfl, fun _ _ member => member,
      fun u c' held => remove_value_subset o c s.loggedInUsers held⟩
  | activePut c h => exact quiet.elim
  | activeRemove c => exact quiet.elim
  | channelPut ref => exact quiet.elim
  | newMap ch => exact quiet.elim
  | subsPut ref h id => exact quiet.elim
  | loggedInPut u c => exact quiet.elim
  | counterIncrement => exact quiet.elim
  | handlerClose h => exact quiet.elim
  | _ => exact ⟨rfl, rfl, rfl, rfl, rfl, fun _ _ member => member, fun _ _ held => held⟩

theorem note_of_quiet {op : MapCall} (quiet : Quiet op) (t : Thread) (r : op.Ret) :
    note t op r g = g := by
  cases op with
  | newMap ch => exact quiet.elim
  | channelPut ref => exact quiet.elim
  | _ => rfl

theorem subscribed_lessens (less : Lessens s s') {ch : Text} {h : HandlerRef}
    (held : s'.subscription ch h ≠ none) : s.subscription ch h ≠ none := by
  obtain ⟨i, current, member⟩ := subscribed_iff.mp held
  rw [less.channels] at current
  exact subscribed_iff.mpr ⟨i, current, less.entries _ _ member⟩

theorem ids_lessens (less : Lessens s s') (ids : HandlerIds s) : HandlerIds s' := by
  intro c h found
  rw [less.active] at found
  exact ids c h found

theorem known_lessens (less : Lessens s s') (known : KnownMaps s) : KnownMaps s' := by
  intro ch i current
  rw [less.channels] at current
  rw [less.created]
  exact known ch i current

theorem effect_of_lessens (inv : Coherent (s, g)) (less : Lessens s s') :
    Effect c (s, g) (s', g) := by
  refine ⟨ids_lessens less inv.ids, known_lessens less inv.known, ?_, ?_, less.counter, ?_, ?_, ?_,
    fun u c' _ => less.logins u c', ?_, ?_, ?_, ?_, ?_, fun gone => ?_⟩
  · intro ch i current
    exact inv.installed ch i (less.channels ▸ current)
  · exact fun ref c' mine => (inv.noted ref c' mine).trans_eq (congrFun less.created _).symm
  · exact fun c' _ => ⟨by rw [less.active], congrFun less.connected c'⟩
  · exact fun member => less.active ▸ member
  · exact fun down => (congrFun less.connected c).trans down
  · exact fun ch member => less.channels.symm ▸ member
  · exact fun ch c' _ held => ⟨subscribed_lessens less held, congrArg _ less.channels⟩
  · exact fun ref c' _ mine => ⟨mine, less.entries ref⟩
  · exact fun ref settled => ⟨settled.created.trans_eq (congrFun less.created _).symm,
      settled.installed⟩
  · exact fun ch => (congrFun less.created ch).ge
  · have unused := inv.gone c ⟨(congrFun less.connected c).symm.trans gone.down,
      fun member => gone.removed (less.active.symm ▸ member)⟩
    refine ⟨fun u held => unused.logins u (less.logins u c held), fun ch => ?_⟩
    by_contra held
    exact subscribed_lessens less held (unused.subscriptions ch)

theorem effect_login {u : Text} (inv : Coherent (s, g)) (active : c ∈ s.activeClients) :
    Effect c (s, g) ((exec (.loggedInPut u c) s).2, g) := by
  refine ⟨inv.ids, inv.known, inv.installed, inv.noted, rfl, fun _ _ => ⟨Iff.rfl, rfl⟩,
    fun member => member, fun down => down, fun v c' other held => ?_, fun _ member => member,
    fun _ _ _ held => ⟨held, rfl⟩, fun _ _ _ mine => ⟨mine, fun _ member => member⟩,
    fun _ settled => ⟨settled.created, settled.installed⟩, fun _ => le_rfl,
    fun gone => absurd active gone.removed⟩
  change (s.loggedInUsers.insert u c).lookup v = some c' at held
  by_cases here : v = u
  · subst here
    rw [AList.lookup_insert] at held
    exact absurd (Option.some.inj held).symm other
  · rwa [AList.lookup_insert_ne here] at held

theorem effect_close (inv : Coherent (s, g)) (active : c ∈ s.activeClients) :
    Effect c (s, g) ((exec (.handlerClose ⟨c⟩) s).2, g) := by
  have others : ∀ c', c' ≠ c → (Function.update s.connected c false) c' = s.connected c' :=
    fun c' other => Function.update_of_ne other _ _
  have closed : (Function.update s.connected c false) c = false := Function.update_self ..
  exact ⟨inv.ids, inv.known, inv.installed, inv.noted, rfl,
    fun c' other => ⟨Iff.rfl, others c' other⟩, fun member => member, fun _ => closed,
    fun _ _ _ held => held, fun _ member => member, fun _ _ _ held => ⟨held, rfl⟩,
    fun _ _ _ mine => ⟨mine, fun _ member => member⟩,
    fun _ settled => ⟨settled.created, settled.installed⟩, fun _ => le_rfl,
    fun gone => absurd active gone.removed⟩

theorem effect_remove (inv : Coherent (s, g)) (unused : Unused c s) :
    Effect c (s, g) ((exec (.activeRemove c) s).2, g) := by
  refine ⟨exec_handler_ids (.activeRemove c) trivial inv.ids, inv.known, inv.installed,
    inv.noted, rfl, fun c' other => ⟨?_, rfl⟩, fun member => (AList.mem_erase.mp member).2,
    fun down => down, fun _ _ _ held => held, fun _ member => member, fun _ _ _ held => ⟨held, rfl⟩,
    fun _ _ _ mine => ⟨mine, fun _ member => member⟩,
    fun _ settled => ⟨settled.created, settled.installed⟩, fun _ => le_rfl,
    fun _ => ⟨unused.logins, unused.subscriptions⟩⟩
  change c' ∈ s.activeClients.erase c ↔ _
  rw [AList.mem_erase]
  exact and_iff_right other

theorem effect_new (channel : Text) (inv : Coherent (s, g)) :
    Effect c (s, g) ((exec (.newMap channel) s).2,
      Function.update g ⟨channel, s.created channel⟩ (some c)) := by
  have older : ∀ ch i, i < s.created ch → (⟨ch, i⟩ : MapRef) ≠ ⟨channel, s.created channel⟩ := by
    intro ch i before same
    cases same
    exact lt_irrefl _ before
  have kept : ∀ ref : MapRef, ref ≠ ⟨channel, s.created channel⟩ →
      ((s.createMap channel).mapAt ref) = s.mapAt ref := by
    intro ref other
    refine if_neg fun here => other ?_
    cases ref
    exact MapRef.mk.injEq .. ▸ here
  have empty : ((s.createMap channel).mapAt ⟨channel, s.created channel⟩).entries = ∅ := by
    unfold ServerState.mapAt ServerState.createMap ServerState.setMap
    simp
  have grown := created_grows (.newMap channel) s
  have known : KnownMaps (exec (.newMap channel) s).2 :=
    fun ch i current => lt_of_lt_of_le (inv.known ch i current) (grown ch)
  have shrunk : ∀ ref, ∀ h ∈ ((s.createMap channel).mapAt ref).entries,
      h ∈ (s.mapAt ref).entries := by
    intro ref h member
    by_cases new : ref = ⟨channel, s.created channel⟩
    · rw [new, empty] at member
      simp at member
    · rwa [kept ref new] at member
  have fewer : ∀ ch h, (s.createMap channel).subscription ch h ≠ none →
      s.subscription ch h ≠ none := by
    intro ch h held
    obtain ⟨i, current, member⟩ := subscribed_iff.mp held
    exact subscribed_iff.mpr ⟨i, current, shrunk _ h member⟩
  refine ⟨inv.ids, known, fun ch i current => ?_, fun ref c' mine => ?_, rfl,
    fun _ _ => ⟨Iff.rfl, rfl⟩,
    fun member => member, fun down => down, fun _ _ _ held => held, fun _ member => member,
    fun ch c' _ held => ⟨fewer ch _ held, rfl⟩, fun ref c' other mine => ⟨?_, shrunk ref⟩,
    fun ref settled => ⟨?_, ?_⟩, grown, fun gone => ?_⟩
  · change Function.update g _ _ _ = _
    rw [Function.update_of_ne (older ch i (inv.known ch i current))]
    exact inv.installed ch i current
  · by_cases new : ref = ⟨channel, s.created channel⟩
    · subst new
      change s.created channel < Function.update s.created channel _ channel
      simp
    · have before : g ref = some c' := (Function.update_of_ne new _ _).symm.trans mine
      exact lt_of_lt_of_le (inv.noted ref c' before) (grown ref.channel)
  · change Function.update g _ _ ref = some c'
    rw [Function.update_of_ne (older ref.channel ref.index (inv.noted ref c' mine))]
    exact mine
  · exact lt_of_lt_of_le settled.created (grown _)
  · change Function.update g _ _ _ = _
    rw [Function.update_of_ne (older ref.channel ref.index settled.created)]
    exact settled.installed
  · have unused := inv.gone c ⟨gone.down, gone.removed⟩
    refine ⟨unused.logins, fun ch => ?_⟩
    by_contra held
    exact fewer ch _ held (unused.subscriptions ch)

theorem effect_put {ref : MapRef} {h : HandlerRef} (id : Int) (inv : Coherent (s, g))
    (free : g ref = none ∨ g ref = some c)
    (fits : h = none ∨ (h = some ⟨c⟩ ∧ c ∈ s.activeClients)) :
    Effect c (s, g) ((exec (.subsPut ref h id) s).2, g) := by
  have elsewhere : ∀ ref' : MapRef, ref' ≠ ref →
      ((s.putSubscription ref h id).mapAt ref') = s.mapAt ref' := by
    intro ref' other
    refine if_neg fun here => other ?_
    cases ref'
    cases ref
    exact MapRef.mk.injEq .. ▸ here
  have entered : ∀ ref', ∀ h' ∈ ((s.putSubscription ref h id).mapAt ref').entries,
      h' ≠ h → h' ∈ (s.mapAt ref').entries := by
    intro ref' h' member other
    by_cases here : ref' = ref
    · subst here
      change h' ∈ ((s.putSubscription ref' h id).subscriptionMaps _ _).entries at member
      rw [put_map_at, if_pos ⟨rfl, rfl⟩, AList.mem_insert] at member
      exact member.resolve_left other
    · rwa [elsewhere ref' here] at member
  have before : ∀ ch h', h' ≠ h → (s.putSubscription ref h id).subscription ch h' ≠ none →
      s.subscription ch h' ≠ none := by
    intro ch h' other held
    obtain ⟨i, current, member⟩ := subscribed_iff.mp held
    exact subscribed_iff.mpr ⟨i, current, entered _ h' member other⟩
  have foreign : ∀ c', c' ≠ c → some (⟨c'⟩ : ConnectionHandler) ≠ h := by
    rintro c' other rfl
    rcases fits with none | ⟨same, _⟩
    · cases none
    · cases same
      exact other rfl
  refine ⟨inv.ids, inv.known, inv.installed, inv.noted, rfl, fun _ _ => ⟨Iff.rfl, rfl⟩,
    fun member => member, fun down => down, fun _ _ _ held => held, fun _ member => member,
    fun ch c' other held => ⟨before ch _ (foreign c' other) held, rfl⟩,
    fun ref' c' other mine => ⟨mine, fun h' member => ?_⟩,
    fun _ settled => ⟨settled.created, settled.installed⟩, fun _ => le_rfl, fun gone => ?_⟩
  · have away : ref' ≠ ref := by
      rintro rfl
      change g ref' = some c' at mine
      rcases free with absent | own
      · rw [absent] at mine
        cases mine
      · rw [own] at mine
        exact other (Option.some.inj mine).symm
    exact elsewhere ref' away ▸ member
  · have unused := inv.gone c ⟨gone.down, gone.removed⟩
    refine ⟨unused.logins, fun ch => ?_⟩
    by_contra held
    rcases fits with rfl | ⟨_, active⟩
    · exact before ch (some ⟨c⟩) (by simp) held (unused.subscriptions ch)
    · exact gone.removed active

theorem effect_install {ref : MapRef} (inv : Coherent (s, g)) (own : g ref = some c)
    (fits : ∀ h ∈ (s.mapAt ref).entries, h = none ∨ (h = some ⟨c⟩ ∧ c ∈ s.activeClients)) :
    Effect c (s, g) ((exec (.channelPut ref) s).2, Function.update g ref none) := by
  have current : ∀ ch i,
      (s.channelsSubscriptions.insert ref.channel ref.index).lookup ch = some i →
      (⟨ch, i⟩ : MapRef) = ref ∨ (ch ≠ ref.channel ∧
        s.channelsSubscriptions.lookup ch = some i) := by
    intro ch i found
    by_cases here : ch = ref.channel
    · subst here
      rw [AList.lookup_insert] at found
      cases found
      exact Or.inl rfl
    · rw [AList.lookup_insert_ne here] at found
      exact Or.inr ⟨here, found⟩
  have kept : ∀ ch h, (exec (.channelPut ref) s).2.subscription ch h ≠ none →
      h ∈ (s.mapAt ref).entries ∨ (ch ≠ ref.channel ∧ s.subscription ch h ≠ none) := by
    intro ch h held
    obtain ⟨i, found, member⟩ := subscribed_iff.mp held
    rcases current ch i found with same | ⟨other, before⟩
    · exact Or.inl (same ▸ member)
    · exact Or.inr ⟨other, subscribed_iff.mpr ⟨i, before, member⟩⟩
  refine ⟨inv.ids, known_installed (inv.noted ref c own) inv.known, fun ch i found => ?_,
    fun ref' c' mine => ?_, rfl, fun _ _ => ⟨Iff.rfl, rfl⟩, fun member => member,
    fun down => down, fun _ _ _ held => held,
    fun _ member => (AList.mem_insert _).mpr (Or.inr member), fun ch c' other held => ?_,
    fun ref' c' other mine => ⟨?_, fun _ member => member⟩,
    fun ref' settled => ⟨settled.created, ?_⟩, fun _ => le_rfl, fun gone => ?_⟩
  · change Function.update g ref none ⟨ch, i⟩ = none
    rcases current ch i found with same | ⟨_, before⟩
    · rw [same, Function.update_self]
    · by_cases same : (⟨ch, i⟩ : MapRef) = ref
      · rw [same, Function.update_self]
      · rw [Function.update_of_ne same]
        exact inv.installed ch i before
  · have other : ref' ≠ ref := by
      rintro rfl
      simp at mine
    exact inv.noted ref' c' ((Function.update_of_ne other _ _).symm.trans mine)
  · rcases kept ch _ held with member | ⟨away, before⟩
    · rcases fits _ member with none | ⟨same, _⟩
      · cases none
      · cases same
        exact absurd rfl other
    · exact ⟨before, AList.lookup_insert_ne away⟩
  · have away : ref' ≠ ref := by
      rintro rfl
      exact other (Option.some.inj (mine.symm.trans own))
    exact (Function.update_of_ne away _ _).trans mine
  · change Function.update g ref none ref' = none
    by_cases same : ref' = ref
    · rw [same, Function.update_self]
    · rw [Function.update_of_ne same]
      exact settled.installed
  · have unused := inv.gone c ⟨gone.down, gone.removed⟩
    refine ⟨unused.logins, fun ch => ?_⟩
    by_contra held
    rcases kept ch _ held with member | ⟨_, before⟩
    · rcases fits _ member with none | ⟨_, active⟩
      · cases none
      · exact gone.removed active
    · exact before (unused.subscriptions ch)

end Effects

section Plain
variable {c : Nat} {s s' : ServerState} {g : Notes} {x : Noted} {frame : StompFrame} {op : MapCall}

/-- A call besides those of the cleanup and of `addChannelSubscription`. -/
def Plain (c : Nat) (op : MapCall) : Prop := Quiet op ∨ ∃ u, op = .loggedInPut u c

theorem plain_of_work (other : frame.command ≠ "SUBSCRIBE") (work : WorkCall c frame op) :
    Plain c op := by
  cases op with
  | activePut c' h => exact work.1.elim
  | activeRemove c' => exact absurd (.remove c') work.2
  | channelPut ref => exact absurd work.1.1 other
  | newMap ch => exact absurd work.1.1 other
  | subsPut ref h id => exact absurd work.1.1 other
  | loggedInPut u c' => exact Or.inr ⟨u, by rw [work.1.1]⟩
  | counterIncrement => exact work.1.elim
  | handlerClose h => exact absurd (.close h) work.2
  | _ => exact Or.inl trivial

theorem quiet_of_sweep (sweep : SweepCall c op) : Quiet op := by
  cases op with
  | activeRemove c' => exact absurd (.remove c') sweep.2
  | handlerClose h => exact absurd (.close h) sweep.2
  | activePut c' h => exact sweep.1
  | channelPut ref => exact sweep.1
  | newMap ch => exact sweep.1
  | subsPut ref h id => exact sweep.1
  | loggedInPut u c' => exact sweep.1
  | counterIncrement => exact sweep.1
  | _ => trivial

theorem working_lessens {g' : Notes} (less : Lessens s s') (working : Working c (s, g)) :
    Working c (s', g') := by
  refine ⟨working.started.imp (fun built => ?_) (congrFun less.connected c).trans, fun down => ?_⟩
  · exact built.imp (fun before => before.trans_eq less.counter.symm)
      fun member => less.active.symm ▸ member
  · exact fun member => working.quiet ((congrFun less.connected c).symm.trans down)
      (less.active ▸ member)

theorem quiet_noted (quiet : Quiet op) (t : Thread) (x : Noted) :
    (annotated exec note t op x).2 = ((exec op x.1).2, x.2) :=
  Prod.ext rfl (note_of_quiet quiet t _)

theorem safe_quiet_call (quiet : Quiet op) (inv : Coherent x) (started : Started x.1 c) :
    cleaning.Safe (.handler c) x (annotated exec note (.handler c) op x).2 := by
  rw [quiet_noted quiet]
  exact safe_of_effect inv started (effect_of_lessens inv (lessens_of_quiet quiet))

theorem working_quiet (quiet : Quiet op) (working : Working c x) :
    Working c (annotated exec note (.handler c) op x).2 :=
  working_lessens (lessens_of_quiet quiet) working

theorem cleans_plain {α : Type} {p : Java α} (calls : Calls HandlerAnswer (Plain c) p) :
    Cleans (.handler c) (fun _ => Working c) p (Working c) := by
  refine Discipline.outline_of_calls calls stable_working fun op x plain inv working ok => ?_
  refine ⟨exec_answer op inv.ids, ?_⟩
  rcases plain with quiet | ⟨u, rfl⟩
  · exact ⟨safe_quiet_call quiet inv working.started, working_quiet quiet working⟩
  · exact ⟨safe_of_effect inv working.started (effect_login inv ok),
      ⟨working.started, working.quiet⟩⟩

theorem cleans_work (frame : StompFrame) {α : Type} {p : Java α}
    (other : frame.command ≠ "SUBSCRIBE") (calls : Calls HandlerAnswer (WorkCall c frame) p) :
    Cleans (.handler c) (fun _ => Working c) p (Working c) :=
  cleans_plain (calls_mono calls fun _ => plain_of_work other)

theorem cleans_bind {α β : Type} {p : Java α} {f : α → Java β}
    (first : Cleans (.handler c) (fun _ => Working c) p (Working c))
    (later : ∀ a, Cleans (.handler c) (fun _ => Working c) (f a) (Working c)) :
    Cleans (.handler c) (fun _ => Working c) (p >>= f) (Working c) :=
  Discipline.outline_bind first later fun _ _ _ working => working

theorem cleans_return {α : Type} (a : α) :
    Cleans (.handler c) (fun _ => Working c) (return a) (Working c) := fun _ _ working => working

theorem own_handler_found (inv : Coherent x) : x.1.activeClients.lookup c = none ∨
    (x.1.activeClients.lookup c = some ⟨c⟩ ∧ c ∈ x.1.activeClients) := by
  cases found : x.1.activeClients.lookup c with
  | none => exact Or.inl rfl
  | some h =>
    have member : c ∈ x.1.activeClients := AList.lookup_isSome.mp (by rw [found]; rfl)
    exact Or.inr ⟨by rw [inv.ids c h found], member⟩

end Plain

section Sweep
variable {c : Nat} {left : List Text} {seen : Text → Option Nat → Prop} {x : Noted} {op : MapCall}

theorem started_cleaning (now : Cleaning c x.1) : Started x.1 c := Or.inr now.down

theorem clearing_lessens {s s' : ServerState} {g g' : Notes} (less : Lessens s s')
    (clearing : Clearing c left seen (s, g)) : Clearing c left seen (s', g') := by
  refine ⟨⟨?_, ?_⟩, fun u held => ?_, fun ch member => ?_, fun ch held => ?_⟩
  · exact (congrFun less.connected c).trans clearing.cleaning.down
  · exact less.active.symm ▸ clearing.cleaning.active
  · exact clearing.logins u (less.logins u c held)
  · exact less.channels.symm ▸ clearing.present ch member
  · change seen ch (s'.channelsSubscriptions.lookup ch)
    rw [less.channels]
    exact clearing.seen ch (subscribed_lessens less held)

theorem clearing_step (op : MapCall) (quiet : Quiet op) (inv : Coherent x)
    (clearing : Clearing c left seen x) :
    cleaning.Safe (.handler c) x (annotated exec note (.handler c) op x).2 ∧
      Clearing c left seen (annotated exec note (.handler c) op x).2 :=
  ⟨safe_quiet_call quiet inv (started_cleaning clearing.cleaning),
    clearing_lessens (lessens_of_quiet quiet) clearing⟩

theorem clearing_mono {left' : List Text} {seen' : Text → Option Nat → Prop}
    (fewer : ∀ ch ∈ left', ch ∈ left) (more : ∀ ch i, seen ch i → seen' ch i)
    (clearing : Clearing c left seen x) : Clearing c left' seen' x :=
  ⟨clearing.cleaning, clearing.logins, fun ch member => clearing.present ch (fewer ch member),
    fun ch held => more ch _ (clearing.seen ch held)⟩

/-- The program returns, and then `P` holds. -/
def Returns {α : Type} (P : Noted → Prop) (result : Except JavaException α) (x : Noted) : Prop :=
  ∃ a, result = .ok a ∧ P x

/-- Where the handler can be while the loop is in a map: among its keys, as long as the map
    is the one of its channel, or in a channel that comes later. -/
def InLoop (c : Nat) (ref : MapRef) (keys : List HandlerRef) (left : List Text) (ch : Text)
    (i : Option Nat) : Prop :=
  ch ∈ left ∨ (ch = ref.channel ∧ i = some ref.index ∧ some ⟨c⟩ ∈ keys)

variable {ref : MapRef} {key : HandlerRef} {keys : List HandlerRef}

theorem seen_removed (clearing : Clearing c left (InLoop c ref (key :: keys) left) x) :
    Clearing c left (InLoop c ref keys left)
      (annotated exec note (.handler c) (.subsRemove ref key) x).2 := by
  have quiet : Quiet (.subsRemove ref key) := trivial
  have kept : Clearing c left _ (annotated exec note (.handler c) (.subsRemove ref key) x).2 :=
    clearing_lessens (lessens_of_quiet quiet) clearing
  refine ⟨kept.cleaning, kept.logins, kept.present, fun ch held => ?_⟩
  rcases kept.seen ch held with later | ⟨rfl, current, member⟩
  · exact Or.inl later
  · refine Or.inr ⟨rfl, current, ?_⟩
    rcases List.mem_cons.mp member with here | later
    · subst here
      have gone : (x.1.removeSubscription ref (some ⟨c⟩)).subscription ref.channel
          (some ⟨c⟩) = none := by
        have taken := ServerState.subscription_remove (s := x.1) (i := ref.index) current
          (some ⟨c⟩) (some ⟨c⟩) ref.channel
        rwa [if_pos ⟨rfl, rfl⟩] at taken
      exact absurd gone held
    · exact later

theorem cleans_remove_if_counted :
    Cleans (.handler c) (Returns (Clearing c left (InLoop c ref keys left)))
      (removeIfCounted ref key) (Clearing c left (InLoop c ref (key :: keys) left)) := by
  refine Discipline.outline_perform_bind MapCall.counterGet
    (fun (counter : Nat) x => Clearing c left (InLoop c ref (key :: keys) left) x ∧
      (counter = c ∨ Unsubscribed c x))
    (fun _ => stable_and stable_clearing (stable_or (stable_pure _) stable_unsubscribed)) ?_
    fun counter => ?_
  · intro x inv clearing thorough
    obtain ⟨safe, after⟩ := clearing_step .counterGet trivial inv clearing
    exact ⟨safe, after, thorough clearing.cleaning⟩
  refine Discipline.outline_perform_bind (MapCall.activeGet counter)
    (fun (counted : HandlerRef) x => Clearing c left (InLoop c ref (key :: keys) left) x ∧
      (counted = some ⟨c⟩ ∨ Unsubscribed c x))
    (fun _ => stable_and stable_clearing (stable_or (stable_pure _) stable_unsubscribed)) ?_
    fun counted => ?_
  · rintro x inv ⟨clearing, own⟩ _
    obtain ⟨safe, after⟩ := clearing_step (.activeGet counter) trivial inv clearing
    refine ⟨safe, after, own.imp (fun same => ?_) fun nothing => nothing⟩
    subst same
    obtain ⟨h, found⟩ := Option.isSome_iff_exists.mp
      (AList.lookup_isSome.mpr clearing.cleaning.active)
    exact found.trans (congrArg some (inv.ids _ h found))
  split
  · refine Discipline.outline_perform_bind (f := .done) (MapCall.subsRemove ref key)
      (fun _ => Clearing c left (InLoop c ref keys left)) (fun _ => stable_clearing) ?_
      fun _ _ _ clearing => ⟨(), rfl, clearing⟩
    rintro x inv ⟨clearing, _⟩ _
    exact ⟨safe_quiet_call trivial inv (started_cleaning clearing.cleaning),
      seen_removed clearing⟩
  · rename_i other
    rintro x inv ⟨clearing, own⟩
    refine ⟨(), rfl, clearing.cleaning, clearing.logins, clearing.present, fun ch held => ?_⟩
    rcases own with own | nothing
    · refine (clearing.seen ch held).imp_right fun ⟨here, current, member⟩ => ⟨here, current, ?_⟩
      refine (List.mem_cons.mp member).resolve_left fun same => other ?_
      rw [own, same]
    · exact absurd (nothing ch) held

theorem cleans_sweep_loop (ref : MapRef) (expected : Nat) : ∀ keys,
    Cleans (.handler c) (Returns (Clearing c left fun ch _ => ch ∈ left))
      (forEachKey ref expected (removeIfCounted ref) keys)
      (Clearing c left (InLoop c ref keys left))
  | [] => by
    intro x _ clearing
    refine ⟨(), rfl, clearing_mono (fun _ member => member) (fun ch i seen => ?_) clearing⟩
    rcases seen with later | ⟨_, _, member⟩
    · exact later
    · cases member
  | key :: keys => by
    refine Discipline.outline_perform_bind (MapCall.subsModCount ref expected)
      (fun (modCount : Nat) x => Clearing c left (InLoop c ref (key :: keys) left) x ∧
        modCount = expected)
      (fun _ => stable_and stable_clearing (stable_pure _)) ?_ fun modCount => ?_
    · intro x inv clearing thorough
      obtain ⟨safe, after⟩ := clearing_step (.subsModCount ref expected) trivial inv clearing
      exact ⟨safe, after, thorough clearing.cleaning⟩
    split
    · refine Discipline.outline_bind (Discipline.outline_weaken cleans_remove_if_counted
        fun _ _ now => now.1) (fun _ => ?_) fun e x _ returned => ?_
      · refine Discipline.outline_weaken (cleans_sweep_loop ref expected keys)
          fun _ _ returned => ?_
        obtain ⟨_, _, clearing⟩ := returned
        exact clearing
      · obtain ⟨_, impossible, _⟩ := returned
        cases impossible
    · rename_i changed
      exact Discipline.outline_weaken (Discipline.outline_unreached _ _)
        fun _ _ now => changed now.2

theorem cleans_sweep_channel (w : Surroundings) (channel : Text) :
    Cleans (.handler c) (Returns (Clearing c left fun ch _ => ch ∈ left)) (sweepChannel w channel)
      (Clearing c (channel :: left) fun ch _ => ch ∈ channel :: left) := by
  let reading : Option MapRef → Noted → Prop := fun found x => ∃ ref, found = some ref ∧
    Clearing c left (fun ch i => ch ∈ left ∨ (ch = ref.channel ∧ i = some ref.index)) x
  refine Discipline.outline_perform_bind (MapCall.channelGet channel) reading (fun found => ?_) ?_
    fun found => ?_
  · rintro x y inv inv' relied ⟨ref, here, clearing⟩
    exact ⟨ref, here, stable_clearing x y inv inv' relied clearing⟩
  · intro x inv clearing _
    obtain ⟨i, current⟩ := Option.isSome_iff_exists.mp
      (AList.lookup_isSome.mpr (clearing.present channel List.mem_cons_self))
    obtain ⟨safe, after⟩ := clearing_step (.channelGet channel) trivial inv clearing
    refine ⟨safe, ⟨channel, i⟩, ?_, after.cleaning, after.logins,
      fun ch member => after.present ch (List.mem_cons_of_mem _ member), fun ch held => ?_⟩
    · change (x.1.channelsSubscriptions.lookup channel).map _ = _
      rw [current]
      rfl
    · rcases List.mem_cons.mp (after.seen ch held) with rfl | later
      · exact Or.inr ⟨rfl, current⟩
      · exact Or.inl later
  cases found with
  | none => exact fun x _ ⟨_, impossible, _⟩ => by cases impossible
  | some ref =>
    refine Discipline.outline_perform_bind (MapCall.subsIterator ref)
      (fun (answer : List HandlerRef × Nat) => Clearing c left (InLoop c ref answer.1 left))
      (fun _ => stable_clearing) ?_ fun answer => ?_
    · rintro x inv ⟨_, same, clearing⟩ _
      cases same
      obtain ⟨safe, after⟩ := clearing_step (.subsIterator ref) trivial inv clearing
      refine ⟨safe, after.cleaning, after.logins, after.present, fun ch held => ?_⟩
      rcases after.seen ch held with later | ⟨rfl, current⟩
      · exact Or.inl later
      · obtain ⟨i, here, member⟩ := subscribed_iff.mp held
        cases here.symm.trans current
        exact Or.inr ⟨rfl, current, AList.mem_keys.mp member⟩
    · refine Discipline.outline_weaken (cleans_sweep_loop ref answer.2 _) fun x _ clearing => ?_
      refine clearing_mono (fun _ member => member) (fun ch i seen => ?_) clearing
      exact seen.imp_right fun ⟨here, current, member⟩ =>
        ⟨here, current, (w.subscribers channel).mem_order.mpr member⟩

theorem cleans_sweep_channels (w : Surroundings) : ∀ channels,
    Cleans (.handler c) (Returns (Clearing c [] fun _ _ => False)) (sweepChannels w channels)
      (Clearing c channels fun ch _ => ch ∈ channels)
  | [] => fun x _ clearing =>
    ⟨(), rfl, clearing_mono (fun _ member => member) (fun _ _ seen => by cases seen) clearing⟩
  | channel :: channels => by
    refine Discipline.outline_bind (cleans_sweep_channel w channel) (fun _ => ?_)
      fun e x _ returned => ?_
    · refine Discipline.outline_weaken (cleans_sweep_channels w channels) fun _ _ returned => ?_
      obtain ⟨_, _, clearing⟩ := returned
      exact clearing
    · obtain ⟨_, impossible, _⟩ := returned
      cases impossible

theorem cleans_disconnect (w : Surroundings) :
    Cleans (.handler c) (Returns (Clearing c [] fun _ _ => False)) (disconnect w c)
      fun x => Cleaning c x.1 := by
  refine Discipline.outline_perform_bind (MapCall.loggedInRemoveValue w.logins c)
    (fun _ => Clearing c [] fun _ _ => True) (fun _ => stable_clearing) ?_ fun _ => ?_
  · intro x inv now thorough
    refine ⟨safe_quiet_call trivial inv (started_cleaning now), ⟨now.down, now.active⟩, ?_, nofun,
      fun _ _ => trivial⟩
    exact (remove_value_clears_iff w.logins c x.1.loggedInUsers).mpr (thorough now)
  refine Discipline.outline_perform_bind MapCall.channelKeys
    (fun (channels : List Text) => Clearing c channels fun ch _ => ch ∈ channels)
    (fun _ => stable_clearing) ?_ fun channels => ?_
  · intro x inv clearing _
    obtain ⟨safe, after⟩ := clearing_step .channelKeys trivial inv clearing
    refine ⟨safe, after.cleaning, after.logins, fun ch member => AList.mem_keys.mpr member,
      fun ch held => ?_⟩
    obtain ⟨i, current, _⟩ := subscribed_iff.mp held
    exact AList.mem_keys.mp (AList.lookup_isSome.mp (Option.isSome_iff_exists.mpr ⟨i, current⟩))
  · refine Discipline.outline_weaken (cleans_sweep_channels w _) fun x _ clearing => ?_
    exact clearing_mono (fun ch member => w.channels.mem_order.mp member)
      (fun ch _ seen => w.channels.mem_order.mpr seen) clearing

theorem unused_of_clearing (clearing : Clearing c left (fun _ _ => False) x) : Unused c x.1 := by
  refine ⟨clearing.logins, fun ch => ?_⟩
  by_contra held
  exact clearing.seen ch held

/-- The cleanup of a thread whose socket closes without an exception removes the connection
    from everywhere. -/
theorem cleans_close_after_error {w : Surroundings} (closes : w.closeFails = false) :
    Cleans (.handler c) (fun _ => Working c) (closeAfterError w c) (Working c) := by
  refine Discipline.outline_catching (Q := fun _ => Working c) ?_
    (fun _ => cleans_return ()) fun _ _ _ working => working
  refine Discipline.outline_perform_bind (MapCall.activeGet c)
    (fun (found : HandlerRef) x => Working c x ∧
      (found = none ∨ found = some ⟨c⟩ ∧ c ∈ x.1.activeClients)) ?_ ?_ fun found => ?_
  · intro found x y inv inv' relied now
    exact ⟨stable_working x y inv inv' relied now.1,
      now.2.imp_right fun own => ⟨own.1, relied.active own.2⟩⟩
  · intro x inv working _
    refine ⟨safe_quiet_call trivial inv working.started, working_quiet trivial working, ?_⟩
    exact own_handler_found inv
  cases found with
  | none => exact fun _ _ now => now.1
  | some h =>
    refine Discipline.outline_bind (Q := Returns fun x => Cleaning c x.1) ?_ (fun _ => ?_)
      fun e x _ returned => ?_
    · refine Discipline.outline_perform_bind (MapCall.handlerClose h)
        (fun _ x => Cleaning c x.1) (fun _ => stable_cleaning) ?_ fun _ => ?_
      · rintro x inv ⟨working, own⟩ _
        obtain ⟨same, active⟩ := own.resolve_left nofun
        cases same
        refine ⟨safe_of_effect inv working.started (effect_close inv active), ?_, active⟩
        exact Function.update_self ..
      · rw [if_neg (by simp [closes])]
        exact fun _ _ now => ⟨(), rfl, now⟩
    · refine Discipline.outline_bind (Discipline.outline_weaken (cleans_disconnect w)
        fun _ _ returned => ?_) (fun _ => ?_) fun e x _ returned => ?_
      · obtain ⟨_, _, now⟩ := returned
        exact now
      · refine Discipline.outline_perform_bind (MapCall.activeRemove c) (fun _ => Working c)
          (fun _ => stable_working) ?_ fun _ => ?_
        · rintro x inv ⟨_, _, clearing⟩ _
          have effect := effect_remove inv (unused_of_clearing clearing)
          refine ⟨safe_of_effect inv (started_cleaning clearing.cleaning) effect,
            Or.inr clearing.cleaning.down, fun _ => ?_⟩
          change c ∉ x.1.activeClients.erase c
          simp
        · exact cleans_plain ((calls_perform _).mpr (Or.inl trivial))
      · obtain ⟨_, impossible, _⟩ := returned
        cases impossible
    · obtain ⟨_, impossible, _⟩ := returned
      cases impossible

end Sweep

section Subscribe
variable {c : Nat} {x : Noted} {handler : HandlerRef}

/-- The thread is about to enter this reference: null, or its own registered handler. -/
structure Joining (c : Nat) (handler : HandlerRef) (x : Noted) : Prop where
  working : Working c x
  fits : handler = none ∨ (handler = some ⟨c⟩ ∧ c ∈ x.1.activeClients)

/-- A map that the thread has made for this reference. -/
structure Making (c : Nat) (handler : HandlerRef) (ref : MapRef) (x : Noted) : Prop extends
    Joining c handler x where
  own : x.2 ref = some c
  entries : ∀ h ∈ (x.1.mapAt ref).entries, h = handler

theorem stable_joining : cleaning.Stable (.handler c) (Joining c handler) :=
  fun x y inv inv' relied joining =>
    ⟨stable_working x y inv inv' relied joining.working,
      joining.fits.imp_right fun own => ⟨own.1, relied.active own.2⟩⟩

theorem stable_making (ref : MapRef) : cleaning.Stable (.handler c) (Making c handler ref) := by
  intro x y inv inv' relied making
  obtain ⟨own, fewer⟩ := relied.own ref making.own
  exact ⟨stable_joining x y inv inv' relied making.toJoining, own,
    fun h member => making.entries h (fewer h member)⟩

theorem joining_step (op : MapCall) (quiet : Quiet op) (inv : Coherent x)
    (joining : Joining c handler x) :
    cleaning.Safe (.handler c) x (annotated exec note (.handler c) op x).2 ∧
      Joining c handler (annotated exec note (.handler c) op x).2 := by
  refine ⟨safe_quiet_call quiet inv joining.working.started,
    working_quiet quiet joining.working, ?_⟩
  have same := (lessens_of_quiet (s := x.1) quiet).active
  exact joining.fits.imp_right fun own => ⟨own.1, same.symm ▸ own.2⟩

theorem settled_found (inv : Coherent x) {channel : Text} {ref : MapRef}
    (found : (x.1.channelsSubscriptions.lookup channel).map (fun i => ⟨channel, i⟩) = some ref) :
    Settled ref x := by
  obtain ⟨i, current, rfl⟩ := Option.map_eq_some_iff.mp found
  exact ⟨inv.known channel i current, inv.installed channel i current⟩

theorem cleans_look_up {α : Type} {Q : Except JavaException α → Noted → Prop} (channel : Text)
    {f : Option MapRef → Java α}
    (later : ∀ found, Cleans (.handler c) Q (f found) fun x => Joining c handler x ∧
      ∀ ref, found = some ref → Settled ref x) :
    Cleans (.handler c) Q (channelsSubscriptions.get channel >>= f) (Joining c handler) := by
  refine Discipline.outline_perform_bind (MapCall.channelGet channel)
    (fun (found : Option MapRef) x => Joining c handler x ∧ ∀ ref, found = some ref → Settled ref x)
    (fun found => ?_) ?_ later
  · rintro x y inv inv' relied ⟨joining, settled⟩
    exact ⟨stable_joining x y inv inv' relied joining,
      fun ref here => relied.settled ref (settled ref here)⟩
  · intro x inv joining _
    obtain ⟨safe, after⟩ := joining_step (.channelGet channel) trivial inv joining
    exact ⟨safe, after, fun ref found => settled_found inv found⟩

theorem cleans_add_to_known (channel : Text) (id : Int) :
    Cleans (.handler c) (fun _ => Working c) (do
        let subs ← deref (← channelsSubscriptions.get channel)
        let subscribed ← subs.containsKey handler
        if subscribed then return false
        else
          let subs ← deref (← channelsSubscriptions.get channel)
          subs.put handler id
          return true) (Joining c handler) := by
  refine cleans_look_up channel fun found => ?_
  cases found with
  | none => exact fun _ _ now => now.1.working
  | some ref =>
    refine Discipline.outline_perform_bind (MapCall.subsContains ref handler)
      (fun _ => Joining c handler) (fun _ => stable_joining) ?_ fun subscribed => ?_
    · exact fun x inv now _ => joining_step (.subsContains ref handler) trivial inv now.1
    split
    · exact fun _ _ joining => joining.working
    · refine cleans_look_up channel fun found => ?_
      cases found with
      | none => exact fun _ _ now => now.1.working
      | some ref =>
        refine Discipline.outline_perform_bind (MapCall.subsPut ref handler id)
          (fun _ => Working c) (fun _ => stable_working) ?_ fun _ => cleans_return true
        rintro x inv ⟨joining, settled⟩ _
        have effect := effect_put id inv (Or.inl (settled ref rfl).installed) joining.fits
        exact ⟨safe_of_effect inv joining.working.started effect, joining.working.started,
          joining.working.quiet⟩

theorem cleans_add_first (channel : Text) (id : Int) :
    Cleans (.handler c) (fun _ => Working c) (do
        let newChannel ← newHashMap channel
        newChannel.put handler id
        channelsSubscriptions.put newChannel
        return true) (Joining c handler) := by
  refine Discipline.outline_perform_bind (MapCall.newMap channel) (Making c handler)
    stable_making ?_ fun ref => ?_
  · intro x inv joining _
    refine ⟨safe_of_effect inv joining.working.started (effect_new channel inv),
      ⟨⟨joining.working.started, joining.working.quiet⟩, joining.fits⟩, ?_, fun h member => ?_⟩
    · exact Function.update_self ..
    · change h ∈ ((x.1.createMap channel).mapAt ⟨channel, x.1.created channel⟩).entries at member
      unfold ServerState.mapAt ServerState.createMap ServerState.setMap at member
      simp at member
  refine Discipline.outline_perform_bind (MapCall.subsPut ref handler id)
    (fun _ => Making c handler ref) (fun _ => stable_making ref) ?_ fun _ => ?_
  · intro x inv making _
    have effect := effect_put id inv (Or.inr making.own) making.fits
    refine ⟨safe_of_effect inv making.working.started effect,
      ⟨⟨making.working.started, making.working.quiet⟩, making.fits⟩, making.own, fun h member => ?_⟩
    change h ∈ ((x.1.putSubscription ref handler id).subscriptionMaps _ _).entries at member
    rw [put_map_at, if_pos ⟨rfl, rfl⟩, AList.mem_insert] at member
    exact member.elim (fun same => same) (making.entries h)
  refine Discipline.outline_perform_bind (MapCall.channelPut ref)
    (fun _ => Working c) (fun _ => stable_working) ?_ fun _ => cleans_return true
  intro x inv making _
  have effect := effect_install inv making.own fun h member => by
    rw [making.entries h member]
    exact making.fits
  exact ⟨safe_of_effect inv making.working.started effect, making.working.started,
    making.working.quiet⟩

theorem cleans_add (channel : Option Text) (id : Int) :
    Cleans (.handler c) (fun _ => Working c) (addChannelSubscription channel id handler)
      (Joining c handler) := by
  cases channel with
  | none => exact fun _ _ joining => joining.working
  | some channel =>
    refine Discipline.outline_perform_bind (MapCall.channelContains channel)
      (fun _ => Joining c handler) (fun _ => stable_joining) ?_ fun known => ?_
    · exact fun x inv joining _ => joining_step (.channelContains channel) trivial inv joining
    cases known with
    | true => exact cleans_add_to_known channel id
    | false => exact cleans_add_first channel id

end Subscribe

section Frames
variable {w : Surroundings} {c : Nat} (closes : w.closeFails = false)

theorem cleans_reply_error (headers : HashMap Text Text) :
    Cleans (.handler c) (fun _ => Working c) (reply w c (errorFrame headers)) (Working c) :=
  cleans_work connectedFrame (by decide) (calls_reply_error w c headers)

theorem cleans_reply_receipt (receiptID : Option Text) :
    Cleans (.handler c) (fun _ => Working c) (reply w c (receiptFrame receiptID)) (Working c) :=
  cleans_work connectedFrame (by decide) (calls_reply_receipt w c receiptID)

include closes

theorem cleans_refuse (headers : HashMap Text Text) :
    Cleans (.handler c) (fun _ => Working c) (refuse w c (errorFrame headers)) (Working c) := by
  refine cleans_bind (cleans_reply_error headers) fun sent => ?_
  split
  · exact cleans_close_after_error closes
  · exact cleans_return ()

theorem cleans_connect {frame : StompFrame} (command : frame.command = "CONNECT") :
    Cleans (.handler c) (fun _ => Working c) (processConnect w c frame.headers) (Working c) := by
  have other : frame.command ≠ "SUBSCRIBE" := by
    rw [command]
    decide
  refine cleans_bind (cleans_work frame other (calls_user_connected c _)) fun taken => ?_
  split
  · exact cleans_refuse closes _
  · refine cleans_bind (cleans_work frame other (calls_connect_user c command)) fun done => ?_
    split
    · exact cleans_bind (cleans_work frame other (calls_reply_connected w c command))
        fun _ => cleans_return ()
    · exact cleans_bind (cleans_reply_error _) fun _ => cleans_refuse closes _

theorem cleans_unsubscribe (headers : HashMap Text Text) :
    Cleans (.handler c) (fun _ => Working c) (processUnsubscribe w c headers) (Working c) := by
  refine cleans_bind (cleans_plain (calls_parse_int _)) fun id => ?_
  refine cleans_bind (cleans_plain ((calls_perform _).mpr (Or.inl trivial))) fun handler => ?_
  refine cleans_bind (cleans_work connectedFrame (by decide)
    (calls_remove_subscription w c id handler)) fun done => ?_
  split
  · exact cleans_bind (cleans_reply_receipt _) fun _ => cleans_return ()
  · exact cleans_refuse closes _

theorem cleans_subscribe (headers : HashMap Text Text) :
    Cleans (.handler c) (fun _ => Working c) (processSubscribe w c headers) (Working c) := by
  refine cleans_bind (cleans_plain (calls_parse_int _)) fun id => ?_
  refine Discipline.outline_perform_bind (MapCall.activeGet c)
    (fun (handler : HandlerRef) => Joining c handler) (fun _ => stable_joining) ?_
    fun handler => ?_
  · intro x inv working _
    refine ⟨safe_quiet_call trivial inv working.started, working_quiet trivial working, ?_⟩
    exact own_handler_found inv
  refine Discipline.outline_bind (cleans_add (header headers "destination") id) (fun done => ?_)
    fun _ _ _ working => working
  split
  · exact cleans_bind (cleans_reply_receipt _) fun _ => cleans_return ()
  · exact cleans_refuse closes _

theorem cleans_send (headers : HashMap Text Text) (body : Text) :
    Cleans (.handler c) (fun _ => Working c) (processSend w c headers body) (Working c) := by
  refine cleans_bind (cleans_work connectedFrame (by decide)
    (calls_get_user_sub_id c _)) fun id => ?_
  split
  · exact cleans_bind (cleans_reply_error _) fun _ => cleans_refuse closes _
  · refine cleans_bind (cleans_plain (calls_deref _)) fun channel => ?_
    refine cleans_bind (cleans_plain ((calls_perform _).mpr (Or.inl trivial))) fun number => ?_
    refine cleans_bind (cleans_plain ((calls_perform _).mpr (Or.inl trivial))) fun _ => ?_
    refine cleans_work connectedFrame (by decide) (calls_send_channel w c ?_)
    rw [message_command]
    decide

theorem cleans_dispatch (frame : StompFrame) :
    Cleans (.handler c) (fun _ => Working c) (dispatch w c frame) (Working c) := by
  unfold dispatch
  split
  · rename_i command
    exact cleans_connect closes command
  split
  · refine cleans_bind (cleans_reply_receipt _) fun _ => ?_
    exact cleans_plain (calls_mono (calls_disconnect w c) fun _ sweep =>
      Or.inl (quiet_of_sweep sweep))
  split
  · exact cleans_unsubscribe closes _
  split
  · exact cleans_subscribe closes _
  split
  · exact cleans_send closes _ _
  · exact cleans_return ()

theorem cleans_process (message : Text) :
    Cleans (.handler c) (fun _ => Working c) (process w c message) (Working c) := by
  refine cleans_bind (cleans_plain ((calls_perform _).mpr (Or.inl trivial))) fun _ => ?_
  refine cleans_bind (cleans_plain (calls_ofExcept _)) fun frame => ?_
  refine cleans_bind (cleans_plain ((calls_perform _).mpr (Or.inl trivial))) fun _ => ?_
  exact cleans_dispatch closes frame

end Frames

section Accept
variable {x : Noted}

theorem safe_admit {clients : HashMap Nat ConnectionHandler} {counter : Nat} (inv : Coherent x)
    (ids : HandlerIds { x.1 with activeClients := clients, connectionID := counter })
    (grown : ∀ c ∈ x.1.activeClients, c ∈ clients)
    (fresh : ∀ c ∈ clients, c ∈ x.1.activeClients ∨ x.1.connected c = true)
    (later : x.1.connectionID ≤ counter) :
    cleaning.Safe .acceptor x
      ({ x.1 with activeClients := clients, connectionID := counter }, x.2) := by
  have stays : ∀ c, Gone c x.1 → c ∉ clients := by
    intro c gone member
    rcases fresh c member with active | up
    · exact gone.removed active
    · rw [gone.down] at up
      cases up
  refine ⟨⟨ids, inv.known, inv.installed, inv.noted, fun c gone => ?_⟩, fun c gone =>
    ⟨gone.down, stays c gone⟩, fun t other => ?_⟩
  · have unused := inv.gone c ⟨gone.down, fun member => gone.removed (grown c member)⟩
    exact ⟨unused.logins, unused.subscriptions⟩
  · cases t with
    | acceptor => exact absurd rfl other
    | handler c =>
      exact ⟨rfl, grown c, stays c, later, fun _ held => held, fun _ member => member,
        fun _ held => ⟨held, rfl⟩, fun _ mine => ⟨mine, fun _ member => member⟩,
        fun _ settled => ⟨settled.created, settled.installed⟩, fun _ => le_rfl⟩

/-- The numbers behind the counter are free while the own one is being entered. -/
def Entering (x : Noted) : Prop := ∀ c, x.1.connectionID < c → ¬ Started x.1 c

theorem stable_entering : cleaning.Stable .acceptor Entering := by
  intro x y _ _ relied entering c behind
  rw [relied.counter] at behind
  exact relied.free c (entering c behind)

theorem cleans_accept : Cleans .acceptor (fun _ => rest .acceptor) acceptClient
    (rest .acceptor) := by
  refine Discipline.outline_perform_bind MapCall.counterGet
    (fun (id : Nat) x => id = x.1.connectionID ∧ rest .acceptor x) ?_ ?_ fun id => ?_
  · rintro id x y inv inv' relied ⟨same, free⟩
    exact ⟨same.trans relied.counter.symm, stable_rest .acceptor x y inv inv' relied free⟩
  · intro x inv free _
    refine ⟨?_, rfl, free⟩
    exact safe_admit inv inv.ids (fun _ member => member) (fun _ => Or.inl) le_rfl
  refine Discipline.outline_perform_bind (MapCall.activePut id ⟨id⟩) (fun _ => Entering)
    (fun _ => stable_entering) ?_ fun _ => ?_
  · rintro x inv ⟨same, free⟩ _
    subst same
    have own := free x.1.connectionID le_rfl
    have up : x.1.connected x.1.connectionID = true := by
      by_contra down
      exact own (Or.inr (Bool.eq_false_iff.mpr down))
    refine ⟨?_, fun c behind started => ?_⟩
    · refine safe_admit inv (exec_handler_ids (.activePut _ _) rfl inv.ids)
        (fun c member => (AList.mem_insert _).mpr (Or.inr member)) (fun c member => ?_) le_rfl
      rcases (AList.mem_insert _).mp member with rfl | active
      · exact Or.inr up
      · exact Or.inl active
    · have before := free c behind.le
      rcases started with (older | member) | down
      · exact before (Or.inl (Or.inl older))
      · rcases (AList.mem_insert _).mp member with now | active
        · exact absurd now behind.ne'
        · exact before (Or.inl (Or.inr active))
      · exact before (Or.inr down)
  refine Discipline.outline_perform_bind (f := .done) MapCall.counterIncrement
    (fun _ => rest .acceptor) (fun _ => stable_rest .acceptor) ?_ fun _ _ _ free => free
  intro x inv entering _
  refine ⟨?_, fun c above started => ?_⟩
  · exact safe_admit inv inv.ids (fun _ member => member) (fun _ => Or.inl) (Nat.le_succ _)
  · have behind : x.1.connectionID < c := above
    rcases started with (older | active) | down
    · exact absurd (show c < x.1.connectionID + 1 from older) (by omega)
    · exact entering c behind (Or.inl (Or.inr active))
    · exact entering c behind (Or.inr down)

end Accept

end CleanupOutline
