import EmergencyService.Server.FrameEvents
import EmergencyService.Server.ServerRuns

/- Calls of `addChannelSubscription` by several threads at once. A fresh inner map is
   installed some calls after the channel was looked for, and replaces whatever another
   thread has installed in between. -/
namespace SubscriptionRaces
open JavaRuntime JavaFrame AtomicProgram ThreadInterleaving MapCalls ConnectionsImpl
open StompProtocolImpl CallFootprint HandlerThreads ServerRuns

/-- Every installed map has been created. -/
def KnownMaps (s : ServerState) : Prop :=
  ∀ ch i, s.channelsSubscriptions.lookup ch = some i → i < s.created ch

section Known

/-- Maps that have been created stay created, whatever the threads do. -/
def creating : Discipline ServerState Thread MapCall where
  inv s := HandlerIds s ∧ KnownMaps s
  rely _ s s' := ∀ ch, s.created ch ≤ s'.created ch
  keeps _ _ := True
  permitted _ _ _ := True

def InstallsNothing : MapCall → Prop
  | .channelPut _ => False
  | .activePut c h => h = ⟨c⟩
  | _ => True

/-- A reference to a map that has been created for its channel. -/
def Created (ref : MapRef) (s : ServerState) : Prop := ref.index < s.created ref.channel

variable {t : Thread} {s : ServerState}

theorem created_grows (op : MapCall) (s : ServerState) (ch : Text) :
    s.created ch ≤ (exec op s).2.created ch := by
  cases op with
  | newMap channel =>
    change _ ≤ Function.update s.created channel (s.created channel + 1) ch
    by_cases here : ch = channel
    · subst here
      simp
    · simp [here]
  | _ => exact le_rfl

theorem stable_created (ref : MapRef) : creating.Stable t (Created ref) :=
  fun _ _ _ _ grows created => lt_of_lt_of_le created (grows ref.channel)

theorem safe_quiet {op : MapCall} (nothing : InstallsNothing op) (ids : HandlerIds s)
    (known : KnownMaps s) : creating.Safe t s (exec op s).2 := by
  have own : OwnKey op := by
    cases op with
    | activePut c h => exact nothing
    | _ => trivial
  have same : (exec op s).2.channelsSubscriptions = s.channelsSubscriptions := by
    cases op with
    | channelPut ref => exact nothing.elim
    | _ => rfl
  refine ⟨⟨exec_handler_ids op own ids, fun ch i current => ?_⟩, trivial,
    fun _ _ => created_grows op s⟩
  rw [same] at current
  exact lt_of_lt_of_le (known ch i current) (created_grows op s ch)

theorem known_installed {ref : MapRef} (created : Created ref s) (known : KnownMaps s) :
    KnownMaps (exec (.channelPut ref) s).2 := by
  intro ch i current
  change (s.channelsSubscriptions.insert ref.channel ref.index).lookup ch = some i at current
  by_cases here : ch = ref.channel
  · subst here
    rw [AList.lookup_insert] at current
    cases current
    exact created
  · rw [AList.lookup_insert_ne here] at current
    exact known ch i current

theorem safe_install {ref : MapRef} (created : Created ref s) (ids : HandlerIds s)
    (known : KnownMaps s) : creating.Safe t s (exec (.channelPut ref) s).2 :=
  ⟨⟨ids, known_installed created known⟩, trivial, fun _ _ => created_grows _ s⟩

theorem outline_quiet {α : Type} {p : Java α} (calls : Calls HandlerAnswer InstallsNothing p)
    (A : ServerState → Prop) : creating.Outline exec t (fun _ _ => True) p A := by
  have anywhere : creating.Stable t fun _ => True := fun _ _ _ _ _ _ => trivial
  refine Discipline.outline_weaken (B := fun _ => True) ?_ fun _ _ _ => trivial
  refine Discipline.outline_of_calls calls anywhere fun op s nothing inv _ _ => ?_
  exact ⟨exec_answer op inv.1, safe_quiet nothing inv.1 inv.2, trivial⟩

theorem quiet_of_process {c : Nat} {frame : StompFrame} {op : MapCall}
    (other : frame.command ≠ "SUBSCRIBE") (call : ProcessCall c frame op) :
    InstallsNothing op := by
  cases op with
  | channelPut ref => exact absurd call.1 other
  | activePut c h => exact call.elim
  | _ => trivial

theorem calls_add_to_known {channel : Text} (id : Int) (handler : HandlerRef) :
    Calls HandlerAnswer InstallsNothing (do
      let subs ← deref (← channelsSubscriptions.get channel)
      let subscribed ← subs.containsKey handler
      if subscribed then return false
      else
        let subs ← deref (← channelsSubscriptions.get channel)
        subs.put handler id
        return true) := by
  refine calls_perform_bind trivial fun found _ => ?_
  refine calls_bind (calls_deref found) fun subs => ?_
  refine calls_perform_bind trivial fun subscribed _ => ?_
  split
  · trivial
  · refine calls_perform_bind trivial fun found _ => ?_
    refine calls_bind (calls_deref found) fun subs => ?_
    exact calls_perform_bind trivial fun _ _ => trivial

theorem outline_add (channel : Option Text) (id : Int) (handler : HandlerRef)
    (A : ServerState → Prop) :
    creating.Outline exec t (fun _ _ => True) (addChannelSubscription channel id handler) A := by
  cases channel with
  | none => exact fun _ _ _ => trivial
  | some channel =>
    refine Discipline.outline_perform_bind (MapCall.channelContains channel) (fun _ _ => True)
      (fun _ _ _ _ _ _ _ => trivial) ?_ fun known => ?_
    · exact fun s inv _ _ => ⟨safe_quiet trivial inv.1 inv.2, trivial⟩
    cases known with
    | true => exact outline_quiet (calls_add_to_known id handler) _
    | false =>
      refine Discipline.outline_perform_bind (MapCall.newMap channel) Created stable_created
        ?_ fun ref => ?_
      · intro s inv _ _
        refine ⟨safe_quiet trivial inv.1 inv.2, ?_⟩
        change s.created channel < Function.update s.created channel (s.created channel + 1) channel
        simp
      refine Discipline.outline_perform_bind (MapCall.subsPut ref handler id)
        (fun _ => Created ref) (fun _ => stable_created ref) ?_ fun _ => ?_
      · exact fun s inv created _ => ⟨safe_quiet trivial inv.1 inv.2, created⟩
      refine Discipline.outline_perform_bind (MapCall.channelPut ref) (fun _ _ => True)
        (fun _ _ _ _ _ _ _ => trivial) ?_ fun _ => ?_
      · exact fun s inv created _ => ⟨safe_install created inv.1 inv.2, trivial⟩
      · exact fun _ _ _ => trivial

theorem calls_quiet_reply (w : Surroundings) (c : Nat) (f : StompFrame) :
    Calls HandlerAnswer InstallsNothing (reply w c f) := by
  refine calls_perform_bind trivial fun found _ => ?_
  refine calls_bind (calls_deref found) fun handler => ?_
  exact calls_perform_bind trivial fun _ _ => trivial

theorem outline_subscribe (w : Surroundings) (c : Nat) (headers : HashMap Text Text)
    (A : ServerState → Prop) :
    creating.Outline exec t (fun _ _ => True) (processSubscribe w c headers) A := by
  refine Discipline.outline_bind (outline_quiet (calls_parse_int _) A) (fun id => ?_)
    fun _ _ _ _ => trivial
  refine Discipline.outline_perform_bind (MapCall.activeGet c) (fun _ _ => True)
    (fun _ _ _ _ _ _ _ => trivial) ?_ fun handler => ?_
  · exact fun s inv _ _ => ⟨safe_quiet trivial inv.1 inv.2, trivial⟩
  refine Discipline.outline_bind (outline_add _ id handler _) (fun done => ?_)
    fun _ _ _ _ => trivial
  refine outline_quiet ?_ _
  split
  · exact calls_bind (calls_quiet_reply w c _) fun _ => trivial
  · refine calls_bind (calls_quiet_reply w c _) fun sent => ?_
    split
    · refine calls_mono (calls_close_after_error w c) fun op cleanup => ?_
      cases op <;> simp_all [CleanupCall, InstallsNothing]
    · trivial

theorem outline_code (t : Thread) (work : Work) (A : ServerState → Prop) :
    creating.Outline exec t (fun _ _ => True) (code t work) A := by
  cases t with
  | acceptor =>
    have calls : Calls HandlerAnswer InstallsNothing acceptClient := by
      refine calls_bind ?_ fun _ => (calls_perform MapCall.counterIncrement).mpr trivial
      exact calls_perform_bind trivial fun id _ =>
        (calls_perform (MapCall.activePut id ⟨id⟩)).mpr rfl
    exact outline_quiet calls _
  | handler c =>
    cases work with
    | accept => exact fun _ _ _ => trivial
    | frame w message =>
      refine Discipline.outline_perform_bind (MapCall.received c message) (fun _ _ => True)
        (fun _ _ _ _ _ _ _ => trivial) ?_ fun _ => ?_
      · exact fun s inv _ _ => ⟨safe_quiet trivial inv.1 inv.2, trivial⟩
      cases parsed : StompFrame.ofText message with
      | error e => exact fun _ _ _ => trivial
      | ok frame =>
        refine Discipline.outline_perform_bind
          (MapCall.setShouldTerminate c (decide (frame.command = "DISCONNECT")))
          (fun _ _ => True) (fun _ _ _ _ _ _ _ => trivial) ?_ fun _ => ?_
        · exact fun s inv _ _ => ⟨safe_quiet trivial inv.1 inv.2, trivial⟩
        by_cases command : frame.command = "SUBSCRIBE"
        · rw [FrameEvents.dispatch_subscribe command]
          exact outline_subscribe w c frame.headers _
        · refine outline_quiet (calls_mono (calls_dispatch w c frame) fun _ => ?_) _
          exact quiet_of_process command

theorem known_maps_reachable (reachable : ReachableState s) : KnownMaps s := by
  obtain ⟨pool, reached, rfl⟩ := reachable
  have opening : ∀ t work, ∃ A, creating.Stable t A ∧
      (∀ s, creating.inv s → mayStart t work s → A s) ∧
      creating.Outline exec t (fun _ _ => True) (code t work) A :=
    fun t work => ⟨fun _ => True, fun _ _ _ _ _ _ => trivial, fun _ _ _ => trivial,
      outline_code t work _⟩
  have start : creating.inv ServerState.initial :=
    ⟨handler_ids_initial, fun ch i current => by cases current⟩
  have sound : Sound exec creating (fun _ _ _ _ => True) pool := by
    refine sound_reached opening ?_ (sound_idle start) reached
    exact fun _ _ _ _ _ _ _ => trivial
  exact sound.inv.2

end Known

/-- One call of `addChannelSubscription`; the handler is that of the calling connection. -/
structure Request where
  channel : Option Text
  id : Int
  deriving DecidableEq

def requestCode (c : Nat) (request : Request) : Java Bool :=
  addChannelSubscription request.channel request.id (some ⟨c⟩)

/-- A new map is installed only for a channel that has none yet. -/
def FirstInstall (_ : Nat) : MapCall → ServerState → Prop
  | .channelPut ref, s => ref.channel ∉ s.channelsSubscriptions
  | _, _ => True

def installsFirst (op : MapCall) (s : ServerState) : Bool :=
  match op with
  | .channelPut ref => decide (ref.channel ∉ s.channelsSubscriptions)
  | _ => true

instance (c : Nat) (op : MapCall) (s : ServerState) : Decidable (FirstInstall c op s) :=
  decidable_of_iff (installsFirst op s = true)
    (by cases op <;> simp [FirstInstall, installsFirst])

abbrev RequestPool := Pool MapCall MapCall.Ret JavaException Bool ServerState Nat Request

section Adding

/-- Nobody replaces a map, or touches the entries of the handler of `c`. -/
structure Steady (c : Nat) (s s' : ServerState) : Prop where
  installed : ∀ ch i, s.channelsSubscriptions.lookup ch = some i →
    s'.channelsSubscriptions.lookup ch = some i
  created : ∀ ch, s.created ch ≤ s'.created ch
  own : ∀ ch i, i < s.created ch → (s'.subscriptionMaps ch i).entries.lookup (some ⟨c⟩) =
    (s.subscriptionMaps ch i).entries.lookup (some ⟨c⟩)

def adding : Discipline ServerState Nat MapCall where
  inv := KnownMaps
  rely := Steady
  keeps s s' := ∀ ch h id, s.subscription ch h = some id → s'.subscription ch h = some id
  permitted := FirstInstall

variable {c : Nat} {s s' : ServerState} {channel : Text} {ref : MapRef} {id : Int}

theorem safe_read (known : KnownMaps s) : adding.Safe c s s :=
  ⟨known, fun _ _ _ held => held, fun _ _ => ⟨fun _ _ same => same, fun _ => le_rfl,
    fun _ _ _ => rfl⟩⟩

theorem safe_new_map (known : KnownMaps s) :
    adding.Safe c s (exec (.newMap channel) s).2 := by
  have kept : ∀ ch i, i < s.created ch →
      (s.createMap channel).subscriptionMaps ch i = s.subscriptionMaps ch i := by
    intro ch i before
    have other : ¬ (ch = channel ∧ i = s.created channel) := by
      rintro ⟨rfl, rfl⟩
      exact lt_irrefl _ before
    exact if_neg other
  have grown := created_grows (.newMap channel) s
  refine ⟨fun ch i current => lt_of_lt_of_le (known ch i current) (grown ch), ?_, ?_⟩
  · intro ch h id held
    change (s.createMap channel).subscription ch h = some id
    unfold ServerState.subscription at held ⊢
    change (s.channelsSubscriptions.lookup ch).bind _ = some id
    cases current : s.channelsSubscriptions.lookup ch with
    | none => simp [current] at held
    | some i =>
      rw [current] at held
      change ((s.createMap channel).subscriptionMaps ch i).entries.lookup h = some id
      rw [kept ch i (known ch i current)]
      exact held
  · refine fun c' _ => ⟨fun _ _ same => same, grown, fun ch i before => ?_⟩
    change ((s.createMap channel).subscriptionMaps ch i).entries.lookup _ = _
    rw [kept ch i before]

/-- The map has been created, and says this about the handler of `c`. -/
structure Entry (ref : MapRef) (c : Nat) (held : Option Int) (s : ServerState) : Prop where
  created : Created ref s
  entry : (s.mapAt ref).entries.lookup (some ⟨c⟩) = held

theorem stable_entry (held : Option Int) : adding.Stable c (Entry ref c held) := by
  intro s s' _ _ steady entry
  refine ⟨lt_of_lt_of_le entry.created (steady.created ref.channel), ?_⟩
  exact (steady.own ref.channel ref.index entry.created).trans entry.entry

theorem put_map_at (h : HandlerRef) (ch : Text) (i : Nat) :
    ((s.putSubscription ref h id).subscriptionMaps ch i).entries =
      if ch = ref.channel ∧ i = ref.index then (s.mapAt ref).entries.insert h id
      else (s.subscriptionMaps ch i).entries := by
  change (if ch = ref.channel ∧ i = ref.index then _ else _ : SubscriptionMap).entries = _
  split <;> rfl

theorem safe_put (free : Entry ref c none s) (known : KnownMaps s) :
    adding.Safe c s (exec (.subsPut ref (some ⟨c⟩) id) s).2 := by
  refine ⟨known, ?_, ?_⟩
  · intro ch h id' held
    change (s.putSubscription ref (some ⟨c⟩) id).subscription ch h = some id'
    unfold ServerState.subscription at held ⊢
    change (s.channelsSubscriptions.lookup ch).bind _ = some id'
    cases current : s.channelsSubscriptions.lookup ch with
    | none => simp [current] at held
    | some i =>
      simp only [current, Option.bind_some] at held ⊢
      rw [put_map_at]
      split
      · rename_i here
        obtain ⟨rfl, rfl⟩ := here
        have other : h ≠ some ⟨c⟩ := by
          rintro rfl
          have absent := free.entry
          unfold ServerState.mapAt at absent
          rw [absent] at held
          cases held
        rw [AList.lookup_insert_ne other]
        exact held
      · exact held
  · intro c' other
    refine ⟨fun _ _ same => same, fun _ => le_rfl, fun ch i _ => ?_⟩
    change ((s.putSubscription ref (some ⟨c⟩) id).subscriptionMaps ch i).entries.lookup _ = _
    rw [put_map_at]
    split
    · rename_i here
      obtain ⟨rfl, rfl⟩ := here
      have ne : (some ⟨c'⟩ : HandlerRef) ≠ some ⟨c⟩ := by simpa using other
      exact AList.lookup_insert_ne ne
    · rfl

theorem entry_put (created : Created ref s) :
    Entry ref c (some id) (exec (.subsPut ref (some ⟨c⟩) id) s).2 := by
  refine ⟨created, ?_⟩
  change ((s.putSubscription ref (some ⟨c⟩) id).subscriptionMaps ref.channel
    ref.index).entries.lookup _ = _
  rw [put_map_at, if_pos ⟨rfl, rfl⟩, AList.lookup_insert]

theorem safe_first_install (created : Created ref s) (fresh : ref.channel ∉ s.channelsSubscriptions)
    (known : KnownMaps s) : adding.Safe c s (exec (.channelPut ref) s).2 := by
  have absent : s.channelsSubscriptions.lookup ref.channel = none := AList.lookup_eq_none.mpr fresh
  have kept : ∀ ch i, s.channelsSubscriptions.lookup ch = some i →
      (s.channelsSubscriptions.insert ref.channel ref.index).lookup ch = some i := by
    intro ch i current
    have other : ch ≠ ref.channel := by
      rintro rfl
      rw [absent] at current
      cases current
    rwa [AList.lookup_insert_ne other]
  refine ⟨known_installed created known, ?_,
    fun _ _ => ⟨kept, fun _ => le_rfl, fun _ _ _ => rfl⟩⟩
  intro ch h id held
  unfold ServerState.subscription at held ⊢
  obtain ⟨i, current, entry⟩ := Option.bind_eq_some_iff.mp held
  change ((s.channelsSubscriptions.insert ref.channel ref.index).lookup ch).bind _ = some id
  rw [kept ch i current]
  exact entry

theorem stable_installed {i : Nat} (A : ServerState → Prop) (stable : adding.Stable c A) :
    adding.Stable c fun s => s.channelsSubscriptions.lookup channel = some i ∧ A s := by
  intro s s' known known' steady h
  exact ⟨steady.installed channel i h.1, stable s s' known known' steady h.2⟩

/-- The handler of `c` is subscribed under the id. -/
def Holds (c : Nat) (channel : Text) (id : Int) (s : ServerState) : Prop :=
  s.subscription channel (some ⟨c⟩) = some id

theorem stable_holds : adding.Stable c (Holds c channel id) := by
  intro s s' known _ steady holds
  obtain ⟨i, current, entry⟩ := Option.bind_eq_some_iff.mp holds
  have same := steady.own channel i (known channel i current)
  unfold Holds ServerState.subscription
  rw [steady.installed channel i current]
  exact same.trans entry

theorem holds_of_entry (ref : MapRef)
    (current : s.channelsSubscriptions.lookup ref.channel = some ref.index)
    (entry : Entry ref c (some id) s) : Holds c ref.channel id s := by
  unfold Holds
  rw [ServerState.subscription_of_current current]
  exact entry.entry

/-- What is left of a call that returned true. -/
def Stored (c : Nat) (request : Request) (result : Except JavaException Bool) (s : ServerState) :
    Prop :=
  result = .ok true → ∃ channel, request.channel = some channel ∧ Holds c channel request.id s

theorem outline_add_to_known {i : Nat} :
    adding.Outline exec c (Stored c ⟨some channel, id⟩) (do
        let subscribed ← MapRef.containsKey ⟨channel, i⟩ (some ⟨c⟩)
        if subscribed then return false
        else
          let subs ← deref (← channelsSubscriptions.get channel)
          subs.put (some ⟨c⟩) id
          return true) fun s => s.channelsSubscriptions.lookup channel = some i := by
  refine Discipline.outline_perform_bind (MapCall.subsContains ⟨channel, i⟩ (some ⟨c⟩))
    (fun (subscribed : Bool) s => s.channelsSubscriptions.lookup channel = some i ∧
      (subscribed = false → Entry ⟨channel, i⟩ c none s)) ?_ ?_ fun subscribed => ?_
  · refine fun subscribed => stable_installed _ fun s s' known known' steady free absent => ?_
    exact stable_entry none s s' known known' steady (free absent)
  · intro s known current _
    refine ⟨safe_read known, current, fun absent => ⟨known channel i current, ?_⟩⟩
    exact AList.lookup_eq_none.mpr (of_decide_eq_false absent)
  cases subscribed with
  | true => exact fun _ _ _ impossible => by cases impossible
  | false =>
    refine Discipline.outline_perform_bind (MapCall.channelGet channel)
      (fun (found : Option MapRef) s => s.channelsSubscriptions.lookup channel = some i ∧
        found = some ⟨channel, i⟩ ∧ Entry ⟨channel, i⟩ c none s) ?_ ?_ fun found => ?_
    · refine fun found => stable_installed _ fun s s' known known' steady free => ?_
      exact ⟨free.1, stable_entry none s s' known known' steady free.2⟩
    · intro s known free _
      refine ⟨safe_read known, free.1, ?_, free.2 rfl⟩
      change (s.channelsSubscriptions.lookup channel).map _ = _
      rw [free.1]
      rfl
    cases found with
    | none => exact fun _ _ free => by cases free.2.1
    | some subs =>
      refine Discipline.outline_perform_bind (MapCall.subsPut subs (some ⟨c⟩) id)
        (fun _ => Holds c channel id) (fun _ => stable_holds) ?_ fun _ => ?_
      · rintro s known ⟨current, same, free⟩ _
        cases same
        exact ⟨safe_put free known, holds_of_entry ⟨channel, i⟩ current
          (entry_put free.created)⟩
      · exact fun s _ holds _ => ⟨channel, rfl, holds⟩

theorem outline_found {i : Nat} :
    adding.Outline exec c (Stored c ⟨some channel, id⟩) (do
        let subs ← deref (← channelsSubscriptions.get channel)
        let subscribed ← subs.containsKey (some ⟨c⟩)
        if subscribed then return false
        else
          let subs ← deref (← channelsSubscriptions.get channel)
          subs.put (some ⟨c⟩) id
          return true) fun s => s.channelsSubscriptions.lookup channel = some i := by
  refine Discipline.outline_perform_bind (MapCall.channelGet channel)
    (fun (found : Option MapRef) s => s.channelsSubscriptions.lookup channel = some i ∧
      found = some ⟨channel, i⟩) ?_ ?_ fun found => ?_
  · exact fun found => stable_installed _ fun s s' _ _ _ same => same
  · intro s known current _
    refine ⟨safe_read known, current, ?_⟩
    change (s.channelsSubscriptions.lookup channel).map _ = _
    rw [current]
    rfl
  by_cases here : found = some ⟨channel, i⟩
  · rw [here]
    exact Discipline.outline_weaken outline_add_to_known fun s _ there => there.1
  · exact Discipline.outline_weaken (Discipline.outline_unreached _ _)
      fun s _ there => here there.2

/-- A new map holds the entry before it is installed. -/
theorem outline_add_first (A : ServerState → Prop) :
    adding.Outline exec c (Stored c ⟨some channel, id⟩) (do
        let newChannel ← newHashMap channel
        newChannel.put (some ⟨c⟩) id
        channelsSubscriptions.put newChannel
        return true) A := by
  refine Discipline.outline_perform_bind (MapCall.newMap channel)
    (fun (ref : MapRef) s => ref.channel = channel ∧ Entry ref c none s) ?_ ?_ fun ref => ?_
  · intro ref s s' known known' steady fresh
    exact ⟨fresh.1, stable_entry none s s' known known' steady fresh.2⟩
  · intro s known _ _
    refine ⟨safe_new_map known, rfl, ?_, ?_⟩
    · change s.created channel < Function.update s.created channel _ channel
      simp
    · change ((if channel = channel ∧ s.created channel = s.created channel then ⟨∅, 0⟩
        else s.subscriptionMaps channel (s.created channel) : SubscriptionMap)).entries.lookup
          _ = _
      simp
  refine Discipline.outline_perform_bind (MapCall.subsPut ref (some ⟨c⟩) id)
    (fun _ s => ref.channel = channel ∧ Entry ref c (some id) s) ?_ ?_ fun _ => ?_
  · intro _ s s' known known' steady fresh
    exact ⟨fresh.1, stable_entry _ s s' known known' steady fresh.2⟩
  · intro s known fresh _
    exact ⟨safe_put fresh.2 known, fresh.1, entry_put fresh.2.created⟩
  refine Discipline.outline_perform_bind (MapCall.channelPut ref)
    (fun _ => Holds c channel id) (fun _ => stable_holds) ?_ fun _ => ?_
  · rintro s known ⟨own, entry⟩ first
    refine ⟨safe_first_install entry.created first known, ?_⟩
    rw [← own]
    exact holds_of_entry _ (AList.lookup_insert _) ⟨entry.created, entry.entry⟩
  · exact fun s _ holds _ => ⟨channel, rfl, holds⟩

theorem outline_request (request : Request) :
    adding.Outline exec c (Stored c request) (requestCode c request) fun _ => True := by
  obtain ⟨target, id⟩ := request
  cases target with
  | none => exact fun _ _ _ impossible => by cases impossible
  | some channel =>
    refine Discipline.outline_perform_bind (MapCall.channelContains channel)
      (fun (known : Bool) s => known = true → ∃ i, s.channelsSubscriptions.lookup channel = some i)
      ?_ ?_ fun known => ?_
    · intro known s s' _ _ steady there here
      obtain ⟨i, current⟩ := there here
      exact ⟨i, steady.installed channel i current⟩
    · intro s known _ _
      refine ⟨safe_read known, fun here => ?_⟩
      exact Option.isSome_iff_exists.mp (AList.lookup_isSome.mpr (of_decide_eq_true here))
    cases known with
    | true =>
      exact Discipline.outline_weaken (Discipline.outline_exists fun _ => outline_found)
        fun s _ there => there rfl
    | false => exact outline_add_first _

/-- In every interleaving in which no thread replaces a map, from any state of the server,
    a call that returned true has left its entry. -/
theorem added_subscriptions_last (reachable : ReachableState s) {pool : RequestPool}
    (reached : Reached exec requestCode (fun _ _ _ => True) FirstInstall (Pool.idle s) pool) :
    ∀ c request, (c, request, .ok true) ∈ pool.finished →
      ∃ channel, request.channel = some channel ∧
        pool.shared.subscription channel (some ⟨c⟩) = some request.id := by
  have opening : ∀ c request, ∃ A, adding.Stable c A ∧
      (∀ s, adding.inv s → True → A s) ∧
      adding.Outline exec c (Stored c request) (requestCode c request) A :=
    fun c request => ⟨fun _ => True, fun _ _ _ _ _ _ => trivial, fun _ _ _ => trivial,
      outline_request request⟩
  have sound : Sound exec adding Stored pool := by
    refine sound_reached opening ?_ (sound_idle (known_maps_reachable reachable)) reached
    intro c request result s s' keeps stored ok
    obtain ⟨channel, target, holds⟩ := stored ok
    exact ⟨channel, target, keeps channel _ _ holds⟩
  intro c request member
  exact sound.past c request _ member rfl

end Adding

section Schedules

def twoAccepted : ServerState := accepted (accepted ServerState.initial)

theorem two_accepted_reachable : ReachableState twoAccepted := by
  have acted : Server.acts [.construct, .increment, .construct, .increment] Server.initial =
    some ⟨twoAccepted, false⟩ := rfl
  exact acts_reachable acted

def request (c : Nat) (id : Int) : Move Nat Request := .start c ⟨some "police".toList, id⟩

def requestTurns (c n : Nat) : List (Move Nat Request) := List.replicate n (.turn c)

def inTurn : Option RequestPool :=
  Pool.moves exec requestCode (fun _ _ _ => True) FirstInstall
    (request 0 7 :: requestTurns 0 5 ++ request 1 9 :: requestTurns 1 6) (Pool.idle twoAccepted)

theorem subscribed_in_turn : ∃ pool, inTurn = some pool ∧
    pool.shared.subscription "police" (some ⟨0⟩) = some 7 ∧
    pool.shared.subscription "police" (some ⟨1⟩) = some 9 := by
  have done : inTurn.map Pool.finished = some [(1, ⟨some "police".toList, 9⟩, .ok true),
    (0, ⟨some "police".toList, 7⟩, .ok true)] := rfl
  obtain ⟨pool, ran, finished⟩ := Option.map_eq_some_iff.mp done
  have last := added_subscriptions_last two_accepted_reachable
    (reached_of_moves exec requestCode _ ran)
  obtain ⟨channel, target, first⟩ := last 0 ⟨some "police".toList, 7⟩ (by simp [finished])
  cases target
  obtain ⟨channel, target, second⟩ := last 1 ⟨some "police".toList, 9⟩ (by simp [finished])
  cases target
  exact ⟨pool, ran, first, second⟩

/-- Both calls look for the channel before either of them installs its map. -/
def atOnce : Option RequestPool :=
  Pool.moves exec requestCode (fun _ _ _ => True) (fun _ _ _ => True)
    (request 0 7 :: requestTurns 0 1 ++ request 1 9 :: requestTurns 1 1 ++
      requestTurns 0 4 ++ requestTurns 1 4) (Pool.idle twoAccepted)

theorem added_subscription_lost : ReachableState twoAccepted ∧ ∃ pool : RequestPool,
    Reached exec requestCode (fun _ _ _ => True) (fun _ _ _ => True) (Pool.idle twoAccepted) pool ∧
      (0, ⟨some "police".toList, 7⟩, .ok true) ∈ pool.finished ∧
      pool.shared.subscription "police" (some ⟨0⟩) = none := by
  have ends : atOnce.map (fun pool => (pool.finished,
      pool.shared.subscription "police" (some ⟨0⟩))) =
    some ([(1, ⟨some "police".toList, 9⟩, .ok true),
      (0, ⟨some "police".toList, 7⟩, .ok true)], none) := rfl
  obtain ⟨pool, ran, same⟩ := Option.map_eq_some_iff.mp ends
  obtain ⟨finished, lost⟩ := Prod.mk.injEq .. ▸ same
  refine ⟨two_accepted_reachable, pool, reached_of_moves exec requestCode _ ran, ?_, lost⟩
  simp [finished]

end Schedules

end SubscriptionRaces
