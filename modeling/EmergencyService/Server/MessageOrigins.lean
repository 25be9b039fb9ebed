import EmergencyService.Server.FrameEvents
import EmergencyService.Server.HandlerThreads
import EmergencyService.Server.MessageRelay
import EmergencyService.Server.OwnReplies

/- Where the frames that handlers are given come from, in any interleaving of the threads: a
   reply answers the frame that its connection has read last, and a MESSAGE comes from a SEND
   and goes to a connection that has asked for its channel. -/
namespace MessageOrigins
open JavaRuntime JavaFrame AtomicProgram ThreadInterleaving MapCalls ConnectionsImpl
open StompProtocolImpl CallFootprint HandlerThreads OwnReplies

/-- The connection has read a frame of this command, destination and body. -/
def Requested (command channel body : Text) (c : Nat) (log : List Event) : Prop :=
  ∃ message headers, .received c message ∈ log ∧
    StompFrame.ofText message = .ok ⟨command, headers, body⟩ ∧
    header headers "destination" = some channel

/-- The connection has asked for a subscription of the channel. -/
def Asked (channel : Text) (c : Nat) (log : List Event) : Prop :=
  ∃ body, Requested "SUBSCRIBE" channel body c log

/-- The frame that a connection has read last; the latest event comes first. -/
def lastRead (c : Nat) : List Event → Option Text
  | [] => none
  | .received c' message :: rest => if c' = c then some message else lastRead c rest
  | _ :: rest => lastRead c rest

/-- What has been read before a frame is given to a handler. -/
structure Origin (h : ConnectionHandler) (text : Text) (earlier : List Event) : Prop where
  started : ∃ message, .received h.connectionID message ∈ earlier
  reply : commandOf text ≠ "MESSAGE" → ∃ message frame,
    lastRead h.connectionID earlier = some message ∧
      StompFrame.ofText message = .ok frame ∧ ReplyTo frame text
  message : commandOf text = "MESSAGE" → ∃ channel body sender id number order,
    text = (messageFrame id number channel body).createFrame order ∧
      Requested "SEND" channel body sender earlier ∧ Asked channel h.connectionID earlier

/-- Every frame that has been sent has its origin in what is older. -/
def Founded (log : List Event) : Prop :=
  ∀ later h text earlier, log = later ++ .sent h text :: earlier → Origin h text earlier

structure Consistent (s : ServerState) : Prop where
  ids : HandlerIds s
  founded : Founded s.log
  subscribed : ∀ ref h, some h ∈ (s.mapAt ref).entries → Asked ref.channel h.connectionID s.log

/-- Any thread may rely on the log, which only grows, and on reading all frames of its
    connection itself. -/
def sending : Discipline ServerState Thread MapCall where
  inv := Consistent
  rely t s s' := s.log <:+ s'.log ∧ ∀ c, t = .handler c → lastRead c s'.log = lastRead c s.log
  keeps _ _ := True
  permitted _ _ _ := True

variable {s s' : ServerState} {c : Nat} {log log' : List Event} {channel body message : Text}
  {frame : StompFrame}

theorem requested_mono {command : Text} (grown : log <:+ log')
    (requested : Requested command channel body c log) :
    Requested command channel body c log' := by
  obtain ⟨message, headers, read, parsed⟩ := requested
  exact ⟨message, headers, grown.subset read, parsed⟩

theorem asked_mono (grown : log <:+ log') (asked : Asked channel c log) :
    Asked channel c log' := by
  obtain ⟨body, requested⟩ := asked
  exact ⟨body, requested_mono grown requested⟩

theorem requested_started {command : Text} (requested : Requested command channel body c log) :
    ∃ message, .received c message ∈ log := by
  obtain ⟨message, _, read, _⟩ := requested
  exact ⟨message, read⟩

theorem founded_cons {e : Event} (founded : Founded log)
    (origin : ∀ h text, e = .sent h text → Origin h text log) : Founded (e :: log) := by
  intro later h text earlier same
  cases later with
  | nil =>
    obtain ⟨rfl, rfl⟩ := List.cons.inj same
    exact origin h text rfl
  | cons _ later => exact founded later h text earlier (List.cons.inj same).2

theorem last_read_mem (last : lastRead c log = some message) : .received c message ∈ log := by
  induction log with
  | nil => cases last
  | cons e log ih =>
    cases e with
    | received c' m =>
      simp only [lastRead] at last
      split at last
      · rename_i same
        cases last
        exact same ▸ List.mem_cons_self
      · exact List.mem_cons_of_mem _ (ih last)
    | sent h text => exact List.mem_cons_of_mem _ (ih last)
    | disconnected c' => exact List.mem_cons_of_mem _ (ih last)

theorem exec_log (op : MapCall) (s : ServerState) : s.log <:+ (exec op s).2.log := by
  cases op with
  | loggedInRemoveValue o c => exact List.suffix_cons _ _
  | handlerSend h text => exact List.suffix_cons _ _
  | received c message => exact List.suffix_cons _ _
  | _ => exact List.suffix_rfl

theorem exec_last_read {op : MapCall} (other : ∀ message, op ≠ .received c message)
    (s : ServerState) : lastRead c (exec op s).2.log = lastRead c s.log := by
  cases op with
  | received c' message =>
    have away : c' ≠ c := fun same => other message (same ▸ rfl)
    exact if_neg away
  | _ => rfl

theorem safe_exec {t : Thread} {op : MapCall} (inv : Consistent (exec op s).2)
    (own : ∀ c message, op = .received c message → t = .handler c) :
    sending.Safe t s (exec op s).2 := by
  refine ⟨inv, trivial, fun t' other => ⟨exec_log op s, ?_⟩⟩
  rintro c rfl
  refine exec_last_read ?_ s
  intro message same
  exact other (own c message same).symm

theorem consistent_same (inv : Consistent s) (ids : HandlerIds s')
    (maps : s'.subscriptionMaps = s.subscriptionMaps) (log : s'.log = s.log) :
    Consistent s' := by
  refine ⟨ids, log ▸ inv.founded, ?_⟩
  intro ref h member
  rw [log]
  apply inv.subscribed ref h
  rwa [ServerState.mapAt, ← maps]

theorem consistent_record {e : Event} (inv : Consistent s)
    (origin : ∀ h text, e = .sent h text → Origin h text s.log) : Consistent (s.record e) :=
  ⟨inv.ids, founded_cons inv.founded origin, fun ref h member =>
    asked_mono (List.suffix_cons _ _) (inv.subscribed ref h member)⟩

theorem consistent_map (inv : Consistent s) (ref : MapRef) (m : SubscriptionMap)
    (asked : ∀ h, some h ∈ m.entries → Asked ref.channel h.connectionID s.log) :
    Consistent (s.setMap ref m) := by
  refine ⟨inv.ids, inv.founded, ?_⟩
  intro ref' h member
  by_cases here : ref'.channel = ref.channel ∧ ref'.index = ref.index
  · rw [here.1]
    apply asked h
    simpa only [ServerState.mapAt, ServerState.setMap, here, and_self, if_true] using member
  · apply inv.subscribed ref' h
    simpa only [ServerState.mapAt, ServerState.setMap, here, if_false] using member

theorem consistent_exec {op : MapCall} (allowed : ProcessCall c frame op ∧ OwnReply c frame op)
    (read : lastRead c s.log = some message) (parsed : StompFrame.ofText message = .ok frame)
    (inv : Consistent s) : Consistent (exec op s).2 := by
  obtain ⟨bounded, own, _⟩ := allowed
  have ids := exec_handler_ids op (process_own_key bounded) inv.ids
  cases op with
  | handlerSend h text =>
    obtain ⟨rfl, answer⟩ := own h text rfl
    refine consistent_record inv ?_
    intro h text same
    cases same
    refine ⟨⟨message, last_read_mem read⟩, fun _ => ⟨message, frame, read, parsed, answer⟩, ?_⟩
    exact fun named => absurd named (reply_not_message answer)
  | loggedInRemoveValue o c =>
    have recorded : Consistent (s.record (.disconnected c)) := consistent_record inv nofun
    exact consistent_same recorded ids rfl rfl
  | received c message => exact bounded.elim
  | newMap channel =>
    have cleared : Consistent (s.setMap ⟨channel, s.created channel⟩ ⟨∅, 0⟩) :=
      consistent_map inv _ _ (by simp)
    exact consistent_same cleared ids rfl rfl
  | subsPut ref handler id =>
    obtain ⟨command, target, mine⟩ := bounded
    apply consistent_map inv
    intro h member
    rcases (AList.mem_insert _).mp member with same | old
    · obtain rfl : h = ⟨c⟩ := by simpa [← same] using mine
      exact ⟨frame.body, message, frame.headers, last_read_mem read,
        by rw [parsed, ← command], target⟩
    · exact inv.subscribed ref h old
  | subsRemove ref handler =>
    apply consistent_map inv
    intro h member
    exact inv.subscribed ref h (AList.mem_erase.mp member).2
  | _ => exact consistent_same inv ids rfl rfl

section Outlines
variable (w : Surroundings)

def Read (c : Nat) (message : Text) (s : ServerState) : Prop :=
  lastRead c s.log = some message

theorem stable_read : sending.Stable (.handler c) (Read c message) := by
  intro s s' _ _ relied read
  exact (relied.2 c rfl).trans read

theorem outline_own {α : Type} {p : Java α} (parsed : StompFrame.ofText message = .ok frame)
    (bounded : Calls HandlerAnswer (ProcessCall c frame) p)
    (own : Calls HandlerAnswer (OwnReply c frame) p) :
    sending.Outline exec (.handler c) (fun _ => Read c message) p (Read c message) := by
  refine Discipline.outline_of_calls (calls_and bounded own) stable_read ?_
  intro op s allowed inv read _
  have unread : ∀ c m, op ≠ .received c m := by
    rintro c' m rfl
    exact allowed.1
  refine ⟨exec_answer op inv.ids, safe_exec (consistent_exec allowed read parsed inv) ?_, ?_⟩
  · exact fun c' m same => absurd same (unread c' m)
  · exact (exec_last_read (unread c) s).trans read

/-- What the relay of a SEND relies on: the SEND has been read, and the keys ahead have all
    asked for the channel. -/
def Relaying (channel body : Text) (c : Nat) (keys : List HandlerRef) (s : ServerState) : Prop :=
  Requested "SEND" channel body c s.log ∧
    ∀ h, some h ∈ keys → Asked channel h.connectionID s.log

theorem stable_relaying {t : Thread} {keys : List HandlerRef} :
    sending.Stable t (Relaying channel body c keys) := by
  rintro s s' _ _ ⟨grown, _⟩ relaying
  exact ⟨requested_mono grown relaying.1, fun h key => asked_mono grown (relaying.2 h key)⟩

theorem outline_relay_loop (ref : MapRef) (expected : Nat) (id number : Int) :
    ∀ keys, sending.Outline exec (.handler c) (fun _ _ => True)
      (forEachKey ref expected (fun connection => do
        let handler ← deref connection
        handler.send ((messageFrame id number channel body).createFrame w.headers)) keys)
      (Relaying channel body c keys)
  | [] => fun _ _ _ => trivial
  | key :: rest => by
    refine Discipline.outline_perform_bind (.subsModCount ref expected)
      (fun _ => Relaying channel body c (key :: rest)) (fun _ => stable_relaying) ?_
      fun modCount => ?_
    · intro s inv relaying _
      exact ⟨safe_exec inv nofun, relaying⟩
    split
    · cases key with
      | none => exact fun _ _ _ => trivial
      | some h =>
        refine Discipline.outline_perform_bind (.handlerSend h _)
          (fun _ => Relaying channel body c rest) (fun _ => stable_relaying) ?_
          fun _ => outline_relay_loop ref expected id number rest
        intro s inv relaying _
        have asked : Asked channel h.connectionID s.log := relaying.2 h List.mem_cons_self
        have grown := List.suffix_cons (Event.sent h
          ((messageFrame id number channel body).createFrame w.headers)) s.log
        refine ⟨safe_exec (consistent_record inv ?_) nofun, requested_mono grown relaying.1, ?_⟩
        · intro h text same
          cases same
          refine ⟨requested_started asked.choose_spec, ?_, ?_⟩
          · exact fun other => absurd (message_command w.headers id number channel body) other
          · exact fun _ => ⟨channel, body, c, id, number, w.headers, rfl, relaying.1, asked⟩
        · exact fun h key => asked_mono grown (relaying.2 h (List.mem_cons_of_mem _ key))
    · exact fun _ _ _ => trivial

theorem outline_relay (id number : Int) :
    sending.Outline exec (.handler c) (fun _ _ => True)
      (sendChannel w channel ((messageFrame id number channel body).createFrame w.headers))
      (fun s => Requested "SEND" channel body c s.log) := by
  refine Discipline.outline_perform_bind (MapCall.channelGet channel)
    (fun (found : Option MapRef) s =>
      (∀ ref, found = some ref → ref.channel = channel) ∧ Requested "SEND" channel body c s.log)
    ?_ ?_ fun found => ?_
  · exact fun found s s' _ _ relied holds => ⟨holds.1, requested_mono relied.1 holds.2⟩
  · intro s inv requested _
    exact ⟨safe_exec inv nofun, exec_answer (MapCall.channelGet channel) inv.ids, requested⟩
  cases found with
  | none => exact fun _ _ _ => trivial
  | some ref =>
    refine Discipline.outline_perform_bind (MapCall.subsIterator ref)
      (fun (answer : List HandlerRef × Nat) => Relaying channel body c answer.1)
      (fun _ => stable_relaying) ?_ fun answer => ?_
    · rintro s inv ⟨named, requested⟩ _
      refine ⟨safe_exec inv nofun, requested, ?_⟩
      intro h key
      rw [← named ref rfl]
      exact inv.subscribed ref h (AList.mem_keys.mpr key)
    · refine Discipline.outline_weaken (outline_relay_loop w ref answer.2 id number _) ?_
      rintro s _ ⟨requested, asked⟩
      refine ⟨requested, fun h key => asked h ?_⟩
      exact (w.subscribers channel).mem_order.mp key

theorem outline_send {headers : HashMap Text Text}
    (parsed : StompFrame.ofText message = .ok ⟨"SEND", headers, body⟩) :
    sending.Outline exec (.handler c) (fun _ _ => True) (processSend w c headers body)
      (Read c message) := by
  have looking := outline_own parsed
    (calls_of_work c (calls_get_user_sub_id c (header headers "destination")))
    (quiet_get_user_sub_id c _)
  refine Discipline.outline_bind looking (fun id => ?_) fun _ _ _ _ => trivial
  split
  · have error := outline_own parsed (calls_of_work c (calls_reply_error w c _))
      (quiet_error w c (notSubscribedTo (header headers "destination")).headers)
    refine Discipline.outline_bind error (fun _ => ?_) fun _ _ _ _ => trivial
    have refused := outline_own parsed (calls_refuse w c _)
      (quiet_refuse w c (notSubscribedTo (header headers "destination")).headers)
    exact Discipline.outline_conclude refused fun _ _ _ _ => trivial
  · cases target : header headers "destination" with
    | none => exact fun _ _ _ => trivial
    | some channel =>
      refine Discipline.outline_perform_bind (.messageIDGet c)
        (fun _ => Read c message) (fun _ => stable_read) ?_ fun number => ?_
      · exact fun s inv read _ => ⟨safe_exec inv nofun, read⟩
      refine Discipline.outline_perform_bind (.messageIDIncrement c)
        (fun _ => Read c message) (fun _ => stable_read) ?_ fun _ => ?_
      · exact fun s inv read _ => ⟨safe_exec (consistent_same inv inv.ids rfl rfl) nofun, read⟩
      refine Discipline.outline_weaken (outline_relay w id number) ?_
      exact fun s _ read => ⟨message, headers, last_read_mem read, parsed, target⟩

theorem outline_process (message : Text) :
    sending.Outline exec (.handler c) (fun _ _ => True) (process w c message)
      fun _ => True := by
  refine Discipline.outline_perform_bind (.received c message) (fun _ => Read c message)
    (fun _ => stable_read) ?_ fun _ => ?_
  · intro s inv _ _
    refine ⟨safe_exec (consistent_record inv nofun) ?_, if_pos rfl⟩
    intro c' m same
    cases same
    rfl
  cases parsed : StompFrame.ofText message with
  | error e => exact fun _ _ _ => trivial
  | ok frame =>
    refine Discipline.outline_perform_bind
      (.setShouldTerminate c (decide (frame.command = "DISCONNECT")))
      (fun _ => Read c message) (fun _ => stable_read) ?_ fun _ => ?_
    · exact fun s inv read _ => ⟨safe_exec (consistent_same inv inv.ids rfl rfl) nofun, read⟩
    by_cases command : frame.command = "SEND"
    · rw [FrameEvents.dispatch_send command]
      exact outline_send w (by rw [parsed, ← command])
    · have dispatched := outline_own parsed (calls_dispatch w c frame) (quiet_dispatch w c command)
      exact Discipline.outline_conclude dispatched fun _ _ _ _ => trivial

end Outlines

section Pools

theorem outline_code (t : Thread) (work : Work) :
    sending.Outline exec t (fun _ _ => True) (code t work) fun _ => True := by
  have anywhere : ∀ t, sending.Stable t fun _ => True := fun _ _ _ _ _ _ _ => trivial
  cases t with
  | acceptor =>
    refine Discipline.outline_perform_bind .counterGet (fun _ _ => True)
      (fun _ => anywhere _) ?_ fun id => ?_
    · exact fun s inv _ _ => ⟨safe_exec inv nofun, trivial⟩
    refine Discipline.outline_perform_bind (.activePut id ⟨id⟩) (fun _ _ => True)
      (fun _ => anywhere _) ?_ fun _ => ?_
    · intro s inv _ _
      have ids := exec_handler_ids (.activePut id ⟨id⟩) rfl inv.ids
      exact ⟨safe_exec (consistent_same inv ids rfl rfl) nofun, trivial⟩
    refine ⟨fun _ _ => True, fun _ => anywhere _, ?_, fun _ _ _ _ => trivial⟩
    exact fun s inv _ _ => ⟨safe_exec (consistent_same inv inv.ids rfl rfl) nofun, trivial⟩
  | handler c =>
    cases work with
    | accept => exact fun _ _ _ => trivial
    | frame w message => exact outline_process w message

theorem consistent_initial : Consistent ServerState.initial := by
  refine ⟨handler_ids_initial, ?_, ?_⟩
  · intro later h text earlier same
    cases later <;> cases same
  · intro ref h member
    cases member

theorem consistent_reachable (reachable : ReachableState s) : Consistent s := by
  obtain ⟨pool, reached, rfl⟩ := reachable
  have opening : ∀ t work, ∃ A, sending.Stable t A ∧
      (∀ s, sending.inv s → mayStart t work s → A s) ∧
      sending.Outline exec t (fun _ _ => True) (code t work) A :=
    fun t work => ⟨fun _ => True, fun _ _ _ _ _ _ => trivial, fun _ _ _ => trivial,
      outline_code t work⟩
  have sound : Sound exec sending (fun _ _ _ _ => True) pool := by
    refine sound_reached opening ?_ (sound_idle consistent_initial) reached
    exact fun _ _ _ _ _ _ _ => trivial
  exact sound.inv

/-- However the threads interleave: a handler is given a frame only when its connection has
    read one, so its streams are open; what is no MESSAGE replies to the frame that it has read
    last; and a MESSAGE has been sent to a channel that the connection has asked for. -/
theorem frames_have_origin (reachable : ReachableState s) {later earlier : List Event}
    {h : ConnectionHandler} {text : Text} (sent : s.log = later ++ .sent h text :: earlier) :
    Origin h text earlier :=
  (consistent_reachable reachable).founded later h text earlier sent

/-- The last frame of a relay to two subscribers. -/
theorem relayed_has_origin : ∃ s h text earlier, ReachableState s ∧
    s.log = .sent h text :: earlier ∧ commandOf text = "MESSAGE" ∧ Origin h text earlier := by
  let sent := ServerRuns.processed .plain 0 MessageRelay.sendText
    (MessageRelay.pairSubscribed "7" "9")
  have acted : ServerRuns.Server.acts [.construct, .increment, .construct, .increment,
      .frame .plain 0 (MessageRelay.subscribeText "7"),
      .frame .plain 1 (MessageRelay.subscribeText "9"),
      .frame .plain 0 MessageRelay.sendText] ServerRuns.Server.initial = some ⟨sent, false⟩ := rfl
  have reachable := ServerRuns.acts_reachable acted
  have last : sent.log.head? =
      some (.sent ⟨0⟩ ((messageFrame 7 0 "police" "user:a\n\n").createFrame .stored)) := by
    decide +kernel
  obtain ⟨earlier, log⟩ := List.head?_eq_some_iff.mp last
  have split : sent.log = [] ++ _ :: earlier := log
  exact ⟨sent, _, _, earlier, reachable, log, message_command .stored 7 0 _ _,
    frames_have_origin reachable split⟩

end Pools

end MessageOrigins
