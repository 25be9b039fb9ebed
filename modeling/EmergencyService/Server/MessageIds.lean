import EmergencyService.Foundation.LocalCounters
import EmergencyService.Server.RelayTraces

/- The message-ids of the MESSAGE frames that go out while the threads interleave: each connection
   counts the SENDs that are accepted from it. -/
namespace MessageIds
open JavaRuntime JavaFrame AtomicProgram ThreadInterleaving GuardedRuns RecordedRuns CallTraces
open MapCalls ConnectionsImpl StompProtocolImpl CallFootprint OwnReplies HandlerThreads
open LocalCounters RelayTraces
open FrameEvents (receivedHeader dispatch_send)

/-- A frame that a handler has processed, by its place among those of the connection. -/
structure FrameRef where
  connection : Nat
  place : Nat
  deriving DecidableEq, Repr

/-- What has been seen of the SENDs: how many frames each handler has begun, the SENDs that were
    accepted, with the numbers that they took, and the MESSAGE frames that were sent for them. -/
structure History where
  frames : Nat → Nat
  accepted : List (FrameRef × Int)
  sent : List (FrameRef × Text)

abbrev Sight := Observation MapCall MapCall.Ret JavaException Unit Thread Work

/-- A SEND takes its number once it has been found to be of a subscriber. -/
def History.next (h : History) : Sight → History
  | .started (.handler c) _ => { h with frames := Function.update h.frames c (h.frames c + 1) }
  | .called (.handler c) ⟨.messageIDGet _, number⟩ =>
      { h with accepted := h.accepted ++ [(⟨c, h.frames c⟩, number)] }
  | .called (.handler c) ⟨.handlerSend _ text, _⟩ =>
      if commandOf text = "MESSAGE" then { h with sent := h.sent ++ [(⟨c, h.frames c⟩, text)] }
      else h
  | _ => h

def history (transcript : List Sight) : History :=
  transcript.foldl History.next ⟨fun _ => 0, [], []⟩

def History.senders (h : History) : List Nat := h.accepted.map (·.1.connection)

theorem history_append (transcript : List Sight) (o : Sight) :
    history (transcript ++ [o]) = (history transcript).next o := List.foldl_append ..

section Code
variable (w : Surroundings) (c : Nat)

/-- A SEND reads its number and raises the counter at once; no other call is on the counter. -/
abbrev Counting (due : Bool) (p : Java Unit) : Prop :=
  Paired HandlerAnswer (¬ Numbering ·) (.messageIDGet c) (.messageIDIncrement c) due p

theorem unnumbered (frame : StompFrame) {α : Type} {p : Java α}
    (own : Calls HandlerAnswer (OwnReply c frame) p) : Calls HandlerAnswer (¬ Numbering ·) p :=
  calls_mono own fun _ => And.right

theorem counting_send (headers : HashMap Text Text) (body : Text) :
    Counting c false (processSend w c headers body) := by
  have looking := unnumbered c ⟨"SEND", headers, body⟩
    (quiet_get_user_sub_id c (header headers "destination"))
  refine paired_after looking fun id => ?_
  split
  · exact paired_of_calls (unnumbered c ⟨"SEND", headers, body⟩
      (calls_bind (quiet_error w c _) fun _ => quiet_refuse w c _))
  · cases header headers "destination" with
    | none => rfl
    | some channel =>
      exact paired_pair fun number _ => paired_of_calls (unnumbered_send_channel w channel _)

theorem counting_process (message : Text) : Counting c false (process w c message) := by
  refine paired_after ((calls_perform _).mpr nofun) fun _ => ?_
  refine paired_after (calls_ofExcept _) fun frame => ?_
  refine paired_after ((calls_perform _).mpr nofun) fun _ => ?_
  by_cases send : frame.command = "SEND"
  · rw [dispatch_send send]
    exact counting_send w c frame.headers frame.body
  · exact paired_of_calls (unnumbered c frame (quiet_dispatch w c send))

theorem counting_code (work : Work) : Counting c false (code (.handler c) work) := by
  cases work with
  | accept => rfl
  | frame w message => exact counting_process w c message

theorem accept_unnumbered (work : Work) :
    Calls HandlerAnswer (¬ Numbering ·) (code .acceptor work) :=
  calls_bind (calls_perform_bind nofun fun _ _ => (calls_perform _).mpr nofun)
    fun _ => (calls_perform _).mpr nofun

theorem exec_counters {op : MapCall} (other : ¬ Numbering op) (s : ServerState) (c : Nat) :
    ((exec op s).2.protocol c).messageID = (s.protocol c).messageID := by
  cases op with
  | messageIDIncrement c' => exact absurd (.increment c') other
  | setShouldTerminate c' flag =>
    change (Function.update s.protocol c' _ c).messageID = _
    by_cases own : c = c'
    · subst own
      rw [Function.update_self]
    · rw [Function.update_of_ne own]
  | _ => rfl

end Code

/-- The counter of a connection stands at the number of its accepted SENDs, less one while the
    thread has read its number and not yet raised the counter. -/
structure Counted (c : Nat) (pool : ServerPool) (h : History) (due : Bool) : Prop where
  idle : pool.running (.handler c) = none → due = false
  busy : ∀ work q, pool.running (.handler c) = some (work, q) → Counting c due q
  counter : (pool.shared.protocol c).messageID + due.toNat = (h.senders.count c : Nat)

/-- The numbers that have been taken are those of counters that every connection has for itself. -/
structure Consistent (pool : ServerPool) (h : History) : Prop where
  acceptor : ∀ work q, pool.running .acceptor = some (work, q) →
    Calls HandlerAnswer (¬ Numbering ·) q
  counted : ∀ c, ∃ due, Counted c pool h due
  taken : h.accepted.map Prod.snd = (numbers [] h.senders).map fun n : Nat => (n : Int)

section Steps
variable {pool : ServerPool} {h h' : History} {c : Nat} {due : Bool} {t : Thread}
  {task : Option (Work × Java Unit)} {s : ServerState}

theorem counted_elsewhere (counted : Counted c pool h due) (other : t ≠ .handler c)
    (counter : (s.protocol c).messageID = (pool.shared.protocol c).messageID)
    (senders : h'.senders.count c = h.senders.count c) : Counted c (pool.put t task s) h' due := by
  have running : (pool.put t task s).running (.handler c) = pool.running (.handler c) :=
    Function.update_of_ne (Ne.symm other) _ _
  refine ⟨fun free => counted.idle (running ▸ free),
    fun work q here => counted.busy work q (running ▸ here), ?_⟩
  rw [senders]
  exact (congrArg (· + (due.toNat : Int)) counter).trans counted.counter

theorem counted_onward {work : Work} {q : Java Unit} (counting : Counting c due q)
    (counter : (s.protocol c).messageID + due.toNat = (h'.senders.count c : Nat)) :
    Counted c (pool.put (.handler c) (some (work, q)) s) h' due := by
  refine ⟨fun free => ?_, fun work' q' here => ?_, counter⟩
  · rw [put_running] at free
    cases free
  · rw [put_running] at here
    cases here
    exact counting

theorem counted_over (counted : Counted c pool h due) (over' : due = false) :
    Counted c (pool.put (.handler c) none pool.shared) h due :=
  ⟨fun _ => over', fun work q here => by simp at here, counted.counter⟩

theorem acceptor_kept (consistent : Consistent pool h) (other : t ≠ .acceptor) :
    ∀ work q, (pool.put t task s).running .acceptor = some (work, q) →
      Calls HandlerAnswer (¬ Numbering ·) q := by
  intro work q here
  have running : (pool.put t task s).running .acceptor = pool.running .acceptor :=
    Function.update_of_ne (Ne.symm other) _ _
  exact consistent.acceptor work q (running ▸ here)

theorem acceptor_onward {work : Work} {q : Java Unit}
    (bounded : Calls HandlerAnswer (¬ Numbering ·) q) :
    ∀ work' q', (pool.put .acceptor (some (work, q)) s).running .acceptor = some (work', q') →
      Calls HandlerAnswer (¬ Numbering ·) q' := by
  intro work' q' here
  rw [put_running] at here
  cases here
  exact bounded

theorem consistent_start (consistent : Consistent pool h) (free : pool.running t = none)
    (work : Work) (same : h'.accepted = h.accepted) :
    Consistent (pool.put t (some (work, code t work)) pool.shared) h' := by
  have senders : h'.senders = h.senders := by rw [History.senders, same, History.senders]
  refine ⟨?_, fun c => ?_, by rw [same, senders]; exact consistent.taken⟩
  · cases t with
    | acceptor => exact acceptor_onward (accept_unnumbered work)
    | handler c => exact acceptor_kept consistent nofun
  · obtain ⟨due, counted⟩ := consistent.counted c
    by_cases own : t = .handler c
    · subst own
      obtain rfl := counted.idle free
      refine ⟨false, counted_onward (counting_code c work) ?_⟩
      rw [senders]
      exact counted.counter
    · exact ⟨due, counted_elsewhere counted own rfl (by rw [senders])⟩

theorem consistent_end {work : Work} {result : Except JavaException Unit}
    (consistent : Consistent pool h)
    (busy : pool.running t = some (work, AtomicProgram.ofExcept result)) :
    Consistent (pool.put t none pool.shared) h := by
  refine ⟨?_, fun c => ?_, consistent.taken⟩
  · cases t with
    | acceptor =>
      intro work q here
      simp at here
    | handler c => exact acceptor_kept consistent nofun
  · obtain ⟨due, counted⟩ := consistent.counted c
    by_cases own : t = .handler c
    · subst own
      exact ⟨due, counted_over counted (paired_over (counted.busy work _ busy))⟩
    · exact ⟨due, counted_elsewhere counted own rfl rfl⟩

theorem consistent_other {op : MapCall} {work : Work} {q : Java Unit}
    (consistent : Consistent pool h) (other : ¬ Numbering op)
    (onward : ∀ c, t = .handler c → Counted c pool h false ∧ Counting c false q)
    (accepting : t = .acceptor → Calls HandlerAnswer (¬ Numbering ·) q)
    (same : h'.accepted = h.accepted) :
    Consistent (pool.put t (some (work, q)) (exec op pool.shared).2) h' := by
  have senders : h'.senders = h.senders := by rw [History.senders, same, History.senders]
  refine ⟨?_, fun c => ?_, by rw [same, senders]; exact consistent.taken⟩
  · cases t with
    | acceptor => exact acceptor_onward (accepting rfl)
    | handler c => exact acceptor_kept consistent nofun
  · have counter := exec_counters other pool.shared c
    by_cases own : t = .handler c
    · obtain ⟨counted, counting⟩ := onward c own
      subst own
      refine ⟨false, counted_onward counting ?_⟩
      rw [senders, counter]
      exact counted.counter
    · obtain ⟨due, counted⟩ := consistent.counted c
      exact ⟨due, counted_elsewhere counted own counter (by rw [senders])⟩

theorem consistent_get {work : Work} {q : Java Unit} (consistent : Consistent pool h)
    (counted : Counted c pool h false) (counting : Counting c true q) {place : Nat}
    (accepted : h'.accepted =
      h.accepted ++ [(⟨c, place⟩, (pool.shared.protocol c).messageID)]) :
    Consistent (pool.put (.handler c) (some (work, q)) pool.shared) h' := by
  have senders : h'.senders = h.senders ++ [c] := by
    simp [History.senders, accepted]
  have number : (pool.shared.protocol c).messageID = (h.senders.count c : Nat) := by
    simpa using counted.counter
  refine ⟨acceptor_kept consistent nofun, fun d => ?_, ?_⟩
  · by_cases own : c = d
    · subst own
      refine ⟨true, counted_onward counting ?_⟩
      rw [senders, number]
      simp
    · obtain ⟨due, counted⟩ := consistent.counted d
      refine ⟨due, counted_elsewhere counted (by simpa using own) rfl ?_⟩
      rw [senders, List.count_append, List.count_singleton, if_neg (by simpa using own)]
      rfl
  · rw [accepted, senders, numbers_concat, List.map_append, List.map_append, consistent.taken,
      number]
    simp

theorem consistent_increment {work : Work} {q : Java Unit} (consistent : Consistent pool h)
    (counted : Counted c pool h true) (counting : Counting c false q)
    (few : h.accepted.length < 2 ^ 31) :
    Consistent (pool.put (.handler c) (some (work, q))
      (exec (.messageIDIncrement c) pool.shared).2) h := by
  have counter : (pool.shared.protocol c).messageID + 1 = (h.senders.count c : Nat) :=
    counted.counter
  have least : h.senders.count c ≤ h.accepted.length := by
    simpa [History.senders] using List.count_le_length (a := c) (l := h.senders)
  refine ⟨acceptor_kept consistent nofun, fun d => ?_, consistent.taken⟩
  by_cases own : c = d
  · subst own
    refine ⟨false, counted_onward counting ?_⟩
    change (Function.update pool.shared.protocol c _ c).messageID + _ = _
    rw [Function.update_self, counter, wrap_int_range (by constructor <;> omega)]
    rfl
  · obtain ⟨due, counted⟩ := consistent.counted d
    refine ⟨due, counted_elsewhere counted (by simpa using own) ?_ rfl⟩
    change (Function.update pool.shared.protocol c _ d).messageID = _
    rw [Function.update_of_ne (Ne.symm own)]

theorem accepted_kept {op : MapCall} (other : ¬ Numbering op) (answer : op.Ret) :
    (h.next (.called t ⟨op, answer⟩)).accepted = h.accepted := by
  cases t with
  | acceptor => rfl
  | handler c =>
    cases op with
    | messageIDGet c' => exact absurd (.get c') other
    | handlerSend handler text =>
      unfold History.next
      dsimp only
      split <;> rfl
    | _ => rfl

theorem consistent_step {pool' : ServerPool} {o : Sight} (ids : HandlerIds pool.shared)
    (consistent : Consistent pool h) (moved : Witnessed exec code pool pool' [o])
    (few : (h.next o).accepted.length < 2 ^ 31) : Consistent pool' (h.next o) := by
  cases moved with
  | @started t work free =>
    apply consistent_start consistent free
    cases t <;> rfl
  | ended result busy =>
    have kept := consistent_end consistent busy
    refine ⟨kept.acceptor, fun c => ?_, kept.taken⟩
    obtain ⟨due, counted⟩ := kept.counted c
    exact ⟨due, counted.idle, counted.busy, counted.counter⟩
  | @called t work op next busy =>
    have answer := exec_answer op ids
    cases t with
    | acceptor =>
      have bounded := consistent.acceptor work _ busy
      exact consistent_other consistent bounded.1 nofun (fun _ => bounded.2 _ answer)
        (accepted_kept bounded.1 _)
    | handler c =>
      obtain ⟨due, counted⟩ := consistent.counted c
      have counting := counted.busy work _ busy
      cases due with
      | true =>
        obtain ⟨rfl, rest⟩ := counting
        exact consistent_increment consistent counted (rest _ trivial) few
      | false =>
        rcases counting with ⟨rfl, rest⟩ | ⟨other, rest⟩
        · exact consistent_get consistent counted (rest _ trivial) rfl
        · refine consistent_other consistent other ?_ nofun (accepted_kept other _)
          intro c' same
          cases same
          exact ⟨counted, rest _ answer⟩

end Steps

section Runs
variable {pool : ServerPool} {transcript : List Sight}

theorem consistent_initial : Consistent (Pool.idle ServerState.initial) (history []) where
  acceptor := nofun
  counted := fun _ => ⟨false, fun _ => rfl, nofun, rfl⟩
  taken := rfl

theorem accepted_grows (h : History) (o : Sight) : h.accepted <+: (h.next o).accepted := by
  unfold History.next
  split
  · exact List.prefix_rfl
  · exact List.prefix_append _ _
  · split <;> exact List.prefix_rfl
  · exact List.prefix_rfl

theorem frames_called (h : History) (t : Thread) (call : Call) :
    (h.next (.called t call)).frames = h.frames := by
  cases t with
  | acceptor => rfl
  | handler c =>
    obtain ⟨op, answer⟩ := call
    cases op with
    | handlerSend handler text =>
      unfold History.next
      dsimp only
      split <;> rfl
    | _ => rfl

theorem observed_consistent (observed : Observed pool transcript)
    (few : (history transcript).accepted.length < 2 ^ 31) :
    Consistent pool (history transcript) := by
  refine run_invariant (fun now : ServerPool × List Sight =>
    (history now.2).accepted.length < 2 ^ 31 → Consistent now.1 (history now.2))
    (fun _ => consistent_initial) ?_ observed few
  rintro m ⟨before, earlier⟩ ⟨after, all⟩ started ih _ acted few
  obtain ⟨out, found, rfl⟩ := recorded_some acted
  have ids : HandlerIds before.shared :=
    handler_ids_reachable ⟨before, observed_runs started, rfl⟩
  have moved := witnessed_of_observe exec code found
  obtain ⟨o, rfl⟩ : ∃ o, out = [o] := by cases moved <;> exact ⟨_, rfl⟩
  dsimp only at ih few moved ⊢
  rw [history_append] at few ⊢
  exact consistent_step ids (ih (lt_of_le_of_lt (accepted_grows _ o).length_le few)) moved few

theorem taken_accepted (c : Nat) {c' : Nat} {number : Int}
    (taken : (⟨.messageIDGet c', number⟩ : Call) ∈ current (.handler c) transcript) :
    (⟨c, (history transcript).frames c⟩, number) ∈ (history transcript).accepted := by
  induction transcript using List.reverseRecOn with
  | nil => cases taken
  | append_singleton earlier o ih =>
    have before : current (.handler c) (earlier ++ [o]) =
        heed (.handler c) (current (.handler c) earlier) o := List.foldl_append ..
    rw [before] at taken
    rw [history_append]
    cases o with
    | ended t work result => exact ih taken
    | started t work =>
      by_cases own : t = .handler c
      · simp [heed, own] at taken
      · simp only [heed, own, if_false] at taken
        cases t with
        | acceptor => exact ih taken
        | handler d =>
          have frames : Function.update (history earlier).frames d
              ((history earlier).frames d + 1) c = (history earlier).frames c :=
            Function.update_of_ne (fun same => own (congrArg Thread.handler same.symm)) _ _
          simp only [History.next, frames]
          exact ih taken
    | called t call =>
      rw [frames_called]
      by_cases own : t = .handler c
      · subst own
        simp only [heed, if_true, List.mem_append, List.mem_singleton] at taken
        rcases taken with old | rfl
        · exact (accepted_grows _ _).subset (ih old)
        · simp [History.next]
      · simp only [heed, own, if_false] at taken
        exact (accepted_grows _ _).subset (ih taken)

theorem sent_next {h : History} {o : Sight} {m : FrameRef × Text} (member : m ∈ (h.next o).sent) :
    m ∈ h.sent ∨ ∃ c handler text, o = .called (.handler c) ⟨.handlerSend handler text, ()⟩ ∧
      commandOf text = "MESSAGE" ∧ m = (⟨c, h.frames c⟩, text) := by
  unfold History.next at member
  split at member
  · exact Or.inl member
  · exact Or.inl member
  · rename_i c handler text _
    split at member
    · rename_i named
      rcases List.mem_append.mp member with old | new
      · exact Or.inl old
      · exact Or.inr ⟨c, handler, text, rfl, named, List.mem_singleton.mp new⟩
    · exact Or.inl member
  · exact Or.inl member

theorem message_numbered {c : Nat} {work : Work} {q : Java Unit} {handler : ConnectionHandler}
    {text : Text} (observed : Observed pool transcript)
    (busy : pool.running (.handler c) = some (work, q))
    (member : (⟨.handlerSend handler text, ()⟩ : Call) ∈ current (.handler c) transcript)
    (named : commandOf text = "MESSAGE") : Numbered c text (current (.handler c) transcript) := by
  have answered : ∀ op r, Given op r → HandlerAnswer op r := by
    rintro op r ⟨s, reachable, rfl⟩
    exact exec_answer op (handler_ids_reachable reachable)
  have trace := trace_mono (observed_traces observed busy) answered
  cases work with
  | accept =>
    rw [(trace_done trace).1] at member
    cases member
  | frame w message =>
    obtain ⟨hs, text', sent, way⟩ := process_delivers trace
    have known : (handler, text) ∈ messages (current (.handler c) transcript) :=
      List.mem_filterMap.mpr ⟨_, member, if_pos named⟩
    rw [sent] at known
    obtain ⟨handler', found, same⟩ := List.mem_map.mp known
    obtain ⟨rfl, rfl⟩ := Prod.mk.inj same
    rcases way with ⟨rfl, _⟩ | ⟨numbered, _⟩
    · cases found
    · exact numbered

theorem sent_numbered (observed : Observed pool transcript) :
    ∀ m ∈ (history transcript).sent, ∃ number, (m.1, number) ∈ (history transcript).accepted ∧
      receivedHeader "message-id" m.2 = some (decimal number) := by
  refine run_invariant (fun now : ServerPool × List Sight =>
    ∀ m ∈ (history now.2).sent, ∃ number, (m.1, number) ∈ (history now.2).accepted ∧
      receivedHeader "message-id" m.2 = some (decimal number))
    (fun m none' => absurd none' List.not_mem_nil) ?_ observed
  rintro m ⟨before, earlier⟩ ⟨after, all⟩ started ih admitted acted sent member
  have now : Observed after all := Relation.ReflTransGen.tail started ⟨m, admitted, acted⟩
  obtain ⟨out, found, rfl⟩ := recorded_some acted
  have moved := witnessed_of_observe exec code found
  obtain ⟨o, rfl⟩ : ∃ o, out = [o] := by cases moved <;> exact ⟨_, rfl⟩
  dsimp only at ih moved now member ⊢
  rw [history_append] at member
  rcases sent_next member with old | ⟨c, handler, text, rfl, named, rfl⟩
  · obtain ⟨number, taken, carried⟩ := ih sent old
    rw [history_append]
    exact ⟨number, (accepted_grows _ o).subset taken, carried⟩
  · obtain ⟨work, q, busy⟩ : ∃ work q, after.running (.handler c) = some (work, q) := by
      cases moved
      exact ⟨_, _, put_running ..⟩
    have called : (⟨.handlerSend handler text, ()⟩ : Call) ∈ current (.handler c)
        (earlier ++ [.called (.handler c) ⟨.handlerSend handler text, ()⟩]) := by
      simp [current, heed]
    obtain ⟨number, carried, read⟩ := message_numbered now busy called named
    have taken := taken_accepted c read
    rw [history_append, frames_called] at taken
    rw [history_append]
    exact ⟨number, taken, carried⟩

theorem accepted_numbers_iff (observed : Observed pool transcript)
    (few : (history transcript).accepted.length < 2 ^ 31) :
    ((history transcript).accepted.map Prod.snd).Nodup ↔
      ∀ a ∈ (history transcript).accepted, ∀ b ∈ (history transcript).accepted,
        a.1.connection = b.1.connection := by
  have cast : Function.Injective fun n : Nat => (n : Int) := fun m n same => Int.ofNat.inj same
  rw [(observed_consistent observed few).taken, List.nodup_map_iff cast, numbers_nodup_iff]
  simp only [History.senders, List.forall_mem_map]

/-- However the threads interleave: when all accepted SENDs come from one connection, MESSAGE
    frames with one message-id have been sent for one and the same SEND. -/
theorem message_ids_differ (observed : Observed pool transcript)
    (few : (history transcript).accepted.length < 2 ^ 31)
    (single : ∀ a ∈ (history transcript).accepted, ∀ b ∈ (history transcript).accepted,
      a.1.connection = b.1.connection) :
    ∀ first ∈ (history transcript).sent, ∀ second ∈ (history transcript).sent,
      receivedHeader "message-id" first.2 = receivedHeader "message-id" second.2 →
        first.1 = second.1 := by
  intro first left second right same
  obtain ⟨m, taken, carried⟩ := sent_numbered observed first left
  obtain ⟨n, taken', carried'⟩ := sent_numbered observed second right
  rw [carried, carried', Option.some.injEq] at same
  have number : m = n := decimal_injective same
  have once := (accepted_numbers_iff observed few).mpr single
  have equal := List.inj_on_of_nodup_map once taken taken' number
  exact (Prod.mk.inj equal).1

end Runs

section Example
open MessageRelay

def mayMove (now : ServerPool × List Sight) : Move Thread Work → Bool
  | .start t work => mayStart t work now.1.shared
  | .turn _ => true

def observing (schedule : List (Move Thread Work)) : Option (ServerPool × List Sight) :=
  actsWhere (recorded (observe exec code)) mayMove schedule (Pool.idle ServerState.initial, [])

theorem observing_observed {schedule : List (Move Thread Work)} {now : ServerPool × List Sight}
    (moved : observing schedule = some now) : Observed now.1 now.2 := by
  refine run_of_acts_where (fun now m (allowed : mayMove now m = true) => ?_) schedule moved
  cases m with
  | start t work =>
    have ready : mayStart t work now.1.shared := of_decide_eq_true allowed
    exact ready
  | turn t => exact fun _ _ _ _ => trivial

def subscribing : List (Move Thread Work) :=
  accepting ++ accepting ++ scheduled 0 (subscribeText "7") 10 ++ scheduled 1 (subscribeText "9") 11

theorem one_sender_ids_differ : ∃ pool transcript, Observed pool transcript ∧
    (history transcript).sent.map Prod.fst = [⟨0, 2⟩, ⟨0, 2⟩, ⟨0, 3⟩, ⟨0, 3⟩] ∧
      ∀ first ∈ (history transcript).sent, ∀ second ∈ (history transcript).sent,
        receivedHeader "message-id" first.2 = receivedHeader "message-id" second.2 →
          first.1 = second.1 := by
  have ends : (observing (subscribing ++ scheduled 0 sendText 18 ++ scheduled 0 sendText 18)).map
      (fun now => ((history now.2).sent.map Prod.fst, (history now.2).accepted)) =
        some ([⟨0, 2⟩, ⟨0, 2⟩, ⟨0, 3⟩, ⟨0, 3⟩], [(⟨0, 2⟩, 0), (⟨0, 3⟩, 1)]) := by decide +kernel
  obtain ⟨⟨pool, transcript⟩, ran, seen⟩ := Option.map_eq_some_iff.mp ends
  obtain ⟨sent, accepted⟩ := Prod.mk.inj seen
  have observed := observing_observed ran
  refine ⟨pool, transcript, observed, sent, message_ids_differ observed ?_ ?_⟩
  · rw [accepted]
    decide
  · rw [accepted]
    decide

/-- Two senders of one SEND each: both SENDs have the number 0. -/
theorem two_senders_share_id : ∃ pool transcript, Observed pool transcript ∧
    (history transcript).accepted.length < 2 ^ 31 ∧
      ∃ first ∈ (history transcript).sent, ∃ second ∈ (history transcript).sent,
        receivedHeader "message-id" first.2 = receivedHeader "message-id" second.2 ∧
          first.1 ≠ second.1 := by
  have ends : (observing (subscribing ++ scheduled 0 sendText 18 ++ scheduled 1 sendText 18)).map
      (fun now => ((history now.2).sent.map fun m => (m.1, receivedHeader "message-id" m.2),
        (history now.2).accepted.length)) =
      some ([(⟨0, 2⟩, some "0".toList), (⟨0, 2⟩, some "0".toList), (⟨1, 2⟩, some "0".toList),
        (⟨1, 2⟩, some "0".toList)], 2) := by decide +kernel
  obtain ⟨⟨pool, transcript⟩, ran, seen⟩ := Option.map_eq_some_iff.mp ends
  obtain ⟨sent, accepted⟩ := Prod.mk.inj seen
  have known : ∀ ref, (ref, some "0".toList) ∈ (history transcript).sent.map
      (fun m => (m.1, receivedHeader "message-id" m.2)) →
      ∃ m ∈ (history transcript).sent, m.1 = ref ∧
        receivedHeader "message-id" m.2 = some "0".toList := by
    intro ref member
    obtain ⟨m, found, same⟩ := List.mem_map.mp member
    obtain ⟨named, carried⟩ := Prod.mk.inj same
    exact ⟨m, found, named, carried⟩
  obtain ⟨first, left, own, zero⟩ := known ⟨0, 2⟩ (by rw [sent]; simp)
  obtain ⟨second, right, other, zero'⟩ := known ⟨1, 2⟩ (by rw [sent]; simp)
  refine ⟨pool, transcript, observing_observed ran, ?_, first, left, second, right,
    zero.trans zero'.symm, ?_⟩
  · rw [accepted]
    decide
  · rw [own, other]
    decide

end Example

end MessageIds
