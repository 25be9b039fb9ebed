import EmergencyService.Frames.FrameBytes
import EmergencyService.Server.HandlerLoops
import EmergencyService.Server.ReadTasks

/- Which frames of a connection are processed in the two modes of the server, for every
   division of its bytes into chunks and every schedule of the pool. -/
namespace ReadModes
open JavaRuntime AtomicProgram MapCalls ConnectionsImpl StompProtocolImpl CallFootprint
open HandlerThreads ServerRuns HandlerLoops Utf8Text FrameBytes ReadLoops ReadTasks GuardedRuns

/-- What an exception of `pushByte` leaves behind: it is raised before the array is
    replaced, or behind `len++`. -/
def thrown (d : FrameEncoderDecoder) : FrameEncoderDecoder :=
  match d.grown with
  | .error _ => d
  | .ok d => { d with len := d.len + 1 }

def decodeNext (d : FrameEncoderDecoder) (nextByte : UInt8) :
    FrameEncoderDecoder × Decoded Text :=
  match d.decodeNextByte nextByte with
  | .ok (d, none) => (d, .more)
  | .ok (d, some message) => (d, .message message)
  | .error _ => (thrown d, .failure)

/-- What surrounds the calls of a connection: by their number, what the iterators yield and
    what the other threads do in front of them. Another thread registers a handler under its
    own number only, and opens no socket again. -/
structure Environment (c : Nat) where
  surroundings : Nat → Surroundings
  others : Nat → ServerState → ServerState
  ids : ∀ n s, HandlerIds s → HandlerIds (others n s)
  shut : ∀ n s, s.connected c = false → (others n s).connected c = false

/-- The server, and how many calls the connection has made on it. -/
structure Served where
  server : ServerState
  calls : Nat

section Process
variable {c : Nat} (env : Environment c)

def step (op : MapCall) (s : Served) : op.Ret × Served :=
  let answered := exec op (env.others s.calls s.server)
  (answered.1, ⟨answered.2, s.calls + 1⟩)

/-- `close` of the non-blocking handler catches its IOException. -/
def closing (mode : Mode) (w : Surroundings) : Surroundings :=
  match mode with
  | .threadPerClient => w
  | .reactor => { w with closeFails := false }

/-- One call of `process`, and whether it raises an exception. -/
def serve (mode : Mode) (s : Served) (message : Text) : Bool × Served :=
  let w := closing mode (env.surroundings s.calls)
  let result := run (step env) (process w c message) s
  (match result.1 with
    | .ok _ => false
    | .error _ => true, result.2)

def shouldTerminate (c : Nat) (s : Served) : Bool := (s.server.protocol c).shouldTerminate

def connected (c : Nat) (s : Served) : Bool := s.server.connected c

end Process

/-- The shorter program is over where it has closed the handler. -/
inductive Early (c : Nat) {α : Type} : Java α → Java α → Prop where
  | same (p : Java α) : Early c p p
  | call (op : MapCall) (f g : op.Ret → Java α) :
      (∀ r, HandlerAnswer op r → Early c (f r) (g r)) → Early c (.call op f) (.call op g)
  | shut (a : α) (g : Unit → Java α) :
      Early c (.call (.handlerClose ⟨c⟩) fun _ => .done a) (.call (.handlerClose ⟨c⟩) g)

section Closing
variable {c : Nat} {α β : Type}

theorem early_bind (p : Java α) {f g : α → Java β} (later : ∀ a, Early c (f a) (g a)) :
    Early c (p >>= f) (p >>= g) := by
  change Early c (p.bind f) (p.bind g)
  induction p with
  | done a => exact later a
  | raise e => exact .same _
  | call op next ih =>
    apply Early.call
    intro r _
    exact ih r

theorem disconnect_closing (w : Surroundings) (fails : Bool) :
    disconnect { w with closeFails := fails } c = disconnect w c := by
  have swept : ∀ channels,
      sweepChannels { w with closeFails := fails } channels = sweepChannels w channels := by
    intro channels
    induction channels with
    | nil => rfl
    | cons channel rest ih =>
      rw [sweepChannels, sweepChannels, ih]
      rfl
  unfold disconnect
  simp only [swept]

variable (w : Surroundings) (fails : w.closeFails = true)
include fails

theorem early_close_after_error :
    Early c (closeAfterError w c) (closeAfterError { w with closeFails := false } c) := by
  apply Early.call (.activeGet c)
  intro found answer
  rcases answer with rfl | rfl
  · exact .same _
  · have past : (fun _ : Unit => Program.catching
        ((if w.closeFails then Program.raise .io else .done () : Java Unit).bind fun _ => do
          disconnect w c
          removeConnection c
          setShouldTerminate c true) fun _ => return ()) = fun _ => .done () := by
      rw [if_pos fails]
      rfl
    change Early c (.call (.handlerClose ⟨c⟩) fun _ => _) _
    exact past ▸ Early.shut () _

theorem early_refuse (frame : JavaFrame.StompFrame) :
    Early c (refuse w c frame) (refuse { w with closeFails := false } c frame) := by
  change Early c (reply w c frame >>= _) (reply w c frame >>= _)
  apply early_bind
  intro sent
  split
  · exact early_close_after_error w fails
  · exact .same _

theorem early_connect (headers : HashMap Text Text) :
    Early c (processConnect w c headers)
      (processConnect { w with closeFails := false } c headers) := by
  apply early_bind
  intro already
  split
  · exact early_refuse w fails _
  · apply early_bind
    intro done
    split
    · exact .same _
    · change Early c (reply w c _ >>= _) (reply w c _ >>= _)
      apply early_bind
      intro _
      exact early_refuse w fails _

theorem early_unsubscribe (headers : HashMap Text Text) :
    Early c (processUnsubscribe w c headers)
      (processUnsubscribe { w with closeFails := false } c headers) := by
  apply early_bind
  intro id
  apply early_bind
  intro handler
  change Early c (removeChannelSubscription w id handler >>= _)
    (removeChannelSubscription w id handler >>= _)
  apply early_bind
  intro done
  split
  · exact .same _
  · exact early_refuse w fails _

theorem early_subscribe (headers : HashMap Text Text) :
    Early c (processSubscribe w c headers)
      (processSubscribe { w with closeFails := false } c headers) := by
  apply early_bind
  intro id
  apply early_bind
  intro handler
  apply early_bind
  intro done
  split
  · exact .same _
  · exact early_refuse w fails _

theorem early_send (headers : HashMap Text Text) (body : Text) :
    Early c (processSend w c headers body)
      (processSend { w with closeFails := false } c headers body) := by
  apply early_bind
  intro subscriptionID
  split
  · change Early c (reply w c _ >>= _) (reply w c _ >>= _)
    apply early_bind
    intro _
    exact early_refuse w fails _
  · exact .same _

theorem early_dispatch (frame : JavaFrame.StompFrame) :
    Early c (dispatch w c frame) (dispatch { w with closeFails := false } c frame) := by
  unfold dispatch
  split
  · exact early_connect w fails _
  split
  · unfold processDisconnect
    rw [disconnect_closing w false]
    exact .same _
  split
  · exact early_unsubscribe w fails _
  split
  · exact early_subscribe w fails _
  split
  · exact early_send w fails _ _
  · exact .same _

theorem early_process (message : Text) :
    Early c (process w c message) (process { w with closeFails := false } c message) := by
  unfold process
  apply early_bind
  intro _
  apply early_bind
  intro frame
  apply early_bind
  intro _
  exact early_dispatch w fails frame

end Closing

section Runs
variable {c : Nat} {env : Environment c} {α : Type} {s : Served}

theorem exec_shut (op : MapCall) {s : ServerState} (shut : s.connected c = false) :
    (exec op s).2.connected c = false := by
  cases op with
  | handlerClose h =>
    change Function.update s.connected h.connectionID false c = false
    by_cases here : c = h.connectionID
    · subst here
      simp
    · rw [Function.update_of_ne here]
      exact shut
  | _ => exact shut

theorem run_shut (p : Java α) (shut : s.server.connected c = false) :
    (run (step env) p s).2.server.connected c = false := by
  induction p generalizing s with
  | done a => exact shut
  | raise e => exact shut
  | call op next ih =>
    apply ih
    exact exec_shut op (env.shut _ _ shut)

theorem run_ids {p : Java α} (own : Calls HandlerAnswer OwnKey p) (ids : HandlerIds s.server) :
    HandlerIds (run (step env) p s).2.server := by
  induction p generalizing s with
  | done a => exact ids
  | raise e => exact ids
  | call op next ih =>
    have before := env.ids s.calls _ ids
    exact ih _ (own.2 _ (exec_answer op before)) (exec_handler_ids op own.1 before)

variable (env) in
/-- The two programs end alike, unless both have closed the handler. -/
theorem early_run {p q : Java α} (early : Early c p q) (own : Calls HandlerAnswer OwnKey p)
    (ids : HandlerIds s.server) :
    run (step env) p s = run (step env) q s ∨
      ((run (step env) p s).2.server.connected c = false ∧
        (run (step env) q s).2.server.connected c = false) := by
  induction early generalizing s with
  | same p => exact Or.inl rfl
  | call op f g alike ih =>
    have before := env.ids s.calls _ ids
    have answer := exec_answer op before
    exact ih _ answer (own.2 _ answer) (exec_handler_ids op own.1 before)
  | shut a g =>
    have closed : (step env (.handlerClose ⟨c⟩) s).2.server.connected c = false := by
      change Function.update (env.others s.calls s.server).connected c false c = false
      simp
    exact Or.inr ⟨closed, run_shut (g ()) closed⟩

theorem serve_ids (mode : Mode) (message : Text) (ids : HandlerIds s.server) :
    HandlerIds (serve env mode s message).2.server :=
  run_ids (calls_own_keys (.handler c) (.frame _ message)) ids

theorem serve_alike (message : Text) (ids : HandlerIds s.server) :
    serve env .reactor s message = serve env .threadPerClient s message ∨
      (connected c (serve env .reactor s message).2 = false ∧
        connected c (serve env .threadPerClient s message).2 = false) := by
  cases fails : (env.surroundings s.calls).closeFails with
  | false =>
    have same : closing .reactor (env.surroundings s.calls) = env.surroundings s.calls := by
      unfold closing
      rw [← fails]
    apply Or.inl
    unfold serve
    rw [same]
    rfl
  | true =>
    have own := calls_own_keys (.handler c) (.frame (env.surroundings s.calls) message)
    rcases early_run env (early_process _ fails message) own ids with same | shut
    · apply Or.inl
      unfold serve
      simp only [closing]
      rw [same]
    · exact Or.inr shut.symm

end Runs

section Modes
variable {T : Type} [DecidableEq T] (handler : T) {c : Nat} (env : Environment c)
  (s₀ : ServerState)

def newReader : Reader FrameEncoderDecoder Served Text := ⟨.initial, ⟨s₀, 0⟩, []⟩

/-- `run` of the blocking handler: the messages on which it calls `process`. -/
def blockingRun (stream : Bytes) : List Text :=
  (loop decodeNext (serve env .threadPerClient) (stops (shouldTerminate c) (connected c))
    (newReader s₀) stream).reader.log

/-- One connection in the reactor, with its calls of `process`. -/
def reactorAct (s : Reading T UInt8 FrameEncoderDecoder Served Text) :
    ReadAction T UInt8 → Option (Reading T UInt8 FrameEncoderDecoder Served Text) :=
  s.act decodeNext (serve env .reactor) (shouldTerminate c) (connected c) handler

/-- The chunks hold one more frame behind the one that ends the connection. Behind an
    exception only later chunks count. -/
def FrameBehind (chunks : List Bytes) : Prop :=
  MessageBehind decodeNext (serve env .reactor) (stops (shouldTerminate c) (connected c))
    (newReader s₀) chunks

instance (chunks : List Bytes) : Decidable (FrameBehind env s₀ chunks) :=
  inferInstanceAs (Decidable (MessageBehind _ _ _ _ _))

variable {handler env s₀}

/-- The reactor calls `process` on the frames on which the blocking handler calls it, unless
    its tasks are given a frame behind the one that ends the connection. -/
theorem modes_agree_iff (reachable : ReachableState s₀) {threads : Nat} {chunks : List Bytes}
    {s : Reading T UInt8 FrameEncoderDecoder Served Text}
    (runs : Runs (reactorAct handler env) (fun _ _ => True)
      (Reading.begin threads chunks (newReader s₀)) s)
    (past : s.Over (connected c) handler) :
    s.reader.log = blockingRun env s₀ chunks.flatten ↔
      ¬ FrameBehind env s₀ (s.pool.submitted handler) := by
  have ids : HandlerIds (newReader s₀).state.server := handler_ids_reachable reachable
  have same : (loop decodeNext (serve env .reactor) (stops (shouldTerminate c) (connected c))
      (newReader s₀) chunks.flatten).reader.log = blockingRun env s₀ chunks.flatten := by
    have keeps : ∀ (s : Served) (message : Text), HandlerIds s.server →
        HandlerIds (serve env .reactor s message).2.server :=
      fun _ message held => serve_ids .reactor message held
    apply loop_log_alike keeps _ _ ids
    intro s message held
    apply (serve_alike message held).imp id
    intro shut
    exact ⟨by simp [stops, shut.1], by simp [stops, shut.2]⟩
  rw [← same]
  exact served_iff runs past

end Modes

def alone (c : Nat) : Environment c where
  surroundings := fun _ => .plain
  others := fun _ s => s
  ids := fun _ _ ids => ids
  shut := fun _ _ shut => shut

def drained (chunk : Bytes) : List (ReadAction Unit UInt8) :=
  [.continueRead, .startTask 0] ++ List.replicate (chunk.length + 1) (.taskStep 0) ++
    [.completeTask 0]

def session : List Text := ["CONNECT\nlogin:meni\npasscode:films\n\n", "DISCONNECT\nreceipt:7\n\n"]

def lateFrame : Text := "SEND\ndestination:police\n\nfire\n"

def sessionChunks : List Bytes :=
  let stream := session.flatMap FrameEncoderDecoder.encode
  [stream.take 20, stream.drop 20]

theorem divided_session_agrees :
    ∃ s, acts (reactorAct () (alone 0)) (sessionChunks.flatMap drained)
        (Reading.begin 1 sessionChunks (newReader (accepted ServerState.initial))) = some s ∧
      s.reader.log = blockingRun (alone 0) (accepted ServerState.initial)
        sessionChunks.flatten := by
  have acted : Server.acts [.construct, .increment] Server.initial =
      some ⟨accepted ServerState.initial, false⟩ := rfl
  have ran : (acts (reactorAct () (alone 0)) (sessionChunks.flatMap drained)
      (Reading.begin 1 sessionChunks (newReader (accepted ServerState.initial)))).any
        (fun s => decide (s.Over (connected 0) () ∧ s.pool.submitted () = sessionChunks)) =
      true := by decide +kernel
  obtain ⟨s, run, checked⟩ := (Option.any_eq_true _ _).mp ran
  obtain ⟨past, submitted⟩ := of_decide_eq_true checked
  have none : ¬ FrameBehind (alone 0) (accepted ServerState.initial) sessionChunks := by
    decide +kernel
  exact ⟨s, run, (modes_agree_iff (acts_reachable acted) (run_of_acts _ run) past).mpr
    (submitted ▸ none)⟩

/-- A frame behind the DISCONNECT in the same chunk is processed in the reactor only. -/
theorem late_frame_processed :
    ReachableState (accepted ServerState.initial) ∧
      ∃ s, acts (reactorAct () (alone 0))
          (drained ((session ++ [lateFrame]).flatMap FrameEncoderDecoder.encode))
          (Reading.begin 1 [(session ++ [lateFrame]).flatMap FrameEncoderDecoder.encode]
            (newReader (accepted ServerState.initial))) = some s ∧
        s.Over (connected 0) () ∧ s.reader.log = session ++ [lateFrame] ∧
        blockingRun (alone 0) (accepted ServerState.initial)
          ((session ++ [lateFrame]).flatMap FrameEncoderDecoder.encode) = session := by
  have acted : Server.acts [.construct, .increment] Server.initial =
      some ⟨accepted ServerState.initial, false⟩ := rfl
  have ran : (acts (reactorAct () (alone 0))
      (drained ((session ++ [lateFrame]).flatMap FrameEncoderDecoder.encode))
      (Reading.begin 1 [(session ++ [lateFrame]).flatMap FrameEncoderDecoder.encode]
        (newReader (accepted ServerState.initial)))).any
      (fun s => decide (s.Over (connected 0) () ∧ s.reader.log = session ++ [lateFrame])) =
      true := by decide +kernel
  obtain ⟨s, run, checked⟩ := (Option.any_eq_true _ _).mp ran
  obtain ⟨past, processed⟩ := of_decide_eq_true checked
  exact ⟨acts_reachable acted, s, run, past, processed, by decide +kernel⟩

end ReadModes
