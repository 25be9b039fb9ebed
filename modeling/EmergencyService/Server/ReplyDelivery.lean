import EmergencyService.Foundation.GuardedRuns
import EmergencyService.Server.ClosingFrames
import EmergencyService.Server.NonBlockingWrites

/- The server in reactor mode, and the write side of one of its connections: the workers in
   `process`, call by call, among the steps of the selector thread. -/
namespace ReplyDelivery
open JavaRuntime AtomicProgram ThreadInterleaving MapCalls ConnectionsImpl StompProtocolImpl
open CallFootprint HandlerThreads ClosingFrames BufferQueue FrameBytes NonBlockingWrites
open GuardedRuns

structure Connection where
  workers : ServerPool
  writer : Writer

inductive ConnectionAction where
  | worker : Move Thread Work → ConnectionAction
  | request
  | selector : SelectorStep → ConnectionAction

/-- What a call of a worker does to the write side of connection `c`. -/
def afterCall (c : Nat) (op : MapCall) (w : Writer) : Writer :=
  match op with
  | .handlerSend h text => if h = ⟨c⟩ then w.append text else w
  | .handlerClose h => if h = ⟨c⟩ then w.close else w
  | _ => w

def afterMove (c : Nat) (workers : ServerPool) (m : Move Thread Work) (w : Writer) : Writer :=
  match m with
  | .start _ _ => w
  | .turn t =>
      match workers.running t with
      | some (_, .call op _) => afterCall c op w
      | _ => w

/-- `close` of the non-blocking handler catches its IOException. -/
def Catches : Work → Prop
  | .accept => True
  | .frame w _ => w.closeFails = false

instance (work : Work) : Decidable (Catches work) :=
  match work with
  | .accept => inferInstanceAs (Decidable True)
  | .frame w _ => inferInstanceAs (Decidable (w.closeFails = false))

def MayMove (workers : ServerPool) : Move Thread Work → Prop
  | .start t work => mayStart t work workers.shared ∧ Catches work
  | .turn _ => True

instance (workers : ServerPool) (m : Move Thread Work) : Decidable (MayMove workers m) :=
  match m with
  | .start _ _ => inferInstanceAs (Decidable (_ ∧ _))
  | .turn _ => inferInstanceAs (Decidable True)

namespace Connection

def initial : Connection := ⟨Pool.idle ServerState.initial, .initial⟩

def shouldTerminate (c : Nat) (s : Connection) : Bool :=
  (s.workers.shared.protocol c).shouldTerminate

def act (c : Nat) (s : Connection) : ConnectionAction → Option Connection
  | .worker m =>
      if MayMove s.workers m then
        (s.workers.move exec code m).map fun workers =>
          ⟨workers, afterMove c s.workers m s.writer⟩
      else none
  | .request => s.writer.request.map fun writer => { s with writer := writer }
  | .selector step =>
      (s.writer.selector (s.shouldTerminate c) step).map fun writer =>
        { s with writer := writer }

end Connection

/-- The call of `process` under way for the connection, if any, has nothing more for it. -/
def Silent (c : Nat) (workers : ServerPool) : Prop :=
  ∀ work p, workers.running (.handler c) = some (work, p) → SendsNothing c p

/-- Everything that `process` had to send to the connection has been written. -/
structure Delivered (c : Nat) (s : Connection) : Prop where
  written : s.writer.accepted = s.writer.sent.flatMap FrameEncoderDecoder.encode
  silent : Silent c s.workers

/-- No IOException on a write. -/
def Undisturbed : ConnectionAction → Prop
  | .selector .writeFails => False
  | _ => True

/-- A worker closes the channel when the queue has nothing unread; while the channel is being
    closed and behind that, no frame is queued and no frame of the connection is begun that
    would be answered; and when `continueWrite` finds `shouldTerminate` set, the queue is
    still empty and `process` has queued its last reply. -/
def Orderly (c : Nat) (s : Connection) : ConnectionAction → Prop
  | .worker (.start t work) => t = .handler c →
      s.writer.Stays ∨ SendsNothing c (code (.handler c) work)
  | .worker (.turn t) => ∀ work op next, s.workers.running t = some (work, .call op next) →
      (op = .handlerClose ⟨c⟩ → unread s.writer.writeQueue = []) ∧
        ∀ text, op = .handlerSend ⟨c⟩ text → s.writer.Stays
  | .selector .proceed => s.writer.position = .terminateTest → s.shouldTerminate c = true →
      unread s.writer.writeQueue = [] ∧ Silent c s.workers
  | _ => True

section Calls

/-- Only the thread of a connection closes it. -/
def Proper (t : Thread) (op : MapCall) : Prop :=
  OwnKey op ∧ ∀ h, op = .handlerClose h → t = .handler h.connectionID

theorem process_proper {c : Nat} {frame : JavaFrame.StompFrame} {op : MapCall}
    (called : ProcessCall c frame op) : Proper (.handler c) op := by
  refine ⟨process_own_key called, ?_⟩
  intro h close
  subst close
  have own : h = ⟨c⟩ := called
  rw [own]

theorem calls_proper (t : Thread) (work : Work) : Calls HandlerAnswer (Proper t) (code t work) := by
  cases t with
  | acceptor =>
    refine calls_bind ?_ fun _ => (calls_perform _).mpr ⟨trivial, nofun⟩
    exact calls_perform_bind ⟨trivial, nofun⟩ fun id _ => (calls_perform _).mpr ⟨rfl, nofun⟩
  | handler c =>
    cases work with
    | accept => trivial
    | frame w message =>
      refine calls_perform_bind ⟨trivial, nofun⟩ fun _ _ => ?_
      refine calls_bind (calls_ofExcept _) fun frame => ?_
      refine calls_perform_bind ⟨trivial, nofun⟩ fun _ _ => ?_
      exact calls_mono (calls_dispatch w c frame) fun _ => process_proper

theorem code_closes_last (c : Nat) (work : Work) : ClosesLast c (code (.handler c) work) := by
  cases work with
  | accept => trivial
  | frame w message => exact process_closes_last w c message

end Calls

section Runs
variable {c : Nat} {s s' : Connection} {m : Move Thread Work}

/-- The invariant of the orderly runs. -/
structure Sane (c : Nat) (s : Connection) : Prop where
  ids : HandlerIds s.workers.shared
  proper : ∀ t work p, s.workers.running t = some (work, p) → Calls HandlerAnswer (Proper t) p
  last : ∀ work p, s.workers.running (.handler c) = some (work, p) → ClosesLast c p
  streamed : Streamed s.writer
  closed : s.writer.isOpen = false → Delivered c s
  closing : s.writer.position = .close →
    unread s.writer.writeQueue = [] ∧ Silent c s.workers

theorem sane_initial (c : Nat) : Sane c .initial where
  ids := handler_ids_initial
  proper := nofun
  last := nofun
  streamed := rfl
  closed := nofun
  closing := nofun

section Worker
variable {workers workers' : ServerPool}

theorem move_ids (ids : HandlerIds workers.shared)
    (proper : ∀ t work p, workers.running t = some (work, p) → Calls HandlerAnswer (Proper t) p)
    (moved : workers.move exec code m = some workers') : HandlerIds workers'.shared := by
  rcases move_shared moved with same | ⟨t, work, op, next, _, running, called⟩
  · rw [same]
    exact ids
  · rw [called]
    exact exec_handler_ids op (proper t work _ running).1.1 ids

theorem move_proper (ids : HandlerIds workers.shared)
    (proper : ∀ t work p, workers.running t = some (work, p) → Calls HandlerAnswer (Proper t) p)
    (moved : workers.move exec code m = some workers') :
    ∀ t work p, workers'.running t = some (work, p) → Calls HandlerAnswer (Proper t) p := by
  intro t work p busy
  rcases move_running moved busy with ⟨_, old⟩ | ⟨_, rfl⟩ | ⟨op, next, _, running, rfl⟩
  · exact proper t work p old
  · exact calls_proper t work
  · exact (proper t work _ running).2 _ (exec_answer op ids)

theorem move_last (ids : HandlerIds workers.shared)
    (last : ∀ work p, workers.running (.handler c) = some (work, p) → ClosesLast c p)
    (moved : workers.move exec code m = some workers') :
    ∀ work p, workers'.running (.handler c) = some (work, p) → ClosesLast c p := by
  intro work p busy
  rcases move_running moved busy with ⟨_, old⟩ | ⟨_, rfl⟩ | ⟨op, next, _, running, rfl⟩
  · exact last work p old
  · exact code_closes_last c work
  · exact (last work _ running _ (exec_answer op ids)).2

/-- Unless a frame of the connection is begun that is answered, it stays silent. -/
theorem move_silent (ids : HandlerIds workers.shared) (silent : Silent c workers)
    (begun : ∀ work, m = .start (.handler c) work → SendsNothing c (code (.handler c) work))
    (moved : workers.move exec code m = some workers') : Silent c workers' := by
  intro work p busy
  rcases move_running moved busy with ⟨_, old⟩ | ⟨start, rfl⟩ | ⟨op, next, _, running, rfl⟩
  · exact silent work p old
  · exact begun work start
  · exact (silent work _ running).2 _ (exec_answer op ids)

theorem close_silent (ids : HandlerIds workers.shared)
    (last : ∀ work p, workers.running (.handler c) = some (work, p) → ClosesLast c p)
    {work : Work} {next : Unit → Java Unit}
    (closes : workers.running (.handler c) = some (work, .call (.handlerClose ⟨c⟩) next))
    (moved : workers.move exec code (.turn (.handler c)) = some workers') :
    Silent c workers' := by
  intro work' p busy
  rcases move_running moved busy with ⟨other, _⟩ | ⟨start, _⟩ | ⟨op, next', _, running, rfl⟩
  · exact absurd rfl other
  · cases start
  · rw [closes] at running
    cases running
    exact (last work _ closes _ (exec_answer _ ids)).1 rfl

end Worker

theorem after_move_cases (c : Nat) (workers : ServerPool) (m : Move Thread Work) (w : Writer) :
    afterMove c workers m w = w ∨
      ∃ t work op next, m = .turn t ∧ workers.running t = some (work, .call op next) ∧
        ((∃ text, op = .handlerSend ⟨c⟩ text ∧ afterMove c workers m w = w.append text) ∨
          (op = .handlerClose ⟨c⟩ ∧ afterMove c workers m w = w.close)) := by
  cases m with
  | start t work => exact Or.inl rfl
  | turn t =>
    cases running : workers.running t with
    | none => exact Or.inl (by simp [afterMove, running])
    | some current =>
      obtain ⟨work, p⟩ := current
      cases p with
      | done a => exact Or.inl (by simp [afterMove, running])
      | raise e => exact Or.inl (by simp [afterMove, running])
      | call op next =>
        have effect : afterMove c workers (.turn t) w = afterCall c op w := by
          simp [afterMove, running]
        rw [effect]
        unfold afterCall
        split
        · rename_i h text
          by_cases own : h = ⟨c⟩
          · subst own
            exact Or.inr ⟨t, work, _, next, rfl, running, Or.inl ⟨text, rfl, if_pos rfl⟩⟩
          · exact Or.inl (if_neg own)
        · rename_i h
          by_cases own : h = ⟨c⟩
          · subst own
            exact Or.inr ⟨t, work, _, next, rfl, running, Or.inr ⟨rfl, if_pos rfl⟩⟩
          · exact Or.inl (if_neg own)
        · exact Or.inl rfl

theorem worker_sane (held : Sane c s) (orderly : Orderly c s (.worker m))
    (acted : s.act c (.worker m) = some s') : Sane c s' := by
  simp only [Connection.act] at acted
  split at acted
  · obtain ⟨workers, moved, rfl⟩ := Option.map_eq_some_iff.mp acted
    have ids := move_ids held.ids held.proper moved
    have proper := move_proper held.ids held.proper moved
    have last := move_last held.ids held.last moved
    rcases after_move_cases c s.workers m s.writer with
      same | ⟨t, work, op, next, rfl, running, ⟨text, rfl, sent⟩ | ⟨rfl, closed⟩⟩
    · -- nothing has happened to the write side; a frame is begun on an open channel only
      have quiet : ¬ s.writer.Stays → Silent c s.workers → Silent c workers := by
        intro leaving silent
        apply move_silent held.ids silent _ moved
        rintro work rfl
        exact (orderly rfl).resolve_left leaving
      rw [same]
      refine ⟨ids, proper, last, held.streamed, ?_, ?_⟩
      · intro shut
        have leaving : ¬ s.writer.Stays := fun stays => by simp [stays.1] at shut
        obtain ⟨written, silent⟩ := held.closed shut
        exact ⟨written, quiet leaving silent⟩
      · intro closing
        have leaving : ¬ s.writer.Stays := fun stays => stays.2 closing
        obtain ⟨empty, silent⟩ := held.closing closing
        exact ⟨empty, quiet leaving silent⟩
    · have stays : s.writer.Stays := (orderly work _ next running).2 text rfl
      rw [sent]
      refine ⟨ids, proper, last, streamed_append held.streamed text, ?_, ?_⟩
      · intro shut
        rw [show (s.writer.append text).isOpen = s.writer.isOpen from rfl, stays.1] at shut
        cases shut
      · intro closing
        exact absurd closing stays.2
    · have own : t = .handler c := (held.proper t work _ running).1.2 _ rfl
      subst own
      have empty : unread s.writer.writeQueue = [] := (orderly work _ next running).1 rfl
      have silent := close_silent held.ids held.last running moved
      have written := held.streamed
      rw [Streamed, empty, List.append_nil] at written
      rw [closed]
      exact ⟨ids, proper, last, held.streamed, fun _ => ⟨written, silent⟩,
        fun _ => ⟨empty, silent⟩⟩
  · cases acted

theorem request_sane (held : Sane c s) (acted : s.act c .request = some s') : Sane c s' := by
  obtain ⟨writer, asked, rfl⟩ := Option.map_eq_some_iff.mp acted
  have streamed := streamed_request held.streamed asked
  unfold Writer.request at asked
  split at asked
  · cases asked
  · cases asked
    refine ⟨held.ids, held.proper, held.last, streamed, ?_, held.closing⟩
    intro shut
    obtain ⟨written, silent⟩ := held.closed shut
    exact ⟨written, silent⟩

theorem selector_sane {step : SelectorStep} (held : Sane c s) (works : step ≠ .writeFails)
    (orderly : Orderly c s (.selector step)) (acted : s.act c (.selector step) = some s') :
    Sane c s' := by
  obtain ⟨writer, moved, rfl⟩ := Option.map_eq_some_iff.mp acted
  have effect := selector_effect moved works
  have streamed := streamed_selector held.streamed moved
  refine ⟨held.ids, held.proper, held.last, streamed, ?_, ?_⟩
  · intro shut
    rcases effect.isOpen with same | ⟨_, close, _, accepted⟩
    · have before : s.writer.isOpen = false := same.symm.trans shut
      obtain ⟨written, silent⟩ := held.closed before
      refine ⟨?_, silent⟩
      rw [effect.accepted before, effect.sent]
      exact written
    · obtain ⟨empty, silent⟩ := held.closing close
      have written := held.streamed
      rw [Streamed, empty, List.append_nil] at written
      refine ⟨?_, silent⟩
      rw [accepted, effect.sent]
      exact written
  · intro closing
    obtain ⟨rfl, test, terminate, queue⟩ := effect.closing closing
    obtain ⟨empty, silent⟩ := orderly test terminate
    exact ⟨(congrArg unread queue).trans empty, silent⟩

/-- In every orderly run, a channel that the server has closed has taken everything that
    `process` had to send to it. -/
theorem replies_delivered
    (runs : Runs (Connection.act c) (fun s a => Undisturbed a ∧ Orderly c s a) .initial s) :
    s.writer.isOpen = false → Delivered c s := by
  have held : Sane c s := by
    apply run_invariant (Sane c) (sane_initial c) _ runs
    intro action before after _ held admitted acted
    cases action with
    | worker m => exact worker_sane held admitted.2 acted
    | request => exact request_sane held acted
    | selector step =>
      have works : step ≠ .writeFails := by
        rintro rfl
        exact admitted.1
      exact selector_sane held works admitted.2 acted
  exact held.closed

end Runs

section Sessions

/-- Enough to know that an action is orderly: at its test of `shouldTerminate` the selector
    thread finds no frame of the connection in `process`. -/
def check (c : Nat) (s : Connection) : ConnectionAction → Bool
  | .worker (.start t _) => t ≠ .handler c || s.writer.Stays
  | .worker (.turn t) =>
      match s.workers.running t with
      | some (_, .call (.handlerClose _) _) => s.writer.writeQueue.isEmpty
      | some (_, .call (.handlerSend _ _) _) => s.writer.Stays
      | _ => true
  | .request => true
  | .selector .proceed => s.writer.position ≠ .terminateTest ||
      (s.writer.writeQueue.isEmpty && (s.workers.running (.handler c)).isNone)
  | .selector step => step ≠ .writeFails

theorem check_sound {c : Nat} (s : Connection) (a : ConnectionAction)
    (checked : check c s a = true) : Undisturbed a ∧ Orderly c s a := by
  cases a with
  | worker m =>
    refine ⟨trivial, ?_⟩
    cases m with
    | start t work =>
      intro own
      exact Or.inl (by simpa [check, own] using checked)
    | turn t =>
      intro work op next running
      constructor
      · rintro rfl
        have empty : s.writer.writeQueue = [] := by simpa [check, running] using checked
        rw [empty, unread_nil]
      · rintro text rfl
        simpa [check, running] using checked
  | request => exact ⟨trivial, trivial⟩
  | selector step =>
    cases step with
    | proceed =>
      refine ⟨trivial, ?_⟩
      intro test _
      simp only [check, test, ne_eq, not_true_eq_false, decide_false, Bool.false_or,
        Bool.and_eq_true, List.isEmpty_iff, Option.isNone_iff_eq_none] at checked
      refine ⟨by rw [checked.1, unread_nil], ?_⟩
      intro work p busy
      rw [checked.2] at busy
      cases busy
    | writeFails => simp [check] at checked
    | enter => exact ⟨trivial, trivial⟩
    | write n => exact ⟨trivial, trivial⟩
    | runTask => exact ⟨trivial, trivial⟩
    | select => exact ⟨trivial, trivial⟩

def turns (t : Thread) (n : Nat) : List ConnectionAction := List.replicate n (.worker (.turn t))

def accepting : List ConnectionAction :=
  .worker (.start .acceptor .accept) :: turns .acceptor 4

/-- Its worker makes so many steps in `process`. -/
def processing (message : Text) (n : Nat) : List ConnectionAction :=
  .worker (.start (.handler 0) (.frame .plain message)) :: turns (.handler 0) n

/-- The selector thread writes one buffer in two pieces and finds the queue empty. -/
def writing : List ConnectionAction :=
  .request :: ([.runTask, .enter, .proceed, .write 5, .proceed, .enter, .proceed, .write 100,
    .proceed, .proceed, .proceed] : List SelectorStep).map .selector

def closing : List ConnectionAction := [.selector .proceed, .selector .proceed]

def connectText : Text := "CONNECT\nlogin:meni\npasscode:films\n\n"

def disconnectText : Text := "DISCONNECT\nreceipt:7\n\n"

def sendText : Text := "SEND\ndestination:police\n\nfire\n"

theorem receipt_delivered :
    ∃ s, actsWhere (Connection.act 0) (check 0)
        (accepting ++ processing disconnectText 7 ++ writing ++ closing) .initial = some s ∧
      s.writer.isOpen = false ∧ Delivered 0 s := by
  have ran : (actsWhere (Connection.act 0) (check 0)
      (accepting ++ processing disconnectText 7 ++ writing ++ closing) .initial).any
        (fun s => decide (s.writer.isOpen = false)) = true := by decide +kernel
  obtain ⟨s, acted, checked⟩ := (Option.any_eq_true _ _).mp ran
  have shut := of_decide_eq_true checked
  exact ⟨s, acted, shut, replies_delivered (run_of_acts_where check_sound _ acted) shut⟩

/-- The worker closes the channel before its ERROR is written; and the selector thread, at
    the end of the write of an earlier reply, before the RECEIPT is queued. -/
theorem last_reply_cut :
    (∃ s, acts (Connection.act 0) (accepting ++ processing sendText 14) .initial = some s ∧
      s.writer.isOpen = false ∧ s.writer.accepted = [] ∧
      s.writer.sent = [(notSubscribedTo (some "police")).createFrame .stored,
        (notSubscribedTo (some "police")).createFrame .stored]) ∧
    ∃ s, acts (Connection.act 0) (accepting ++ processing connectText 9 ++ writing ++
        processing disconnectText 2 ++ closing ++ turns (.handler 0) 5) .initial = some s ∧
      s.writer.isOpen = false ∧
      s.writer.accepted = FrameEncoderDecoder.encode (connectedFrame.createFrame .stored) ∧
      s.writer.sent = [connectedFrame.createFrame .stored,
        (receiptFrame (some "7")).createFrame .stored] := by
  have refused : (acts (Connection.act 0) (accepting ++ processing sendText 14) .initial).any
      (fun s => decide (s.writer.isOpen = false ∧ s.writer.accepted = [] ∧
        s.writer.sent = [(notSubscribedTo (some "police")).createFrame .stored,
          (notSubscribedTo (some "police")).createFrame .stored])) = true := by decide +kernel
  have raced : (acts (Connection.act 0) (accepting ++ processing connectText 9 ++ writing ++
      processing disconnectText 2 ++ closing ++ turns (.handler 0) 5) .initial).any
      (fun s => decide (s.writer.isOpen = false ∧
        s.writer.accepted = FrameEncoderDecoder.encode (connectedFrame.createFrame .stored) ∧
        s.writer.sent = [connectedFrame.createFrame .stored,
          (receiptFrame (some "7")).createFrame .stored])) = true := by decide +kernel
  constructor
  · obtain ⟨s, acted, checked⟩ := (Option.any_eq_true _ _).mp refused
    exact ⟨s, acted, of_decide_eq_true checked⟩
  · obtain ⟨s, acted, checked⟩ := (Option.any_eq_true _ _).mp raced
    exact ⟨s, acted, of_decide_eq_true checked⟩

end Sessions

end ReplyDelivery
