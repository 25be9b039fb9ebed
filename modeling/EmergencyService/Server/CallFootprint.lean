import EmergencyService.Server.StompProtocolImpl

/- Which calls `process` can make for a connection, and which of them the block after an
   ERROR reply makes. Invariants of whole runs are read off these footprints. -/
namespace CallFootprint
open JavaRuntime JavaFrame AtomicProgram MapCalls ConnectionsImpl StompProtocolImpl

/-- `activeClients` holds every handler under its own number, and a map belongs to the
    channel it was looked up or created for. -/
def HandlerAnswer : (op : MapCall) → op.Ret → Prop
  | .activeGet c, found => found = none ∨ found = some ⟨c⟩
  | .channelGet ch, found => ∀ ref, found = some ref → ref.channel = ch
  | .newMap ch, ref => ref.channel = ch
  | _, _ => True

def CleanupCall (c : Nat) : MapCall → Prop
  | .activeGet _ | .channelGet _ | .channelKeys | .subsRemove _ _ | .subsIterator _
  | .subsModCount _ _ | .counterGet => True
  | .activeRemove c' | .loggedInRemoveValue _ c' | .setShouldTerminate c' _ => c' = c
  | .handlerClose h => h = ⟨c⟩
  | _ => False

/-- What the branch of a frame can call, with the headers its arguments come from. -/
def ProcessCall (c : Nat) (frame : StompFrame) : MapCall → Prop
  | .activePut _ _ | .counterIncrement | .received _ _ => False
  | .activeRemove c' | .loggedInRemoveValue _ c' | .setShouldTerminate c' _
  | .messageIDIncrement c' => c' = c
  | .handlerClose h => h = ⟨c⟩
  | .usersPut login passcode => frame.command = "CONNECT" ∧
      header frame.headers "login" = some login ∧
      header frame.headers "passcode" = some passcode
  | .loggedInPut login c' => c' = c ∧ frame.command = "CONNECT" ∧
      header frame.headers "login" = some login
  | .newMap ch => frame.command = "SUBSCRIBE" ∧ header frame.headers "destination" = some ch
  | .channelPut ref => frame.command = "SUBSCRIBE" ∧
      header frame.headers "destination" = some ref.channel
  | .subsPut ref h _ => frame.command = "SUBSCRIBE" ∧
      header frame.headers "destination" = some ref.channel ∧ (h = none ∨ h = some ⟨c⟩)
  | .handlerSend h text =>
      commandOf text = "CONNECTED" → frame.command = "CONNECT" ∧ h = ⟨c⟩
  | _ => True

/-- What only the cleanup after an ERROR reply does to a handler. -/
inductive Closing : MapCall → Prop
  | close (h : ConnectionHandler) : Closing (.handlerClose h)
  | remove (c : Nat) : Closing (.activeRemove c)

def WorkCall (c : Nat) (frame : StompFrame) (op : MapCall) : Prop :=
  ProcessCall c frame op ∧ ¬ Closing op

/-- A call of `disconnect`, which the cleanup and the DISCONNECT branch have in common. -/
def SweepCall (c : Nat) (op : MapCall) : Prop := CleanupCall c op ∧ ¬ Closing op

theorem cleanup_is_process {c : Nat} {frame : StompFrame} {op : MapCall}
    (h : CleanupCall c op) : ProcessCall c frame op := by
  cases op <;> simp_all [CleanupCall, ProcessCall]

variable {answers : (op : MapCall) → op.Ret → Prop} {allowed : MapCall → Prop}

theorem calls_deref {α : Type} (a : Option α) : Calls answers allowed (deref a) := by
  cases a <;> trivial

theorem calls_deref_bind {α β : Type} {found : Option α} {f : α → Java β}
    (later : ∀ a, found = some a → Calls answers allowed (f a)) :
    Calls answers allowed (deref found >>= f) := by
  cases found with
  | none => trivial
  | some a => exact later a rfl

theorem calls_for_each {subs : MapRef} {expected : Nat} {body : HandlerRef → Java Unit}
    (check : allowed (.subsModCount subs expected)) (each : ∀ h, Calls answers allowed (body h)) :
    ∀ keys, Calls answers allowed (forEachKey subs expected body keys)
  | [] => trivial
  | key :: rest => by
    refine calls_perform_bind check fun modCount _ => ?_
    split
    · exact calls_bind (each key) fun _ => calls_for_each check each rest
    · trivial

section Cleanup
variable (w : Surroundings) (c : Nat)

theorem calls_sweep_channels :
    ∀ channels, Calls HandlerAnswer (SweepCall c) (sweepChannels w channels)
  | [] => trivial
  | channel :: rest => by
    refine calls_bind ?_ fun _ => calls_sweep_channels rest
    refine calls_perform_bind ⟨trivial, nofun⟩ fun found _ => ?_
    refine calls_bind (calls_deref found) fun subs => ?_
    refine calls_perform_bind ⟨trivial, nofun⟩ fun keys _ => ?_
    refine calls_for_each ⟨trivial, nofun⟩ (fun h => ?_) _
    refine calls_perform_bind ⟨trivial, nofun⟩ fun counter _ => ?_
    refine calls_perform_bind ⟨trivial, nofun⟩ fun counted _ => ?_
    split
    · exact (calls_perform _).mpr ⟨trivial, nofun⟩
    · trivial

theorem calls_disconnect : Calls HandlerAnswer (SweepCall c) (disconnect w c) := by
  refine calls_perform_bind ⟨rfl, nofun⟩ fun _ _ => ?_
  refine calls_perform_bind ⟨trivial, nofun⟩ fun channels _ => ?_
  exact calls_sweep_channels w c _

theorem calls_close_after_error :
    Calls HandlerAnswer (CleanupCall c) (closeAfterError w c) := by
  refine calls_catching ?_ fun _ => trivial
  refine calls_perform_bind trivial fun found answer => ?_
  refine calls_bind ?_ fun _ => ?_
  · rcases answer with rfl | rfl
    · trivial
    · refine calls_perform_bind rfl fun _ _ => ?_
      split <;> trivial
  · refine calls_bind (calls_mono (calls_disconnect w c) fun _ => And.left) fun _ => ?_
    refine calls_perform_bind rfl fun _ _ => ?_
    exact (calls_perform _).mpr rfl

end Cleanup

section Texts
variable (o : IterationOrder Text)

theorem error_command (headers : HashMap Text Text) :
    commandOf ((errorFrame headers).createFrame o) = "ERROR" := by
  have line : LineFree "ERROR" := by decide
  exact command_of_frame (f := errorFrame headers) line o

theorem receipt_command (receiptID : Option Text) :
    commandOf ((receiptFrame receiptID).createFrame o) = "RECEIPT" := by
  have line : LineFree "RECEIPT" := by decide
  exact command_of_frame (f := receiptFrame receiptID) line o

theorem connected_command : commandOf (connectedFrame.createFrame o) = "CONNECTED" := by
  have line : LineFree connectedFrame.command := by decide
  exact command_of_frame line o

theorem message_command (id messageID : Int) (channel body : Text) :
    commandOf ((messageFrame id messageID channel body).createFrame o) = "MESSAGE" := by
  have line : LineFree "MESSAGE" := by decide
  exact command_of_frame (f := messageFrame id messageID channel body) line o

end Texts

section Process
variable (w : Surroundings) (c : Nat) {frame : StompFrame}

theorem calls_of_work {α : Type} {p : Java α} (work : Calls HandlerAnswer (WorkCall c frame) p) :
    Calls HandlerAnswer (ProcessCall c frame) p := calls_mono work fun _ => And.left

theorem calls_send {msg : Text}
    (allowed : commandOf msg = "CONNECTED" → frame.command = "CONNECT") :
    Calls HandlerAnswer (WorkCall c frame) (send c msg) := by
  refine calls_perform_bind ⟨trivial, nofun⟩ fun found own => ?_
  refine calls_deref_bind fun handler here => ?_
  have mine : handler = ⟨c⟩ := by
    rcases own with missing | own
    · rw [missing] at here
      cases here
    · rw [own] at here
      exact (Option.some.inj here).symm
  exact calls_perform_bind ⟨fun connected => ⟨allowed connected, mine⟩, nofun⟩ fun _ _ => trivial

theorem calls_reply_error (headers : HashMap Text Text) :
    Calls HandlerAnswer (WorkCall c frame) (reply w c (errorFrame headers)) := by
  refine calls_send c fun connected => ?_
  rw [error_command] at connected
  exact absurd connected (by decide)

theorem calls_refuse (headers : HashMap Text Text) :
    Calls HandlerAnswer (ProcessCall c frame) (refuse w c (errorFrame headers)) := by
  refine calls_bind (calls_of_work c (calls_reply_error w c headers)) fun sent => ?_
  split
  · exact calls_mono (calls_close_after_error w c) fun _ => cleanup_is_process
  · trivial

theorem calls_reply_receipt (receiptID : Option Text) :
    Calls HandlerAnswer (WorkCall c frame) (reply w c (receiptFrame receiptID)) := by
  refine calls_send c fun connected => ?_
  rw [receipt_command] at connected
  exact absurd connected (by decide)

section Connect
variable (command : frame.command = "CONNECT")

theorem calls_user_connected (login : Option Text) :
    Calls HandlerAnswer (WorkCall c frame) (userConnectedAlready login) :=
  calls_bind (calls_deref login) fun _ => (calls_perform _).mpr ⟨trivial, nofun⟩

include command

theorem calls_reply_connected :
    Calls HandlerAnswer (WorkCall c frame) (reply w c connectedFrame) :=
  calls_send c fun _ => command

theorem calls_log_in :
    Calls HandlerAnswer (WorkCall c frame) (logIn (header frame.headers "login") c) :=
  calls_deref_bind fun _ named => (calls_perform _).mpr ⟨⟨rfl, command, named⟩, nofun⟩

theorem calls_connect_user :
    Calls HandlerAnswer (WorkCall c frame)
      (connectUser (header frame.headers "login") (header frame.headers "passcode") c) := by
  refine calls_bind (calls_bind (calls_deref _) fun _ => (calls_perform _).mpr ⟨trivial, nofun⟩)
    fun registered => ?_
  split
  · refine calls_bind (calls_deref _) fun name => ?_
    refine calls_perform_bind ⟨trivial, nofun⟩ fun found _ => ?_
    refine calls_bind (calls_deref found) fun known => ?_
    split
    · exact calls_bind (calls_log_in c command) fun _ => trivial
    · trivial
  · refine calls_bind ?_ fun _ => calls_bind (calls_log_in c command) fun _ => trivial
    refine calls_deref_bind fun _ named => ?_
    refine calls_deref_bind fun _ secret => ?_
    exact (calls_perform _).mpr ⟨⟨command, named, secret⟩, nofun⟩

theorem calls_connect :
    Calls HandlerAnswer (ProcessCall c frame) (processConnect w c frame.headers) := by
  refine calls_bind (calls_of_work c (calls_user_connected c _)) fun connected => ?_
  split
  · exact calls_refuse w c _
  · refine calls_bind (calls_of_work c (calls_connect_user c command)) fun done => ?_
    split
    · exact calls_bind (calls_of_work c (calls_reply_connected w c command)) fun _ => trivial
    · exact calls_bind (calls_of_work c (calls_reply_error w c _)) fun _ => calls_refuse w c _

end Connect

theorem calls_process_disconnect (headers : HashMap Text Text) :
    Calls HandlerAnswer (ProcessCall c frame) (processDisconnect w c headers) :=
  calls_bind (calls_of_work c (calls_reply_receipt w c _)) fun _ =>
    calls_mono (calls_disconnect w c) fun _ sweep => cleanup_is_process sweep.1

theorem calls_remove_from (id : Int) (handler : HandlerRef) :
    ∀ channels, Calls HandlerAnswer (WorkCall c frame) (removeFrom id handler channels)
  | [] => trivial
  | channel :: rest => by
    refine calls_perform_bind ⟨trivial, nofun⟩ fun found _ => ?_
    refine calls_bind (calls_deref found) fun subs => ?_
    refine calls_perform_bind ⟨trivial, nofun⟩ fun subscribed _ => ?_
    split
    · refine calls_perform_bind ⟨trivial, nofun⟩ fun found _ => ?_
      refine calls_bind (calls_deref found) fun subs => ?_
      refine calls_perform_bind ⟨trivial, nofun⟩ fun held _ => ?_
      split
      · refine calls_perform_bind ⟨trivial, nofun⟩ fun found _ => ?_
        refine calls_bind (calls_deref found) fun subs => ?_
        exact calls_perform_bind ⟨trivial, nofun⟩ fun _ _ => trivial
      · exact calls_remove_from id handler rest
    · exact calls_remove_from id handler rest

theorem calls_remove_subscription (id : Int) (handler : HandlerRef) :
    Calls HandlerAnswer (WorkCall c frame) (removeChannelSubscription w id handler) :=
  calls_perform_bind ⟨trivial, nofun⟩ fun _ _ => calls_remove_from c id handler _

theorem calls_parse_int (text : Option Text) : Calls answers allowed (parseIntOf text) := by
  unfold parseIntOf
  split
  · split <;> trivial
  · trivial

theorem calls_unsubscribe (headers : HashMap Text Text) :
    Calls HandlerAnswer (ProcessCall c frame) (processUnsubscribe w c headers) := by
  refine calls_bind (calls_parse_int _) fun id => ?_
  refine calls_perform_bind trivial fun handler _ => ?_
  refine calls_bind (calls_of_work c (calls_remove_subscription w c id handler)) fun done => ?_
  split
  · exact calls_bind (calls_of_work c (calls_reply_receipt w c _)) fun _ => trivial
  · exact calls_refuse w c _

section Subscribe
variable (command : frame.command = "SUBSCRIBE")
include command

theorem calls_add_subscription (id : Int) {handler : HandlerRef}
    (own : handler = none ∨ handler = some ⟨c⟩) :
    Calls HandlerAnswer (WorkCall c frame)
      (addChannelSubscription (header frame.headers "destination") id handler) := by
  refine calls_deref_bind fun channel target => ?_
  refine calls_perform_bind ⟨trivial, nofun⟩ fun known _ => ?_
  split
  · refine calls_perform_bind ⟨trivial, nofun⟩ fun found _ => ?_
    refine calls_bind (calls_deref found) fun subs => ?_
    refine calls_perform_bind ⟨trivial, nofun⟩ fun subscribed _ => ?_
    split
    · trivial
    · refine calls_perform_bind ⟨trivial, nofun⟩ fun found named => ?_
      refine calls_deref_bind fun subs here => ?_
      have same : subs.channel = channel := named subs here
      exact calls_perform_bind ⟨⟨command, same ▸ target, own⟩, nofun⟩ fun _ _ => trivial
  · refine calls_perform_bind ⟨⟨command, target⟩, nofun⟩ fun subs named => ?_
    have same : subs.channel = channel := named
    refine calls_perform_bind ⟨⟨command, same ▸ target, own⟩, nofun⟩ fun _ _ => ?_
    exact calls_perform_bind ⟨⟨command, same ▸ target⟩, nofun⟩ fun _ _ => trivial

theorem calls_subscribe :
    Calls HandlerAnswer (ProcessCall c frame) (processSubscribe w c frame.headers) := by
  refine calls_bind (calls_parse_int _) fun id => ?_
  refine calls_perform_bind trivial fun handler own => ?_
  refine calls_bind (calls_of_work c (calls_add_subscription c command id own)) fun done => ?_
  split
  · exact calls_bind (calls_of_work c (calls_reply_receipt w c _)) fun _ => trivial
  · exact calls_refuse w c _

end Subscribe

theorem calls_get_user_sub_id (channel : Option Text) :
    Calls HandlerAnswer (WorkCall c frame) (getUserSubID channel c) := by
  refine calls_bind (calls_deref channel) fun channel => ?_
  refine calls_perform_bind ⟨trivial, nofun⟩ fun known _ => ?_
  split
  · refine calls_perform_bind ⟨trivial, nofun⟩ fun found _ => ?_
    refine calls_bind (calls_deref found) fun subs => ?_
    refine calls_perform_bind ⟨trivial, nofun⟩ fun handler _ => ?_
    refine calls_perform_bind ⟨trivial, nofun⟩ fun subscribed _ => ?_
    split
    · refine calls_perform_bind ⟨trivial, nofun⟩ fun found _ => ?_
      refine calls_bind (calls_deref found) fun subs => ?_
      refine calls_perform_bind ⟨trivial, nofun⟩ fun handler _ => ?_
      exact calls_perform_bind ⟨trivial, nofun⟩ fun id _ => calls_deref id
    · trivial
  · trivial

theorem calls_send_channel {channel msg : Text} (other : commandOf msg ≠ "CONNECTED") :
    Calls HandlerAnswer (WorkCall c frame) (sendChannel w channel msg) := by
  refine calls_perform_bind ⟨trivial, nofun⟩ fun found _ => ?_
  refine calls_bind (calls_deref found) fun subs => ?_
  refine calls_perform_bind ⟨trivial, nofun⟩ fun keys _ => ?_
  refine calls_for_each ⟨trivial, nofun⟩ (fun h => ?_) _
  refine calls_bind (calls_deref h) fun handler => ?_
  exact (calls_perform _).mpr ⟨fun connected => absurd connected other, nofun⟩

theorem calls_process_send (headers : HashMap Text Text) (body : Text) :
    Calls HandlerAnswer (ProcessCall c frame) (processSend w c headers body) := by
  refine calls_bind (calls_of_work c (calls_get_user_sub_id c _)) fun subscriptionID => ?_
  split
  · exact calls_bind (calls_of_work c (calls_reply_error w c _)) fun _ => calls_refuse w c _
  · refine calls_bind (calls_deref _) fun channel => ?_
    refine calls_perform_bind trivial fun id _ => ?_
    refine calls_perform_bind rfl fun _ _ => ?_
    refine calls_of_work c (calls_send_channel w c ?_)
    rw [message_command]
    decide

theorem calls_dispatch (frame : StompFrame) :
    Calls HandlerAnswer (ProcessCall c frame) (dispatch w c frame) := by
  unfold dispatch
  split
  · rename_i command
    exact calls_connect w c command
  split
  · exact calls_process_disconnect w c _
  split
  · exact calls_unsubscribe w c _
  split
  · rename_i command
    exact calls_subscribe w c command
  split
  · exact calls_process_send w c _ _
  · trivial

end Process

end CallFootprint
