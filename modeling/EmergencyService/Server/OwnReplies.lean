import EmergencyService.Server.CallFootprint

/- What every branch of `process` sends, but for the relay of a SEND: replies to the frame, and
   only to the own handler. -/
namespace OwnReplies
open JavaRuntime JavaFrame AtomicProgram MapCalls ConnectionsImpl StompProtocolImpl
open CallFootprint

/-- What a frame can be answered with. -/
inductive ReplyTo (frame : StompFrame) : Text → Prop
  | connected (o : IterationOrder Text) : frame.command = "CONNECT" →
      ReplyTo frame (connectedFrame.createFrame o)
  | receipt (o : IterationOrder Text) :
      frame.command ∈ ["DISCONNECT".toList, "UNSUBSCRIBE".toList, "SUBSCRIBE".toList] →
        ReplyTo frame ((receiptFrame (header frame.headers "receipt")).createFrame o)
  | error (headers : HashMap Text Text) (o : IterationOrder Text) :
      ReplyTo frame ((errorFrame headers).createFrame o)

theorem reply_not_message {frame : StompFrame} {text : Text} (reply : ReplyTo frame text) :
    commandOf text ≠ "MESSAGE" := by
  cases reply with
  | connected o _ =>
    rw [connected_command]
    decide
  | receipt o _ =>
    rw [receipt_command]
    decide
  | error headers o =>
    rw [error_command]
    decide

inductive Numbering : MapCall → Prop
  | get (c : Nat) : Numbering (.messageIDGet c)
  | increment (c : Nat) : Numbering (.messageIDIncrement c)

/-- A call that sends only replies to the frame, to the own handler, and numbers no SEND. -/
def OwnReply (c : Nat) (frame : StompFrame) (op : MapCall) : Prop :=
  (∀ h text, op = .handlerSend h text → h = ⟨c⟩ ∧ ReplyTo frame text) ∧ ¬ Numbering op

variable (w : Surroundings) (c : Nat) {frame : StompFrame}

theorem quiet_send {msg : Text} (answer : ReplyTo frame msg) :
    Calls HandlerAnswer (OwnReply c frame) (send c msg) := by
  refine calls_perform_bind ⟨nofun, nofun⟩ fun found own => ?_
  refine calls_deref_bind fun handler here => ?_
  have mine : handler = ⟨c⟩ := by
    rcases own with rfl | rfl
    · cases here
    · exact (Option.some.inj here).symm
  refine calls_perform_bind ⟨?_, nofun⟩ fun _ _ => trivial
  intro h text same
  cases same
  exact ⟨mine, answer⟩

theorem quiet_sweep_channels :
    ∀ channels, Calls HandlerAnswer (OwnReply c frame) (sweepChannels w channels)
  | [] => trivial
  | channel :: rest => by
    refine calls_bind ?_ fun _ => quiet_sweep_channels rest
    refine calls_perform_bind ⟨nofun, nofun⟩ fun found _ => ?_
    refine calls_bind (calls_deref found) fun subs => ?_
    refine calls_perform_bind ⟨nofun, nofun⟩ fun keys _ => ?_
    refine calls_for_each ⟨nofun, nofun⟩ (fun h => ?_) _
    refine calls_perform_bind ⟨nofun, nofun⟩ fun counter _ => ?_
    refine calls_perform_bind ⟨nofun, nofun⟩ fun counted _ => ?_
    split
    · exact (calls_perform _).mpr ⟨nofun, nofun⟩
    · trivial

theorem quiet_disconnect : Calls HandlerAnswer (OwnReply c frame) (disconnect w c) := by
  refine calls_perform_bind ⟨nofun, nofun⟩ fun _ _ => ?_
  refine calls_perform_bind ⟨nofun, nofun⟩ fun channels _ => ?_
  exact quiet_sweep_channels w c _

theorem quiet_receipt (command : frame.command ∈
      ["DISCONNECT".toList, "UNSUBSCRIBE".toList, "SUBSCRIBE".toList]) :
    Calls HandlerAnswer (OwnReply c frame)
      (reply w c (receiptFrame (header frame.headers "receipt"))) :=
  quiet_send c (.receipt w.headers command)

theorem quiet_error (headers : HashMap Text Text) :
    Calls HandlerAnswer (OwnReply c frame) (reply w c (errorFrame headers)) :=
  quiet_send c (.error headers w.headers)

theorem quiet_refuse (headers : HashMap Text Text) :
    Calls HandlerAnswer (OwnReply c frame) (refuse w c (errorFrame headers)) := by
  refine calls_bind (quiet_error w c headers) fun sent => ?_
  split
  · refine calls_catching ?_ fun _ => trivial
    refine calls_perform_bind ⟨nofun, nofun⟩ fun found _ => ?_
    refine calls_bind ?_ fun _ => ?_
    · refine calls_bind (calls_deref found) fun handler => ?_
      refine calls_perform_bind ⟨nofun, nofun⟩ fun _ _ => ?_
      split <;> trivial
    · refine calls_bind (quiet_disconnect w c) fun _ => ?_
      refine calls_perform_bind ⟨nofun, nofun⟩ fun _ _ => ?_
      exact (calls_perform _).mpr ⟨nofun, nofun⟩
  · trivial

theorem quiet_connect (command : frame.command = "CONNECT") :
    Calls HandlerAnswer (OwnReply c frame) (processConnect w c frame.headers) := by
  have connected : Calls HandlerAnswer (OwnReply c frame) (reply w c connectedFrame) :=
    quiet_send c (.connected w.headers command)
  have entered : ∀ login, Calls HandlerAnswer (OwnReply c frame) (logIn login c) := by
    intro login
    exact calls_bind (calls_deref login) fun _ => (calls_perform _).mpr ⟨nofun, nofun⟩
  refine calls_bind ?_ fun taken => ?_
  · exact calls_bind (calls_deref _) fun _ => (calls_perform _).mpr ⟨nofun, nofun⟩
  split
  · exact quiet_refuse w c _
  · refine calls_bind ?_ fun done => ?_
    · refine calls_bind (calls_bind (calls_deref _) fun _ => (calls_perform _).mpr ⟨nofun, nofun⟩)
        fun registered => ?_
      split
      · refine calls_bind (calls_deref _) fun name => ?_
        refine calls_perform_bind ⟨nofun, nofun⟩ fun found _ => ?_
        refine calls_bind (calls_deref found) fun known => ?_
        split
        · exact calls_bind (entered _) fun _ => trivial
        · trivial
      · refine calls_bind ?_ fun _ => calls_bind (entered _) fun _ => trivial
        refine calls_bind (calls_deref _) fun _ => ?_
        exact calls_bind (calls_deref _) fun _ => (calls_perform _).mpr ⟨nofun, nofun⟩
    · split
      · exact calls_bind connected fun _ => trivial
      · exact calls_bind (quiet_error w c _) fun _ => quiet_refuse w c _

theorem quiet_remove_from (id : Int) (handler : HandlerRef) :
    ∀ channels, Calls HandlerAnswer (OwnReply c frame) (removeFrom id handler channels)
  | [] => trivial
  | channel :: rest => by
    refine calls_perform_bind ⟨nofun, nofun⟩ fun found _ => ?_
    refine calls_bind (calls_deref found) fun subs => ?_
    refine calls_perform_bind ⟨nofun, nofun⟩ fun subscribed _ => ?_
    split
    · refine calls_perform_bind ⟨nofun, nofun⟩ fun found _ => ?_
      refine calls_bind (calls_deref found) fun subs => ?_
      refine calls_perform_bind ⟨nofun, nofun⟩ fun held _ => ?_
      split
      · refine calls_perform_bind ⟨nofun, nofun⟩ fun found _ => ?_
        refine calls_bind (calls_deref found) fun subs => ?_
        exact calls_perform_bind ⟨nofun, nofun⟩ fun _ _ => trivial
      · exact quiet_remove_from id handler rest
    · exact quiet_remove_from id handler rest

theorem quiet_unsubscribe (command : frame.command = "UNSUBSCRIBE") :
    Calls HandlerAnswer (OwnReply c frame) (processUnsubscribe w c frame.headers) := by
  refine calls_bind (calls_parse_int _) fun id => ?_
  refine calls_perform_bind ⟨nofun, nofun⟩ fun handler _ => ?_
  refine calls_bind ?_ fun done => ?_
  · exact calls_perform_bind ⟨nofun, nofun⟩ fun channels _ => quiet_remove_from c id handler _
  · split
    · exact calls_bind (quiet_receipt w c (by simp [command])) fun _ => trivial
    · exact quiet_refuse w c _

theorem quiet_subscribe (command : frame.command = "SUBSCRIBE") :
    Calls HandlerAnswer (OwnReply c frame) (processSubscribe w c frame.headers) := by
  refine calls_bind (calls_parse_int _) fun id => ?_
  refine calls_perform_bind ⟨nofun, nofun⟩ fun handler _ => ?_
  refine calls_bind ?_ fun done => ?_
  · refine calls_bind (calls_deref _) fun channel => ?_
    refine calls_perform_bind ⟨nofun, nofun⟩ fun known _ => ?_
    split
    · refine calls_perform_bind ⟨nofun, nofun⟩ fun found _ => ?_
      refine calls_bind (calls_deref found) fun subs => ?_
      refine calls_perform_bind ⟨nofun, nofun⟩ fun subscribed _ => ?_
      split
      · trivial
      · refine calls_perform_bind ⟨nofun, nofun⟩ fun found _ => ?_
        refine calls_bind (calls_deref found) fun subs => ?_
        exact calls_perform_bind ⟨nofun, nofun⟩ fun _ _ => trivial
    · refine calls_perform_bind ⟨nofun, nofun⟩ fun subs _ => ?_
      refine calls_perform_bind ⟨nofun, nofun⟩ fun _ _ => ?_
      exact calls_perform_bind ⟨nofun, nofun⟩ fun _ _ => trivial
  · split
    · exact calls_bind (quiet_receipt w c (by simp [command])) fun _ => trivial
    · exact quiet_refuse w c _

theorem quiet_get_user_sub_id (channel : Option Text) :
    Calls HandlerAnswer (OwnReply c frame) (getUserSubID channel c) := by
  refine calls_bind (calls_deref channel) fun channel => ?_
  refine calls_perform_bind ⟨nofun, nofun⟩ fun known _ => ?_
  split
  · refine calls_perform_bind ⟨nofun, nofun⟩ fun found _ => ?_
    refine calls_bind (calls_deref found) fun subs => ?_
    refine calls_perform_bind ⟨nofun, nofun⟩ fun handler _ => ?_
    refine calls_perform_bind ⟨nofun, nofun⟩ fun subscribed _ => ?_
    split
    · refine calls_perform_bind ⟨nofun, nofun⟩ fun found _ => ?_
      refine calls_bind (calls_deref found) fun subs => ?_
      refine calls_perform_bind ⟨nofun, nofun⟩ fun handler _ => ?_
      exact calls_perform_bind ⟨nofun, nofun⟩ fun id _ => calls_deref id
    · trivial
  · trivial

theorem unnumbered_send_channel (channel msg : Text) :
    Calls HandlerAnswer (¬ Numbering ·) (sendChannel w channel msg) := by
  refine calls_perform_bind nofun fun found _ => ?_
  refine calls_bind (calls_deref found) fun subs => ?_
  refine calls_perform_bind nofun fun keys _ => ?_
  refine calls_for_each nofun (fun h => ?_) _
  exact calls_bind (calls_deref h) fun handler => (calls_perform _).mpr nofun

theorem quiet_dispatch (other : frame.command ≠ "SEND") :
    Calls HandlerAnswer (OwnReply c frame) (dispatch w c frame) := by
  unfold dispatch
  split
  · rename_i command
    exact quiet_connect w c command
  split
  · rename_i command
    exact calls_bind (quiet_receipt w c (by simp [command])) fun _ => quiet_disconnect w c
  split
  · rename_i command
    exact quiet_unsubscribe w c command
  split
  · rename_i command
    exact quiet_subscribe w c command
  · trivial

end OwnReplies
