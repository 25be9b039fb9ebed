import EmergencyService.Server.HandlerThreads

/- In which order `process` sends and closes: a connection is sent nothing by the call that has
   closed it. -/
namespace ClosingFrames
open JavaRuntime JavaFrame AtomicProgram MapCalls ConnectionsImpl StompProtocolImpl
open CallFootprint HandlerThreads

variable {c : Nat} {α β : Type}

def SendsNothing (c : Nat) (p : Java α) : Prop :=
  Calls HandlerAnswer (fun op => ∀ text, op ≠ .handlerSend ⟨c⟩ text) p

def ClosesNothing (p : Java α) : Prop := Calls HandlerAnswer (fun op => ∀ h, op ≠ .handlerClose h) p

/-- Behind the call that closes the connection nothing is sent to it. -/
def ClosesLast (c : Nat) : Java α → Prop
  | .done _ => True
  | .raise _ => True
  | .call op next => ∀ r, HandlerAnswer op r →
      (op = .handlerClose ⟨c⟩ → SendsNothing c (next r)) ∧ ClosesLast c (next r)

theorem closes_last_silent {p : Java α} (silent : SendsNothing c p) : ClosesLast c p := by
  induction p with
  | done a => trivial
  | raise e => trivial
  | call op next ih =>
    intro r answer
    have later := silent.2 r answer
    exact ⟨fun _ => later, ih r later⟩

theorem closes_last_bind {p : Java α} {f : α → Java β} (first : ClosesNothing p)
    (later : ∀ a, ClosesLast c (f a)) : ClosesLast c (p >>= f) := by
  change ClosesLast c (p.bind f)
  induction p with
  | done a => exact later a
  | raise e => trivial
  | call op next ih =>
    intro r answer
    exact ⟨fun close => absurd close (first.1 ⟨c⟩), ih r (first.2 r answer)⟩

theorem closes_last_perform_bind {op : MapCall} {f : op.Ret → Java α}
    (first : ∀ h, op ≠ .handlerClose h)
    (later : ∀ r, HandlerAnswer op r → ClosesLast c (f r)) : ClosesLast c (perform op >>= f) := by
  intro r answer
  exact ⟨fun close => absurd close (first ⟨c⟩), later r answer⟩

theorem closes_last_of_nothing {p : Java α} (first : ClosesNothing p) : ClosesLast c p := by
  induction p with
  | done a => trivial
  | raise e => trivial
  | call op next ih =>
    intro r answer
    exact ⟨fun close => absurd close (first.1 ⟨c⟩), ih r (first.2 r answer)⟩

section Parts
variable (w : Surroundings) (c : Nat)

theorem closes_nothing_of_work (frame : StompFrame) {p : Java α}
    (work : Calls HandlerAnswer (WorkCall c frame) p) : ClosesNothing p :=
  calls_mono work fun _ call h same => call.2 (same ▸ .close h)

theorem closes_reply (frame : StompFrame) : ClosesNothing (reply w c frame) := by
  refine calls_perform_bind nofun fun found _ => ?_
  refine calls_bind (calls_deref found) fun handler => ?_
  exact calls_perform_bind nofun fun _ _ => trivial

theorem cleanup_sends_nothing {op : MapCall} (cleanup : CleanupCall c op) (text : Text) :
    op ≠ .handlerSend ⟨c⟩ text := by
  intro send
  subst send
  exact cleanup

theorem disconnect_silent : SendsNothing c (disconnect w c) :=
  calls_mono (calls_disconnect w c) fun _ sweep => cleanup_sends_nothing c sweep.1

theorem close_after_error_silent : SendsNothing c (closeAfterError w c) :=
  calls_mono (calls_close_after_error w c) fun _ cleanup => cleanup_sends_nothing c cleanup

theorem refuse_closes_last (frame : StompFrame) : ClosesLast c (refuse w c frame) := by
  apply closes_last_bind (closes_reply w c frame)
  intro sent
  split
  · exact closes_last_silent (close_after_error_silent w c)
  · trivial

theorem reply_closes_last (frame : StompFrame) :
    ClosesLast c (do let _ ← reply w c frame; return ()) :=
  closes_last_bind (closes_reply w c frame) fun _ => trivial

section Branches
variable {frame : StompFrame}

theorem connect_closes_last (command : frame.command = "CONNECT") :
    ClosesLast c (processConnect w c frame.headers) := by
  apply closes_last_bind (closes_nothing_of_work c frame (calls_user_connected c _))
  intro already
  split
  · exact refuse_closes_last w c _
  · apply closes_last_bind (closes_nothing_of_work c frame (calls_connect_user c command))
    intro done
    split
    · exact reply_closes_last w c _
    · apply closes_last_bind (closes_reply w c _)
      intro _
      exact refuse_closes_last w c _

theorem unsubscribe_closes_last : ClosesLast c (processUnsubscribe w c frame.headers) := by
  apply closes_last_bind (calls_parse_int _)
  intro id
  apply closes_last_perform_bind
  · nofun
  intro handler _
  apply closes_last_bind (closes_nothing_of_work c frame (calls_remove_subscription w c id handler))
  intro done
  split
  · exact reply_closes_last w c _
  · exact refuse_closes_last w c _

theorem subscribe_closes_last (command : frame.command = "SUBSCRIBE") :
    ClosesLast c (processSubscribe w c frame.headers) := by
  apply closes_last_bind (calls_parse_int _)
  intro id
  apply closes_last_perform_bind
  · nofun
  intro handler own
  apply closes_last_bind (closes_nothing_of_work c frame (calls_add_subscription c command id own))
  intro done
  split
  · exact reply_closes_last w c _
  · exact refuse_closes_last w c _

theorem send_closes_last : ClosesLast c (processSend w c frame.headers frame.body) := by
  apply closes_last_bind (closes_nothing_of_work c frame (calls_get_user_sub_id c _))
  intro subscriptionID
  split
  · apply closes_last_bind (closes_reply w c _)
    intro _
    exact refuse_closes_last w c _
  · apply closes_last_bind (calls_deref _)
    intro channel
    apply closes_last_perform_bind
    · nofun
    intro id _
    apply closes_last_perform_bind
    · nofun
    intro _ _
    apply closes_last_of_nothing
    apply closes_nothing_of_work c frame
    apply calls_send_channel
    rw [message_command]
    decide

theorem dispatch_closes_last : ClosesLast c (dispatch w c frame) := by
  unfold dispatch
  split
  · rename_i command
    exact connect_closes_last w c command
  split
  · apply closes_last_bind (closes_reply w c _)
    intro _
    exact closes_last_silent (disconnect_silent w c)
  split
  · exact unsubscribe_closes_last w c
  split
  · rename_i command
    exact subscribe_closes_last w c command
  split
  · exact send_closes_last w c
  · trivial

end Branches

theorem process_closes_last (message : Text) : ClosesLast c (process w c message) := by
  apply closes_last_bind
  · exact (calls_perform _).mpr nofun
  intro _
  apply closes_last_bind (calls_ofExcept _)
  intro frame
  apply closes_last_bind
  · exact (calls_perform _).mpr nofun
  intro _
  exact dispatch_closes_last w c

end Parts

end ClosingFrames
