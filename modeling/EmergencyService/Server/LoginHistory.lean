import EmergencyService.Server.FrameOutcome

/- The logins of a run as its history tells them: which CONNECT was answered CONNECTED, and
   which connections hold a login because they have not been disconnected since. -/
namespace LoginHistory
open JavaRuntime JavaFrame AtomicProgram MapCalls ConnectionsImpl StompProtocolImpl
open SubscriptionSweep ProcessRun FrameEvents CallFootprint BranchOutcomes FrameOutcome

/-- The login and passcode of a text that is a CONNECT frame. -/
def connectOf (message : Text) : Option (Text × Text) :=
  match StompFrame.ofText message with
  | .error _ => none
  | .ok frame =>
      if frame.command = "CONNECT" then
        match header frame.headers "login", header frame.headers "passcode" with
        | some login, some passcode => some (login, passcode)
        | _, _ => none
      else none

structure Accepted where
  connection : Nat
  login : Text
  passcode : Text
  deriving DecidableEq

structure History where
  request : Nat → Option (Text × Text)
  accepted : List Accepted
  held : Nat → List Text

def History.empty : History := ⟨fun _ => none, [], fun _ => []⟩

/-- A connection has been answered CONNECTED for the request it has made last. -/
def History.grant (history : History) (c : Nat) : History :=
  match history.request c with
  | none => history
  | some (login, passcode) => { history with
      accepted := ⟨c, login, passcode⟩ :: history.accepted
      held := Function.update history.held c (login :: history.held c) }

def History.observe (history : History) : Event → History
  | .received c message =>
      { history with request := Function.update history.request c (connectOf message) }
  | .sent h text =>
      if commandOf text = "CONNECTED" then history.grant h.connectionID else history
  | .disconnected c => { history with held := Function.update history.held c [] }

def historyOf (log : List Event) : History :=
  log.foldr (fun event history => history.observe event) .empty

/-- The passcode of the first CONNECT of the login that was answered CONNECTED. -/
def firstPasscode (login : Text) : List Accepted → Option Text
  | [] => none
  | last :: earlier =>
      match firstPasscode login earlier with
      | some passcode => some passcode
      | none => if last.login = login then some last.passcode else none

section Observe
variable {history : History}

theorem observe_other {h : ConnectionHandler} {text : Text} (other : commandOf text ≠ "CONNECTED") :
    history.observe (.sent h text) = history := by
  exact if_neg other

theorem observe_connected {h : ConnectionHandler} {text : Text}
    (connected : commandOf text = "CONNECTED") :
    history.observe (.sent h text) = history.grant h.connectionID := by
  exact if_pos connected

theorem grant_of_request {c : Nat} {login passcode : Text}
    (request : history.request c = some (login, passcode)) :
    history.grant c = { history with
      accepted := ⟨c, login, passcode⟩ :: history.accepted
      held := Function.update history.held c (login :: history.held c) } := by
  unfold History.grant
  rw [request]

end Observe

section Requests
variable {message login passcode : Text}

theorem connect_of_some (connect : connectOf message = some (login, passcode)) :
    ∃ frame, StompFrame.ofText message = .ok frame ∧ frame.command = "CONNECT" ∧
      header frame.headers "login" = some login ∧
      header frame.headers "passcode" = some passcode := by
  unfold connectOf at connect
  cases parsed : StompFrame.ofText message with
  | error e => simp [parsed] at connect
  | ok frame =>
    rw [parsed] at connect
    dsimp only at connect
    split at connect
    · rename_i command
      split at connect
      · rename_i u p named secret
        cases connect
        exact ⟨frame, rfl, command, named, secret⟩
      · cases connect
    · cases connect

theorem connect_of_parsed {frame : StompFrame} (parsed : StompFrame.ofText message = .ok frame)
    (command : frame.command = "CONNECT") (named : header frame.headers "login" = some login)
    (secret : header frame.headers "passcode" = some passcode) :
    connectOf message = some (login, passcode) := by
  unfold connectOf
  rw [parsed]
  dsimp only
  rw [if_pos command, named, secret]

end Requests

section Grow
variable (w : Surroundings) {c : Nat} {frame : StompFrame} {s : ServerState}

theorem history_begun (message : Text) :
    historyOf (begun c message frame s).log = (historyOf s.log).observe (.received c message) :=
  rfl

theorem history_answered (other : commandOf (frame.createFrame w.headers) ≠ "CONNECTED") :
    historyOf (answered w c frame s).log = historyOf s.log := observe_other other

theorem history_reported (other : commandOf (frame.createFrame w.headers) ≠ "CONNECTED") :
    historyOf (reported w c frame s).log = historyOf s.log := by
  unfold reported
  split
  · exact history_answered w other
  · rfl

theorem history_connected :
    historyOf (answered w c connectedFrame s).log = (historyOf s.log).grant c :=
  observe_connected (connected_command w.headers)

theorem history_deliver {msg : Text} (other : commandOf msg ≠ "CONNECTED")
    (handlers : List ConnectionHandler) :
    historyOf (deliver msg handlers s).log = historyOf s.log := by
  have each : ∀ log, historyOf ((handlers.map fun h => Event.sent h msg).reverse ++ log) =
      historyOf log := by
    induction handlers with
    | nil => exact fun log => rfl
    | cons h rest ih =>
      intro log
      rw [List.map_cons, List.reverse_cons, List.append_assoc]
      exact (ih _).trans (observe_other other)
  exact each s.log

theorem history_disconnected {result : Except JavaException Unit} {s' : ServerState}
    (effect : Disconnected w c s result s') :
    historyOf s'.log = (historyOf s.log).observe (.disconnected c) := by
  rw [effect.frame]
  rfl

theorem history_cleaned_up :
    historyOf (cleanedUp w c s).log =
      if w.closeFails then historyOf s.log else (historyOf s.log).observe (.disconnected c) := by
  rcases cleaned_up_cases w with ⟨fails, same⟩ | ⟨fine, s', effect, same⟩ |
    ⟨fine, e, s', effect, same⟩
  · rw [same, if_pos fails]
    rfl
  · rw [same, fine, if_neg Bool.false_ne_true]
    change historyOf s'.log = _
    rw [history_disconnected w effect]
    rfl
  · rw [same, fine, if_neg Bool.false_ne_true, history_disconnected w effect]
    rfl

end Grow

end LoginHistory
