import EmergencyService.Client.SubscriptionRequests

/- One client at its keyboard, its frames on their way, and the server with all its other
   connections: when the client's table of subscriptions and the server's agree. -/
namespace SubscriptionAgreement
open JavaRuntime CppRuntime JavaFrame FrameStream EventReport ReportLines ChannelCommands
open MapCalls StompProtocolImpl BranchOutcomes HandlerThreads ServerRuns SubscriberLogins
open OtherConnections PendingOperations SubscriptionRequests

section Commands
variable {client client' : Client} {joins : Nat} {channel : Text}

def table (client : Client) : Table := fun ch => client.subscriptions.lookup ch

/-- The client's ids are distinct and were handed out by its counter, once a join at most. -/
structure OwnTable (client : Client) (joins : Nat) : Prop where
  user : NulFree client.currentUser
  held : ∀ ch id, table client ch = some id → Word ch ∧ 0 ≤ id ∧ id < client.subscriptionId
  distinct : ∀ ch ch' id, table client ch = some id → table client ch' = some id → ch' = ch
  counter : 0 ≤ client.subscriptionId ∧ client.subscriptionId ≤ joins

/-- What a command does: the frames are requests that lead from the old table to the new. -/
structure Issued (client client' : Client) (frames : List CppFrame.StompFrame) (joins : Nat)
    (requests : List Request) : Prop where
  frames : frames = requests.map Request.frame
  leads : Leads Step requests (table client) (table client')
  own : OwnTable client' joins

theorem own_more (own : OwnTable client joins) : OwnTable client (joins + 1) :=
  ⟨own.user, own.held, own.distinct, own.counter.1, by have := own.counter.2; omega⟩

theorem own_receipt (own : OwnTable client joins) (command : Text) :
    OwnTable (client.produceReceipt command).2 joins :=
  ⟨own.user, own.held, own.distinct, own.counter⟩

theorem table_joined (absent : client.subscriptions.lookup channel = none) :
    table (client.join channel).1 =
      Function.update (table client) channel (some client.subscriptionId) := by
  rw [Client.join_new absent]
  funext ch
  change (insertNew channel client.subscriptionId client.subscriptions).lookup ch = _
  by_cases here : ch = channel
  · subst here
    rw [insert_new_lookup (AList.lookup_eq_none.mp absent), Function.update_self]
  · rw [insert_new_lookup_ne here, Function.update_of_ne here]
    rfl

theorem table_left {id : Int} (held : client.subscriptions.lookup channel = some id) :
    table (client.exit channel).1 = Function.update (table client) channel none := by
  rw [Client.exit_joined held]
  funext ch
  change (client.subscriptions.erase channel).lookup ch = _
  by_cases here : ch = channel
  · rw [here, AList.lookup_erase, Function.update_self]
  · rw [AList.lookup_erase_ne here, Function.update_of_ne here]
    rfl

theorem entry_updated {t : Table} {ch : Text} {id new : Int}
    (known : Function.update t channel (some new) ch = some id) :
    (ch = channel ∧ id = new) ∨ t ch = some id := by
  by_cases here : ch = channel
  · rw [here, Function.update_self, Option.some.injEq] at known
    exact Or.inl ⟨here, known.symm⟩
  · rw [Function.update_of_ne here] at known
    exact Or.inr known

theorem entry_kept {t : Table} {ch : Text} {id : Int}
    (known : Function.update t channel none ch = some id) : t ch = some id := by
  by_cases here : ch = channel
  · simp [here] at known
  · rwa [Function.update_of_ne here] at known

theorem own_joined (own : OwnTable client joins) (word : Word channel)
    (few : joins + 1 < 2 ^ 31) (absent : client.subscriptions.lookup channel = none) :
    OwnTable (client.join channel).1 (joins + 1) := by
  obtain ⟨low, high⟩ := own.counter
  have next : (client.join channel).1.subscriptionId = client.subscriptionId + 1 := by
    have wrapped : wrapInt (client.subscriptionId + 1) = client.subscriptionId + 1 :=
      wrap_int_range ⟨by omega, by omega⟩
    rw [Client.join_new absent]
    exact wrapped
  have older : ∀ ch id, table client ch = some id → id ≠ client.subscriptionId := by
    intro ch id known
    have := (own.held ch id known).2.2
    omega
  refine ⟨?_, fun ch id known => ?_, fun ch ch' id known known' => ?_, by omega⟩
  · rw [Client.join_new absent]
    exact own.user
  · rw [table_joined absent] at known
    rw [next]
    rcases entry_updated known with ⟨rfl, rfl⟩ | old
    · exact ⟨word, low, by omega⟩
    · obtain ⟨plain, positive, below⟩ := own.held ch id old
      exact ⟨plain, positive, by omega⟩
  · rw [table_joined absent] at known known'
    rcases entry_updated known with ⟨here, new⟩ | old
    · rcases entry_updated known' with ⟨here', _⟩ | old'
      · rw [here, here']
      · exact absurd new (older ch' id old')
    · rcases entry_updated known' with ⟨_, new⟩ | old'
      · exact absurd new (older ch id old)
      · exact own.distinct ch ch' id old old'

theorem own_left (own : OwnTable client joins) {id : Int}
    (held : client.subscriptions.lookup channel = some id) :
    OwnTable (client.exit channel).1 joins := by
  have fewer : ∀ ch id, table (client.exit channel).1 ch = some id →
      table client ch = some id := by
    intro ch id known
    rw [table_left held] at known
    exact entry_kept known
  have counter : (client.exit channel).1.subscriptionId = client.subscriptionId := by
    rw [Client.exit_joined held]
    rfl
  refine ⟨?_, fun ch id known => ?_, fun ch ch' id known known' => ?_, ?_⟩
  · rw [Client.exit_joined held]
    exact own.user
  · rw [counter]
    exact own.held ch id (fewer ch id known)
  · exact own.distinct ch ch' id (fewer ch id known) (fewer ch' id known')
  · rw [counter]
    exact own.counter

theorem join_issued (own : OwnTable client joins) (word : Word channel)
    (few : joins + 1 < 2 ^ 31) :
    ∃ requests, Issued client (client.join channel).1 (client.join channel).2 (joins + 1)
      requests := by
  cases held : client.subscriptions.lookup channel with
  | some id =>
    rw [Client.join_again held]
    exact ⟨[], rfl, rfl, own_more (own_receipt own _)⟩
  | none =>
    obtain ⟨low, high⟩ := own.counter
    have range : IntRange client.subscriptionId := ⟨by omega, by omega⟩
    refine ⟨[.subscribe channel client.subscriptionId client.receiptNumber], ?_,
      ⟨_, ⟨⟨word, range⟩, held, rfl⟩, (table_joined held).symm⟩, own_joined own word few held⟩
    rw [Client.join_new held]
    rfl

theorem exit_issued (own : OwnTable client joins)
    (small : ∀ id, table client channel = some id → id ≤ 127) :
    ∃ requests, Issued client (client.exit channel).1 (client.exit channel).2 joins requests := by
  cases held : client.subscriptions.lookup channel with
  | none =>
    rw [Client.exit_unknown held]
    exact ⟨[], rfl, rfl, own_receipt own _⟩
  | some id =>
    have positive := (own.held channel id held).2.1
    refine ⟨[.unsubscribe channel id (wrapInt (client.receiptNumber + 1))], ?_,
      ⟨_, ⟨⟨positive, small id held⟩, held,
        fun ch other => own.distinct channel ch id held other, rfl⟩, (table_left held).symm⟩,
      own_left own held⟩
    rw [Client.exit_joined held]
    rfl

theorem report_issued (channel : Text) (own : OwnTable client joins)
    {events : List EventReport.Event} (free : ∀ e ∈ events, NulFreeEvent e) :
    ∃ requests, Issued client (client.report channel events).1 (client.report channel events).2
      joins requests := by
  unfold Client.report
  cases held : client.subscriptions.lookup channel with
  | none => exact ⟨[], rfl, rfl, own⟩
  | some id =>
    obtain ⟨word, positive, _⟩ := own.held channel id held
    refine ⟨events.filterMap fun e => (reportBody client.currentUser e).map (.send channel),
      ?_, ?_, own⟩
    · change reportFrames client.currentUser channel ∅ events = _
      rw [report_frames_eq _ _ _ rfl, List.map_filterMap]
      congr 1
      funext e
      simp only [reportFrame, Option.map_map]
      rfl
    · refine leads_idle fun r member => ?_
      obtain ⟨e, inside, made⟩ := List.mem_filterMap.mp member
      obtain ⟨body, written, rfl⟩ := Option.map_eq_some_iff.mp made
      exact ⟨⟨word, report_body_nul_free own.user (free e inside) written⟩,
        ⟨id, held, by omega⟩, rfl⟩

def countJoin (joins : Nat) (command : Text) : Nat :=
  if (EventReport.split command ' ').head? = some "join".toList then joins + 1 else joins

theorem count_grows (joins : Nat) (command : Text) : joins ≤ countJoin joins command := by
  unfold countJoin
  split <;> omega

/-- A line of text, and events files without NUL characters. -/
structure Keyboard (files : EventsFiles) (command : Text) : Prop where
  lineFree : LineFree command
  nulFree : NulFree command
  files : ∀ path channelName events, files path = some (channelName, events) →
    ∀ e ∈ events, NulFreeEvent e

def SmallExit (client : Client) (command : Text) : Prop :=
  ∀ channel id, EventReport.split command ' ' = ["exit".toList, channel] →
    client.subscriptions.lookup channel = some id → id ≤ 127

theorem own_counted (own : OwnTable client joins) (command : Text) :
    OwnTable client (countJoin joins command) := by
  unfold countJoin
  split
  · exact own_more own
  · exact own

theorem command_issued {files : EventsFiles} {command : Text} {frames : List CppFrame.StompFrame}
    (own : OwnTable client joins) (typed : Keyboard files command)
    (small : SmallExit client command) (few : countJoin joins command < 2 ^ 31)
    (ran : runCommand files client command = some (client', frames)) :
    ∃ requests, Issued client client' frames (countJoin joins command) requests := by
  have word : ∀ t ∈ EventReport.split command ' ', Word t :=
    fun t member => word_of_split typed.lineFree typed.nulFree member
  rcases words_cases ran with ⟨channel, words, after⟩ | ⟨channel, words, after⟩ |
    ⟨path, channel, events, words, parsed, after⟩ | after
  · have counted : countJoin joins command = joins + 1 := by simp only [countJoin, words]; rfl
    rw [counted] at few ⊢
    have named : Word channel := word channel (by simp [words])
    have issued := join_issued own named few
    rwa [← after] at issued
  · have issued := exit_issued (own_counted own command) fun id held => small channel id words held
    rwa [← after] at issued
  · have issued := report_issued channel (own_counted own command)
      (typed.files path channel events parsed)
    rwa [← after] at issued
  · cases after
    exact ⟨[], rfl, rfl, own_counted own command⟩

end Commands

/-- The history of one client; `joins` counts the join commands typed so far. -/
structure Session where
  client : Client
  wire : Text
  server : Server
  joins : Nat

inductive SessionAction where
  | typed : EventsFiles → Text → SessionAction
  | delivered : Surroundings → SessionAction
  | other : Action → SessionAction

/-- An action of the server that is not a frame of the connection. -/
def Foreign (c : Nat) : Action → Prop
  | .frame _ c' _ => c' ≠ c
  | _ => True

instance (c : Nat) (a : Action) : Decidable (Foreign c a) :=
  match a with
  | .frame _ c' _ => inferInstanceAs (Decidable (c' ≠ c))
  | .construct => inferInstanceAs (Decidable True)
  | .increment => inferInstanceAs (Decidable True)

/-- A command puts its frames on the socket at once; the server takes the next one off it
    and processes it; or the server does something for somebody else. -/
def Session.act (c : Nat) (session : Session) : SessionAction → Option Session
  | .typed files command =>
      (runCommand files session.client command).map fun (client, frames) =>
        ⟨client, session.wire ++ frames.flatMap fun f => sendFrame f.createFrame,
          session.server, countJoin session.joins command⟩
  | .delivered w =>
      match decodeMessage [] session.wire with
      | none => none
      | some (message, rest) => (session.server.act (.frame w c message)).map fun server =>
          ⟨session.client, rest, server, session.joins⟩
  | .other a =>
      if Foreign c a then (session.server.act a).map fun server =>
        ⟨session.client, session.wire, server, session.joins⟩
      else none

def NoError (c : Nat) (s : ServerState) : Prop :=
  ∀ text, .sent ⟨c⟩ text ∈ s.log → commandOf text ≠ "ERROR"

/-- A client that has logged in and typed no command yet. -/
structure Fresh (c : Nat) (session : Session) : Prop where
  client : ∃ user, NulFree user ∧ session.client = Client.connected user
  wire : session.wire = []
  joins : session.joins = 0
  server : Runs (fun _ _ => True) Server.initial session.server
  active : session.server.state.activeClients.lookup c = some ⟨c⟩
  unsubscribed : ∀ ch, session.server.state.subscription ch (some ⟨c⟩) = none
  noError : NoError c session.server.state

/-- What is typed is text, and the files reported are events files. -/
def Typed : SessionAction → Prop
  | .typed files command => Keyboard files command
  | _ => True

/-- Only small ids are given up, and no other connection is disconnected while the static
    counter names this one and it is subscribed. -/
def Careful (c : Nat) (session : Session) : SessionAction → Prop
  | .typed _ command => SmallExit session.client command
  | .other (.frame w c' message) => ∀ frame, StompFrame.ofText message = .ok frame →
      Disconnects w c' session.server.state frame → Spared c session.server.state
  | _ => True

abbrev SessionRuns (c : Nat) (condition : Session → SessionAction → Prop)
    (session session' : Session) : Prop :=
  GuardedRuns.Runs (Session.act c) condition session session'

/-- The two tables are the same when nothing is on its way, and no ERROR has been sent. -/
structure Agreed (c : Nat) (session : Session) : Prop where
  tables : session.wire = [] → ∀ ch,
    session.server.state.subscription ch (some ⟨c⟩) = session.client.subscriptions.lookup ch
  noError : NoError c session.server.state

/-- The requests on the wire lead from the server's table to the client's. -/
structure Consistent (c : Nat) (session : Session) : Prop where
  own : OwnTable session.client session.joins
  server : Runs (fun _ _ => True) Server.initial session.server
  active : session.server.state.activeClients.lookup c = some ⟨c⟩
  noError : NoError c session.server.state
  pending : ∃ requests : List Request,
    session.wire = requests.flatMap (fun r => sendFrame r.frame.createFrame) ∧
      Leads Step requests (view c session.server.state) (table session.client)

section Run
variable {c : Nat} {session session' : Session}

theorem fresh_consistent (fresh : Fresh c session) : Consistent c session := by
  obtain ⟨user, free, connected⟩ := fresh.client
  have empty : ∀ ch, table session.client ch = none := by
    intro ch
    rw [connected]
    rfl
  have counter : session.client.subscriptionId = 0 := by
    rw [connected]
    rfl
  refine ⟨⟨by rwa [connected], ?_, ?_, ?_⟩, fresh.server, fresh.active, fresh.noError, [], ?_, ?_⟩
  · intro ch id held
    rw [empty] at held
    cases held
  · intro ch ch' id held
    rw [empty] at held
    cases held
  · omega
  · exact fresh.wire
  · exact funext fun ch => (fresh.unsubscribed ch).trans (empty ch).symm

theorem quiet_no_error {s s' : ServerState} (none' : NoError c s) (quiet : Quiet c s s') :
    NoError c s' :=
  fun text member named => none' text (quiet.errors text member named) named

theorem typed_consistent {files : EventsFiles} {command : Text} (inv : Consistent c session)
    (typed : Keyboard files command) (small : SmallExit session.client command)
    (few : countJoin session.joins command < 2 ^ 31)
    (acted : session.act c (.typed files command) = some session') : Consistent c session' := by
  obtain ⟨⟨client, frames⟩, ran, rfl⟩ := Option.map_eq_some_iff.mp acted
  obtain ⟨requests, issued⟩ := command_issued inv.own typed small few ran
  obtain ⟨before, wire, leads⟩ := inv.pending
  refine ⟨issued.own, inv.server, inv.active, inv.noError, before ++ requests, ?_,
    leads_trans leads issued.leads⟩
  change session.wire ++ frames.flatMap (fun f => sendFrame f.createFrame) = _
  rw [wire, issued.frames, List.flatMap_append, List.flatMap_map]

theorem delivered_consistent {w : Surroundings} (inv : Consistent c session)
    (acted : session.act c (.delivered w) = some session') : Consistent c session' := by
  obtain ⟨requests, wire, leads⟩ := inv.pending
  cases requests with
  | nil =>
    simp only [Session.act, wire, List.flatMap_nil, decodeMessage, reduceCtorEq] at acted
  | cons r rest =>
    obtain ⟨next, step, later⟩ := leads
    have text := (request_sendable step.1).text
    have read : decodeMessage [] session.wire = some (r.frame.createFrame,
        rest.flatMap fun r => sendFrame r.frame.createFrame) := by
      rw [wire, List.flatMap_cons, decode_sent text]
    simp only [Session.act, read] at acted
    obtain ⟨server, moved, rfl⟩ := Option.map_eq_some_iff.mp acted
    have onward := inv.server.tail ⟨_, trivial, moved⟩
    obtain ⟨impossible, _⟩ | ⟨impossible, _⟩ | ⟨_, _, _, here, _, rfl⟩ := act_cases moved
    · cases impossible
    · cases impossible
    · cases here
      obtain ⟨viewed, quiet⟩ := request_served (w := w) inv.active step
      refine ⟨inv.own, onward, quiet.handler.trans inv.active, quiet_no_error inv.noError quiet,
        rest, rfl, ?_⟩
      change Leads Step rest (view c (processed w c r.frame.createFrame session.server.state)) _
      rwa [viewed]

theorem other_consistent {a : Action} (inv : Consistent c session)
    (careful : Careful c session (.other a))
    (acted : session.act c (.other a) = some session') : Consistent c session' := by
  simp only [Session.act] at acted
  split at acted
  · rename_i foreign
    obtain ⟨server, moved, rfl⟩ := Option.map_eq_some_iff.mp acted
    have onward := inv.server.tail ⟨_, trivial, moved⟩
    have ids := runs_handler_ids inv.server
    have kept : Untouched c session.server.state server.state := by
      obtain ⟨rfl, _, rfl⟩ | ⟨rfl, _, rfl⟩ | ⟨w, c', message, rfl, _, rfl⟩ := act_cases moved
      · refine ⟨⟨?_, fun _ member _ => member⟩, fun _ => rfl⟩
        change (session.server.state.activeClients.insert session.server.state.connectionID
          ⟨session.server.state.connectionID⟩).lookup c = _
        by_cases here : c = session.server.state.connectionID
        · rw [← here, AList.lookup_insert, inv.active]
        · rw [AList.lookup_insert_ne here]
      · exact untouched_unrecorded rfl rfl fun _ => rfl
      · exact frame_untouched message foreign ids careful
    obtain ⟨requests, wire, leads⟩ := inv.pending
    refine ⟨inv.own, onward, kept.handler.trans inv.active,
      quiet_no_error inv.noError kept.toQuiet, requests, wire, ?_⟩
    have same : view c server.state = view c session.server.state := funext kept.view
    change Leads Step requests (view c server.state) _
    rwa [same]
  · cases acted

theorem joins_grow {a : SessionAction} (acted : session.act c a = some session') :
    session.joins ≤ session'.joins := by
  cases a with
  | typed files command =>
    obtain ⟨after, _, rfl⟩ := Option.map_eq_some_iff.mp acted
    exact count_grows _ _
  | delivered w =>
    simp only [Session.act] at acted
    split at acted
    · cases acted
    · obtain ⟨server, _, rfl⟩ := Option.map_eq_some_iff.mp acted
      exact le_rfl
  | other a =>
    simp only [Session.act] at acted
    split at acted
    · obtain ⟨server, _, rfl⟩ := Option.map_eq_some_iff.mp acted
      exact le_rfl
    · cases acted

theorem consistent_agreed (inv : Consistent c session) : Agreed c session := by
  refine ⟨fun nothing => ?_, inv.noError⟩
  obtain ⟨requests, wire, leads⟩ := inv.pending
  cases requests with
  | nil => exact congrFun leads
  | cons r rest =>
    rw [wire] at nothing
    simp [sendFrame] at nothing

/-- In every run of careful steps with fewer than 2^31 joins the client and the server
    agree in every state. -/
theorem subscriptions_agree (fresh : Fresh c session)
    (runs : SessionRuns c (fun session a => Typed a ∧ Careful c session a) session session')
    (few : session'.joins < 2 ^ 31) : Agreed c session' := by
  have inv : session'.joins < 2 ^ 31 → Consistent c session' := by
    refine GuardedRuns.run_invariant (fun session => session.joins < 2 ^ 31 →
      Consistent c session) (fun _ => fresh_consistent fresh) ?_ runs
    rintro a before after _ ih ⟨typed, careful⟩ acted few
    have earlier := ih (lt_of_le_of_lt (joins_grow acted) few)
    cases a with
    | typed files command =>
      refine typed_consistent earlier typed careful ?_ acted
      obtain ⟨_, _, rfl⟩ := Option.map_eq_some_iff.mp acted
      exact few
    | delivered w => exact delivered_consistent earlier acted
    | other a => exact other_consistent earlier careful acted
  exact consistent_agreed (inv few)

end Run

section Example
open ReplyCount

def noFiles : EventsFiles := fun _ => none

def firstSession : Session := ⟨Client.connected "meni", [], ⟨connectedOnce, false⟩, 0⟩

theorem first_fresh : Fresh 0 firstSession where
  client := ⟨"meni", by decide, rfl⟩
  wire := rfl
  joins := rfl
  server := GuardedRuns.run_of_acts
    [.construct, .increment, .frame .plain 0 (connectText "meni" "films")] rfl
  active := rfl
  unsubscribed := fun _ => rfl
  noError := by
    intro text member
    have log : connectedOnce.log = [.sent ⟨0⟩ (connectedFrame.createFrame .stored),
      .received 0 (connectText "meni" "films")] := rfl
    change .sent ⟨0⟩ text ∈ connectedOnce.log at member
    rw [log] at member
    simp only [List.mem_cons, Event.sent.injEq, true_and, reduceCtorEq, List.not_mem_nil,
      or_false] at member
    rw [member, CallFootprint.connected_command]
    decide

theorem no_files_typed {command : Text} (lineFree : LineFree command)
    (nulFree : NulFree command) : Keyboard noFiles command :=
  ⟨lineFree, nulFree, fun _ _ _ parsed => by cases parsed⟩

theorem join_typed : Keyboard noFiles "join police" := no_files_typed (by decide) (by decide)

theorem exit_typed : Keyboard noFiles "exit police" := no_files_typed (by decide) (by decide)

theorem join_small (client : Client) : SmallExit client "join police" := by
  intro channel id words
  have first : EventReport.split "join police" ' ' = ["join".toList, "police".toList] := rfl
  rw [first] at words
  exact absurd (List.cons.inj words).1 (by decide)

theorem police_word : Word "police" := by decide

def joinedSession : Session where
  client := (Client.connected "meni").join "police" |>.1
  wire := []
  server := ⟨processed .plain 0 (Client.subscribeFrame "police" 0 0).createFrame connectedOnce,
    false⟩
  joins := 1

theorem first_join_agrees : joinedSession.wire = [] ∧
    joinedSession.client.subscriptions.lookup "police".toList = some 0 ∧
    Agreed 0 joinedSession := by
  have typed : firstSession.act 0 (.typed noFiles "join police") = some
      ⟨joinedSession.client, sendFrame (Client.subscribeFrame "police" 0 0).createFrame,
        firstSession.server, 1⟩ := rfl
  have delivered : Session.act 0 ⟨joinedSession.client,
      sendFrame (Client.subscribeFrame "police" 0 0).createFrame, firstSession.server, 1⟩
        (.delivered .plain) = some joinedSession := rfl
  have runs : SessionRuns 0 (fun session a => Typed a ∧ Careful 0 session a) firstSession
      joinedSession :=
    (Relation.ReflTransGen.single
      ⟨.typed noFiles "join police", ⟨join_typed, join_small _⟩, typed⟩).tail
        ⟨.delivered .plain, ⟨trivial, trivial⟩, delivered⟩
  exact ⟨rfl, rfl, subscriptions_agree first_fresh runs (by decide)⟩

section Rounds
variable {n : Nat} {session : Session} {command : Text} {client : Client}
  {f : CppFrame.StompFrame}

def round (command : Text) : List SessionAction :=
  [.typed noFiles command, .delivered .plain]

def afterRound (session : Session) (command : Text) (client : Client)
    (f : CppFrame.StompFrame) : Session where
  client := client
  wire := []
  server := ⟨processed .plain 0 f.createFrame session.server.state, session.server.accepting⟩
  joins := countJoin session.joins command

theorem round_acts (active : session.server.state.activeClients.lookup 0 = some ⟨0⟩)
    (wire : session.wire = []) (sendable : Sendable f)
    (ran : runCommand noFiles session.client command = some (client, [f])) :
    session.act 0 (.typed noFiles command) = some ⟨client, sendFrame f.createFrame,
        session.server, countJoin session.joins command⟩ ∧
      Session.act 0 ⟨client, sendFrame f.createFrame, session.server,
        countJoin session.joins command⟩ (.delivered .plain) =
          some (afterRound session command client f) := by
  have known : Constructed session.server.state 0 :=
    Or.inr (AList.lookup_isSome.mp (by simp [active]))
  have read : decodeMessage [] (sendFrame f.createFrame) = some (f.createFrame, []) := by
    rw [← List.append_nil (sendFrame f.createFrame), decode_sent sendable.text]
  constructor
  · simp [Session.act, ran, wire]
  · simp only [Session.act, read, Server.act, known, if_true, Option.map_some]
    rfl

theorem round_run (active : session.server.state.activeClients.lookup 0 = some ⟨0⟩)
    (wire : session.wire = []) (sendable : Sendable f)
    (ran : runCommand noFiles session.client command = some (client, [f])) :
    GuardedRuns.acts (Session.act 0) (round command) session =
      some (afterRound session command client f) := by
  obtain ⟨typed, delivered⟩ := round_acts active wire sendable ran
  simp only [round, GuardedRuns.acts, typed, delivered, Option.bind_some]

theorem round_consistent (inv : Consistent 0 session) (wire : session.wire = [])
    (sendable : Sendable f) (typed : Keyboard noFiles command)
    (small : SmallExit session.client command) (few : countJoin session.joins command < 2 ^ 31)
    (ran : runCommand noFiles session.client command = some (client, [f])) :
    Consistent 0 (afterRound session command client f) := by
  obtain ⟨first, second⟩ := round_acts inv.active wire sendable ran
  exact delivered_consistent (typed_consistent inv typed small few first) second

/-- The client has joined and left the channel `n` times. -/
structure Rejoined (n : Nat) (session : Session) : Prop where
  consistent : Consistent 0 session
  wire : session.wire = []
  out : session.client.subscriptions.lookup "police".toList = none
  counter : session.client.subscriptionId = n
  joins : session.joins = n

/-- The client has joined the channel for the next time. -/
structure Rejoining (n : Nat) (session : Session) : Prop where
  consistent : Consistent 0 session
  wire : session.wire = []
  held : session.client.subscriptions.lookup "police".toList = some (n : Int)
  counter : session.client.subscriptionId = n + 1
  joins : session.joins = n + 1

theorem join_round (rejoined : Rejoined n session) (few : n + 1 < 2 ^ 31) : ∃ session',
    GuardedRuns.acts (Session.act 0) (round "join police") session = some session' ∧
      Rejoining n session' := by
  obtain ⟨inv, wire, out, counter, joins⟩ := rejoined
  have ran : runCommand noFiles session.client "join police" =
    some (session.client.join "police") := rfl
  have counted : countJoin session.joins "join police" = n + 1 := by
    rw [joins]
    rfl
  have sendable := subscribe_sendable police_word session.client.subscriptionId
    session.client.receiptNumber
  rw [Client.join_new out] at ran
  refine ⟨_, round_run inv.active wire sendable ran, round_consistent inv wire sendable join_typed
    (join_small _) (by rwa [counted]) ran, rfl, ?_, ?_, counted⟩
  · have absent : "police".toList ∉ session.client.subscriptions := AList.lookup_eq_none.mp out
    rw [← counter]
    exact insert_new_lookup absent _
  · change wrapInt (session.client.subscriptionId + 1) = _
    rw [wrap_int_range ⟨by omega, by omega⟩, counter]

theorem exit_ran (held : session.client.subscriptions.lookup "police".toList = some (n : Int)) :
    ∃ client receipt, client.subscriptions.lookup "police".toList = none ∧
      client.subscriptionId = session.client.subscriptionId ∧
      runCommand noFiles session.client "exit police" =
        some (client, [Client.unsubscribeFrame n receipt]) := by
  have ran : runCommand noFiles session.client "exit police" =
    some (session.client.exit "police") := rfl
  rw [Client.exit_joined held] at ran
  refine ⟨{ ((session.client.produceReceipt "UNSUBSCRIBE").2.produceReceipt "UNSUBSCRIBE").2 with
    subscriptions := session.client.subscriptions.erase "police".toList },
    wrapInt (session.client.receiptNumber + 1), AList.lookup_erase _ _, rfl, ran⟩

theorem exit_round (rejoining : Rejoining n session) (small : n ≤ 127) : ∃ session',
    GuardedRuns.acts (Session.act 0) (round "exit police") session = some session' ∧
      Rejoined (n + 1) session' := by
  obtain ⟨inv, wire, held, counter, joins⟩ := rejoining
  obtain ⟨client, receipt, out, kept, ran⟩ := exit_ran held
  have counted : countJoin session.joins "exit police" = n + 1 := by
    rw [joins]
    rfl
  have given_up : SmallExit session.client "exit police" := by
    intro channel id words found
    have second : EventReport.split "exit police" ' ' = ["exit".toList, "police".toList] := rfl
    rw [second] at words
    obtain rfl := (List.cons.inj (List.cons.inj words).2).1
    obtain rfl := Option.some.inj (held.symm.trans found)
    omega
  have sendable := unsubscribe_sendable n receipt
  refine ⟨_, round_run inv.active wire sendable ran, round_consistent inv wire sendable exit_typed
    given_up (by rw [counted]; omega) ran, rfl, out, ?_, counted⟩
  rw [Nat.cast_succ, ← counter]
  exact kept

theorem rejoined_first : Rejoined 0 firstSession :=
  ⟨fresh_consistent first_fresh, rfl, rfl, rfl, rfl⟩

def rejoinings (n : Nat) : List SessionAction :=
  (List.replicate n (round "join police" ++ round "exit police")).flatten

theorem rejoin_run (small : n ≤ 128) : ∃ session,
    GuardedRuns.acts (Session.act 0) (rejoinings n) firstSession = some session ∧
      Rejoined n session := by
  induction n with
  | zero => exact ⟨_, rfl, rejoined_first⟩
  | succ n ih =>
    obtain ⟨session, before, rejoined⟩ := ih (by omega)
    obtain ⟨joined, first, rejoining⟩ := join_round rejoined (by omega)
    obtain ⟨left, second, again⟩ := exit_round rejoining (by omega)
    refine ⟨left, ?_, again⟩
    unfold rejoinings at before ⊢
    rw [List.replicate_succ', List.flatten_concat, GuardedRuns.acts_append, before,
      Option.bind_some, GuardedRuns.acts_append, first, Option.bind_some, second]

/-- The channel with the id 128 cannot be left: the server sends an ERROR instead. -/
theorem large_id_kept : ∃ session joined left,
    GuardedRuns.acts (Session.act 0) (rejoinings 128) firstSession = some session ∧
      GuardedRuns.acts (Session.act 0) (round "join police") session = some joined ∧
      GuardedRuns.acts (Session.act 0) (round "exit police") joined = some left ∧
      Fresh 0 firstSession ∧ left.joins < 2 ^ 31 ∧ ¬ Agreed 0 left := by
  obtain ⟨session, before, rejoined⟩ := rejoin_run (n := 128) le_rfl
  obtain ⟨joined, first, rejoining⟩ := join_round rejoined (by omega)
  obtain ⟨client, receipt, _, _, ran⟩ := exit_ran rejoining.held
  have sendable := unsubscribe_sendable 128 receipt
  have active := rejoining.consistent.active
  have second := round_run active rejoining.wire sendable ran
  refine ⟨session, joined, _, before, first, second, first_fresh, ?_, fun agreed => ?_⟩
  · change countJoin joined.joins "exit police" < _
    rw [rejoining.joins]
    decide
  · obtain ⟨headers, parsed, same⟩ := sendable.parsed
    have range : IntRange 128 := by decide
    have number := number_read range ((same _).trans (unsubscribe_header 128 receipt))
    obtain ⟨text, sent, error⟩ := unsubscribe_large (w := .plain) parsed active rfl number
      (by omega)
    exact agreed.noError text sent error

end Rounds

end Example

end SubscriptionAgreement
