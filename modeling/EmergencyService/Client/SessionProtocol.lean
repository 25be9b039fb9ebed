import EmergencyService.Client.KeyboardLoop
import EmergencyService.Client.SubscriptionAgreement
import EmergencyService.Foundation.RecordedRuns
import EmergencyService.Foundation.TopicSession

/- The frames that one client sends, in their order: what they ask of the server is a session
   of subscriptions, whatever is typed, answered or refused by the socket. -/
namespace SessionProtocol
open JavaRuntime CppRuntime JavaFrame EventReport ReportLines ChannelCommands ServerResponses
open KeyboardLoop SubscriptionRequests SubscriptionAgreement GuardedRuns RecordedRuns
open PendingOperations TopicSession
open TopicSession.Session (opened)

def perform (console : Console) : ThreadStep → Option (Console × List CppFrame.StompFrame)
  | .keyboard step => console.act step
  | .answer text => (console.step (.answer text)).map fun after => (after, [])

/-- What a frame asks for. -/
def Means (f : CppFrame.StompFrame) : TopicSession.Request Text Int → Prop
  | .subscribe channel id => f.command = "SUBSCRIBE" ∧
      f.headers.lookup "destination".toList = some channel ∧
      f.headers.lookup "id".toList = some (decimal id)
  | .unsubscribe id => f.command = "UNSUBSCRIBE" ∧
      f.headers.lookup "id".toList = some (decimal id)
  | .publish channel => f.command = "SEND" ∧
      f.headers.lookup "destination".toList = some channel
  | .leave => f.command = "DISCONNECT"

def subscribes (frames : List CppFrame.StompFrame) : Nat :=
  frames.countP fun f => f.command = "SUBSCRIBE".toList

section Relation
variable {frames more : List CppFrame.StompFrame} {console console' : Console}
  {session session' : TopicSession.Session Text Int} {channel : Text} {id : Int}

theorem subscribes_append : subscribes (frames ++ more) = subscribes frames + subscribes more :=
  List.countP_append

theorem subscribes_next (frames : List CppFrame.StompFrame) {f : CppFrame.StompFrame}
    (named : f.command = "SUBSCRIBE") : subscribes (frames ++ [f]) = subscribes frames + 1 := by
  have one : subscribes [f] = 1 := by
    rw [subscribes, List.countP_singleton, if_pos (decide_eq_true named)]
  rw [subscribes_append, one]

theorem subscribes_other (other : ∀ f ∈ more, f.command ≠ "SUBSCRIBE") :
    subscribes (frames ++ more) = subscribes frames := by
  have nothing : subscribes more = 0 := by
    apply List.countP_eq_zero.mpr
    intro f member named
    exact other f member (of_decide_eq_true named)
  rw [subscribes_append, nothing, Nat.add_zero]

/-- The ids in use are those that the counter has had. -/
structure Related (frames : List CppFrame.StompFrame) (console : Console)
    (session : TopicSession.Session Text Int) : Prop where
  counter : console.client.subscriptionId = wrapInt (subscribes frames)
  used : ∀ id ∈ session.used, ∃ k < subscribes frames, id = wrapInt k
  held : session.held = table console.client
  ended : session.ended → console.terminateKeyboard = true ∧ console.line = none

theorem wrap_int_fresh {j k : Nat} (before : j < k) (few : k < 2 ^ 32) :
    wrapInt k ≠ wrapInt j := by
  intro same
  have residues : (k : Int) % (2 ^ 32 : Nat) = (j : Int) % (2 ^ 32 : Nat) := by
    rw [← Int.bmod_emod, ← Int.bmod_emod (x := (j : Int))]
    exact congrArg (· % ((2 ^ 32 : Nat) : Int)) same
  omega

theorem related_fresh (related : Related frames console session)
    (few : subscribes frames < 2 ^ 32) :
    console.client.subscriptionId ∉ session.used := by
  intro known
  obtain ⟨j, before, same⟩ := related.used _ known
  rw [related.counter] at same
  exact wrap_int_fresh before few same

theorem related_idle (related : Related frames console session)
    (counter : console'.client.subscriptionId = console.client.subscriptionId)
    (kept : console'.client.subscriptions = console.client.subscriptions)
    (ended : session.ended → console'.terminateKeyboard = true ∧ console'.line = none) :
    Related (frames ++ []) console' session := by
  have same : table console'.client = table console.client := by
    funext ch
    simp only [table, kept]
  rw [List.append_nil]
  exact ⟨counter.trans related.counter, related.used, related.held.trans same.symm, ended⟩

def Continues (frames more : List CppFrame.StompFrame) (console' : Console)
    (session : TopicSession.Session Text Int) : Prop :=
  ∃ requests session', List.Forall₂ Means more requests ∧
    Leads Allowed requests session session' ∧ Related (frames ++ more) console' session'

theorem continues_idle (related : Related (frames ++ []) console' session) :
    Continues frames [] console' session :=
  ⟨[], session, .nil, rfl, related⟩

theorem subscribe_continues (related : Related frames console session) (running : ¬ session.ended)
    (absent : console.client.subscriptions.lookup channel = none)
    (few : subscribes (frames ++ (console.client.join channel).2) ≤ 2 ^ 32) :
    Continues frames (console.client.join channel).2
      { console with client := (console.client.join channel).1 } session := by
  have joined := table_joined absent
  rw [Client.join_new absent] at few joined ⊢
  generalize console.client.receiptNumber = receipt at few ⊢
  have more : subscribes (frames ++ [Client.subscribeFrame channel
      console.client.subscriptionId receipt]) = subscribes frames + 1 := subscribes_next frames rfl
  rw [more] at few
  have fresh := related_fresh related (by omega)
  have free : session.held channel = none := by rw [related.held, table, absent]
  refine ⟨[.subscribe channel console.client.subscriptionId],
    session.subscribe channel console.client.subscriptionId fresh,
    .cons ⟨rfl, subscribe_headers channel _ receipt⟩ .nil,
    ⟨_, .subscribe running free fresh, rfl⟩, ?_⟩
  constructor
  · rw [more]
    change wrapInt (console.client.subscriptionId + 1) = _
    rw [related.counter]
    exact Int.bmod_add_bmod
  · intro id member
    rw [more]
    rcases Set.mem_insert_iff.mp member with rfl | earlier
    · exact ⟨subscribes frames, by omega, related.counter⟩
    · obtain ⟨k, before, same⟩ := related.used id earlier
      exact ⟨k, by omega, same⟩
  · change Function.update session.held channel _ = _
    rw [related.held]
    exact joined.symm
  · intro ended
    exact absurd ended running

theorem unsubscribe_continues (related : Related frames console session)
    (running : ¬ session.ended) (held : console.client.subscriptions.lookup channel = some id) :
    Continues frames (console.client.exit channel).2
      { console with client := (console.client.exit channel).1 } session := by
  have left := table_left held
  rw [Client.exit_joined held] at left ⊢
  generalize wrapInt (console.client.receiptNumber + 1) = receipt
  have same : subscribes (frames ++ [Client.unsubscribeFrame id receipt]) = subscribes frames := by
    apply subscribes_other
    intro f member
    rw [List.mem_singleton.mp member]
    change ("UNSUBSCRIBE".toList : Text) ≠ "SUBSCRIBE".toList
    decide
  have known : session.held channel = some id := by rw [related.held, table, held]
  refine ⟨[.unsubscribe id], session.unsubscribe channel,
    .cons ⟨rfl, unsubscribe_header id receipt⟩ .nil, ⟨_, .unsubscribe running known, rfl⟩, ?_⟩
  constructor
  · rw [same]
    exact related.counter
  · rw [same]
    exact related.used
  · change Function.update session.held channel _ = _
    rw [related.held]
    exact left.symm
  · intro ended
    exact absurd ended running

theorem send_other (body : Text) (headers : OrderedMap Text) :
    (⟨"SEND", headers, body⟩ : CppFrame.StompFrame).command ≠ "SUBSCRIBE" := by
  change ("SEND".toList : Text) ≠ "SUBSCRIBE".toList
  decide

theorem reports_continue (related : Related frames console session) (running : ¬ session.ended)
    (held : console.client.subscriptions.lookup channel = some id)
    (sent : ∀ f ∈ more, ∃ body, f = ⟨"SEND", insertNew "destination" channel ∅, body⟩) :
    Continues frames more console session := by
  have same : subscribes (frames ++ more) = subscribes frames := by
    apply subscribes_other
    intro f member
    obtain ⟨body, rfl⟩ := sent f member
    exact send_other body _
  have known : session.held channel = some id := by rw [related.held, table, held]
  refine ⟨more.map fun _ => .publish channel, session, ?_, ?_, ?_⟩
  · apply List.forall₂_map_right_iff.mpr
    apply List.forall₂_same.mpr
    intro f member
    obtain ⟨body, rfl⟩ := sent f member
    exact ⟨rfl, destination_found channel⟩
  · apply leads_idle
    intro request member
    obtain ⟨f, _, rfl⟩ := List.mem_map.mp member
    exact .publish running known
  · constructor
    · rw [same]
      exact related.counter
    · rw [same]
      exact related.used
    · exact related.held
    · exact related.ended

theorem leave_continues (related : Related frames console session) (running : ¬ session.ended)
    (receipt : Int) (client : Client)
    (counter : client.subscriptionId = console.client.subscriptionId)
    (kept : client.subscriptions = console.client.subscriptions) (line : console.line = none) :
    Continues frames [disconnectFrame receipt]
      { console with client := client, terminateKeyboard := true } session := by
  have same : subscribes (frames ++ [disconnectFrame receipt]) = subscribes frames := by
    apply subscribes_other
    intro f member
    rw [List.mem_singleton.mp member]
    change ("DISCONNECT".toList : Text) ≠ "SUBSCRIBE".toList
    decide
  have still : table client = table console.client := by
    funext ch
    simp only [table, kept]
  refine ⟨[.leave], session.leave, .cons rfl .nil, ⟨_, .leave running, rfl⟩, ?_⟩
  constructor
  · rw [same]
    exact counter.trans related.counter
  · rw [same]
    exact related.used
  · exact related.held.trans still.symm
  · intro _
    exact ⟨rfl, line⟩

end Relation

section Steps
variable {files : EventsFiles} {taken : Nat} {line user : Text} {words : List Text}
  {frames out : List CppFrame.StompFrame} {console console' : Console}
  {session : TopicSession.Session Text Int}
  {after : Client × List CppFrame.StompFrame}

theorem report_frames_sent {client : Client} {channel : Text} {events : List Event}
    {f : CppFrame.StompFrame} (member : f ∈ reportFrames client.currentUser channel ∅ events) :
    ∃ body, f = ⟨"SEND", insertNew "destination" channel ∅, body⟩ := by
  rw [report_frames_eq _ _ _ rfl] at member
  obtain ⟨e, _, made⟩ := List.mem_filterMap.mp member
  obtain ⟨body, _, rfl⟩ := Option.map_eq_some_iff.mp made
  exact ⟨body, rfl⟩

theorem put_one (console : Console) (taken : Nat) (single : after.2.length = 1) :
    console.put taken after = ({ console with client := after.1 }, after.2) ∨
      taken = 0 ∧ console.put taken after = ({ console with client := { after.1 with
        subscriptionId := console.client.subscriptionId
        subscriptions := console.client.subscriptions } }, []) := by
  unfold Console.put
  split
  · exact Or.inl rfl
  · have refused : taken = 0 := by omega
    exact Or.inr ⟨refused, by rw [refused, List.take_zero]⟩

theorem put_none (client : Client) :
    console.put taken (client, []) = ({ console with client := client }, []) := rfl

theorem put_same (out : List CppFrame.StompFrame) :
    console.put taken (console.client, out) = (console, out.take taken) := by
  unfold Console.put
  split
  · rename_i fits
    rw [List.take_of_length_le fits]
  · rfl

theorem words_continue (related : Related frames console session) (running : ¬ session.ended)
    (ran : runWords files console.client words = some after)
    (few : subscribes (frames ++ (console.put taken after).2) ≤ 2 ^ 32) :
    Continues frames (console.put taken after).2 (console.put taken after).1 session := by
  have idle : ∀ {console'}, console'.client.subscriptionId = console.client.subscriptionId →
      console'.client.subscriptions = console.client.subscriptions →
      Continues frames [] console' session := by
    intro console' counter kept
    exact continues_idle (related_idle related counter kept fun ended => absurd ended running)
  rcases words_cases ran with ⟨channel, _, rfl⟩ | ⟨channel, _, rfl⟩ |
    ⟨path, channel, events, _, _, rfl⟩ | rfl
  · cases held : console.client.subscriptions.lookup channel with
    | some id =>
      rw [Client.join_again held, put_none]
      exact idle rfl rfl
    | none =>
      obtain same | ⟨refused, same⟩ := put_one console taken
        (by rw [Client.join_new held]; rfl : (console.client.join channel).2.length = 1)
      · rw [same] at few ⊢
        exact subscribe_continues related running held few
      · rw [same]
        exact idle rfl rfl
  · cases held : console.client.subscriptions.lookup channel with
    | none =>
      rw [Client.exit_unknown held, put_none]
      exact idle rfl rfl
    | some id =>
      obtain same | ⟨refused, same⟩ := put_one console taken
        (by rw [Client.exit_joined held]; rfl : (console.client.exit channel).2.length = 1)
      · rw [same]
        exact unsubscribe_continues related running held
      · rw [same]
        exact idle rfl rfl
  · unfold Client.report
    cases held : console.client.subscriptions.lookup channel with
    | none =>
      rw [put_none]
      exact idle rfl rfl
    | some id =>
      rw [put_same]
      exact reports_continue related running held fun f member =>
        report_frames_sent (List.mem_of_mem_take member)
  · rw [put_none]
    exact idle rfl rfl

theorem carry_out_continues (related : Related frames console session)
    (running : ¬ session.ended) (waiting : console.line = none)
    (ran : console.carryOut files taken line = some (console', out))
    (few : subscribes (frames ++ out) ≤ 2 ^ 32) : Continues frames out console' session := by
  obtain ⟨n, ⟨words, found, same⟩ | same | same⟩ := carry_out_cases ran
  · obtain ⟨rfl, rfl⟩ := Prod.mk.inj same
    exact words_continue related running found few
  · obtain ⟨rfl, rfl⟩ := Prod.mk.inj same
    cases n with
    | zero =>
      exact continues_idle (related_idle related rfl rfl fun ended => absurd ended running)
    | succ n =>
      rw [List.take_succ_cons, List.take_nil]
      exact leave_continues related running _ _ rfl rfl waiting
  · obtain ⟨rfl, rfl⟩ := Prod.mk.inj same
    exact continues_idle (related_idle related rfl rfl fun ended => absurd ended running)

theorem respond_cases {listener listener' : Listener} {answer : Text}
    (responded : respond listener answer = .ok listener') :
    listener' = listener ∨ listener' = { listener with terminateServerResponses := true }.close ∨
      listener' = { listener with
        terminateKeyboard := true, terminateServerResponses := true }.close ∨
      ∃ ch event, listener' = listener.addReport ch event := by
  unfold respond at responded
  split at responded
  · cases responded
  · split at responded
    · unfold receiptBranch at responded
      split at responded
      · cases responded
      · split at responded
        · cases responded
        · split at responded
          · exact Or.inr (Or.inl (Except.ok.inj responded).symm)
          · exact Or.inl (Except.ok.inj responded).symm
    · split at responded
      · exact Or.inr (Or.inr (Or.inl (Except.ok.inj responded).symm))
      · split at responded
        · unfold messageBranch at responded
          dsimp only at responded
          split at responded
          · split at responded
            · cases responded
            · exact Or.inr (Or.inr (Or.inr ⟨_, _, (Except.ok.inj responded).symm⟩))
          · exact Or.inl (Except.ok.inj responded).symm
        · exact Or.inl (Except.ok.inj responded).symm

/-- An answer may end the session, but neither starts it again nor touches a channel. -/
theorem respond_keeps_end {listener listener' : Listener} {answer : Text}
    (responded : respond listener answer = .ok listener')
    (ended : listener.terminateKeyboard = true) : listener'.terminateKeyboard = true := by
  rcases respond_cases responded with rfl | rfl | rfl | ⟨ch, event, rfl⟩
  · exact ended
  · exact ended
  · rfl
  · unfold Listener.addReport
    split <;> exact ended

theorem perform_continues {step : ThreadStep} (related : Related frames console session)
    (acted : perform console step = some (console', out))
    (few : subscribes (frames ++ out) ≤ 2 ^ 32) : Continues frames out console' session := by
  cases step with
  | keyboard step =>
    obtain ⟨line, rfl, same⟩ | ⟨files, taken, line, rfl, waiting, ran⟩ := keyboard_cases acted
    · obtain ⟨rfl, rfl⟩ := Prod.mk.inj same
      have idle : Related (frames ++ []) { console with line := some line } session := by
        refine related_idle related rfl rfl ?_
        intro ended
        have read := (related.ended ended).1
        simp [perform, Console.act, read] at acted
      exact continues_idle idle
    · have running : ¬ session.ended := by
        intro ended
        have nothing := (related.ended ended).2
        rw [waiting] at nothing
        cases nothing
      have idle : Related (frames ++ []) { console with line := none } session :=
        related_idle related rfl rfl fun ended => absurd ended running
      rw [List.append_nil] at idle
      exact carry_out_continues idle running rfl ran few
  | answer answer =>
    obtain ⟨after, stepped, same⟩ := Option.map_eq_some_iff.mp acted
    obtain ⟨rfl, rfl⟩ := Prod.mk.inj same
    simp only [Console.step] at stepped
    split at stepped
    · cases stepped
    · split at stepped
      · cases stepped
      · rename_i listener responded
        cases stepped
        have idle : Related (frames ++ []) (console.heard listener) session := by
          refine related_idle related rfl rfl ?_
          intro ended
          exact ⟨respond_keeps_end responded (related.ended ended).1, (related.ended ended).2⟩
        exact continues_idle idle

end Steps

section Runs
variable {user : Text} {console : Console} {frames : List CppFrame.StompFrame}

abbrev Sends (user : Text) (console : Console) (frames : List CppFrame.StompFrame) : Prop :=
  Recorded perform (fun _ _ => True) (.connected user) console frames

theorem sends_session (sends : Sends user console frames) (few : subscribes frames ≤ 2 ^ 32) :
    ∃ requests session, List.Forall₂ Means frames requests ∧
      Leads Allowed requests opened session ∧ Related frames console session := by
  refine transcript_simulates (fun frames => subscribes frames ≤ 2 ^ 32) ?_ Related ?_ ?_ sends
    few
  · intro first second bounded
    rw [subscribes_append] at bounded
    omega
  · constructor
    · rfl
    · intro id member
      cases member
    · rfl
    · intro ended
      exact ended.elim
  · intro earlier before after out step session bounded related _ acted
    exact perform_continues related acted bounded

/-- What a client sends is a session that the broker allows, and the client's own table is
    what the session holds. -/
theorem client_keeps_session (sends : Sends user console frames)
    (few : subscribes frames ≤ 2 ^ 32) :
    ∃ requests session, List.Forall₂ Means frames requests ∧
      Leads Allowed requests opened session ∧ session.held = table console.client ∧
      (session.ended → console.terminateKeyboard = true) := by
  obtain ⟨requests, session, meant, allowed, related⟩ := sends_session sends few
  exact ⟨requests, session, meant, allowed, related.held, fun ended => (related.ended ended).1⟩

end Runs

section Order
variable {user : Text} {console : Console} {before after frames : List CppFrame.StompFrame}
  {f : CppFrame.StompFrame} {request : TopicSession.Request Text Int}
  {requests : List (TopicSession.Request Text Int)}

def idOf (f : CppFrame.StompFrame) : Option Text := f.headers.lookup "id".toList

def destinationOf (f : CppFrame.StompFrame) : Option Text := f.headers.lookup "destination".toList

def idsOf (command : Text) (frames : List CppFrame.StompFrame) : List (Option Text) :=
  (frames.filter fun f => f.command = command).map idOf

/-- A subscription that is still open before a frame is sent. -/
def Open (before : List CppFrame.StompFrame) (g : CppFrame.StompFrame) : Prop :=
  g ∈ before ∧ g.command = "SUBSCRIBE" ∧ idOf g ∉ idsOf "UNSUBSCRIBE" before

/-- Frames in an order that makes sense to the server. -/
structure InOrder (frames : List CppFrame.StompFrame) : Prop where
  ids : (idsOf "SUBSCRIBE" frames).Nodup
  unsubscribe : ∀ before (f : CppFrame.StompFrame) after, frames = before ++ f :: after →
    f.command = "UNSUBSCRIBE" →
    ∃ g, Open before g ∧ idOf g = idOf f
  send : ∀ before (f : CppFrame.StompFrame) after, frames = before ++ f :: after →
    f.command = "SEND" →
    ∃ g, Open before g ∧ destinationOf g = destinationOf f
  last : ∀ before (f : CppFrame.StompFrame) after, frames = before ++ f :: after →
    f.command = "DISCONNECT" → after = []

section Meanings
variable (meant : Means f request)
include meant

theorem means_subscribe (named : f.command = "SUBSCRIBE") :
    ∃ channel id, request = .subscribe channel id := by
  cases request with
  | subscribe channel id => exact ⟨channel, id, rfl⟩
  | unsubscribe id => exact absurd (named.symm.trans meant.1) (by decide)
  | publish channel => exact absurd (named.symm.trans meant.1) (by decide)
  | leave => exact absurd (named.symm.trans meant) (by decide)

theorem means_unsubscribe (named : f.command = "UNSUBSCRIBE") :
    ∃ id, request = .unsubscribe id ∧ idOf f = some (decimal id) := by
  cases request with
  | subscribe channel id => exact absurd (named.symm.trans meant.1) (by decide)
  | unsubscribe id => exact ⟨id, rfl, meant.2⟩
  | publish channel => exact absurd (named.symm.trans meant.1) (by decide)
  | leave => exact absurd (named.symm.trans meant) (by decide)

theorem means_send (named : f.command = "SEND") :
    ∃ channel, request = .publish channel ∧ destinationOf f = some channel := by
  cases request with
  | subscribe channel id => exact absurd (named.symm.trans meant.1) (by decide)
  | unsubscribe id => exact absurd (named.symm.trans meant.1) (by decide)
  | publish channel => exact ⟨channel, rfl, meant.2⟩
  | leave => exact absurd (named.symm.trans meant) (by decide)

theorem means_disconnect (named : f.command = "DISCONNECT") : request = .leave := by
  cases request with
  | subscribe channel id => exact absurd (named.symm.trans meant.1) (by decide)
  | unsubscribe id => exact absurd (named.symm.trans meant.1) (by decide)
  | publish channel => exact absurd (named.symm.trans meant.1) (by decide)
  | leave => rfl

end Meanings

section Ids
variable {command : Text}

theorem ids_same (named : f.command = command) :
    idsOf command (f :: frames) = idOf f :: idsOf command frames := by
  unfold idsOf
  rw [List.filter_cons_of_pos (by simpa using named), List.map_cons]

theorem ids_other (other : f.command ≠ command) :
    idsOf command (f :: frames) = idsOf command frames := by
  unfold idsOf
  rw [List.filter_cons_of_neg (by simpa using other)]

theorem ids_subscribed (meant : List.Forall₂ Means frames requests) :
    idsOf "SUBSCRIBE" frames = (subscribed requests).map fun id => some (decimal id) := by
  induction meant with
  | nil => rfl
  | @cons f request frames requests first _ ih =>
    by_cases named : f.command = "SUBSCRIBE"
    · obtain ⟨channel, id, rfl⟩ := means_subscribe first named
      rw [ids_same named, ih, subscribed, List.map_cons, idOf, first.2.2]
    · rw [ids_other named, ih]
      cases request with
      | subscribe channel id => exact absurd first.1 named
      | unsubscribe id => rfl
      | publish channel => rfl
      | leave => rfl

theorem ids_unsubscribed (meant : List.Forall₂ Means frames requests) :
    idsOf "UNSUBSCRIBE" frames = (unsubscribed requests).map fun id => some (decimal id) := by
  induction meant with
  | nil => rfl
  | @cons f request frames requests first _ ih =>
    by_cases named : f.command = "UNSUBSCRIBE"
    · obtain ⟨id, rfl, found⟩ := means_unsubscribe first named
      rw [ids_same named, ih, unsubscribed, List.map_cons, found]
    · rw [ids_other named, ih]
      cases request with
      | subscribe channel id => rfl
      | unsubscribe id => exact absurd first.1 named
      | publish channel => rfl
      | leave => rfl

theorem header_injective : Function.Injective fun id => some (decimal id) := by
  intro m n same
  exact decimal_injective (Option.some.inj same)

theorem asked_open (meant : List.Forall₂ Means before requests) {channel : Text} {id : Int}
    (asked : TopicSession.Request.subscribe channel id ∈ requests)
    (kept : id ∉ unsubscribed requests) :
    ∃ g, Open before g ∧ destinationOf g = some channel ∧ idOf g = some (decimal id) := by
  obtain ⟨g, member, named, destination, header⟩ := meant_by meant asked
  refine ⟨g, ⟨member, named, ?_⟩, destination, header⟩
  rw [idOf, header, ids_unsubscribed meant]
  intro again
  obtain ⟨id', member', same⟩ := List.mem_map.mp again
  obtain rfl := header_injective same
  exact kept member'

end Ids

/-- The frames of a client are in order: ids are not used again, what is given up and where
    it sends is open at that moment, and nothing follows a DISCONNECT. -/
theorem client_in_order (sends : Sends user console frames) (few : subscribes frames ≤ 2 ^ 32) :
    InOrder frames := by
  obtain ⟨requests, session, meant, allowed, _⟩ := sends_session sends few
  constructor
  · rw [ids_subscribed meant]
    exact (subscribed_nodup allowed).map header_injective
  · rintro before f after rfl named
    obtain ⟨earlier, request, later, rfl, heads, here, _⟩ := meant_split meant
    obtain ⟨id, rfl, header⟩ := means_unsubscribe here named
    obtain ⟨⟨channel, asked⟩, kept⟩ := unsubscribe_asked allowed rfl
    obtain ⟨g, opened, _, found⟩ := asked_open heads asked kept
    exact ⟨g, opened, found.trans header.symm⟩
  · rintro before f after rfl named
    obtain ⟨earlier, request, later, rfl, heads, here, _⟩ := meant_split meant
    obtain ⟨channel, rfl, destination⟩ := means_send here named
    obtain ⟨id, asked, kept⟩ := publish_asked allowed rfl
    obtain ⟨g, opened, found, _⟩ := asked_open heads asked kept
    exact ⟨g, opened, found.trans destination.symm⟩
  · rintro before f after rfl named
    obtain ⟨earlier, request, later, rfl, _, here, tails⟩ := meant_split meant
    obtain rfl := means_disconnect here named
    obtain rfl := leave_last allowed rfl
    exact List.forall₂_nil_right_iff.mp tails

end Order

section Example
open SubscriptionAgreement (noFiles)

def joinAndLeave : List ThreadStep :=
  [.keyboard (.read "join police"), .keyboard (.carryOut noFiles 1),
    .keyboard (.read "exit police"), .keyboard (.carryOut noFiles 1),
    .keyboard (.read "logout"), .keyboard (.carryOut noFiles 1)]

def leftFrames : List CppFrame.StompFrame :=
  [Client.subscribeFrame "police" 0 0, Client.unsubscribeFrame 0 2, disconnectFrame 3]

theorem join_and_leave_sends : ∃ console, Sends "meni" console leftFrames ∧
    console.terminateKeyboard = true :=
  ⟨_, run_of_acts joinAndLeave rfl, rfl⟩

theorem left_session : ∃ requests session, List.Forall₂ Means leftFrames requests ∧
    Leads Allowed requests opened session := by
  obtain ⟨console, sends, _⟩ := join_and_leave_sends
  obtain ⟨requests, session, meant, allowed, _⟩ := client_keeps_session sends (by decide)
  exact ⟨requests, session, meant, allowed⟩

theorem left_in_order : leftFrames.length = 3 ∧ InOrder leftFrames := by
  obtain ⟨console, sends, _⟩ := join_and_leave_sends
  exact ⟨rfl, client_in_order sends (by decide)⟩

end Example

end SessionProtocol
