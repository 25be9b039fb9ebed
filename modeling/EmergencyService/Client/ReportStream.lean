import EmergencyService.Client.KeyboardLoop
import EmergencyService.Frames.DecoderLimits

/- What the server's decoder makes of a report: the free text of the events goes through the
   body, the frame and the stream of bytes as it is. -/
namespace ReportStream
open JavaRuntime CppRuntime Utf8Text JavaFrame FrameExchange FrameStream EventReport ReportLines
open ChannelCommands KeyboardLoop FrameBytes DecoderLimits
open ConnectionHandler (WriteSome sendFrames written)

def flagged (e : Event) : Bool :=
  (e.generalInformation.lookup "active".toList).isSome &&
    (e.generalInformation.lookup "forces_arrival_at_scene".toList).isSome

def reportText (login channel : Text) (e : Event) : Option Text :=
  (reportFrame login channel e).map CppFrame.StompFrame.createFrame

/-- A SEND frame whose only header is the channel as destination. -/
def SendTo (channel message : Text) : Prop :=
  ∃ frame, StompFrame.ofText message = .ok frame ∧ frame.command = "SEND" ∧
    ∀ k, frame.headers.lookup k = if k = "destination".toList then some channel else none

/-- The message that the server gets for one event. -/
def MessageFor (login channel : Text) (e : Event) (message : Text) : Prop :=
  reportText login channel e = some message ∧ SendTo channel message

/-- However the writes and the reads divide the bytes of a report, the decoder makes one
    message of each event with both flags. -/
def OneMessageEach (d : FrameEncoderDecoder) (client : Client) (channel : Text)
    (events : List Event) : Prop :=
  ∀ o : WriteSome, (∀ written room, 0 < room → (o written room).isSome) →
    ∃ pieces, sendFrames o ((client.report channel events).2.map fun f => utf8 f.createFrame) [] =
        (true, pieces) ∧
      ∀ chunks : List Bytes, chunks.flatten = pieces.flatten →
        ∃ d' messages, d.decodeChunks chunks = .ok (d', messages) ∧
          List.Forall₂ (MessageFor client.currentUser channel) (events.filter flagged) messages

section Texts
variable {login channel : Text} {e : Event} {events : List Event}

theorem flagged_iff (login channel : Text) (e : Event) :
    flagged e = (reportText login channel e).isSome := by
  unfold flagged reportText reportFrame
  cases activeFlag : e.generalInformation.lookup "active".toList with
  | none => simp only [reportBody, activeFlag]; rfl
  | some active =>
    cases forcesFlag : e.generalInformation.lookup "forces_arrival_at_scene".toList with
    | none => simp only [reportBody, activeFlag, forcesFlag]; rfl
    | some forces => simp only [reportBody, activeFlag, forcesFlag]; rfl

theorem report_texts {client : Client} {id : Int}
    (joined : client.subscriptions.lookup channel = some id) :
    ((client.report channel events).2.map fun f => utf8 f.createFrame) =
      (events.filterMap (reportText client.currentUser channel)).map utf8 := by
  have sent : (client.report channel events).2 =
      reportFrames client.currentUser channel ∅ events := by
    unfold Client.report
    rw [joined]
  rw [sent, report_frames_eq _ _ _ rfl]
  unfold reportText
  rw [← List.map_filterMap, List.map_map]
  rfl

theorem event_nul_free {body : Text} (written : reportBody login e = some body)
    (free : NulFree body) : NulFreeEvent e := by
  obtain ⟨active, forces, activeFlag, forcesFlag, rfl⟩ := report_body_flags written
  have line : ∀ l ∈ reportLines login e active forces, NulFree l := fun l member =>
    (nul_free_append.mp (nul_free_flat.mp free l member)).1
  have value : ∀ (k : FieldName) (v : Text),
      k.start ++ v ∈ reportLines login e active forces → NulFree v :=
    fun k v member => (nul_free_append.mp (line _ member)).2
  have flag : ∀ (k : FieldName) (v : Text),
      '\t' :: (k.start ++ v) ∈ reportLines login e active forces → NulFree v :=
    fun k v member => (nul_free_append.mp (nul_free_cons.mp (line _ member)).2).2
  unfold reportLines at line value flag
  constructor
  · exact value .city e.city (by simp)
  · exact value .eventName e.name (by simp)
  · exact line e.description (by simp)
  · intro v held
    obtain rfl := Option.some.inj (activeFlag.symm.trans held)
    exact flag .active active (by simp)
  · intro v held
    obtain rfl := Option.some.inj (forcesFlag.symm.trans held)
    exact flag .forceArrive forces (by simp)

theorem report_text_some {text : Text} (made : reportText login channel e = some text) :
    ∃ body, reportBody login e = some body ∧
      text = CppFrame.StompFrame.createFrame
        ⟨"SEND", insertNew "destination" channel ∅, body⟩ := by
  unfold reportText reportFrame at made
  rw [Option.map_map, Option.map_eq_some_iff] at made
  obtain ⟨body, found, rfl⟩ := made
  exact ⟨body, found, rfl⟩

theorem report_text_flags {text : Text} (made : reportText login channel e = some text) :
    ∃ active forces, e.generalInformation.lookup "active".toList = some active ∧
      e.generalInformation.lookup "forces_arrival_at_scene".toList = some forces := by
  have both : flagged e = true := by
    rw [flagged_iff login channel, made]
    rfl
  unfold flagged at both
  rw [Bool.and_eq_true, Option.isSome_iff_exists, Option.isSome_iff_exists] at both
  obtain ⟨⟨active, activeFlag⟩, forces, forcesFlag⟩ := both
  exact ⟨active, forces, activeFlag, forcesFlag⟩

theorem report_text_nul_free_iff {text : Text} (user : NulFree login) (word : Word channel)
    (made : reportText login channel e = some text) : NulFree text ↔ NulFreeEvent e := by
  obtain ⟨body, found, rfl⟩ := report_text_some made
  constructor
  · intro free
    rw [cpp_frame_text, nul_free_append, nul_free_cons, nul_free_append, nul_free_cons,
      nul_free_cons] at free
    have pasted : NulFree (bodyText body) := free.2.2.2.2.2
    apply event_nul_free found
    unfold bodyText at pasted
    split at pasted
    · rename_i empty
      rw [empty]
      exact pasted
    · exact (nul_free_append.mp pasted).1
  · intro free
    exact (send_sendable word (report_body_nul_free user free found)).text

theorem report_text_read {text : Text} (user : NulFree login) (word : Word channel)
    (free : NulFreeEvent e) (made : reportText login channel e = some text) :
    SendTo channel text := by
  obtain ⟨body, found, rfl⟩ := report_text_some made
  obtain ⟨headers, parsed, same⟩ :=
    (send_sendable word (report_body_nul_free user free found)).parsed
  refine ⟨_, parsed, rfl, ?_⟩
  intro k
  rw [same]
  change (insertNew "destination".toList channel ∅).lookup k = _
  by_cases here : k = "destination".toList
  · rw [if_pos here, here]
    exact insert_new_lookup (AList.notMem_empty _) channel
  · rw [if_neg here, insert_new_lookup_ne here, AList.lookup_empty]

/-- How many bytes the frame of an event has: its own, and those of the texts in it. -/
def reportSize (login channel : Text) (e : Event) (active forces : Text) : Nat :=
  126 + (utf8 login).length + (utf8 channel).length + (utf8 e.city).length +
    (utf8 e.name).length + (utf8 (decimal e.dateTime)).length + (utf8 active).length +
    (utf8 forces).length + (utf8 e.description).length

theorem destination_block (channel : Text) :
    headerBlock (headerList (sortedKeys (insertNew "destination" channel ∅))
      (insertNew "destination" channel ∅)) = headerLine "destination" channel := by
  have keys : sortedKeys (insertNew "destination" channel ∅) = ["destination".toList] := by
    unfold insertNew
    rw [if_neg (AList.notMem_empty _)]
    rfl
  have found : (insertNew "destination" channel ∅).lookup "destination".toList = some channel :=
    insert_new_lookup (AList.notMem_empty _) channel
  rw [keys]
  unfold headerBlock headerList
  rw [List.map_singleton, List.flatMap_singleton, found]
  rfl

theorem report_lines_size (login : Text) (e : Event) (active forces : Text) :
    (utf8 ((reportLines login e active forces).flatMap (· ++ ['\n']))).length =
      105 + (utf8 login).length + (utf8 e.city).length + (utf8 e.name).length +
        (utf8 (decimal e.dateTime)).length + (utf8 active).length + (utf8 forces).length +
        (utf8 e.description).length := by
  have user : (utf8 FieldName.user.start).length = 5 := by decide
  have city : (utf8 FieldName.city.start).length = 5 := by decide
  have eventName : (utf8 FieldName.eventName.start).length = 11 := by decide
  have time : (utf8 FieldName.time.start).length = 10 := by decide
  have activeStart : (utf8 FieldName.active.start).length = 7 := by decide
  have forcesStart : (utf8 FieldName.forceArrive.start).length = 24 := by decide
  have information : (utf8 "general information:".toList).length = 20 := by decide
  have heading : (utf8 "description:".toList).length = 12 := by decide
  have newline : (String.utf8EncodeChar '\n').length = 1 := by decide
  have tab : (String.utf8EncodeChar '\t').length = 1 := by decide
  unfold reportLines
  generalize "general information:".toList = second at information ⊢
  generalize "description:".toList = eighth at heading ⊢
  simp only [List.flatMap_cons, List.flatMap_nil, utf8_append, utf8_cons, utf8_nil,
    List.length_append, List.length_nil, user, city, eventName, time, activeStart, forcesStart,
    information, heading, newline, tab]
  omega

theorem report_text_size {active forces text : Text}
    (activeFlag : e.generalInformation.lookup "active".toList = some active)
    (forcesFlag : e.generalInformation.lookup "forces_arrival_at_scene".toList = some forces)
    (made : reportText login channel e = some text) :
    (utf8 text).length = reportSize login channel e active forces := by
  obtain ⟨body, found, rfl⟩ := report_text_some made
  rw [report_body_lines activeFlag forcesFlag, Option.some.injEq] at found
  have size := report_lines_size login e active forces
  rw [found] at size
  have filled : body ≠ [] := by
    rintro rfl
    rw [utf8_nil, List.length_nil] at size
    omega
  have command : (utf8 "SEND".toList).length = 4 := by decide
  have destination : (utf8 "destination".toList).length = 11 := by decide
  have newline : (String.utf8EncodeChar '\n').length = 1 := by decide
  have colon : (String.utf8EncodeChar ':').length = 1 := by decide
  have header : (utf8 (headerLine "destination" channel)).length = 13 + (utf8 channel).length := by
    unfold headerLine
    simp only [utf8_append, utf8_cons, utf8_nil, List.length_append, List.length_nil,
      destination, newline, colon]
    omega
  rw [cpp_frame_text, destination_block]
  unfold bodyText reportSize
  rw [if_neg filled]
  simp only [utf8_append, utf8_cons, utf8_nil, List.length_append, List.length_nil,
    header, command, newline, size]
  omega

end Texts

section Pairing

theorem each_result_iff {A B : Type} {f : A → Option B} {good : B → Prop} {xs : List A}
    {ys : List B} :
    List.Forall₂ (fun x y => f x = some y ∧ good y) (xs.filter fun x => (f x).isSome) ys ↔
      ys = xs.filterMap f ∧ ∀ y ∈ ys, good y := by
  induction xs generalizing ys with
  | nil =>
    rw [List.filter_nil, List.forall₂_nil_left_iff, List.filterMap_nil]
    constructor
    · rintro rfl
      exact ⟨rfl, nofun⟩
    · exact And.left
  | cons x xs ih =>
    cases found : f x with
    | none =>
      rw [List.filter_cons_of_neg (by simp [found]), List.filterMap_cons_none found]
      exact ih
    | some y =>
      rw [List.filter_cons_of_pos (by simp [found]), List.filterMap_cons_some found,
        List.forall₂_cons_left_iff]
      constructor
      · rintro ⟨y', ys', ⟨same, here⟩, later, rfl⟩
        obtain rfl := Option.some.inj (found.symm.trans same)
        obtain ⟨rfl, all⟩ := ih.mp later
        exact ⟨rfl, List.forall_mem_cons.mpr ⟨here, all⟩⟩
      · rintro ⟨rfl, all⟩
        rw [List.forall_mem_cons] at all
        exact ⟨y, _, ⟨found, all.1⟩, ih.mpr ⟨rfl, all.2⟩, rfl⟩

theorem messages_for_iff {login channel : Text} {events : List Event} {messages : List Text} :
    List.Forall₂ (MessageFor login channel) (events.filter flagged) messages ↔
      messages = events.filterMap (reportText login channel) ∧
        ∀ m ∈ messages, SendTo channel m := by
  have same : flagged = fun e => (reportText login channel e).isSome :=
    funext (flagged_iff login channel)
  rw [same]
  exact each_result_iff

end Pairing

section Streams
variable {d : FrameEncoderDecoder} {client : Client} {channel : Text} {id : Int}
  {events : List Event}

theorem bytewise_steady (written room : Nat) (positive : 0 < room) :
    (bytewise written room).isSome := by
  simp [bytewise, positive]

theorem one_message_each_iff_decoded (joined : client.subscriptions.lookup channel = some id) :
    OneMessageEach d client channel events ↔
      ∃ d' messages, d.decodeBytes (((events.filterMap (reportText client.currentUser channel)).map
          utf8).flatMap (written · ++ [0])) = .ok (d', messages) ∧
        List.Forall₂ (MessageFor client.currentUser channel) (events.filter flagged) messages := by
  unfold OneMessageEach
  rw [report_texts joined]
  constructor
  · intro each
    obtain ⟨pieces, sent, decoded⟩ := each bytewise bytewise_steady
    obtain ⟨_, sentAll, flat⟩ := ConnectionHandler.send_frames_all bytewise_steady
      ((events.filterMap (reportText client.currentUser channel)).map utf8) []
    obtain ⟨-, rfl⟩ := Prod.mk.inj (sent.symm.trans sentAll)
    obtain ⟨d', messages, whole, paired⟩ := decoded _ rfl
    rw [FrameEncoderDecoder.decode_chunks_eq, flat] at whole
    exact ⟨d', messages, whole, paired⟩
  · rintro ⟨d', messages, whole, paired⟩ o steady
    obtain ⟨pieces, sent, flat⟩ := ConnectionHandler.send_frames_all steady
      ((events.filterMap (reportText client.currentUser channel)).map utf8) []
    refine ⟨pieces, sent, ?_⟩
    intro chunks same
    refine ⟨d', messages, ?_, paired⟩
    rw [FrameEncoderDecoder.decode_chunks_eq, same, flat]
    exact whole

/-- No event with both flags has a NUL in its texts, or so many bytes that its frame is longer
    than the array of the decoder can get. -/
def Contained (login channel : Text) (events : List Event) : Prop :=
  ∀ e ∈ events, ∀ active forces,
    e.generalInformation.lookup "active".toList = some active →
    e.generalInformation.lookup "forces_arrival_at_scene".toList = some forces →
      NulFreeEvent e ∧ reportSize login channel e active forces ≤ 2 ^ 30

theorem contained_iff {login : Text} (user : NulFree login) (word : Word channel) :
    Contained login channel events ↔
      ∀ text ∈ events.filterMap (reportText login channel),
        NulFree text ∧ (utf8 text).length ≤ 2 ^ 30 := by
  constructor
  · intro contained text member
    obtain ⟨e, inside, made⟩ := List.mem_filterMap.mp member
    obtain ⟨active, forces, activeFlag, forcesFlag⟩ := report_text_flags made
    obtain ⟨plain, short⟩ := contained e inside active forces activeFlag forcesFlag
    rw [report_text_size activeFlag forcesFlag made]
    exact ⟨(report_text_nul_free_iff user word made).mpr plain, short⟩
  · intro free e member active forces activeFlag forcesFlag
    have both : (reportText login channel e).isSome := by
      rw [← flagged_iff login channel]
      unfold flagged
      rw [activeFlag, forcesFlag]
      rfl
    obtain ⟨text, made⟩ := Option.isSome_iff_exists.mp both
    obtain ⟨plain, short⟩ := free text (List.mem_filterMap.mpr ⟨e, member, made⟩)
    rw [report_text_size activeFlag forcesFlag made] at short
    exact ⟨(report_text_nul_free_iff user word made).mp plain, short⟩

/-- A report injects nothing if and only if no event has a NUL and every frame fits into the
    decoder's array. -/
theorem one_message_each_iff {user : Text} {console : Console} (word : Word user)
    (runs : ThreadRuns user console)
    (joined : console.client.subscriptions.lookup channel = some id)
    {earlier : List Text} {before : List Text}
    (fed : FrameEncoderDecoder.initial.decodeBytes
      ((earlier.map utf8).flatMap (written · ++ [0])) = .ok (d, before))
    (events : List Event) :
    OneMessageEach d console.client channel events ↔
      Contained console.client.currentUser channel events := by
  have own := threads_own_words word.nulFree runs
  have channelWord := own.channels channel id joined
  have empty : Fed d [] := by
    apply frames_finished (earlier.map fun t => written (utf8 t))
    rw [List.flatMap_map] at fed ⊢
    exact fed
  have clean : Contained console.client.currentUser channel events ↔ _ :=
    contained_iff own.user channelWord
  rw [one_message_each_iff_decoded joined, clean]
  constructor
  · rintro ⟨d', messages, whole, paired⟩
    obtain ⟨rfl, _⟩ := messages_for_iff.mp paired
    exact (frames_decoded_iff empty _).mp ⟨d', whole⟩
  · intro free
    obtain ⟨d', whole⟩ := (frames_decoded_iff empty _).mpr free
    refine ⟨d', _, whole, messages_for_iff.mpr ⟨rfl, ?_⟩⟩
    intro text member
    obtain ⟨e, inside, made⟩ := List.mem_filterMap.mp member
    have plain := (report_text_nul_free_iff own.user channelWord made).mp (free text member).1
    exact report_text_read own.user channelWord plain made

end Streams

section Example

def joinPolice : List ThreadStep :=
  [.keyboard (.read "join police"), .keyboard (.carryOut (fun _ => none) 1)]

/-- What `parseEventsFile` makes of an event with the two flags. -/
def smoke (description : Text) : Event where
  channelName := "police"
  city := "Haifa"
  name := "smoke"
  dateTime := 42
  description := description
  generalInformation := (AList.insert "active".toList "true".toList ∅).insert
    "forces_arrival_at_scene".toList "false".toList

theorem police_joined :
    ∃ console, GuardedRuns.acts Console.step joinPolice (.connected "meni") = some console ∧
      console.client.currentUser = "meni".toList ∧
      console.client.subscriptions.lookup "police".toList = some 0 := by
  have ended : (GuardedRuns.acts Console.step joinPolice (.connected "meni")).map (fun console =>
      (console.client.currentUser, console.client.subscriptions.lookup "police".toList)) =
        some ("meni".toList, some 0) := by decide +kernel
  obtain ⟨console, acted, same⟩ := Option.map_eq_some_iff.mp ended
  obtain ⟨user, joined⟩ := Prod.mk.inj same
  exact ⟨console, acted, user, joined⟩

theorem smoke_contained :
    ∃ console, GuardedRuns.acts Console.step joinPolice (.connected "meni") = some console ∧
      OneMessageEach .initial console.client "police" [smoke "house"] := by
  obtain ⟨console, acted, user, joined⟩ := police_joined
  have typed : ∀ step ∈ joinPolice, ∀ console, TextLine console step := by
    have join : LineFree "join police" ∧ NulFree "join police" := by decide
    unfold joinPolice
    repeat rw [List.forall_mem_cons]
    exact ⟨fun _ => join, fun _ => trivial, nofun⟩
  have word : Word "meni" := by decide
  have runs : ThreadRuns "meni" console :=
    GuardedRuns.run_of_acts_all joinPolice typed acted
  have contained : Contained console.client.currentUser "police" [smoke "house"] := by
    rw [user]
    intro e member active forces activeFlag forcesFlag
    obtain rfl := List.mem_singleton.mp member
    obtain rfl : "true".toList = active := Option.some.inj activeFlag
    obtain rfl : "false".toList = forces := Option.some.inj forcesFlag
    constructor
    · have no : NulFree "false" ∧ NulFree "true" := by decide
      refine ⟨by decide, by decide, by decide, ?_, ?_⟩
      · intro v held
        exact Option.some.inj held ▸ no.2
      · intro v held
        exact Option.some.inj held ▸ no.1
    · decide +kernel
  have started : FrameEncoderDecoder.initial.decodeBytes
      (([] : List Text).map utf8 |>.flatMap (written · ++ [0])) = .ok (.initial, []) := rfl
  exact ⟨console, acted, (one_message_each_iff word runs joined started _).mpr contained⟩

/-- A description that JSON can express: behind the NUL stands a frame of its own. -/
def forgery : Text := "house\x00DISCONNECT\nreceipt:7\n\n".toList

def forged : Text := "DISCONNECT\nreceipt:7\n\n\n\n".toList

def forgedFront : Text :=
  ((reportText "meni" "police" (smoke forgery)).getD []).takeWhile (· ≠ nul)

theorem forgery_written :
    [smoke forgery].filterMap (reportText "meni" "police") = [forgedFront ++ nul :: forged] := by
  decide +kernel

theorem forgery_decoded :
    ∃ d', FrameEncoderDecoder.initial.decodeBytes
        ((([smoke forgery].filterMap (reportText "meni" "police")).map utf8).flatMap
          (written · ++ [0])) = .ok (d', [forgedFront, forged]) := by
  have free : ∀ m ∈ [forgedFront, forged], NulFree m := by decide +kernel
  have short : ∀ m ∈ [forgedFront, forged], (utf8 m).length ≤ 2 ^ 30 := by decide +kernel
  have small : ∀ m ∈ [forgedFront ++ nul :: forged], (utf8 m).length ≤ 2 ^ 30 := by
    decide +kernel
  obtain ⟨d', decoded, _⟩ := decode_all free short FrameEncoderDecoder.holds_initial
  have stream : [forgedFront ++ nul :: forged].flatMap sendFrame =
      [forgedFront, forged].flatMap sendFrame := by
    simp [sendFrame]
  rw [forgery_written, sent_stream small, stream]
  exact ⟨d', decoded⟩

/-- The description brings a DISCONNECT onto the connection of the user who reports it. -/
theorem disconnect_injected :
    ∃ console, GuardedRuns.acts Console.step joinPolice (.connected "meni") = some console ∧
      console.client.subscriptions.lookup "police".toList = some 0 ∧
      ¬ OneMessageEach .initial console.client "police" [smoke forgery] ∧
      (StompFrame.ofText forged).map StompFrame.command = .ok "DISCONNECT".toList := by
  obtain ⟨console, acted, user, joined⟩ := police_joined
  refine ⟨console, acted, joined, ?_, rfl⟩
  intro each
  obtain ⟨d', messages, whole, paired⟩ := (one_message_each_iff_decoded joined).mp each
  obtain ⟨_, decoded⟩ := forgery_decoded
  rw [user, decoded] at whole
  obtain ⟨-, rfl⟩ := Prod.mk.inj (Except.ok.inj whole)
  have two := paired.length_eq
  have one : [smoke forgery].filter flagged = [smoke forgery] := rfl
  rw [one] at two
  cases two

end Example

end ReportStream
