import EmergencyService.Frames.FrameShape
import EmergencyService.Frames.HeaderPositions

/- A frame that one side encodes and the other side parses: the command and the headers
   come back as they were, the body without the newlines that the parser drops. The client's
   constructor reads bytes and keeps the position of a colon in an `int`. Where a header is
   repeated, the two parsers keep different lines. -/
namespace EncoderRoundTrip
open JavaRuntime CppRuntime JavaFrame FrameExchange FrameShape FrameStream SeparatorRuns
  HeaderPositions Utf8Text

section Headers
variable {command body : Text} {headers : HashMap Text Text} {hs : List (Text × Text)}

theorem octets_of_text (named : command ≠ []) (free : LineFree command)
    (clean : ∀ h ∈ hs, CleanHeader h) (body : Text) :
    (CppIndices.ofText
        (octets (command ++ '\n' :: (headerBlock hs ++ '\n' :: body) ++ [nul]))).map
          (fun f => (f.command, f.headers)) =
      (readAll ∅ (hs.map octetsHeader)).map fun headers => (octets command, headers) := by
  have text : octets (command ++ '\n' :: (headerBlock hs ++ '\n' :: body) ++ [nul]) =
      octets command ++ '\n' ::
        (headerBlock (hs.map octetsHeader) ++ '\n' :: (octets body ++ [nul])) := by
    have terminator : octets [nul] = [nul] := by decide
    rw [octets_append, octets_frame, terminator]
    simp
  have filled : octets command ≠ [] := fun none => named (octets_injective none)
  rw [text]
  exact of_text_block filled (octets_line_free.mpr free) (clean_octets clean)
    ⟨nul, by simp, by decide⟩

theorem line_shorter (command body : Text) {h : Text × Text} (member : h ∈ hs) :
    (octets h.1 ++ ':' :: octets h.2).length ≤
      (octets (command ++ '\n' :: (headerBlock hs ++ '\n' :: body))).length := by
  have line : headerLine (octets h.1) (octets h.2) ∈
      (hs.map octetsHeader).map fun h => headerLine h.1 h.2 :=
    List.mem_map_of_mem (List.mem_map_of_mem member)
  have size := (List.sublist_flatten_of_mem line).length_le
  rw [octets_frame, headerBlock, List.flatMap_def]
  simp only [headerLine, List.length_append, List.length_cons, List.length_nil] at size ⊢
  omega

theorem octets_stored
    (stored : (octets (command ++ '\n' :: (headerBlock hs ++ '\n' :: body))).length < 2 ^ 63 - 1) :
    ∀ h ∈ hs.map octetsHeader, (h.1 ++ ':' :: h.2).length < 2 ^ 63 := by
  intro h member
  obtain ⟨written, found, rfl⟩ := List.mem_map.mp member
  exact lt_of_le_of_lt (line_shorter command body found) (by omega)

theorem short_keys_read (named : command ≠ []) (free : LineFree command)
    (clean : ∀ h ∈ hs, CleanHeader h)
    (stored : (octets (command ++ '\n' :: (headerBlock hs ++ '\n' :: body))).length < 2 ^ 63 - 1)
    (short : ∀ h ∈ hs, (octets h.1).length < 2 ^ 31 - 1) :
    ∃ f, CppIndices.ofText
        (octets (command ++ '\n' :: (headerBlock hs ++ '\n' :: body) ++ [nul])) = .ok f ∧
      f.command = octets command ∧ f.headers = insertAllNew ∅ (hs.map octetsHeader) := by
  have read := octets_of_text named free clean body
  rw [read_all_short (clean_octets clean) (List.forall_mem_map.mpr short)
    (octets_stored stored)] at read
  cases parsed : CppIndices.ofText
      (octets (command ++ '\n' :: (headerBlock hs ++ '\n' :: body) ++ [nul])) with
  | error e =>
    rw [parsed] at read
    exact absurd read (by simp [Except.map])
  | ok f =>
    rw [parsed] at read
    simp only [Except.map, Except.ok.injEq, Prod.mk.injEq] at read
    exact ⟨f, rfl, read⟩

theorem read_keys_short {f : CppFrame.StompFrame} {h : Text × Text} (named : command ≠ [])
    (free : LineFree command) (clean : ∀ h ∈ hs, CleanHeader h)
    (stored : (octets (command ++ '\n' :: (headerBlock hs ++ '\n' :: body))).length < 2 ^ 63 - 1)
    (parsed : CppIndices.ofText
      (octets (command ++ '\n' :: (headerBlock hs ++ '\n' :: body) ++ [nul])) = .ok f)
    (member : h ∈ hs) (found : octets h.1 ∈ f.headers) : (octets h.1).length < 2 ^ 31 - 1 := by
  have read := octets_of_text named free clean body
  rw [parsed] at read
  cases all : readAll ∅ (hs.map octetsHeader) with
  | error e =>
    rw [all] at read
    exact absurd read (by simp [Except.map])
  | ok read' =>
    simp only [all, Except.map, Except.ok.injEq, Prod.mk.injEq] at read
    rw [read.2] at found
    have key := read_all_keys (octets_stored stored) all found
      (octets_colon_free.mpr (clean h member).1)
    exact key.resolve_left (AList.notMem_empty _)

/-- The client reads these headers exactly when the first lines carry their values and every
    key leaves room for its colon in an `int`. -/
theorem octets_read_iff (named : command ≠ []) (free : LineFree command)
    (clean : ∀ h ∈ hs, CleanHeader h)
    (stored : (octets (command ++ '\n' :: (headerBlock hs ++ '\n' :: body))).length < 2 ^ 63 - 1)
    (known : ∀ h ∈ hs, h.1 ∈ headers) :
    (∃ f, CppIndices.ofText
        (octets (command ++ '\n' :: (headerBlock hs ++ '\n' :: body) ++ [nul])) = .ok f ∧
          f.command = octets command ∧
            ∀ k, f.headers.lookup k = (cppHeaders headers).lookup k) ↔
      (∀ k, firstValue k hs = headers.lookup k) ∧
        ∀ h ∈ hs, (octets h.1).length < 2 ^ 31 - 1 := by
  constructor
  · rintro ⟨f, parsed, _, same⟩
    have short : ∀ h ∈ hs, (octets h.1).length < 2 ^ 31 - 1 := by
      intro h member
      refine read_keys_short named free clean stored parsed member ?_
      rw [← AList.lookup_isSome, same, cpp_headers_octets, Option.isSome_map, AList.lookup_isSome]
      exact known h member
    obtain ⟨g, again, _, inserted⟩ := short_keys_read named free clean stored short
    rw [parsed] at again
    cases again
    rw [inserted] at same
    exact ⟨same_headers_iff.mp same, short⟩
  · rintro ⟨same, short⟩
    obtain ⟨f, parsed, command', inserted⟩ := short_keys_read named free clean stored short
    refine ⟨f, parsed, command', ?_⟩
    rw [inserted]
    exact same_headers_iff.mpr same

theorem client_headers_arrive (named : command ≠ []) (free : LineFree command)
    (clean : CleanHeaders headers) :
    ∃ f, JavaFrame.StompFrame.ofText (decodeUtf8 (bytesOf
        (CppFrame.StompFrame.mk (octets command) (cppHeaders headers) (octets body)).createFrame)) =
          .ok f ∧ f.command = command ∧ ∀ k, f.headers.lookup k = headers.lookup k := by
  let read := fun key => decodeUtf8 (bytesOf key)
  have back : ∀ text, read (octets text) = text := fun text => by
    rw [show read (octets text) = _ from congrArg decodeUtf8 (bytes_of_octets text), decode_encoded]
  let keys := (sortedKeys (cppHeaders headers)).map read
  have known : ∀ k, k ∈ keys ↔ k ∈ headers := by
    intro k
    simp only [keys, List.mem_map, sorted_keys_mem]
    constructor
    · rintro ⟨key, found, rfl⟩
      obtain ⟨k, member, rfl⟩ := cpp_headers_key found
      rwa [back]
    · intro member
      refine ⟨octets k, ?_, back k⟩
      rwa [← AList.lookup_isSome, cpp_headers_octets, Option.isSome_map, AList.lookup_isSome]
  have sorted : headerList (sortedKeys (cppHeaders headers)) (cppHeaders headers) =
      (headerList keys headers).map octetsHeader := by
    simp only [headerList, keys, List.map_map]
    apply List.map_congr_left
    intro key found
    obtain ⟨k, member, rfl⟩ := cpp_headers_key ((sorted_keys_mem _ _).mp found)
    obtain ⟨v, value⟩ := Option.isSome_iff_exists.mp (AList.lookup_isSome.mpr member)
    change (octets k, ((cppHeaders headers).lookup (octets k)).getD []) =
      octetsHeader (read (octets k), (headers.lookup (read (octets k))).getD [])
    rw [back, cpp_headers_octets, value]
    rfl
  have body' : bodyText (octets body) = octets (bodyText body) := by
    have newline : octets ['\n'] = ['\n'] := by decide
    by_cases empty : body = []
    · simp [bodyText, empty]
    · have filled : octets body ≠ [] := fun none => empty (octets_injective none)
      rw [bodyText, bodyText, if_neg filled, if_neg empty, octets_append, newline]
  have text : (CppFrame.StompFrame.mk (octets command) (cppHeaders headers)
      (octets body)).createFrame = octets (command ++ '\n' ::
        (headerBlock (headerList keys headers) ++ '\n' :: '\n' :: bodyText body)) := by
    have newline : octets ['\n'] = ['\n'] := by decide
    rw [cpp_frame_text, octets_frame, octets_cons '\n' (bodyText body), newline, ← body', sorted]
    rfl
  have parsed := java_parse_block named free
    (header_list_clean clean fun k => (known k).mp) ('\n' :: bodyText body)
  refine ⟨_, by rw [text, bytes_of_octets, decode_encoded, parsed], rfl, fun k => ?_⟩
  dsimp only
  rw [headerList, insert_all_lookup, AList.lookup_empty]
  exact lookup_of_keys known k

/-- Either side reads the command and the headers that the other side has encoded. -/
def HeadersSurvive (command : Text) (headers : HashMap Text Text) (body : Text) : Prop :=
  (∃ f, JavaFrame.StompFrame.ofText (decodeUtf8 (bytesOf
      (CppFrame.StompFrame.mk (octets command) (cppHeaders headers) (octets body)).createFrame)) =
        .ok f ∧ f.command = command ∧ ∀ k, f.headers.lookup k = headers.lookup k) ∧
    ∀ o : IterationOrder Text, ∃ f, CppIndices.ofText
      (octets ((JavaFrame.StompFrame.mk command headers body).createFrame o ++ [nul])) = .ok f ∧
        f.command = octets command ∧ ∀ k, f.headers.lookup k = (cppHeaders headers).lookup k

/-- A `std::string` can hold the frame. -/
def Stored (f : JavaFrame.StompFrame) : Prop :=
  ∀ o, (octets (f.createFrame o)).length < 2 ^ 63 - 1

theorem server_headers_arrive (named : command ≠ []) (free : LineFree command)
    (clean : CleanHeaders headers) (stored : Stored ⟨command, headers, body⟩)
    (o : IterationOrder Text) :
    (∃ f, CppIndices.ofText
      (octets ((JavaFrame.StompFrame.mk command headers body).createFrame o ++ [nul])) = .ok f ∧
        f.command = octets command ∧ ∀ k, f.headers.lookup k = (cppHeaders headers).lookup k) ↔
      ∀ key ∈ headers, (octets key).length < 2 ^ 31 - 1 := by
  have same : ∀ k, k ∈ o.order headers.keys ↔ k ∈ headers := iterated_keys o headers
  have lines : ∀ h ∈ headerList (o.order headers.keys) headers, h.1 ∈ headers := by
    intro h member
    obtain ⟨key, found, rfl⟩ := List.mem_map.mp member
    exact (same key).mp found
  have size := stored o
  rw [java_frame_text] at size ⊢
  have values : ∀ k, firstValue k (headerList (o.order headers.keys) headers) =
      headers.lookup k := fun k => first_value_list same
  rw [octets_read_iff named free (header_list_clean clean fun k => (same k).mp) size lines,
    and_iff_right values]
  constructor
  · intro short key member
    exact short _ (List.mem_map_of_mem ((same key).mpr member))
  · intro short h member
    exact short h.1 (lines h member)

/-- Command and headers survive both ways exactly when every key leaves room for its colon in
    an `int` of the client. -/
theorem headers_survive_iff (named : command ≠ []) (free : LineFree command)
    (clean : CleanHeaders headers) (stored : Stored ⟨command, headers, body⟩) :
    HeadersSurvive command headers body ↔
      ∀ key ∈ headers, (octets key).length < 2 ^ 31 - 1 := by
  have arrives := server_headers_arrive named free clean stored
  constructor
  · intro survive
    exact (arrives .stored).mp (survive.2 .stored)
  · intro short
    exact ⟨client_headers_arrive named free clean, fun o => (arrives o).mpr short⟩

def policeHeaders : HashMap Text Text := insertNew "destination" "police" ∅

theorem police_headers_clean : CleanHeaders policeHeaders := by
  have clean : CleanHeader ("destination".toList, "police".toList) := by
    refine ⟨?_, ?_, ?_⟩ <;> decide
  exact entry_insert (fun k v found => by simp at found) clean

theorem one_header_stored {command key value body : Text}
    (short : (octets (command ++ '\n' :: (headerBlock [(key, value)] ++ '\n' ::
      bodyText body))).length < 2 ^ 63 - 1) : Stored ⟨command, insertNew key value ∅, body⟩ := by
  intro o
  have new := insert_new_lookup (m := (∅ : OrderedMap Text)) (AList.notMem_empty key) value
  have order : o.order [key] = [key] := List.perm_singleton.mp (o.perm [key])
  have keys : o.order (insertNew key value (∅ : OrderedMap Text)).keys = [key] := order
  rw [java_frame_text]
  simp only [keys, headerList, List.map_cons, List.map_nil, new, Option.getD_some]
  exact short

theorem one_header_key {key value k : Text}
    (member : k ∈ (insertNew key value ∅ : HashMap Text Text)) : k = key :=
  ((AList.mem_insert _).mp member).resolve_right (AList.notMem_empty k)

/-- A body line that looks like a header is none. -/
theorem police_headers_survive : HeadersSurvive "SEND" policeHeaders "\ndestination:fire" := by
  refine (headers_survive_iff (by decide) (by decide) police_headers_clean
    (one_header_stored (by decide))).mpr fun key member => ?_
  rw [(one_header_key member : key = "destination".toList)]
  decide

theorem wide_name_refused {n : Nat} (wide : 2 ^ 31 - 1 ≤ 2 * n) (stored : n < 2 ^ 61) :
    ¬ HeadersSurvive "SEND" (insertNew (List.replicate n 'é') [] ∅) [] := by
  have size : ∀ n, (octets (List.replicate n 'é')).length = 2 * n := by
    intro n
    have letter : (octets ['é']).length = 2 := by decide
    induction n with
    | zero => rfl
    | succ n ih =>
      rw [List.replicate_succ, octets_cons, List.length_append, ih, letter]
      omega
  have free : ∀ c, c ≠ 'é' → c ∉ List.replicate n 'é' :=
    fun c other member => other (List.eq_of_mem_replicate member)
  have clean : CleanHeaders (insertNew (List.replicate n 'é') [] ∅) :=
    entry_insert (fun k v found => by simp at found)
      ⟨free ':' (by decide), free '\n' (by decide), List.not_mem_nil⟩
  have fits : Stored ⟨"SEND", insertNew (List.replicate n 'é') [] ∅, []⟩ := by
    have command : (octets "SEND".toList).length = 4 := by decide
    have newline : octets ['\n'] = ['\n'] := by decide
    have colon : octets [':'] = [':'] := by decide
    apply one_header_stored
    rw [octets_frame]
    simp only [headerBlock, headerLine, octetsHeader, bodyText, List.length_append,
      List.length_cons, List.length_nil, List.map_cons, List.map_nil, List.flatMap_cons,
      List.flatMap_nil, command, size, octets_nil, if_true]
    omega
  intro survive
  have short := (server_headers_arrive (by decide) (by decide) clean fits .stored).mp
    (survive.2 .stored) _ ((AList.mem_insert _).mpr (Or.inl rfl))
  rw [size] at short
  omega

/-- A name of 2^30 letters with two bytes each: the colon stands at the byte 2^31. -/
theorem wide_name_lost :
    ¬ HeadersSurvive "SEND" (insertNew (List.replicate (2 ^ 30) 'é') [] ∅) [] :=
  wide_name_refused (by decide) (by decide)

end Headers

section Body
variable {f : CppFrame.StompFrame}

theorem trim_end_body (body : Text) : trimEnd '\n' (bodyText body) = trimEnd '\n' body := by
  by_cases empty : body = []
  · simp [bodyText, empty]
  · rw [bodyText, if_neg empty, trim_end_concat]

theorem trim_end_glued (body : Text) :
    trimEnd '\n' (glued (bodyText body)) = squeezed '\n' (trimEnd '\n' body) := by
  rw [glued_eq_squeezed, trim_end_squeezed, trim_end_body]

/-- The body reaches the server, up to newlines at its end, exactly when it has no newline
    at its start and no two empty lines in a row. -/
theorem body_kept_iff (named : f.command ≠ []) (free : LineFree f.command)
    (clean : CleanHeaders f.headers) :
    (∃ g, JavaFrame.StompFrame.ofText f.createFrame = .ok g ∧
      trimEnd '\n' g.body = trimEnd '\n' f.body) ↔
        (trimEnd '\n' f.body).head? ≠ some '\n' ∧
          ¬ ['\n', '\n', '\n'] <:+: trimEnd '\n' f.body := by
  obtain ⟨read, parsed, _⟩ := java_reads_cpp named free clean
  rw [← squeezed_fixed_iff, ← trim_end_glued]
  constructor
  · rintro ⟨g, here, same⟩
    rw [parsed] at here
    cases here
    exact same
  · intro same
    exact ⟨_, parsed, same⟩

def policeFrame (body : Text) : CppFrame.StompFrame := ⟨"SEND", policeHeaders, body⟩

theorem empty_line_kept : ∃ g,
    JavaFrame.StompFrame.ofText (policeFrame "fire\n\nhelp").createFrame = .ok g ∧
      trimEnd '\n' g.body = trimEnd '\n' "fire\n\nhelp" :=
  (body_kept_iff (f := policeFrame "fire\n\nhelp") (by decide) (by decide)
    police_headers_clean).mpr (by decide)

/-- A newline at the start of the body is lost, and one of two empty lines. -/
theorem newlines_lost :
    ¬ (∃ g, JavaFrame.StompFrame.ofText (policeFrame "\nfire").createFrame = .ok g ∧
        trimEnd '\n' g.body = trimEnd '\n' "\nfire") ∧
      ¬ ∃ g, JavaFrame.StompFrame.ofText (policeFrame "fire\n\n\nhelp").createFrame = .ok g ∧
        trimEnd '\n' g.body = trimEnd '\n' "fire\n\n\nhelp" := by
  have lost : ∀ body : Text, squeezed '\n' (trimEnd '\n' body) ≠ trimEnd '\n' body →
      ¬ ∃ g, JavaFrame.StompFrame.ofText (policeFrame body).createFrame = .ok g ∧
        trimEnd '\n' g.body = trimEnd '\n' body := by
    rintro body changed ⟨g, here, same⟩
    have named : ("SEND".toList : Text) ≠ [] := by decide
    have free : LineFree "SEND" := by decide
    obtain ⟨read, parsed, _⟩ :=
      java_reads_cpp (f := policeFrame body) named free police_headers_clean
    rw [parsed] at here
    cases here
    exact changed ((trim_end_glued body).symm.trans same)
  exact ⟨lost _ (by decide), lost _ (by decide)⟩

end Body

section Repeated
variable {command body : Text} {hs : List (Text × Text)}

/-- The server's constructor on a text and the client's one on its bytes. -/
def ParsersAgree (text : Text) : Prop :=
  ∃ f g, JavaFrame.StompFrame.ofText text = .ok f ∧
    CppIndices.ofText (octets (text ++ [nul])) = .ok g ∧
      g.command = octets f.command ∧ ∀ k, g.headers.lookup k = (cppHeaders f.headers).lookup k

/-- Both constructors accept a frame with these header lines and read the same headers exactly
    when the first and the last line of every header carry one value, and every key leaves room
    for its colon in an `int` of the client. -/
theorem parsers_agree_iff (named : command ≠ []) (free : LineFree command)
    (clean : ∀ h ∈ hs, CleanHeader h)
    (stored : (octets (command ++ '\n' :: (headerBlock hs ++ '\n' :: body))).length < 2 ^ 63 - 1) :
    ParsersAgree (command ++ '\n' :: (headerBlock hs ++ '\n' :: body)) ↔
      (∀ k, firstValue k hs = lastValue k hs) ∧
        ∀ h ∈ hs, (octets h.1).length < 2 ^ 31 - 1 := by
  have last : ∀ k, (insertAll ∅ hs).lookup k = lastValue k hs := by
    simp [insert_all_last]
  have known : ∀ h ∈ hs, h.1 ∈ insertAll ∅ hs := by
    intro h member
    rw [← AList.lookup_isSome, last]
    unfold lastValue
    exact first_value_known (List.mem_reverse.mpr member)
  have read := octets_read_iff named free clean stored known
  simp only [last] at read
  rw [← read]
  have java := java_parse_block named free clean body
  constructor
  · rintro ⟨f, g, parsed, agrees⟩
    rw [java] at parsed
    cases parsed
    exact ⟨g, agrees⟩
  · rintro ⟨g, agrees⟩
    exact ⟨_, g, java, agrees⟩

theorem distinct_headers_agree : ParsersAgree "SEND\ndestination:police\nreceipt:7\n\nfire" := by
  have clean : ∀ h ∈ [("destination".toList, "police".toList), ("receipt".toList, "7".toList)],
      CleanHeader h := by
    simp only [List.forall_mem_cons, List.not_mem_nil, false_implies, implies_true, and_true]
    refine ⟨⟨?_, ?_, ?_⟩, ?_, ?_, ?_⟩ <;> decide
  have named : ("SEND".toList : Text) ≠ [] := by decide
  refine (@parsers_agree_iff _ "fire" _ named (by decide) clean (by decide)).mpr
    ⟨fun k => ?_, by decide⟩
  by_cases destination : "destination".toList = k
  · subst destination
    rfl
  · by_cases receipt : "receipt".toList = k
    · subst receipt
      rfl
    · simp only [firstValue, lastValue, List.reverse_cons, List.reverse_nil, List.nil_append,
        List.singleton_append, List.find?_cons, List.find?_nil, destination, receipt, decide_false]

/-- The server keeps the last line of a repeated header, the client the first one. -/
theorem repeated_header_differs :
    ¬ ParsersAgree "SEND\ndestination:police\ndestination:fire\n\nhelp" := by
  rintro ⟨f, g, java, cpp, _, same⟩
  have last : f.headers.lookup "destination".toList = some "fire".toList := by
    have read : (JavaFrame.StompFrame.ofText
      "SEND\ndestination:police\ndestination:fire\n\nhelp").toOption.bind
        (·.headers.lookup "destination".toList) = some "fire".toList := by decide +kernel
    rwa [java] at read
  have first : g.headers.lookup (octets "destination") = some "police".toList := by
    have read : (CppFrame.StompFrame.ofText
      (octets ("SEND\ndestination:police\ndestination:fire\n\nhelp".toList ++
        [nul]))).toOption.bind (·.headers.lookup (octets "destination")) =
          some "police".toList := by decide +kernel
    rw [CppIndices.of_text_short (by decide +kernel)] at cpp
    rwa [cpp] at read
  have both := (first.symm.trans (same _)).trans (cpp_headers_octets _ _)
  rw [last] at both
  exact absurd both (by decide)

end Repeated

end EncoderRoundTrip
