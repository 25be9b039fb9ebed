import EmergencyService.Foundation.Utf8Text
import EmergencyService.Frames.CppIndices

/- The client's constructor on the bytes of a frame with clean headers. Where the colon of a
   header line stands decides whether the header is read as it was written. -/
namespace HeaderPositions
open JavaRuntime CppRuntime CppIndices FrameExchange FrameStream JavaFrame Utf8Text

section Lines
variable {h : Text × Text} {line key value : Text}

theorem colon_index (free : ':' ∉ h.1) :
    (h.1 ++ ':' :: h.2).findIdx? (· = ':') = some h.1.length := by
  have none : h.1.findIdx? (· = ':') = none := by
    rw [List.findIdx?_eq_none_iff]
    intro c member
    exact decide_eq_false fun colon => free (colon ▸ member)
  simp [List.findIdx?_append, List.findIdx?_cons, none]

theorem short_key_read (free : ':' ∉ h.1) (short : h.1.length < 2 ^ 31 - 1)
    (stored : (h.1 ++ ':' :: h.2).length < 2 ^ 63) :
    headerOf (h.1 ++ ':' :: h.2) = .ok h := by
  have behind : (h.1 ++ ':' :: h.2).drop (h.1.length + 1) = h.2 := by
    rw [← List.drop_drop, List.drop_left, List.drop_one, List.tail_cons]
  have whole : h.2.take npos = h.2 := by
    apply List.take_of_length_le
    rw [List.length_append, List.length_cons] at stored
    unfold npos
    omega
  have size : h.1.length + 1 ≤ (h.1 ++ ':' :: h.2).length := by
    rw [List.length_append, List.length_cons]
    omega
  rw [header_of_found (colon_index free), index_kept (by omega), index_kept (by omega),
    substr_within _ size, behind, whole, List.take_left]
  rfl

theorem read_key_short (colon : ':' ∈ line) (stored : line.length < 2 ^ 63)
    (read : headerOf line = .ok (key, value)) (free : ':' ∉ key) : key.length < 2 ^ 31 - 1 := by
  cases found : line.findIdx? (· = ':') with
  | none =>
    have absent := List.findIdx?_eq_none_iff.mp found ':' colon
    simp at absent
  | some p =>
    have fits : (p + 1) % 2 ^ 32 < 2 ^ 31 :=
      (header_of_iff stored).mp ⟨_, read⟩ p found
    rw [header_of_found found] at read
    cases rest : substr line (toSize (toInt (p + 1))) npos with
    | error e =>
      rw [rest] at read
      simp [Except.map] at read
    | ok behind =>
      rw [rest] at read
      simp only [Except.map, Except.ok.injEq, Prod.mk.injEq] at read
      obtain ⟨rfl, rfl⟩ := read
      by_cases low : p % 2 ^ 32 < 2 ^ 31
      · have cut := List.length_take_le (toSize (toInt p)) line
        rw [to_int_small low] at cut
        rw [to_int_small low]
        unfold toSize at cut ⊢
        omega
      · -- the position is 2^32 - 1: the index is -1, and the key is the whole line
        have beyond := index_large (n := p) (by omega)
        rw [List.take_of_length_le (by omega)] at free
        exact absurd colon free

end Lines

section Loop
variable {frameLines T : List Text} {hs : List (Text × Text)} {m m' : OrderedMap Text} {i : Nat}

def readLine (m : OrderedMap Text) (h : Text × Text) : Except CppException (OrderedMap Text) :=
  (headerOf (h.1 ++ ':' :: h.2)).map fun header => insertNew header.1 header.2 m

def readAll (m : OrderedMap Text) (hs : List (Text × Text)) :
    Except CppException (OrderedMap Text) := hs.foldlM readLine m

theorem read_all_error {h : Text × Text} {e : CppException}
    (read : headerOf (h.1 ++ ':' :: h.2) = .error e) : readAll m (h :: hs) = .error e := by
  rw [readAll, List.foldlM_cons, readLine, read]
  rfl

theorem read_all_ok {h header : Text × Text} (read : headerOf (h.1 ++ ':' :: h.2) = .ok header) :
    readAll m (h :: hs) = readAll (insertNew header.1 header.2 m) hs := by
  rw [readAll, List.foldlM_cons, readLine, read]
  rfl

theorem read_from_block (clean : ∀ h ∈ hs, CleanHeader h) {third : Text} (dark : third ≠ [])
    (left : frameLines.drop i =
      ['\n'] :: ((headerTokens hs).map Token.text ++ ['\n'] :: third :: T)) :
    (readFrom frameLines m i).map Prod.fst = readAll m hs := by
  induction hs generalizing i m with
  | nil =>
    have ahead : CppFrame.startsBody (['\n'] :: ['\n'] :: third :: T) = .ok true := by
      simp [CppFrame.startsBody, CppFrame.nulLiteral, dark]
    rw [read_from_body left ahead]
    rfl
  | cons h hs ih =>
    have line : h.1 ++ ':' :: h.2 ≠ ['\n'] := by
      intro same
      exact clean_line (clean h (by simp)) (by simp [same])
    have filled : h.1 ++ ':' :: h.2 ≠ CppFrame.nulLiteral := by simp [CppFrame.nulLiteral]
    have tokens : (headerTokens (h :: hs)).map Token.text =
        (h.1 ++ ':' :: h.2) :: ['\n'] :: (headerTokens hs).map Token.text := by
      simp [headerTokens]
    rw [tokens, List.cons_append] at left
    have skip : CppFrame.startsBody (frameLines.drop i) = .ok false := by
      rw [left]
      simp [CppFrame.startsBody, line]
    have next := (token_here left).2.2
    have header : CppFrame.startsBody (frameLines.drop (i + 1)) = .ok false := by
      rw [next]
      simp [CppFrame.startsBody, line]
    rw [left] at skip
    rw [next] at header
    rw [read_from_skip left skip (by simp), read_from_header next header ⟨line, filled⟩]
    cases read : headerOf (h.1 ++ ':' :: h.2) with
    | error e =>
      rw [read_all_error read]
      rfl
    | ok pair =>
      rw [read_all_ok read]
      exact ih (fun h' member => clean h' (List.mem_cons_of_mem h member)) (token_here next).2.2

theorem of_text_block {command rest : Text} (nonempty : command ≠ []) (free : LineFree command)
    (clean : ∀ h ∈ hs, CleanHeader h) (ends : ∃ c ∈ rest, c ≠ '\n') :
    (ofText (command ++ '\n' :: (headerBlock hs ++ '\n' :: rest))).map
        (fun f => (f.command, f.headers)) =
      (readAll ∅ hs).map fun headers => (command, headers) := by
  cases shape : split rest with
  | nil => exact absurd shape (split_from_ne_nil (Or.inr ends))
  | cons third T =>
    have dark : third.text ≠ [] := token_text_ne_nil (shape ▸ List.mem_cons_self)
    have tokens : CppFrame.split (command ++ '\n' :: (headerBlock hs ++ '\n' :: rest)) =
        command :: ['\n'] :: ((headerTokens hs).map Token.text ++ ['\n'] :: third.text ::
          T.map Token.text) := by
      rw [CppFrame.split_texts, split_block nonempty free clean, shape]
      simp
    have read := read_from_block (m := ∅) (i := 1) (T := T.map Token.text) clean dark
      (congrArg (List.drop 1) tokens)
    unfold ofText
    rw [FrameSplit.cpp_split_eq, ← read]
    have first : tokenAt (CppFrame.split (command ++ '\n' :: (headerBlock hs ++ '\n' :: rest))) 0 =
        .ok command := by rw [tokens, token_first]
    simp only [first]
    cases readFrom (CppFrame.split (command ++ '\n' :: (headerBlock hs ++ '\n' :: rest))) ∅ 1 with
    | error e => rfl
    | ok result =>
      obtain ⟨headers, bodyIndex⟩ := result
      cases bodyIndex with
      | none => rfl
      | some bodyIndex =>
        simp only [body_from_eq]
        rfl

theorem read_all_short (clean : ∀ h ∈ hs, CleanHeader h)
    (short : ∀ h ∈ hs, h.1.length < 2 ^ 31 - 1)
    (stored : ∀ h ∈ hs, (h.1 ++ ':' :: h.2).length < 2 ^ 63) :
    readAll m hs = .ok (insertAllNew m hs) := by
  induction hs generalizing m with
  | nil => rfl
  | cons h hs ih =>
    rw [List.forall_mem_cons] at clean short stored
    rw [read_all_ok (short_key_read clean.1.1 short.1 stored.1)]
    exact ih clean.2 short.2 stored.2

theorem read_all_keys (stored : ∀ h ∈ hs, (h.1 ++ ':' :: h.2).length < 2 ^ 63)
    (read : readAll m hs = .ok m') {key : Text} (found : key ∈ m') (free : ':' ∉ key) :
    key ∈ m ∨ key.length < 2 ^ 31 - 1 := by
  induction hs generalizing m with
  | nil =>
    cases read
    exact Or.inl found
  | cons h hs ih =>
    rw [List.forall_mem_cons] at stored
    cases header : headerOf (h.1 ++ ':' :: h.2) with
    | error e =>
      rw [read_all_error header] at read
      exact absurd read (by simp)
    | ok pair =>
      rw [read_all_ok header] at read
      rcases ih stored.2 read with old | short
      · by_cases known : pair.1 ∈ m
        · rw [insertNew, if_pos known] at old
          exact Or.inl old
        · rw [insertNew, if_neg known, AList.mem_insert] at old
          rcases old with rfl | old
          · exact Or.inr (read_key_short (by simp) stored.1 header free)
          · exact Or.inl old
      · exact Or.inr short

end Loop

section Values
variable {hs : List (Text × Text)} {m : HashMap Text Text} {keys : List Text} {k : Text}

def firstValue (k : Text) (hs : List (Text × Text)) : Option Text :=
  (hs.find? (·.1 = k)).map Prod.snd

def lastValue (k : Text) (hs : List (Text × Text)) : Option Text := firstValue k hs.reverse

theorem insert_all_last (m : HashMap Text Text) (k : Text) (hs : List (Text × Text)) :
    (insertAll m hs).lookup k = (lastValue k hs).or (m.lookup k) := by
  induction hs generalizing m with
  | nil => rfl
  | cons h hs ih =>
    have tail := ih (m.insert h.1 h.2)
    simp only [insertAll, List.foldl_cons] at tail ⊢
    rw [tail]
    simp only [lastValue, firstValue, List.reverse_cons, List.find?_append, List.find?_singleton]
    cases later : hs.reverse.find? (·.1 = k) with
    | some found => simp
    | none =>
      by_cases here : h.1 = k
      · subst here
        simp [AList.lookup_insert]
      · simp [here, AList.lookup_insert_ne (Ne.symm here)]

theorem insert_all_new_first (m : OrderedMap Text) (k : Text) (hs : List (Text × Text)) :
    (insertAllNew m hs).lookup k = (m.lookup k).or (firstValue k hs) := by
  induction hs generalizing m with
  | nil => simp [insertAllNew, firstValue]
  | cons h hs ih =>
    have tail := ih (insertNew h.1 h.2 m)
    simp only [insertAllNew, List.foldl_cons] at tail ⊢
    rw [tail]
    by_cases here : h.1 = k
    · subst here
      by_cases known : h.1 ∈ m
      · obtain ⟨v, found⟩ := Option.isSome_iff_exists.mp (AList.lookup_isSome.mpr known)
        simp [insertNew, known, found]
      · rw [insert_new_lookup known, AList.lookup_eq_none.mpr known]
        simp [firstValue]
    · rw [insert_new_lookup_ne (Ne.symm here)]
      simp [firstValue, here]

theorem first_value_list (same : ∀ k, k ∈ keys ↔ k ∈ m) :
    firstValue k (headerList keys m) = m.lookup k := by
  have new := insert_all_new_first ∅ k (headerList keys m)
  rw [AList.lookup_empty, Option.none_or, headerList, insert_all_new_lookup,
    if_neg (AList.notMem_empty k), lookup_of_keys same] at new
  exact new.symm

theorem first_value_known {h : Text × Text} (member : h ∈ hs) : (firstValue h.1 hs).isSome := by
  unfold firstValue
  rw [Option.isSome_map, List.find?_isSome]
  exact ⟨h, member, by simp⟩

end Values

section Bytes
variable {h : Text × Text} {hs hs' : List (Text × Text)} {k : Text} {m : HashMap Text Text}

def octetsHeader (h : Text × Text) : Text × Text := (octets h.1, octets h.2)

/-- The client's map with these headers: a string of the client holds bytes. -/
def cppHeaders (m : HashMap Text Text) : OrderedMap Text :=
  insertAllNew ∅ ((headerList m.keys m).map octetsHeader)

theorem octets_line_free : LineFree (octets k) ↔ LineFree k :=
  not_congr (ascii_in_octets (by decide))

theorem octets_colon_free : ':' ∉ octets k ↔ ':' ∉ k := not_congr (ascii_in_octets (by decide))

theorem clean_octets (clean : ∀ h ∈ hs, CleanHeader h) :
    ∀ h ∈ hs.map octetsHeader, CleanHeader h := by
  intro h member
  obtain ⟨written, found, rfl⟩ := List.mem_map.mp member
  obtain ⟨colon, key, value⟩ := clean written found
  exact ⟨octets_colon_free.mpr colon, octets_line_free.mpr key, octets_line_free.mpr value⟩

theorem octets_block (hs : List (Text × Text)) :
    octets (headerBlock hs) = headerBlock (hs.map octetsHeader) := by
  have colon : octets [':'] = [':'] := by decide
  have newline : octets ['\n'] = ['\n'] := by decide
  induction hs with
  | nil => rfl
  | cons h hs ih =>
    simp only [headerBlock, List.flatMap_cons, List.map_cons, octets_append] at ih ⊢
    rw [ih, headerLine, octets_append, octets_append, octets_cons ':', colon, newline]
    rfl

theorem octets_frame (command rest : Text) (hs : List (Text × Text)) :
    octets (command ++ '\n' :: (headerBlock hs ++ '\n' :: rest)) =
      octets command ++ '\n' :: (headerBlock (hs.map octetsHeader) ++ '\n' :: octets rest) := by
  have newline : octets ['\n'] = ['\n'] := by decide
  rw [octets_append, octets_cons '\n', octets_append, octets_cons '\n' rest, octets_block, newline]
  rfl

theorem first_value_octets (k : Text) (hs : List (Text × Text)) :
    firstValue (octets k) (hs.map octetsHeader) = (firstValue k hs).map octets := by
  induction hs with
  | nil => rfl
  | cons h hs ih =>
    by_cases here : h.1 = k
    · simp [firstValue, octetsHeader, here]
    · have other : octets h.1 ≠ octets k := fun same => here (octets_injective same)
      simpa [firstValue, octetsHeader, here, other] using ih

theorem first_value_absent {key : Text} (absent : ∀ k, key ≠ octets k) :
    firstValue key (hs.map octetsHeader) = none := by
  simp only [firstValue, Option.map_eq_none_iff, List.find?_eq_none, List.mem_map]
  rintro _ ⟨h, _, rfl⟩ same
  exact absent h.1 (of_decide_eq_true same).symm

theorem read_headers_lookup (key : Text) :
    (insertAllNew ∅ (hs.map octetsHeader)).lookup key = firstValue key (hs.map octetsHeader) := by
  rw [insert_all_new_first, AList.lookup_empty, Option.none_or]

theorem cpp_headers_lookup (m : HashMap Text Text) (key : Text) :
    (cppHeaders m).lookup key = firstValue key ((headerList m.keys m).map octetsHeader) :=
  read_headers_lookup key

theorem cpp_headers_octets (m : HashMap Text Text) (k : Text) :
    (cppHeaders m).lookup (octets k) = (m.lookup k).map octets := by
  rw [cpp_headers_lookup, first_value_octets, first_value_list fun k => AList.mem_keys]

theorem cpp_headers_key {key : Text} (known : key ∈ cppHeaders m) : ∃ k ∈ m, key = octets k := by
  by_contra none
  push Not at none
  have found := AList.lookup_isSome.mpr known
  by_cases image : ∃ k, key = octets k
  · obtain ⟨k, rfl⟩ := image
    rw [cpp_headers_octets, Option.isSome_map, AList.lookup_isSome] at found
    exact none k found rfl
  · push Not at image
    rw [cpp_headers_lookup, first_value_absent image] at found
    exact absurd found (by simp)

/-- The bytes of the headers that were read are those of a map exactly when the first line of
    every header carries the map's value. -/
theorem same_headers_iff :
    (∀ key, (insertAllNew ∅ (hs.map octetsHeader)).lookup key = (cppHeaders m).lookup key) ↔
      ∀ k, firstValue k hs = m.lookup k := by
  constructor
  · intro same k
    have here := same (octets k)
    rw [read_headers_lookup, first_value_octets, cpp_headers_octets] at here
    exact Option.map_injective octets_injective here
  · intro same key
    by_cases image : ∃ k, key = octets k
    · obtain ⟨k, rfl⟩ := image
      rw [read_headers_lookup, first_value_octets, cpp_headers_octets, same]
    · push Not at image
      rw [read_headers_lookup, cpp_headers_lookup, first_value_absent image,
        first_value_absent image]

end Bytes

end HeaderPositions
