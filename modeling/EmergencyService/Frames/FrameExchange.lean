import EmergencyService.Frames.CppFrame

/- What one side writes, the other side reads: both constructors on the text of a command,
   a block of header lines and whatever follows the blank line. -/
namespace FrameExchange
open JavaRuntime CppRuntime JavaFrame

def headerBlock (hs : List (Text × Text)) : Text := hs.flatMap fun h => headerLine h.1 h.2

def headerTokens (hs : List (Text × Text)) : List Token :=
  hs.flatMap fun h => [.part (h.1 ++ ':' :: h.2), .newline]

def CleanHeader (h : Text × Text) : Prop := ':' ∉ h.1 ∧ LineFree h.1 ∧ LineFree h.2

/-- The text that a constructor glues together from the tokens of `rest`. -/
def glued (rest : Text) : Text := (split rest).flatMap Token.text

def insertAll (m : HashMap Text Text) (hs : List (Text × Text)) : HashMap Text Text :=
  hs.foldl (fun m h => m.insert h.1 h.2) m

def insertAllNew (m : OrderedMap Text) (hs : List (Text × Text)) : OrderedMap Text :=
  hs.foldl (fun m h => insertNew h.1 h.2 m) m

theorem clean_line {h : Text × Text} (clean : CleanHeader h) :
    LineFree (h.1 ++ ':' :: h.2) := by
  obtain ⟨_, key, value⟩ := clean
  simp only [LineFree, List.mem_append, List.mem_cons, not_or]
  exact ⟨key, by decide, value⟩

theorem split_block {command : Text} {hs : List (Text × Text)} (nonempty : command ≠ [])
    (free : LineFree command) (clean : ∀ h ∈ hs, CleanHeader h) (rest : Text) :
    split (command ++ '\n' :: (headerBlock hs ++ '\n' :: rest)) =
      .part command :: .newline :: (headerTokens hs ++ .newline :: split rest) := by
  induction hs generalizing command with
  | nil => simp [headerBlock, headerTokens, split_line nonempty free]
  | cons h hs ih =>
    have first := clean h (by simp)
    have tail : ∀ h' ∈ hs, CleanHeader h' := fun h' m => clean h' (List.mem_cons_of_mem h m)
    have line := ih (show h.1 ++ ':' :: h.2 ≠ [] by simp) (clean_line first) tail
    have start : (headerLine h.1 h.2 ++ (headerBlock hs ++ '\n' :: rest)).head? ≠ some '\n' := by
      obtain ⟨_, key, _⟩ := first
      cases shape : h.1 with
      | nil => simp [headerLine]
      | cons c cs =>
        have dark : c ≠ '\n' := fun eq => key (by simp [shape, eq])
        simpa [headerLine] using dark
    have unfolded : headerBlock (h :: hs) ++ '\n' :: rest =
        headerLine h.1 h.2 ++ (headerBlock hs ++ '\n' :: rest) := by
      simp [headerBlock]
    have regrouped : headerLine h.1 h.2 ++ (headerBlock hs ++ '\n' :: rest) =
        (h.1 ++ ':' :: h.2) ++ '\n' :: (headerBlock hs ++ '\n' :: rest) := by
      simp [headerLine]
    rw [unfolded, split_line nonempty free, if_neg start, regrouped, line]
    simp [headerTokens]

theorem java_read_block {hs : List (Text × Text)} (clean : ∀ h ∈ hs, CleanHeader h)
    (m : HashMap Text Text) (T : List Token) :
    JavaFrame.readLines m (.newline :: (headerTokens hs ++ .newline :: T)) =
      .ok (insertAll m hs, T) := by
  induction hs generalizing m with
  | nil => cases T <;> simp [headerTokens, insertAll, JavaFrame.readLines]
  | cons h hs ih =>
    have cut := cut_at_header (clean h (by simp)).1 h.2
    have tail := ih (fun h' member => clean h' (List.mem_cons_of_mem h member))
      (m.insert h.1 h.2)
    simpa [headerTokens, insertAll, JavaFrame.readLines, cut] using tail

theorem cpp_read_block {hs : List (Text × Text)} (clean : ∀ h ∈ hs, CleanHeader h)
    (m : OrderedMap Text) {third : Text} (dark : third ≠ []) (T : List Text) :
    CppFrame.readLines m
        (['\n'] :: ((headerTokens hs).map Token.text ++ ['\n'] :: third :: T)) =
      .ok (insertAllNew m hs, third :: T) := by
  induction hs generalizing m with
  | nil =>
    simp [headerTokens, insertAllNew, CppFrame.readLines, CppFrame.startsBody,
      CppFrame.nulLiteral, dark]
  | cons h hs ih =>
    have cut := cut_at_header (clean h (by simp)).1 h.2
    have line : h.1 ++ ':' :: h.2 ≠ ['\n'] := by
      intro eq
      exact clean_line (clean h (by simp)) (by simp [eq])
    have tail := ih (fun h' member => clean h' (List.mem_cons_of_mem h member))
      (insertNew h.1 h.2 m)
    have header : CppFrame.headerOf (h.1 ++ ':' :: h.2) = h := by
      simp [CppFrame.headerOf, cut]
    simpa [headerTokens, insertAllNew, CppFrame.readLines, CppFrame.startsBody,
      CppFrame.nulLiteral, line, header] using tail

theorem java_parse_block {command : Text} {hs : List (Text × Text)} (nonempty : command ≠ [])
    (free : LineFree command) (clean : ∀ h ∈ hs, CleanHeader h) (rest : Text) :
    JavaFrame.StompFrame.ofText (command ++ '\n' :: (headerBlock hs ++ '\n' :: rest)) =
      .ok ⟨command, insertAll ∅ hs, glued rest⟩ := by
  simp only [JavaFrame.StompFrame.ofText, split_block nonempty free clean,
    java_read_block clean, text_part, glued]

theorem cpp_parse_block {command : Text} {hs : List (Text × Text)} (nonempty : command ≠ [])
    (free : LineFree command) (clean : ∀ h ∈ hs, CleanHeader h) {rest : Text}
    (ends : ∃ c ∈ rest, c ≠ '\n') :
    CppFrame.StompFrame.ofText (command ++ '\n' :: (headerBlock hs ++ '\n' :: rest)) =
      .ok ⟨command, insertAllNew ∅ hs, glued rest⟩ := by
  have tokens : ∀ t ∈ split rest, t.text ≠ [] := fun t m => token_text_ne_nil m
  have kept : ((split rest).map Token.text).filter (· ≠ CppFrame.nulLiteral) =
      (split rest).map Token.text := by
    rw [List.filter_eq_self]
    intro t member
    obtain ⟨token, here, rfl⟩ := List.mem_map.mp member
    exact decide_eq_true (tokens token here)
  cases shape : split rest with
  | nil => exact absurd shape (split_from_ne_nil (Or.inr ends))
  | cons third T =>
    have dark := tokens third (by simp [shape])
    simp only [shape, List.map_cons] at kept
    simp only [CppFrame.StompFrame.ofText, CppFrame.split_texts,
      split_block nonempty free clean, shape, List.map_cons, List.map_append, text_newline,
      text_part, cpp_read_block clean ∅ dark, kept]
    simp [glued, shape, List.flatMap_def]

theorem insert_all_lookup (keys : List Text) (value : Text → Text) (m : HashMap Text Text)
    (k : Text) :
    (insertAll m (keys.map fun key => (key, value key))).lookup k =
      if k ∈ keys then some (value k) else m.lookup k := by
  induction keys generalizing m with
  | nil => simp [insertAll]
  | cons key keys ih =>
    have tail := ih (m.insert key (value key))
    simp only [insertAll, List.map_cons, List.foldl_cons, List.mem_cons] at tail ⊢
    rw [tail]
    by_cases later : k ∈ keys
    · simp [later]
    · by_cases here : k = key
      · subst here; simp [later, AList.lookup_insert]
      · simp [later, here, AList.lookup_insert_ne here]

theorem insert_all_new_lookup (keys : List Text) (value : Text → Text) (m : OrderedMap Text)
    (k : Text) :
    (insertAllNew m (keys.map fun key => (key, value key))).lookup k =
      if k ∈ m then m.lookup k else if k ∈ keys then some (value k) else none := by
  induction keys generalizing m with
  | nil =>
    by_cases known : k ∈ m
    · simp [insertAllNew, known]
    · simp [insertAllNew, known, AList.lookup_eq_none.mpr known]
  | cons key keys ih =>
    have tail := ih (insertNew key (value key) m)
    simp only [insertAllNew, List.map_cons, List.foldl_cons, List.mem_cons] at tail ⊢
    rw [tail]
    by_cases present : key ∈ m
    · by_cases here : k = key
      · subst here; simp [insertNew, present]
      · simp [insertNew, present, here]
    · by_cases here : k = key
      · subst here
        simp [insertNew, present, AList.mem_insert, AList.lookup_insert]
      · simp [insertNew, present, here, AList.mem_insert, AList.lookup_insert_ne here]

def CleanHeaders (m : HashMap Text Text) : Prop :=
  ∀ k v, m.lookup k = some v → CleanHeader (k, v)

def headerList (keys : List Text) (m : HashMap Text Text) : List (Text × Text) :=
  keys.map fun key => (key, (m.lookup key).getD [])

theorem header_list_clean {m : HashMap Text Text} (clean : CleanHeaders m) {keys : List Text}
    (known : ∀ k ∈ keys, k ∈ m) : ∀ h ∈ headerList keys m, CleanHeader h := by
  intro h member
  obtain ⟨key, here, rfl⟩ := List.mem_map.mp member
  obtain ⟨v, found⟩ := Option.isSome_iff_exists.mp (AList.lookup_isSome.mpr (known key here))
  simpa [found] using clean key v found

theorem lookup_of_keys {m : HashMap Text Text} {keys : List Text}
    (same : ∀ k, k ∈ keys ↔ k ∈ m) (k : Text) :
    (if k ∈ keys then some ((m.lookup k).getD []) else none) = m.lookup k := by
  by_cases known : k ∈ m
  · obtain ⟨v, found⟩ := Option.isSome_iff_exists.mp (AList.lookup_isSome.mpr known)
    simp [(same k).mpr known, found]
  · simp [(same k).not.mpr known, AList.lookup_eq_none.mpr known]

/-- What `createFrame` writes after the blank line. -/
def bodyText (body : Text) : Text := if body = [] then [] else body ++ ['\n']

theorem java_frame_text (o : IterationOrder Text) (f : JavaFrame.StompFrame) :
    f.createFrame o = f.command ++ '\n' ::
      (headerBlock (headerList (o.order f.headers.keys) f.headers) ++ '\n' ::
        bodyText f.body) := by
  simp [JavaFrame.StompFrame.createFrame, headerBlock, headerList, bodyText,
    List.flatMap_map]

theorem cpp_frame_text (f : CppFrame.StompFrame) :
    f.createFrame = f.command ++ '\n' ::
      (headerBlock (headerList (sortedKeys f.headers) f.headers) ++ '\n' ::
        '\n' :: bodyText f.body) := by
  simp [CppFrame.StompFrame.createFrame, headerBlock, headerList, headerLine, bodyText,
    List.flatMap_map]

theorem iterated_keys (o : IterationOrder Text) (m : HashMap Text Text) (k : Text) :
    k ∈ o.order m.keys ↔ k ∈ m := by
  rw [IterationOrder.mem_order, AList.mem_keys]

theorem sorted_keys_mem (m : OrderedMap Text) (k : Text) : k ∈ sortedKeys m ↔ k ∈ m := by
  rw [(sorted_keys_perm m).mem_iff, AList.mem_keys]

theorem java_reads_java (o : IterationOrder Text) {f : JavaFrame.StompFrame}
    (nonempty : f.command ≠ []) (free : LineFree f.command) (clean : CleanHeaders f.headers) :
    ∃ headers, JavaFrame.StompFrame.ofText (f.createFrame o) =
        .ok ⟨f.command, headers, glued (bodyText f.body)⟩ ∧
      ∀ k, headers.lookup k = f.headers.lookup k := by
  have known : ∀ k ∈ o.order f.headers.keys, k ∈ f.headers :=
    fun k => (iterated_keys o f.headers k).mp
  refine ⟨insertAll ∅ (headerList (o.order f.headers.keys) f.headers), ?_, fun k => ?_⟩
  · rw [java_frame_text]
    exact java_parse_block nonempty free (header_list_clean clean known) _
  · rw [headerList, insert_all_lookup, AList.lookup_empty]
    exact lookup_of_keys (iterated_keys o f.headers) k

theorem cpp_reads_java (o : IterationOrder Text) {f : JavaFrame.StompFrame}
    (nonempty : f.command ≠ []) (free : LineFree f.command) (clean : CleanHeaders f.headers) :
    ∃ headers, CppFrame.StompFrame.ofText (f.createFrame o ++ ['\x00']) =
        .ok ⟨f.command, headers, glued (bodyText f.body ++ ['\x00'])⟩ ∧
      ∀ k, headers.lookup k = f.headers.lookup k := by
  have known : ∀ k ∈ o.order f.headers.keys, k ∈ f.headers :=
    fun k => (iterated_keys o f.headers k).mp
  have text : f.createFrame o ++ ['\x00'] = f.command ++ '\n' ::
      (headerBlock (headerList (o.order f.headers.keys) f.headers) ++ '\n' ::
        (bodyText f.body ++ ['\x00'])) := by
    rw [java_frame_text]; simp
  refine ⟨insertAllNew ∅ (headerList (o.order f.headers.keys) f.headers), ?_, fun k => ?_⟩
  · rw [text]
    exact cpp_parse_block nonempty free (header_list_clean clean known)
      ⟨'\x00', by simp, by decide⟩
  · rw [headerList, insert_all_new_lookup]
    simpa using lookup_of_keys (iterated_keys o f.headers) k

theorem java_reads_cpp {f : CppFrame.StompFrame} (nonempty : f.command ≠ [])
    (free : LineFree f.command) (clean : CleanHeaders f.headers) :
    ∃ headers, JavaFrame.StompFrame.ofText f.createFrame =
        .ok ⟨f.command, headers, glued (bodyText f.body)⟩ ∧
      ∀ k, headers.lookup k = f.headers.lookup k := by
  have known : ∀ k ∈ sortedKeys f.headers, k ∈ f.headers :=
    fun k => (sorted_keys_mem f.headers k).mp
  refine ⟨insertAll ∅ (headerList (sortedKeys f.headers) f.headers), ?_, fun k => ?_⟩
  · rw [cpp_frame_text, java_parse_block nonempty free (header_list_clean clean known)]
    simp only [glued, split_skip]
  · rw [headerList, insert_all_lookup, AList.lookup_empty]
    exact lookup_of_keys (sorted_keys_mem f.headers) k

theorem entry_insert {P : Text → Text → Prop} {m : HashMap Text Text} {header value : Text}
    (old : ∀ k v, m.lookup k = some v → P k v) (new : P header value) :
    ∀ k v, (m.insert header value).lookup k = some v → P k v := by
  intro k v found
  by_cases same : k = header
  · subst same
    rw [AList.lookup_insert, Option.some.injEq] at found
    rwa [← found]
  · rw [AList.lookup_insert_ne same] at found
    exact old k v found

theorem clean_insert {m : HashMap Text Text} (clean : CleanHeaders m) {header value : Text}
    (h : CleanHeader (header, value)) : CleanHeaders (m.insert header value) :=
  entry_insert clean h

theorem read_lines_clean {m m' : HashMap Text Text} {tokens body : List Token}
    (free : ∀ t, .part t ∈ tokens → LineFree t) (clean : CleanHeaders m)
    (read : JavaFrame.readLines m tokens = .ok (m', body)) : CleanHeaders m' := by
  induction m, tokens using JavaFrame.readLines.induct with
  | case1 m next rest =>
    simp only [JavaFrame.readLines, Except.ok.injEq, Prod.mk.injEq] at read
    exact read.1 ▸ clean
  | case2 m rest _ ih =>
    rw [JavaFrame.readLines] at read
    · exact ih (fun t h => free t (List.mem_cons_of_mem _ h)) clean read
    · assumption
  | case3 m line rest bad =>
    simp [JavaFrame.readLines, bad] at read
  | case4 m line rest header value cut ih =>
    simp only [JavaFrame.readLines, cut] at read
    obtain ⟨rfl, colon⟩ := cut_at_some cut
    have line := free _ (List.mem_cons_self ..)
    simp only [LineFree, List.mem_append, List.mem_cons, not_or] at line
    exact ih (fun t h => free t (List.mem_cons_of_mem _ h))
      (clean_insert clean ⟨colon, line.1, line.2.2⟩) read
  | case5 m =>
    simp only [JavaFrame.readLines, Except.ok.injEq, Prod.mk.injEq] at read
    exact read.1 ▸ clean

theorem parsed_headers_clean {frame : Text} {f : JavaFrame.StompFrame}
    (parsed : JavaFrame.StompFrame.ofText frame = .ok f) : CleanHeaders f.headers := by
  have free : ∀ t, Token.part t ∈ split frame → LineFree t := by
    intro t member
    rcases split_token (by simp [LineFree]) _ member with eq | ⟨t', eq, _, free⟩
    · cases eq
    · cases eq; exact free
  unfold JavaFrame.StompFrame.ofText at parsed
  split at parsed
  · cases parsed
  · rename_i command lines shape
    split at parsed
    · cases parsed
    · rename_i headers body read
      cases parsed
      refine read_lines_clean (fun t h => free t ?_) ?_ read
      · simp [shape, h]
      · intro k v found; simp at found

end FrameExchange
