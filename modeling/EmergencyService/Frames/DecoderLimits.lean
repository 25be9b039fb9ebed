import EmergencyService.Frames.FrameBytes

/- What the server's decoder can have been given when it has answered: every zero byte ends a
   message, and the array has doubled up to a gigabyte. -/
namespace DecoderLimits
open JavaRuntime Utf8Text FrameStream FrameBytes FrameEncoderDecoder
open ConnectionHandler (written written_short)

section Array
variable {d d' : FrameEncoderDecoder} {seen : Bytes}

/-- A decoder that holds what it has been given, in an array that has only doubled. -/
structure Fed (d : FrameEncoderDecoder) (seen : Bytes) : Prop extends Holds d seen where
  doubled : ∃ k ≤ 30, d.bytes.length = 2 ^ k

theorem fed_initial : Fed initial [] where
  toHolds := holds_initial
  doubled := ⟨10, by decide, List.length_replicate⟩

theorem fed_length (fed : Fed d seen) : seen.length ≤ 2 ^ 30 := by
  obtain ⟨k, small, size⟩ := fed.doubled
  have room := fed.room
  have top : 2 ^ k ≤ 2 ^ 30 := Nat.pow_le_pow_right (by decide) small
  rw [← fed.len]
  omega

theorem copy_of_length {original bytes : Bytes} {newLength : Int}
    (copied : copyOf original newLength = .ok bytes) :
    0 ≤ newLength ∧ bytes.length = newLength.toNat := by
  unfold copyOf at copied
  split at copied
  · cases copied
  · cases copied
    constructor
    · omega
    · rw [List.length_take, List.length_append, List.length_replicate]
      omega

theorem doubled_length {k : Nat} (small : k ≤ 30) (nonneg : 0 ≤ wrapInt ((2 ^ k : Nat) * 2)) :
    k < 30 ∧ (wrapInt ((2 ^ k : Nat) * 2)).toNat = 2 ^ (k + 1) := by
  by_cases last : k = 30
  · subst last
    exact absurd nonneg (by decide)
  · have below : k < 30 := by omega
    have half : 2 ^ (k + 1) ≤ 2 ^ 30 := Nat.pow_le_pow_right (by decide) below
    rw [Nat.pow_succ] at half
    rw [Nat.pow_succ]
    generalize 2 ^ k = length at half ⊢
    have range : IntRange (length * 2) := ⟨by omega, by omega⟩
    rw [wrap_int_range range]
    omega

theorem grown_fed (fed : Fed d seen) (enough : d.grown = .ok d') : Fed d' seen := by
  obtain ⟨k, small, size⟩ := fed.doubled
  have same := enough
  unfold grown at enough
  split at enough
  · rename_i full
    have length : d.len = 2 ^ k := by
      have room := fed.room
      omega
    split at enough
    · cases enough
    · rename_i bytes copied
      obtain ⟨nonneg, longer⟩ := copy_of_length copied
      rw [length] at nonneg longer
      obtain ⟨below, doubled⟩ := doubled_length small nonneg
      have short : seen.length < 2 ^ 30 := by
        rw [← fed.len, length]
        exact Nat.pow_lt_pow_right (by decide) below
      obtain ⟨next, grew, holds, _⟩ := grown_holds fed.toHolds short
      obtain rfl := Except.ok.inj (grew.symm.trans same)
      cases enough
      exact ⟨holds, k + 1, below, longer.trans doubled⟩
  · cases enough
    exact fed

end Array

section Decoding
variable {d d' : FrameEncoderDecoder} {seen bs rest : Bytes} {messages : List Text}

theorem fed_push {b : UInt8} (fed : Fed d seen) (pushed : d.pushByte b = .ok d') :
    Fed d' (seen ++ [b]) := by
  unfold pushByte at pushed
  split at pushed
  · cases pushed
  · rename_i grown enough
    have kept := grown_fed fed enough
    split at pushed
    · rename_i free
      cases pushed
      constructor
      · exact holds_set kept.toHolds free b
      · obtain ⟨k, small, size⟩ := kept.doubled
        exact ⟨k, small, List.length_set.trans size⟩
    · cases pushed

theorem fed_next {b : UInt8} {completed : Option Text} (fed : Fed d seen)
    (decoded : d.decodeNextByte b = .ok (d', completed)) :
    if b = 0 then completed = some (decodeUtf8 seen) ∧ Fed d' []
    else completed = none ∧ Fed d' (seen ++ [b]) := by
  unfold FrameEncoderDecoder.decodeNextByte at decoded
  by_cases zero : b = 0
  · rw [if_pos zero] at decoded ⊢
    cases decoded
    constructor
    · rw [← fed.held]
      rfl
    · exact ⟨⟨rfl, Nat.zero_le _, fed.capacity, rfl⟩, fed.doubled⟩
  · rw [if_neg zero] at decoded ⊢
    split at decoded
    · cases decoded
    · rename_i pushed
      cases decoded
      exact ⟨rfl, fed_push fed pushed⟩

theorem decode_cons {b : UInt8} (decoded : d.decodeBytes (b :: bs) = .ok (d', messages)) :
    ∃ next completed later, d.decodeNextByte b = .ok (next, completed) ∧
      next.decodeBytes bs = .ok (d', later) ∧ messages = completed.toList ++ later := by
  unfold decodeBytes at decoded
  split at decoded
  · cases decoded
  · rename_i next completed first
    split at decoded
    · cases decoded
    · rename_i later last
      cases decoded
      exact ⟨next, completed, _, first, last, rfl⟩

theorem decode_append (decoded : d.decodeBytes (bs ++ rest) = .ok (d', messages)) :
    ∃ next first later, d.decodeBytes bs = .ok (next, first) ∧
      next.decodeBytes rest = .ok (d', later) ∧ messages = first ++ later := by
  rw [decode_bytes_append] at decoded
  split at decoded
  · cases decoded
  · rename_i next first begun
    split at decoded
    · cases decoded
    · rename_i later last
      cases decoded
      exact ⟨next, first, _, begun, last, rfl⟩

theorem fed_decoded (fed : Fed d seen) (decoded : d.decodeBytes bs = .ok (d', messages)) :
    ∃ seen', Fed d' seen' := by
  induction bs generalizing d seen messages with
  | nil =>
    cases decoded
    exact ⟨seen, fed⟩
  | cons b bs ih =>
    obtain ⟨next, completed, later, first, last, _⟩ := decode_cons decoded
    have kept := fed_next fed first
    split at kept
    · exact ih kept.2 last
    · exact ih kept.2 last

theorem decoded_count (fed : Fed d seen) (decoded : d.decodeBytes bs = .ok (d', messages)) :
    messages.length = bs.count 0 := by
  induction bs generalizing d seen messages with
  | nil =>
    cases decoded
    rfl
  | cons b bs ih =>
    obtain ⟨next, completed, later, first, last, rfl⟩ := decode_cons decoded
    have kept := fed_next fed first
    split at kept
    · rename_i zero
      rw [kept.1, List.length_append, ih kept.2 last, zero, List.count_cons_self]
      exact Nat.add_comm ..
    · rename_i dark
      rw [kept.1, List.length_append, ih kept.2 last, List.count_cons_of_ne dark]
      exact Nat.zero_add _

theorem decoded_dark (fed : Fed d seen) (dark : 0 ∉ bs)
    (decoded : d.decodeBytes bs = .ok (d', messages)) : messages = [] ∧ Fed d' (seen ++ bs) := by
  induction bs generalizing d seen messages with
  | nil =>
    cases decoded
    rw [List.append_nil]
    exact ⟨rfl, fed⟩
  | cons b bs ih =>
    obtain ⟨next, completed, later, first, last, rfl⟩ := decode_cons decoded
    have kept := fed_next fed first
    rw [if_neg fun zero => dark (by simp [zero])] at kept
    obtain ⟨none', held⟩ := ih kept.2 (fun here => dark (List.mem_cons_of_mem b here)) last
    rw [kept.1, none']
    exact ⟨rfl, by simpa using held⟩

theorem decoded_terminated (fed : Fed d []) (dark : 0 ∉ bs)
    (decoded : d.decodeBytes (bs ++ [0]) = .ok (d', messages)) :
    messages = [decodeUtf8 bs] ∧ Fed d' [] ∧ bs.length ≤ 2 ^ 30 := by
  obtain ⟨next, first, later, begun, ended, rfl⟩ := decode_append decoded
  obtain ⟨rfl, held⟩ := decoded_dark fed dark begun
  obtain ⟨last, completed, none', popped, finished, rfl⟩ := decode_cons ended
  have kept := fed_next held popped
  rw [if_pos rfl] at kept
  cases finished
  exact ⟨by simp [kept.1], kept.2, fed_length held⟩

end Decoding

section Frames
variable {d d' : FrameEncoderDecoder} {frames : List Bytes} {messages : List Text}

theorem frames_finished (frames : List Bytes)
    (decoded : initial.decodeBytes (frames.flatMap (· ++ [0])) = .ok (d, messages)) :
    Fed d [] := by
  rcases List.eq_nil_or_concat frames with rfl | ⟨front, f, rfl⟩
  · cases decoded
    exact fed_initial
  · rw [List.concat_eq_append, List.flatMap_append, List.flatMap_singleton,
      ← List.append_assoc] at decoded
    obtain ⟨next, first, later, begun, ended, _⟩ := decode_append decoded
    obtain ⟨seen, held⟩ := fed_decoded fed_initial begun
    obtain ⟨last, completed, none', popped, finished, _⟩ := decode_cons ended
    have kept := fed_next held popped
    rw [if_pos rfl] at kept
    cases finished
    exact kept.2

theorem frames_dark (few : (frames.flatMap (· ++ [0])).count 0 ≤ frames.length) :
    ∀ f ∈ frames, (0 : UInt8) ∉ f := by
  have many : ∀ frames : List Bytes, frames.length ≤ (frames.flatMap (· ++ [0])).count 0 := by
    intro frames
    induction frames with
    | nil => exact Nat.zero_le _
    | cons f frames ih =>
      rw [List.flatMap_cons, List.count_append, List.count_append, List.length_cons]
      have one : ([0] : Bytes).count 0 = 1 := rfl
      omega
  induction frames with
  | nil => nofun
  | cons f frames ih =>
    have later := many frames
    have one : ([0] : Bytes).count 0 = 1 := rfl
    rw [List.flatMap_cons, List.count_append, List.count_append, List.length_cons] at few
    rw [List.forall_mem_cons]
    constructor
    · exact List.count_eq_zero.mp (by omega)
    · exact ih (by omega)

theorem decoded_frames (fed : Fed d []) (dark : ∀ f ∈ frames, (0 : UInt8) ∉ f)
    (decoded : d.decodeBytes (frames.flatMap (· ++ [0])) = .ok (d', messages)) :
    messages = frames.map decodeUtf8 ∧ ∀ f ∈ frames, f.length ≤ 2 ^ 30 := by
  induction frames generalizing d messages with
  | nil =>
    cases decoded
    exact ⟨rfl, nofun⟩
  | cons f frames ih =>
    rw [List.forall_mem_cons] at dark
    rw [List.flatMap_cons] at decoded
    obtain ⟨next, first, later, begun, rest, rfl⟩ := decode_append decoded
    obtain ⟨rfl, kept, small⟩ := decoded_terminated fed dark.1 begun
    obtain ⟨rfl, others⟩ := ih kept dark.2 rest
    exact ⟨rfl, List.forall_mem_cons.mpr ⟨small, others⟩⟩

theorem text_kept {t : Text} (small : (written (utf8 t)).length ≤ 2 ^ 30)
    (same : decodeUtf8 (written (utf8 t)) = t) : (utf8 t).length < 2 ^ 31 := by
  have bound := decoded_length_le (written (utf8 t))
  rw [same] at bound
  by_contra long
  have top : (utf8 t).length ≤ 2 ^ 32 := by omega
  have lost : (wrapInt (utf8 t).length).toNat = 0 := by
    unfold wrapInt
    rw [Int.bmod_def]
    split <;> omega
  unfold written at bound
  rw [lost, List.take_zero, List.length_nil] at bound
  omega

theorem each_returned {A B : Type} {there : A → B} {back : B → A} {xs : List A}
    (same : xs = (xs.map there).map back) : ∀ x ∈ xs, back (there x) = x := by
  rw [List.map_map] at same
  exact List.map_inj_left.mp (same.symm.trans (List.map_id xs).symm)

theorem whole_of_decoded (fed : Fed d []) {texts : List Text}
    (decoded : d.decodeBytes ((texts.map utf8).flatMap (written · ++ [0])) = .ok (d', texts)) :
    ∀ t ∈ texts, NulFree t ∧ (utf8 t).length ≤ 2 ^ 30 := by
  have pieces : (texts.map utf8).flatMap (written · ++ [0]) =
      (texts.map fun t => written (utf8 t)).flatMap (· ++ [0]) := by
    rw [List.flatMap_map, List.flatMap_map]
  rw [pieces] at decoded
  have few := decoded_count fed decoded
  have dark : ∀ f ∈ texts.map fun t => written (utf8 t), (0 : UInt8) ∉ f := by
    apply frames_dark
    rw [List.length_map]
    exact Nat.le_of_eq few.symm
  obtain ⟨same, small⟩ := decoded_frames fed dark decoded
  intro t member
  have here : written (utf8 t) ∈ texts.map fun t => written (utf8 t) :=
    List.mem_map_of_mem member
  have back : decodeUtf8 (written (utf8 t)) = t := each_returned same t member
  have whole := written_short (text_kept (small _ here) back)
  have free := dark _ here
  have fits := small _ here
  rw [whole] at free fits
  exact ⟨fun nul => free (zero_in_utf8.mpr nul), fits⟩

/-- The client's frames are the messages of the server if and only if they have no NUL and
    fit into its array. -/
theorem frames_decoded_iff (fed : Fed d []) (texts : List Text) :
    (∃ d', d.decodeBytes ((texts.map utf8).flatMap (written · ++ [0])) = .ok (d', texts)) ↔
      ∀ t ∈ texts, NulFree t ∧ (utf8 t).length ≤ 2 ^ 30 := by
  constructor
  · rintro ⟨d', decoded⟩
    exact whole_of_decoded fed decoded
  · intro clean
    have short : ∀ t ∈ texts, (utf8 t).length ≤ 2 ^ 30 := fun t member => (clean t member).2
    obtain ⟨d', decoded, _⟩ :=
      decode_all (fun t member => (clean t member).1) short fed.toHolds
    rw [← sent_stream short] at decoded
    exact ⟨d', decoded⟩

end Frames

end DecoderLimits
