import Mathlib.Data.List.Basic

/- Text as bytes in UTF-8 and back. The decoder is the one of Java's string constructor: it
   never fails, and puts the replacement character in the place of malformed bytes. -/
namespace Utf8Text

abbrev Bytes := List UInt8

def utf8 (text : List Char) : Bytes := text.flatMap String.utf8EncodeChar

@[simp] theorem utf8_nil : utf8 [] = [] := rfl

@[simp] theorem utf8_cons (c : Char) (text : List Char) :
    utf8 (c :: text) = String.utf8EncodeChar c ++ utf8 text := by
  simp [utf8]

@[simp] theorem utf8_append (a b : List Char) : utf8 (a ++ b) = utf8 a ++ utf8 b := by
  simp [utf8]

/-- The character that the bytes begin with, when they begin with one. -/
def firstChar (bytes : Bytes) : Option Char := ByteArray.utf8DecodeChar? bytes.toByteArray 0

def mayFollow (first second : UInt8) : Bool :=
  if first = 0xE0 then 0xA0 ≤ second && second ≤ 0xBF
  else if first = 0xED then 0x80 ≤ second && second ≤ 0x9F
  else if first = 0xF0 then 0x90 ≤ second && second ≤ 0xBF
  else if first = 0xF4 then 0x80 ≤ second && second ≤ 0x8F
  else 0x80 ≤ second && second ≤ 0xBF

def isTail (b : UInt8) : Bool := 0x80 ≤ b && b ≤ 0xBF

/-- How many bytes one replacement character stands for: the longest beginning of a
    character among them, and one byte at least, as Unicode recommends. -/
def malformedLength : Bytes → Nat
  | first :: second :: rest =>
      if (0xE0 ≤ first && first ≤ 0xF4) && mayFollow first second then
        match rest with
        | third :: _ => if 0xF0 ≤ first && isTail third then 3 else 2
        | [] => 2
      else 1
  | _ => 1

theorem malformed_length_pos (bytes : Bytes) : 0 < malformedLength bytes := by
  unfold malformedLength
  split
  · split
    · split
      · split <;> omega
      · omega
    · omega
  · omega

def replacement : Char := '\uFFFD'

/-- `new String(bytes, UTF_8)` -/
def decodeUtf8 (bytes : Bytes) : List Char :=
  match bytes with
  | [] => []
  | b :: rest =>
      match firstChar (b :: rest) with
      | some c => c :: decodeUtf8 ((b :: rest).drop c.utf8Size)
      | none => replacement :: decodeUtf8 ((b :: rest).drop (malformedLength (b :: rest)))
termination_by bytes.length
decreasing_by
  · have size := c.utf8Size_pos
    simp only [List.length_drop, List.length_cons]
    omega
  · have size := malformed_length_pos (b :: rest)
    simp only [List.length_drop, List.length_cons]
    omega

theorem first_char_encoded (c : Char) (rest : Bytes) :
    firstChar (String.utf8EncodeChar c ++ rest) = some c := by
  unfold firstChar
  rw [List.toByteArray_append]
  exact ByteArray.utf8DecodeChar?_utf8EncodeChar_append

theorem encoded_ne_nil (c : Char) : String.utf8EncodeChar c ≠ [] := by
  intro empty
  have size := c.utf8Size_pos
  rw [← String.length_utf8EncodeChar, empty] at size
  exact absurd size (by decide)

theorem decode_encoded (text : List Char) : decodeUtf8 (utf8 text) = text := by
  induction text with
  | nil => simp [decodeUtf8]
  | cons c text ih =>
    have first := first_char_encoded c (utf8 text)
    have rest : (String.utf8EncodeChar c ++ utf8 text).drop c.utf8Size = utf8 text := by
      rw [← String.length_utf8EncodeChar, List.drop_left]
    rw [utf8_cons]
    cases shape : String.utf8EncodeChar c ++ utf8 text with
    | nil => exact absurd (List.append_eq_nil_iff.mp shape).1 (encoded_ne_nil c)
    | cons b bytes =>
      rw [shape] at first rest
      rw [decodeUtf8, first]
      simp only [rest, ih]

theorem encoded_length_le (c : Char) : (String.utf8EncodeChar c).length ≤ 4 := by
  rw [String.length_utf8EncodeChar]
  exact c.utf8Size_le_four

theorem decoded_length_le (bytes : Bytes) :
    (utf8 (decodeUtf8 bytes)).length ≤ 4 * bytes.length := by
  induction bytes using decodeUtf8.induct with
  | case1 => simp [decodeUtf8]
  | case2 b rest c found ih =>
    have size := encoded_length_le c
    have positive := c.utf8Size_pos
    rw [decodeUtf8, found]
    simp only [utf8_cons, List.length_append, List.length_drop, List.length_cons] at ih ⊢
    omega
  | case3 b rest none' ih =>
    have size := encoded_length_le replacement
    have positive := malformed_length_pos (b :: rest)
    rw [decodeUtf8, none']
    simp only [utf8_cons, List.length_append, List.length_drop, List.length_cons] at ih ⊢
    omega

theorem ascii_in_char {b : UInt8} (ascii : b.toNat < 128) {c : Char} :
    b ∈ String.utf8EncodeChar c ↔ c.toNat = b.toNat := by
  have bound : c.val.toNat < 1114112 := by
    rcases c.valid with low | ⟨_, high⟩
    · exact Nat.lt_trans low (by decide)
    · exact high
  have value : c.toNat = c.val.toNat := rfl
  have byte : ∀ n : Nat, b = UInt8.ofNat n ↔ b.toNat = n % 256 := by
    intro n
    rw [← UInt8.toNat_inj, UInt8.toNat_ofNat']
  simp only [String.utf8EncodeChar]
  rw [value]
  split
  · rw [List.mem_singleton, byte]
    omega
  · split
    · simp only [List.mem_cons, List.not_mem_nil, or_false, byte]
      omega
    · split
      · simp only [List.mem_cons, List.not_mem_nil, or_false, byte]
        omega
      · simp only [List.mem_cons, List.not_mem_nil, or_false, byte]
        omega

theorem zero_in_char {c : Char} : 0 ∈ String.utf8EncodeChar c ↔ c = '\x00' := by
  rw [ascii_in_char (by decide)]
  exact Char.toNat_inj (d := '\x00')

theorem zero_in_utf8 {text : List Char} : 0 ∈ utf8 text ↔ '\x00' ∈ text := by
  simp [utf8, zero_in_char]

section Octets
variable {text : List Char}

/-- A text as a string of bytes, with one character for each byte. -/
def octets (text : List Char) : List Char := (utf8 text).map Char.ofUInt8

def bytesOf (string : List Char) : Bytes := string.map Char.toUInt8

@[simp] theorem octets_nil : octets [] = [] := rfl

@[simp] theorem octets_append (a b : List Char) : octets (a ++ b) = octets a ++ octets b := by
  simp [octets]

theorem octets_cons (c : Char) (text : List Char) :
    octets (c :: text) = octets [c] ++ octets text := by
  rw [← octets_append, List.singleton_append]

theorem of_byte_back (b : UInt8) : (Char.ofUInt8 b).toUInt8 = b := by
  delta Char.toUInt8 Char.ofUInt8
  simp

theorem bytes_of_octets (text : List Char) : bytesOf (octets text) = utf8 text := by
  rw [bytesOf, octets, List.map_map]
  exact (List.map_congr_left fun b _ => of_byte_back b).trans (List.map_id _)

theorem octets_injective : Function.Injective octets := by
  intro a b same
  have bytes := congrArg bytesOf same
  rw [bytes_of_octets, bytes_of_octets] at bytes
  rw [← decode_encoded a, bytes, decode_encoded]

theorem ascii_in_octets {d : Char} (ascii : d.toNat < 128) : d ∈ octets text ↔ d ∈ text := by
  have code : d.toUInt8.toNat = d.toNat := by
    have value : d.toNat = d.val.toNat := rfl
    rw [← Char.toUInt8_val, UInt32.toNat_toUInt8]
    omega
  have back : Char.ofUInt8 d.toUInt8 = d := by
    apply Char.ext
    rw [← UInt32.toNat_inj]
    exact (UInt8.toNat_toUInt32 _).trans code
  simp only [octets, utf8, List.mem_map, List.mem_flatMap]
  constructor
  · rintro ⟨b, ⟨c, member, byte⟩, rfl⟩
    have same : b = (Char.ofUInt8 b).toUInt8 := (of_byte_back b).symm
    rw [same, ascii_in_char (by omega), code] at byte
    rwa [← Char.toNat_inj.mp byte]
  · intro member
    exact ⟨d.toUInt8, ⟨d, member, (ascii_in_char (by omega)).mpr code.symm⟩, back⟩

end Octets

end Utf8Text
