import Mathlib.Data.List.AList
import Mathlib.Data.Nat.Digits.Defs
import Mathlib.Tactic.Ring

/- The parts of the Java library that server code leans on: hash maps with an
   unspecified iteration order, decimal text, and boxed integers. Maps are association lists
   without repeated keys. Text on the server is a list of Unicode scalar values; in the client
   it is a `std::string`, one `Char` for each `char`, which the two sides have in common as long
   as it is ASCII. Where more than that passes between them, the client's side of a text is the
   list of its UTF-8 bytes. -/
namespace JavaRuntime

abbrev Text := List Char

instance : Coe String Text := ⟨String.toList⟩

inductive JavaException where
  | nullPointer | indexOutOfBounds | stringIndexOutOfBounds | numberFormat
  | concurrentModification | io
  deriving DecidableEq, Repr

abbrev HashMap (K V : Type) := AList fun _ : K => V

/-- The order in which a map hands out its keys: any permutation of them. -/
structure IterationOrder (K : Type) where
  order : List K → List K
  perm : ∀ keys, (order keys).Perm keys

def IterationOrder.stored {K : Type} : IterationOrder K := ⟨id, fun _ => List.Perm.refl _⟩

namespace IterationOrder
variable {K : Type} (o : IterationOrder K)

@[simp] theorem mem_order {k : K} {keys : List K} : k ∈ o.order keys ↔ k ∈ keys :=
  (o.perm keys).mem_iff

theorem order_nodup {keys : List K} (h : keys.Nodup) : (o.order keys).Nodup :=
  (o.perm keys).nodup_iff.mpr h

end IterationOrder

section RemoveValue
variable {K V : Type} [DecidableEq K] [DecidableEq V]

/-- `map.values().remove(v)`: the first entry, in iteration order, whose value is `v`. -/
def removeValue (o : IterationOrder K) (v : V) (m : HashMap K V) : HashMap K V :=
  match (o.order m.keys).find? fun k => m.lookup k = some v with
  | some k => m.erase k
  | none => m

variable (o : IterationOrder K) (v : V) (m : HashMap K V)

theorem remove_value_cases :
    (removeValue o v m = m ∧ ∀ k, m.lookup k ≠ some v) ∨
      ∃ k, m.lookup k = some v ∧ removeValue o v m = m.erase k := by
  unfold removeValue
  cases found : (o.order m.keys).find? fun k => m.lookup k = some v with
  | none =>
    refine Or.inl ⟨rfl, fun k here => ?_⟩
    have absent := List.find?_eq_none.mp found k
    have key : k ∈ m.keys := AList.mem_keys.mp (AList.lookup_isSome.mp (by simp [here]))
    exact absent (o.mem_order.mpr key) (by simpa using here)
  | some k => exact Or.inr ⟨k, by simpa using List.find?_some found, rfl⟩

theorem remove_value_subset {k : K} {w : V} (h : (removeValue o v m).lookup k = some w) :
    m.lookup k = some w := by
  rcases remove_value_cases o v m with ⟨same, _⟩ | ⟨gone, _, erased⟩
  · rwa [same] at h
  · rw [erased] at h
    by_cases eq : k = gone
    · subst eq; simp [AList.lookup_erase] at h
    · rwa [AList.lookup_erase_ne eq] at h

theorem remove_value_keeps_others {k : K} {w : V} (other : w ≠ v)
    (h : m.lookup k = some w) : (removeValue o v m).lookup k = some w := by
  rcases remove_value_cases o v m with ⟨same, _⟩ | ⟨gone, held, erased⟩
  · rwa [same]
  · have ne : k ≠ gone := by
      rintro rfl
      exact other (Option.some.inj (h.symm.trans held))
    rwa [erased, AList.lookup_erase_ne ne]

theorem remove_value_other_iff {k : K} {w : V} (other : w ≠ v) :
    (removeValue o v m).lookup k = some w ↔ m.lookup k = some w :=
  ⟨remove_value_subset o v m, remove_value_keeps_others o v m other⟩

theorem remove_value_clears_iff :
    (∀ k, (removeValue o v m).lookup k ≠ some v) ↔
      ∀ k k', m.lookup k = some v → m.lookup k' = some v → k = k' := by
  rcases remove_value_cases o v m with ⟨same, absent⟩ | ⟨gone, held, erased⟩
  · rw [same]
    exact ⟨fun _ k _ h => absurd h (absent k), fun _ => absent⟩
  · rw [erased]
    constructor
    · have only : (∀ k, (m.erase gone).lookup k ≠ some v) →
          ∀ k, m.lookup k = some v → k = gone := by
        intro cleared k h
        by_contra ne
        exact cleared k (by rwa [AList.lookup_erase_ne ne])
      intro cleared k k' h h'
      rw [only cleared k h, only cleared k' h']
    · intro unique k h
      by_cases eq : k = gone
      · subst eq; simp [AList.lookup_erase] at h
      · rw [AList.lookup_erase_ne eq] at h
        exact eq (unique k gone h held)

end RemoveValue

/-- The code points of the zeros of the decimal digit blocks that `Character.digit`
    knows among the sixteen-bit characters; each block holds the ten digits in order. -/
def digitZeros : List Nat :=
  [0x0030, 0x0660, 0x06F0, 0x07C0, 0x0966, 0x09E6, 0x0A66, 0x0AE6, 0x0B66, 0x0BE6, 0x0C66,
   0x0CE6, 0x0D66, 0x0DE6, 0x0E50, 0x0ED0, 0x0F20, 0x1040, 0x1090, 0x17E0, 0x1810, 0x1946,
   0x19D0, 0x1A80, 0x1A90, 0x1B50, 0x1BB0, 0x1C40, 0x1C50, 0xA620, 0xA8D0, 0xA900, 0xA9D0,
   0xA9F0, 0xAA50, 0xABF0, 0xFF10]

def digit (c : Char) : Option Nat :=
  (digitZeros.find? fun start => start ≤ c.toNat ∧ c.toNat ≤ start + 9).map (c.toNat - ·)

def readDigits : Text → Nat → Option Nat
  | [], value => some value
  | c :: rest, value => (digit c).bind fun d => readDigits rest (10 * value + d)

def readUnsigned (ds : Text) : Option Nat := if ds = [] then none else readDigits ds 0

def readSigned : Text → Option Int
  | '-' :: ds => (readUnsigned ds).map fun n : Nat => -(n : Int)
  | '+' :: ds => (readUnsigned ds).map fun n : Nat => (n : Int)
  | ds => (readUnsigned ds).map fun n : Nat => (n : Int)

def IntRange (n : Int) : Prop := -2147483648 ≤ n ∧ n ≤ 2147483647

instance (n : Int) : Decidable (IntRange n) := inferInstanceAs (Decidable (_ ∧ _))

/-- `Integer.parseInt`; `none` stands for NumberFormatException. -/
def parseInt (s : Text) : Option Int := (readSigned s).filter fun n => decide (IntRange n)

def decimal (n : Int) : Text := (toString n).toList

theorem decimal_eq (n : Int) :
    decimal n = if 0 ≤ n then Nat.toDigits 10 n.toNat else '-' :: Nat.toDigits 10 (-n).toNat := by
  simp only [decimal, Int.toString_eq_repr, Int.repr_eq_if]
  split <;> simp [Nat.toList_repr]

theorem digit_ascii {c : Char} (h : c.isDigit = true) : digit c = some (c.toNat - '0'.toNat) := by
  have bounds := Char.isDigit_iff_toNat.mp h
  have lo : (48 : Nat) ≤ c.toNat := bounds.1
  have hi : c.toNat ≤ 57 := bounds.2
  simp [digit, digitZeros, lo, hi]

theorem readDigits_ascii (ds : Text) (digits : ∀ c ∈ ds, c.isDigit = true) (value : Nat) :
    readDigits ds value = some (Nat.ofDigitChars 10 ds value) := by
  induction ds generalizing value with
  | nil => simp [readDigits]
  | cons c rest ih =>
    have tail := ih (fun d member => digits d (List.mem_cons_of_mem c member))
    simp [readDigits, digit_ascii (digits c (by simp)), tail, Nat.ofDigitChars_cons]

theorem toDigits_are_digits (n : Nat) : ∀ c ∈ Nat.toDigits 10 n, c.isDigit = true :=
  fun _ member => Nat.isDigit_of_mem_toDigits (by decide) (by decide) member

theorem readUnsigned_toDigits (n : Nat) : readUnsigned (Nat.toDigits 10 n) = some n := by
  simp [readUnsigned, Nat.toDigits_ne_nil, readDigits_ascii _ (toDigits_are_digits n)]

theorem readSigned_unsigned {c : Char} {rest : Text} (minus : c ≠ '-') (plus : c ≠ '+') :
    readSigned (c :: rest) = (readUnsigned (c :: rest)).map fun n : Nat => (n : Int) := by
  unfold readSigned
  split <;> simp_all

theorem toDigits_unsigned (n : Nat) :
    ∃ c rest, Nat.toDigits 10 n = c :: rest ∧ c ≠ '-' ∧ c ≠ '+' := by
  have digits := toDigits_are_digits n
  cases shape : Nat.toDigits 10 n with
  | nil => exact absurd shape Nat.toDigits_ne_nil
  | cons c rest =>
    have first := digits c (by simp [shape])
    have minus : c ≠ '-' := by rintro rfl; simp at first
    have plus : c ≠ '+' := by rintro rfl; simp at first
    exact ⟨c, rest, rfl, minus, plus⟩

theorem readSigned_decimal (n : Int) : readSigned (decimal n) = some n := by
  rw [decimal_eq]
  split
  · rename_i nonneg
    have value := readUnsigned_toDigits n.toNat
    obtain ⟨c, rest, shape, minus, plus⟩ := toDigits_unsigned n.toNat
    rw [shape] at value ⊢
    rw [readSigned_unsigned minus plus, value, Option.map_some, Option.some.injEq]
    omega
  · rename_i negative
    simp only [readSigned, readUnsigned_toDigits, Option.map_some, Option.some.injEq]
    omega

theorem parseInt_decimal {n : Int} (range : IntRange n) : parseInt (decimal n) = some n := by
  simp [parseInt, readSigned_decimal, range]

theorem decimal_injective {m n : Int} (same : decimal m = decimal n) : m = n := by
  have h := readSigned_decimal m
  rw [same, readSigned_decimal] at h
  exact (Option.some.inj h).symm

theorem decimal_chars (n : Int) : ∀ c ∈ decimal n, c = '-' ∨ c.isDigit = true := by
  intro c member
  rw [decimal_eq] at member
  split at member
  · exact Or.inr (toDigits_are_digits _ c member)
  · rcases List.mem_cons.mp member with sign | member
    · exact Or.inl sign
    · exact Or.inr (toDigits_are_digits _ c member)

/-- `int` arithmetic: the result reduced to 32 bits. -/
def wrapInt (n : Int) : Int := n.bmod (2 ^ 32)

theorem wrap_int_range {n : Int} (range : IntRange n) : wrapInt n = n := by
  obtain ⟨low, high⟩ := range
  unfold wrapInt
  apply Int.bmod_eq_of_le <;> omega

/-- `==` on two `Integer` objects boxed in different places: they are the same object
    only when both come from the cache of small values. -/
def sameInteger (a b : Int) : Prop := a = b ∧ -128 ≤ a ∧ a ≤ 127

instance (a b : Int) : Decidable (sameInteger a b) := inferInstanceAs (Decidable (_ ∧ _))

end JavaRuntime
