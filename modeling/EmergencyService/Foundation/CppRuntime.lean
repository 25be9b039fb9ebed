import EmergencyService.Foundation.JavaRuntime
import Mathlib.Data.List.Sort
import Mathlib.Data.List.TakeWhile

/- The parts of the C++ library that client code leans on: ordered maps, `find` and
   `substr` on strings, and `stoi`. Strings are lists of characters. -/
namespace CppRuntime
open JavaRuntime

inductive CppException where
  | outOfRange | invalidArgument
  | runtimeError : Text → CppException
  deriving DecidableEq, Repr

theorem ok_bind {E A B : Type} (a : A) (f : A → Except E B) : (Except.ok a >>= f) = f a := rfl

/-- `std::map`: the keys are handed out in ascending order. -/
abbrev OrderedMap (V : Type) := HashMap Text V

def keyOrder (a b : Text) : Prop := ¬ b < a

instance : DecidableRel keyOrder := fun a b => inferInstanceAs (Decidable (¬ b < a))

def sortedKeys {V : Type} (m : OrderedMap V) : List Text := m.keys.insertionSort keyOrder

theorem sorted_keys_perm {V : Type} (m : OrderedMap V) : (sortedKeys m).Perm m.keys :=
  List.perm_insertionSort keyOrder m.keys

/-- `map::insert` of a pair leaves an entry that is already there as it is. -/
def insertNew {V : Type} (k : Text) (v : V) (m : OrderedMap V) : OrderedMap V :=
  if k ∈ m then m else m.insert k v

theorem insert_new_twice {V : Type} (k : Text) (v : V) (m : OrderedMap V) :
    insertNew k v (insertNew k v m) = insertNew k v m := by
  by_cases known : k ∈ m
  · simp [insertNew, known]
  · simp [insertNew, known, AList.mem_insert]

theorem insert_new_lookup {V : Type} {m : OrderedMap V} {k : Text} (absent : k ∉ m) (v : V) :
    (insertNew k v m).lookup k = some v := by
  rw [insertNew, if_neg absent, AList.lookup_insert]

theorem insert_new_lookup_ne {V : Type} {m : OrderedMap V} {k k' : Text} (other : k' ≠ k) (v : V) :
    (insertNew k v m).lookup k' = m.lookup k' := by
  unfold insertNew
  split
  · rfl
  · exact AList.lookup_insert_ne other

/-- `isspace` in the "C" locale, as `strtol` uses it. -/
def isSpace (c : Char) : Bool := c = ' ' || (9 ≤ c.toNat && c.toNat ≤ 13)

/-- The longest prefix of decimal digits, read as a number; `none` if there is no digit. -/
def leadingDigits (s : Text) : Option Nat :=
  match s.takeWhile Char.isDigit with
  | [] => none
  | ds => some (Nat.ofDigitChars 10 ds 0)

def leadingInt : Text → Option Int
  | '-' :: ds => (leadingDigits ds).map fun n : Nat => -(n : Int)
  | '+' :: ds => (leadingDigits ds).map fun n : Nat => (n : Int)
  | ds => (leadingDigits ds).map fun n : Nat => (n : Int)

/-- `std::stoi`: blanks in front are skipped and text after the digits is ignored. -/
def stoi (s : Text) : Except CppException Int :=
  match leadingInt (s.dropWhile isSpace) with
  | none => .error .invalidArgument
  | some n => if IntRange n then .ok n else .error .outOfRange

theorem leadingDigits_toDigits (n : Nat) : leadingDigits (Nat.toDigits 10 n) = some n := by
  have all : (Nat.toDigits 10 n).takeWhile Char.isDigit = Nat.toDigits 10 n :=
    List.takeWhile_eq_self_iff.mpr (toDigits_are_digits n)
  unfold leadingDigits
  rw [all]
  cases shape : Nat.toDigits 10 n with
  | nil => exact absurd shape Nat.toDigits_ne_nil
  | cons c rest =>
    simp only [← shape, Nat.ofDigitChars_ten_toDigits]

theorem leadingInt_unsigned {c : Char} {rest : Text} (minus : c ≠ '-') (plus : c ≠ '+') :
    leadingInt (c :: rest) = (leadingDigits (c :: rest)).map fun n : Nat => (n : Int) := by
  unfold leadingInt
  split <;> simp_all

theorem leadingInt_decimal (n : Int) : leadingInt (decimal n) = some n := by
  rw [decimal_eq]
  split
  · rename_i nonneg
    have value := leadingDigits_toDigits n.toNat
    obtain ⟨c, rest, shape, minus, plus⟩ := toDigits_unsigned n.toNat
    rw [shape] at value ⊢
    rw [leadingInt_unsigned minus plus, value, Option.map_some, Option.some.injEq]
    omega
  · rename_i negative
    simp only [leadingInt, leadingDigits_toDigits, Option.map_some, Option.some.injEq]
    omega

theorem decimal_starts_dark (n : Int) : (decimal n).dropWhile isSpace = decimal n := by
  have chars := decimal_chars n
  cases shape : decimal n with
  | nil => rfl
  | cons c rest =>
    have first : isSpace c = false := by
      rcases chars c (by simp [shape]) with sign | isDigit
      · simp [sign, isSpace]
      · have bounds := Char.isDigit_iff_toNat.mp isDigit
        have lo : (48 : Nat) ≤ c.toNat := bounds.1
        have blank : c ≠ ' ' := by rintro rfl; simp at lo
        simp [isSpace, blank]
        omega
    simp [first]

theorem stoi_decimal {n : Int} (range : IntRange n) : stoi (decimal n) = .ok n := by
  simp [stoi, decimal_starts_dark, leadingInt_decimal, range]

end CppRuntime
