import EmergencyService.Foundation.CppRuntime
import Mathlib.Data.List.Basic

/- Values of the JSON library: subscripts with a string, conversions, and the two ways to
   iterate. Floating point numbers are of some type `D`. -/
namespace JsonValue
open JavaRuntime CppRuntime

/-- The members of an object are those of a `std::map`, in its order. -/
inductive Json (D : Type) where
  | null
  | boolean : Bool → Json D
  | number : Int → Json D
  | float : D → Json D
  | string : Text → Json D
  | array : List (Json D) → Json D
  | object : List (Text × Json D) → Json D

/-- `type_error` by its number: a conversion of another type, a subscript on no object. -/
inductive TypeError where
  | type302 | type305
  deriving DecidableEq, Repr

/-- What is left open of the library: the conversion of a floating point number to `int`, and
    `dump`. -/
structure Library (D : Type) where
  toInt : D → Int
  dump : Json D → Text
  toInt_range : ∀ d, IntRange (toInt d)

variable {D : Type}

namespace Json

/-- `operator[]`: a missing member is null, and so is a member of null. -/
def member (key : Text) : Json D → Except TypeError (Json D)
  | .null => .ok .null
  | .object members => .ok ((members.lookup key).getD .null)
  | _ => .error .type305

def getString : Json D → Except TypeError Text
  | .string t => .ok t
  | _ => .error .type302

/-- The conversion to `int`, which takes booleans and cuts off what does not fit. -/
def getInt (lib : Library D) : Json D → Except TypeError Int
  | .number n => .ok (wrapInt n)
  | .float d => .ok (lib.toInt d)
  | .boolean b => .ok (if b then 1 else 0)
  | _ => .error .type302

def elements : Json D → List (Json D)
  | .null => []
  | .array values => values
  | .object members => members.map Prod.snd
  | value => [value]

/-- `items()`: an array has its indices as keys, a single value the empty key. -/
def items : Json D → List (Text × Json D)
  | .null => []
  | .array values => values.zipIdx.map fun entry => (decimal entry.2, entry.1)
  | .object members => members
  | value => [([], value)]

end Json

def HasString (value : Json D) (key text : Text) : Prop :=
  ∃ members, value = .object members ∧ members.lookup key = some (.string text)

/-- An object with a member that converts to this number. -/
def HasInt (lib : Library D) (value : Json D) (key : Text) (n : Int) : Prop :=
  ∃ members found, value = .object members ∧ members.lookup key = some found ∧
    found.getInt lib = .ok n

variable {lib : Library D} {value : Json D} {key text : Text} {n : Int}

theorem string_iff : value.getString = .ok text ↔ value = .string text := by
  cases value <;> simp [Json.getString]

theorem member_string_iff :
    (value.member key).bind Json.getString = .ok text ↔ HasString value key text := by
  cases value with
  | object members =>
    change ((members.lookup key).getD .null).getString = _ ↔ _
    rw [string_iff]
    cases found : members.lookup key with
    | none => simp [HasString, found]
    | some v => simp [HasString, found]
  | _ => simp [Json.member, Except.bind, Json.getString, HasString]

theorem member_int_iff :
    (value.member key).bind (Json.getInt lib) = .ok n ↔ HasInt lib value key n := by
  cases value with
  | object members =>
    change ((members.lookup key).getD .null).getInt lib = _ ↔ _
    cases found : members.lookup key with
    | none => simp [HasInt, found, Json.getInt]
    | some v => simp [HasInt, found]
  | _ => simp [Json.member, Except.bind, Json.getInt, HasInt]

theorem wrap_range (n : Int) : IntRange (wrapInt n) := by
  have low : -((2 ^ 32 : Nat) / 2 : Int) ≤ n.bmod (2 ^ 32) := Int.le_bmod (by decide)
  have high : n.bmod (2 ^ 32) < ((2 ^ 32 : Nat) + 1) / 2 := Int.bmod_lt (by decide)
  unfold IntRange wrapInt
  omega

theorem int_range (converted : value.getInt lib = .ok n) : IntRange n := by
  cases value with
  | number m => exact Except.ok.inj converted ▸ wrap_range m
  | float d => exact Except.ok.inj converted ▸ lib.toInt_range d
  | boolean b =>
    obtain rfl := Except.ok.inj converted
    cases b <;> decide
  | _ => cases converted

section Objects
variable {members : List (Text × Json D)} (spell : Json D → Text)

/-- A loop that enters the members of an object in a map, one after the other. -/
def collect (start : OrderedMap Text) (members : List (Text × Json D)) : OrderedMap Text :=
  members.foldl (fun m update => m.insert update.1 (spell update.2)) start

theorem collect_other {start : OrderedMap Text} (absent : key ∉ members.map Prod.fst) :
    (collect spell start members).lookup key = start.lookup key := by
  induction members generalizing start with
  | nil => rfl
  | cons update members ih =>
    obtain ⟨other, tail⟩ := List.ne_and_not_mem_of_not_mem_cons absent
    change (collect spell (start.insert update.1 (spell update.2)) members).lookup key = _
    rw [ih tail, AList.lookup_insert_ne other]

theorem collect_lookup {start : OrderedMap Text} {found : Json D}
    (distinct : (members.map Prod.fst).Nodup) (here : members.lookup key = some found) :
    (collect spell start members).lookup key = some (spell found) := by
  induction members generalizing start with
  | nil => cases here
  | cons update members ih =>
    obtain ⟨fresh, tail⟩ := List.nodup_cons.mp distinct
    change (collect spell (start.insert update.1 (spell update.2)) members).lookup key = _
    by_cases same : key = update.1
    · subst same
      rw [collect_other spell fresh, AList.lookup_insert]
      rw [List.lookup_cons_self] at here
      rw [Option.some.inj here]
    · rw [List.lookup_cons, beq_false_of_ne same] at here
      exact ih tail here

end Objects

end JsonValue
