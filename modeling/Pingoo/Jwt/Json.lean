import Pingoo.Text

namespace Pingoo

/-!
# JSON values

The values of `serde_json` and the accessors the token checks use.
-/

/-- `serde_json::Number`: floating point numbers are kept as their bits. -/
inductive JsonNumber where
  | posInt (value : UInt64)
  | negInt (value : Int64)
  | float (bits : UInt64)
  deriving Repr, DecidableEq

/-- `serde_json::Value`. -/
inductive Json where
  | null
  | bool (value : Bool)
  | number (value : JsonNumber)
  | string (value : Str)
  | array (values : List Json)
  | object (fields : List (Str × Json))

namespace Json

/-- `Value::as_str`. -/
def asStr : Json → Option Str
  | .string value =>
      some value
  | _ =>
      none

/-- `Value::as_i64`. -/
def asI64 : Json → Option Int
  | .number (.posInt value) =>
      if value.toNat < 9223372036854775808 then some value.toNat else none
  | .number (.negInt value) =>
      some value.toInt
  | _ =>
      none

/-- `Value::as_bool`. -/
def asBool : Json → Option Bool
  | .bool value =>
      some value
  | _ =>
      none

/-- A value that deserializes to a `u8`. -/
def asU8 : Json → Option UInt8
  | .number (.posInt value) =>
      if value.toNat < 256 then some value.toUInt8 else none
  | _ =>
      none

/-- The value of a key of an object, `Map::get`. -/
def lookup (fields : List (Str × Json)) (key : Str) : Option Json :=
  (fields.find? fun field => field.1 = key).map Prod.snd

/-- A value that deserializes to an `i64`. -/
def asInt64 (value : Json) : Option Int64 :=
  value.asI64.map Int64.ofInt

/-- A number as `serde_json` holds an `i64`. -/
def ofInt64 (number : Int64) : Json :=
  if number < 0 then
    .number (.negInt number)
  else
    .number (.posInt number.toUInt64)

/-- Read an optional member of an object; a member of another type fails. -/
def optionalMember
    {α : Type}
    (read : Json → Option α)
    (fields : List (Str × Json))
    (name : Str) : Option (Option α) :=
  match lookup fields name with
  | none => some none
  | some .null => some none
  | some value => (read value).map some

/-- Read a member that has to be there. -/
def requiredMember
    {α : Type}
    (read : Json → Option α)
    (fields : List (Str × Json))
    (name : Str) : Option α :=
  (lookup fields name).bind read

/-- An optional member, written when it is there. -/
def memberOf
    {α : Type}
    (write : α → Json)
    (name : Str)
    (value : Option α) : List (Str × Json) :=
  (value.map fun value => (name, write value)).toList

/-- The values without parts, that are written and read back exactly. -/
def IsScalar : Json → Prop
  | .null =>
      True
  | .bool _ =>
      True
  | .number (.posInt _) =>
      True
  | .number (.negInt value) =>
      value < 0
  | .string _ =>
      True
  | _ =>
      False

/-- An integer that is written is read as the same number. -/
theorem asI64_ofInt64 (value : Int64) :
    asI64 (ofInt64 value) = some value.toInt := by
  unfold ofInt64
  split
  · rfl
  · next notNegative =>
      have nonneg : 0 ≤ value :=
        Int64.not_lt.mp notNegative
      have unsigned := Int64.toNat_toUInt64_of_le nonneg
      have isNat : ((value.toNatClampNeg : Nat) : Int) = value.toInt :=
        Int.toNat_of_nonneg (Int64.le_iff_toInt_le.mp nonneg)
      have small : value.toNatClampNeg < 9223372036854775808 := by
        have := value.toInt_lt
        omega
      simpa [asI64, unsigned, isNat] using small

theorem asInt64_ofInt64 (value : Int64) :
    asInt64 (ofInt64 value) = some value := by
  simp [asInt64, asI64_ofInt64]

theorem asU8_toUInt64 (value : UInt8) :
    asU8 (.number (.posInt value.toUInt64)) = some value := by
  have small : value.toNat < 256 :=
    value.toNat_lt
  simp [asU8, small]

theorem isScalar_ofInt64 (value : Int64) : (ofInt64 value).IsScalar := by
  unfold ofInt64
  split
  · next negative =>
      exact negative
  · trivial

theorem ofInt64_ne_null (value : Int64) : ofInt64 value ≠ .null := by
  unfold ofInt64
  split
  · nofun
  · nofun

section Members

theorem lookup_append (first second : List (Str × Json)) (name : Str) :
    lookup (first ++ second) name =
      (lookup first name).or (lookup second name) := by
  rw [lookup, List.find?_append]
  cases found : first.find? fun field => field.1 = name <;>
    simp [lookup, found]

@[simp] theorem lookup_cons_self
    (name : Str)
    (value : Json)
    (fields : List (Str × Json)) :
    lookup ((name, value) :: fields) name = some value := by
  simp [lookup]

theorem lookup_cons_of_ne
    {other name : Str}
    (different : other ≠ name)
    (value : Json)
    (fields : List (Str × Json)) :
    lookup ((other, value) :: fields) name = lookup fields name := by
  simp [lookup, different]

/-- A name that no member has is not found. -/
theorem lookup_eq_none
    {fields : List (Str × Json)}
    {name : Str}
    (absent : name ∉ fields.map Prod.fst) :
    lookup fields name = none := by
  rw [lookup, Option.map_eq_none_iff, List.find?_eq_none]
  intro field member isName
  exact absent (List.mem_map.mpr ⟨field, member, of_decide_eq_true isName⟩)

variable {α : Type}

@[simp] theorem lookup_memberOf_self
    (write : α → Json)
    (name : Str)
    (value : Option α) :
    lookup (memberOf write name value) name = value.map write := by
  cases value <;> simp [memberOf, lookup]

theorem lookup_memberOf_of_ne
    {other name : Str}
    (different : other ≠ name)
    (write : α → Json)
    (value : Option α) :
    lookup (memberOf write other value) name = none := by
  cases value <;> simp [memberOf, lookup, different]

/-- The name of an optional member is its name, if any. -/
theorem memberOf_names_sublist
    (write : α → Json)
    (name : Str)
    (value : Option α) :
    List.Sublist ((memberOf write name value).map Prod.fst) [name] := by
  cases value <;> simp [memberOf]

/-- An optional member that was written is read back. -/
theorem optionalMember_eq_some
    {read : Json → Option α}
    {write : α → Json}
    (readsBack : ∀ value, read (write value) = some value)
    (notNull : ∀ value, write value ≠ .null)
    {fields : List (Str × Json)}
    {name : Str}
    {value : Option α}
    (found : lookup fields name = value.map write) :
    optionalMember read fields name = some value := by
  rw [optionalMember, found]
  cases value with
  | none =>
      rfl
  | some value =>
      simp only [Option.map_some]
      split
      · next absent =>
          cases absent
      · next isNull =>
          exact absurd (Option.some.inj isNull) (notNull value)
      · next isOther =>
          cases isOther
          rw [readsBack, Option.map_some]

end Members

end Json

end Pingoo
