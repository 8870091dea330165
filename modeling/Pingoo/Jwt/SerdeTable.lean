import Mathlib.Logic.Encodable.Basic
import Mathlib.Logic.Equiv.List
import Pingoo.Jwt.TokenSigned

namespace Pingoo.Jwt

/-!
# JSON given by a table

A table lists some headers and objects with their JSON texts.  It is extended to
a library that writes and reads every object of scalars: an object outside the
table is written as a number, in unary.
-/

/-- The characters of a text as numbers. -/
def textCode (text : Str) : List Nat :=
  text.map Char.toNat

def textOfCode (code : List Nat) : Str :=
  code.map Char.ofNat

/-- What tells the scalars apart: a kind, and numbers. -/
abbrev ScalarCode := Nat × List Nat

/-- The code of a scalar. -/
def scalarCode : Json → ScalarCode
  | .bool value =>
      (1, [value.toNat])
  | .number (.posInt value) =>
      (2, [value.toNat])
  | .number (.negInt value) =>
      (3, [value.toUInt64.toNat])
  | .string value =>
      (4, textCode value)
  | _ =>
      (0, [])

def scalarOfCode : ScalarCode → Json
  | (1, [value]) =>
      .bool (value == 1)
  | (2, [value]) =>
      .number (.posInt (UInt64.ofNat value))
  | (3, [value]) =>
      .number (.negInt (UInt64.ofNat value).toInt64)
  | (4, text) =>
      .string (textOfCode text)
  | _ =>
      .null

/-- The code of the members of an object. -/
def fieldsCode (fields : List (Str × Json)) : List (List Nat × ScalarCode) :=
  fields.map fun field => (textCode field.1, scalarCode field.2)

def fieldsOfCode (code : List (List Nat × ScalarCode)) : List (Str × Json) :=
  code.map fun field => (textOfCode field.1, scalarOfCode field.2)

theorem textOfCode_textCode (text : Str) :
    textOfCode (textCode text) = text := by
  simp [textOfCode, textCode, Function.comp_def, Char.ofNat_toNat]

theorem scalarOfCode_scalarCode {value : Json} (scalar : value.IsScalar) :
    scalarOfCode (scalarCode value) = value := by
  cases value with
  | null =>
      rfl
  | bool value =>
      cases value <;> rfl
  | number value =>
      cases value with
      | posInt value =>
          simp [scalarCode, scalarOfCode]
      | negInt value =>
          simp [scalarCode, scalarOfCode]
      | float bits =>
          cases scalar
  | string value =>
      simp [scalarCode, scalarOfCode, textOfCode_textCode]
  | array values =>
      cases scalar
  | object fields =>
      cases scalar

/-- Members that are scalars are told apart by their code. -/
theorem fieldsOfCode_fieldsCode
    {fields : List (Str × Json)}
    (scalars : ∀ field ∈ fields, field.2.IsScalar) :
    fieldsOfCode (fieldsCode fields) = fields := by
  rw [fieldsOfCode, fieldsCode, List.map_map]
  conv_rhs => rw [← List.map_id fields]
  apply List.map_congr_left
  intro field member
  simp [textOfCode_textCode, scalarOfCode_scalarCode (scalars field member)]

/-- Objects with their texts. -/
structure SerdeTable where
  objects : List (List (Str × Json) × Str)
  scalars : ∀ entry ∈ objects, ∀ field ∈ entry.1, field.2.IsScalar
  isObject : ∀ entry ∈ objects, '\x7b' ∈ entry.2
  distinct :
    ∀ entry ∈ objects, ∀ other ∈ objects, entry.2 = other.2 → entry = other

namespace SerdeTable

variable (table : SerdeTable)

/-- The text of an object. -/
def write (fields : List (Str × Json)) : Str :=
  match table.objects.find? fun (object : List (Str × Json) × Str) =>
      decide (fieldsCode object.1 = fieldsCode fields) with
  | some entry => entry.2
  | none =>
      List.replicate (Encodable.encode (fieldsCode fields)) 'x'

/-- The object of a text. -/
def read (text : Bytes) : Option Json :=
  match table.objects.find? fun (object : List (Str × Json) × Str) =>
      decide (object.2.asBytes = text) with
  | some entry => some (.object entry.1)
  | none =>
      (Encodable.decode text.length).map fun code =>
        .object (fieldsOfCode code)

/-- A library with the objects of a table, and with some headers. -/
def serde (headers : List (Header × Str)) : SerdeJson where
  headerToString :=
    fun header =>
      match headers.find? fun (known : Header × Str) =>
          decide (known.1 = header) with
      | some entry => .ok entry.2
      | none => .error []
  headerFromSlice :=
    fun text =>
      (headers.find? fun entry => entry.2.asBytes = text).map Prod.fst
  valueFromSlice :=
    table.read
  valueToString :=
    fun value =>
      match value with
      | .object fields => table.write fields
      | _ => []

theorem length_asBytes_replicate (count : Nat) :
    (Str.asBytes (List.replicate count 'x')).length = count := by
  have oneByte : Char.utf8Size 'x' = 1 := by
    decide
  simp [Str.asBytes, oneByte]

/-- A text of the table is read as its object. -/
theorem read_of_mem
    {entry : List (Str × Json) × Str}
    (member : entry ∈ table.objects) :
    table.read entry.2.asBytes = some (.object entry.1) := by
  have isFound :
      (table.objects.find? fun object =>
        decide (object.2.asBytes = entry.2.asBytes)).isSome = true := by
    rw [List.find?_isSome]
    exact ⟨entry, member, by simp⟩
  obtain ⟨other, found⟩ := Option.isSome_iff_exists.mp isFound
  have sameText : other.2 = entry.2 :=
    Str.asBytes_injective (by simpa using List.find?_some found)
  have same :=
    table.distinct other (List.mem_of_find?_eq_some found) entry member sameText
  rw [read, found, same]

/-- An object outside the table is read back from its number. -/
theorem read_number (code : List (List Nat × ScalarCode)) :
    table.read (Str.asBytes (List.replicate (Encodable.encode code) 'x')) =
      some (.object (fieldsOfCode code)) := by
  have notFound :
      (table.objects.find? fun object =>
        decide (object.2.asBytes =
          Str.asBytes (List.replicate (Encodable.encode code) 'x'))) =
        none := by
    rw [List.find?_eq_none]
    intro entry member isNumber
    have sameText := Str.asBytes_injective (of_decide_eq_true isNumber)
    have brace := table.isObject entry member
    rw [sameText, List.mem_replicate] at brace
    cases brace.2
  rw [read, notFound, length_asBytes_replicate]
  simp

/-- The extended library reads what it writes. -/
theorem readsWhatItWrites (headers : List (Header × Str)) :
    (table.serde headers).ReadsWhatItWrites where
  object := by
    intro fields _ scalars
    refine ⟨fields, ?_, fun _ => rfl⟩
    simp only [serde, write]
    split
    · next entry found =>
        have member := List.mem_of_find?_eq_some found
        have sameCode : fieldsCode entry.1 = fieldsCode fields := by
          simpa using List.find?_some found
        have same : entry.1 = fields := by
          rw [← fieldsOfCode_fieldsCode (table.scalars entry member),
            sameCode, fieldsOfCode_fieldsCode scalars]
        rw [table.read_of_mem member, same]
    · rw [table.read_number, fieldsOfCode_fieldsCode scalars]

end SerdeTable

end Pingoo.Jwt
