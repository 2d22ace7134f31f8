import Mathlib.Tactic.Common

/-!
# JSON values

A value, and codecs between values and data. A number is a finite 64-bit float, known by its bits;
a float that is not finite is written as `null` and cannot be read back. Records are written as
objects and read by the names of their fields.
-/

namespace NexusCore.Lib

/-- The exponent of a 64-bit float is not that of an infinity or of no number. -/
def isFiniteFloat (bits : UInt64) : Bool := (bits >>> 52) &&& 0x7FF != 0x7FF

inductive Json where
  | null
  | bool (value : Bool)
  | number (bits : UInt64)
  | string (value : String)
  | array (items : List Json)
  | object (fields : List (String × Json))

/-- How data is written to and read from values. -/
structure Codec (α : Type) where
  encode : α → Json
  decode : Json → Except String α

namespace Codec

variable {α : Type}

/-- What is written is read back. -/
def RoundTrips (codec : Codec α) (a : α) : Prop := codec.decode (codec.encode a) = .ok a

def mismatch (expected : String) : Except String α := .error ("invalid type, expected " ++ expected)

def bool : Codec Bool where
  encode := .bool
  decode
    | .bool value => .ok value
    | _ => mismatch "a boolean"

def string : Codec String where
  encode := .string
  decode
    | .string value => .ok value
    | _ => mismatch "a string"

def float : Codec UInt64 where
  encode bits := if isFiniteFloat bits then .number bits else .null
  decode
    | .number bits => .ok bits
    | _ => mismatch "f64"

/-- Read the items of an array one after the other. -/
def decodeAll (codec : Codec α) : List Json → Except String (List α)
  | [] => .ok []
  | item :: rest => do
    let a ← codec.decode item
    let as ← decodeAll codec rest
    return a :: as

def list (codec : Codec α) : Codec (List α) where
  encode as := .array (as.map codec.encode)
  decode
    | .array items => decodeAll codec items
    | _ => mismatch "a sequence"

def option (codec : Codec α) : Codec (Option α) where
  encode
    | some a => codec.encode a
    | none => .null
  decode
    | .null => .ok none
    | value => codec.decode value >>= fun a => .ok (some a)

/-- A choice among names. -/
def enum (name : α → String) (parse : String → Option α) : Codec α where
  encode a := .string (name a)
  decode
    | .string text =>
      match parse text with
      | some a => .ok a
      | none => .error ("unknown variant " ++ text)
    | _ => mismatch "a variant"

/-- Read a field of an object. -/
def field (codec : Codec α) (value : Json) (name : String) : Except String α :=
  match value with
  | .object fields =>
    match fields.lookup name with
    | some item => codec.decode item
    | none => .error ("missing field " ++ name)
  | _ => mismatch "an object"

/-- A field that holds what is written is read back. -/
theorem field_of_lookup {codec : Codec α} {fields : List (String × Json)} {name : String} {a : α}
    (present : fields.lookup name = some (codec.encode a)) (reads : codec.RoundTrips a) :
    codec.field (.object fields) name = .ok a := by
  simp only [field, present]
  exact reads

theorem roundTrips_string (value : String) : string.RoundTrips value := rfl

theorem roundTrips_float_iff (bits : UInt64) : float.RoundTrips bits ↔ isFiniteFloat bits := by
  unfold RoundTrips float
  cases finite : isFiniteFloat bits with
  | true => simp [finite]
  | false => simp [finite, mismatch]

theorem decodeAll_map {codec : Codec α} {as : List α} (each : ∀ a ∈ as, codec.RoundTrips a) :
    decodeAll codec (as.map codec.encode) = .ok as := by
  induction as with
  | nil => rfl
  | cons a rest ih =>
    rw [List.forall_mem_cons] at each
    rw [List.map_cons, decodeAll, show codec.decode (codec.encode a) = .ok a from each.1, ih each.2]
    rfl

theorem roundTrips_list {codec : Codec α} {as : List α} (each : ∀ a ∈ as, codec.RoundTrips a) :
    codec.list.RoundTrips as := decodeAll_map each

/-- An optional value is read back when it is not written as `null`. -/
theorem roundTrips_option_iff {codec : Codec α} {a : Option α}
    (present : ∀ x ∈ a, codec.encode x ≠ .null) :
    codec.option.RoundTrips a ↔ ∀ x ∈ a, codec.RoundTrips x := by
  unfold RoundTrips option
  cases a with
  | none => simp
  | some x =>
    have written : codec.encode x ≠ .null := present x rfl
    simp only [Option.mem_def, Option.some.injEq, forall_eq']
    cases encoded : codec.encode x with
    | null => exact absurd encoded written
    | _ => cases read : codec.decode (codec.encode x) <;> simp_all [bind, Except.bind]

theorem roundTrips_enum {name : α → String} {parse : String → Option α} {a : α}
    (inverse : parse (name a) = some a) : (enum name parse).RoundTrips a := by
  simp [RoundTrips, enum, inverse]

end Codec

end NexusCore.Lib
