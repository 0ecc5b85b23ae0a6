import Mathlib.Data.Option.Basic

/-! JSON as a document, whose members stand in the order they were written in and
may repeat, and as a value in memory, where an object is a map and the last member
of a name wins. A structure is read from a document member by member. -/

namespace SerdeJson

inductive Number
  | posInt (n : UInt64)
  /-- Below zero. -/
  | negInt (n : Int64)
  | float (bits : UInt64)
  deriving DecidableEq

inductive Json
  | null
  | bool (b : Bool)
  | number (n : Number)
  | string (s : String)
  | array (elements : List Json)
  | object (members : List (String × Json))

inductive Value
  | null
  | bool (b : Bool)
  | number (n : Number)
  | string (s : String)
  | array (elements : List Value)
  | object (get : String → Option Value)

mutual

def Json.toValue : Json → Value
  | .null => .null
  | .bool b => .bool b
  | .number n => .number n
  | .string s => .string s
  | .array elements => .array (toValues elements)
  | .object members => .object (toMap members)

def toValues : List Json → List Value
  | [] => []
  | j :: js => j.toValue :: toValues js

def toMap : List (String × Json) → String → Option Value
  | [], _ => none
  | (name, j) :: members, key =>
    match toMap members key with
    | some v => some v
    | none => if name = key then some j.toValue else none

end

theorem toValues_map {α : Type} (f : α → Json) (as : List α) :
    toValues (as.map f) = as.map fun a => (f a).toValue := by
  induction as with
  | nil => rfl
  | cons a as ih => rw [List.map_cons, toValues, ih, List.map_cons]

namespace Value

def ofMembers (members : List (String × Value)) : Value :=
  .object fun key => (members.reverse.find? fun member => member.1 = key).map Prod.snd

def asU64 : Value → Option UInt64
  | .number (.posInt n) => some n
  | _ => none

def asStr : Value → Option String
  | .string s => some s
  | _ => none

def asArray : Value → Option (List Value)
  | .array elements => some elements
  | _ => none

def asObject : Value → Option (String → Option Value)
  | .object get => some get
  | _ => none

def ofBytes (bytes : List UInt8) : Value := .array (bytes.map fun b => .number (.posInt b.toUInt64))

/-- A member with a default takes it when it is absent. -/
def defaulted {α : Type} (read : Value → Option α) (default : α) : Option Value → Option α
  | none => some default
  | some v => read v

variable {v : Value}

theorem defaulted_eq_some {α : Type} {read : Value → Option α} {default a : α} {m : Option Value} :
    defaulted read default m = some a ↔ (∃ v, m = some v ∧ read v = some a) ∨ (m = none ∧ a = default) := by
  cases m <;> simp [defaulted, eq_comm]

theorem asU64_eq_some {n : UInt64} : v.asU64 = some n ↔ v = .number (.posInt n) := by
  unfold asU64
  split <;> simp_all

theorem asArray_eq_some {elements : List Value} : v.asArray = some elements ↔ v = .array elements := by
  cases v <;> simp [asArray]

end Value

/-! Derived readers. A known member may stand once; `Option` takes `null` and a
missing member alike. -/

namespace Json

def named (members : List (String × Json)) (key : String) : List Json :=
  (members.filter fun m => m.1 = key).map Prod.snd

def member (members : List (String × Json)) (key : String) : Option (Option Json) :=
  match named members key with
  | [] => some none
  | [j] => some (some j)
  | _ => none

def string? : Json → Option String
  | .string s => some s
  | _ => none

def u64? : Json → Option UInt64
  | .number (.posInt n) => some n
  | _ => none

def i64? : Json → Option Int
  | .number (.posInt n) => if n < 0x8000000000000000 then some n.toNat else none
  | .number (.negInt n) => some n.toInt
  | _ => none

variable {α : Type}

def optional (read : Json → Option α) : Option Json → Option (Option α)
  | none => some none
  | some .null => some none
  | some j => (read j).map some

def required (read : Json → Option α) (j : Option Json) : Option α := j.bind read

def defaulted (read : Json → Option α) (default : α) : Option Json → Option α
  | none => some default
  | some j => read j

def elements? (read : Json → Option α) : Json → Option (List α)
  | .array elements => elements.mapM read
  | _ => none

theorem elements?_map {read : Json → Option α} {f : α → Json} (h : ∀ a, read (f a) = some a)
    (as : List α) : elements? read (.array (as.map f)) = some as := by
  rw [elements?]
  induction as with
  | nil => rfl
  | cons a as ih =>
    rw [List.map_cons, List.mapM_cons, h, ih]
    rfl

theorem named_of_member {members : List (String × Json)} {key : String} {j : Option Json}
    (h : member members key = some j) : named members key = j.toList := by
  unfold member at h
  split at h
  · next hnil => rw [hnil, ← Option.some.inj h, Option.toList_none]
  · next hone => rw [hone, ← Option.some.inj h, Option.toList_some]
  · cases h

theorem optional_some (read : Json → Option α) {j : Json} (hj : j ≠ .null) :
    optional read (some j) = (read j).map some := by
  cases j with
  | null => exact absurd rfl hj
  | bool _ | number _ | string _ | array _ | object _ => rfl

theorem toValue_eq_null {j : Json} : j.toValue = .null ↔ j = .null := by
  cases j <;> simp [toValue]

end Json

end SerdeJson
