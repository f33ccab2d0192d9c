import Mathlib.Algebra.GroupWithZero.Nat
import Mathlib.Data.List.Basic
import Mathlib.Data.String.Basic

namespace AnimaAgent

/-- `serde_json::Number`; a float is kept as its bits. -/
inductive Number where
  | posInt (n : UInt64)
  | negInt (n : Int64)
  | float (bits : UInt64)
  deriving DecidableEq, Repr

/-- `serde_json::Value`; the fields of an object stand in the order of their keys. -/
inductive Value where
  | null
  | bool (b : Bool)
  | number (n : Number)
  | string (s : String)
  | array (items : List Value)
  | object (fields : List (String × Value))
  deriving Inhabited

namespace Value

mutual

def beq : Value → Value → Bool
  | .null, .null => true
  | .bool a, .bool b => a == b
  | .number a, .number b => a == b
  | .string a, .string b => a == b
  | .array as, .array bs => beqItems as bs
  | .object as, .object bs => beqFields as bs
  | _, _ => false

def beqItems : List Value → List Value → Bool
  | [], [] => true
  | a :: as, b :: bs => beq a b && beqItems as bs
  | _, _ => false

def beqFields : List (String × Value) → List (String × Value) → Bool
  | [], [] => true
  | (k, a) :: as, (l, b) :: bs => k == l && beq a b && beqFields as bs
  | _, _ => false

end

mutual

theorem beq_iff_eq : ∀ (a b : Value), beq a b = true ↔ a = b
  | .null, b => by cases b <;> simp [beq]
  | .bool _, b => by cases b <;> simp [beq]
  | .number _, b => by cases b <;> simp [beq]
  | .string _, b => by cases b <;> simp [beq]
  | .array as, b => by
    cases b with
    | array bs => simp [beq, beqItems_iff_eq as bs]
    | _ => simp [beq]
  | .object as, b => by
    cases b with
    | object bs => simp [beq, beqFields_iff_eq as bs]
    | _ => simp [beq]

theorem beqItems_iff_eq : ∀ (as bs : List Value), beqItems as bs = true ↔ as = bs
  | [], bs => by cases bs <;> simp [beqItems]
  | a :: as, bs => by
    cases bs with
    | nil => simp [beqItems]
    | cons b bs => simp [beqItems, beq_iff_eq a b, beqItems_iff_eq as bs]

theorem beqFields_iff_eq : ∀ (as bs : List (String × Value)), beqFields as bs = true ↔ as = bs
  | [], bs => by cases bs <;> simp [beqFields]
  | (k, a) :: as, bs => by
    cases bs with
    | nil => simp [beqFields]
    | cons b bs =>
      obtain ⟨l, b⟩ := b
      simp [beqFields, beq_iff_eq a b, beqFields_iff_eq as bs]

end

instance : DecidableEq Value := fun a b => decidable_of_iff (beq a b = true) (beq_iff_eq a b)

def get (key : String) : Value → Option Value
  | .object fields => (fields.find? (fun field => field.1 == key)).map Prod.snd
  | _ => none

def asStr : Value → Option String
  | .string s => some s
  | _ => none

def asBool : Value → Option Bool
  | .bool b => some b
  | _ => none

def asU64 : Value → Option UInt64
  | .number (.posInt n) => some n
  | _ => none

def asI64 : Value → Option Int64
  | .number (.posInt n) => if n.toNat < 2 ^ 63 then some n.toInt64 else none
  | .number (.negInt n) => some n
  | _ => none

def asArray : Value → Option (List Value)
  | .array items => some items
  | _ => none

/-- The index that a token of a JSON pointer names; `serde_json` refuses a sign and leading zeros. -/
def parseIndex (token : String) : Option Nat :=
  match token.toList with
  | [] => none
  | '0' :: _ :: _ => none
  | digits =>
    digits.foldlM
      (fun n c => if c.isDigit then some (10 * n + (c.toNat - 48)) else none) 0

def child (value : Value) (token : String) : Option Value :=
  match value with
  | .object _ => value.get token
  | .array items => (parseIndex token).bind (fun i => items[i]?)
  | _ => none

/-- `Value::pointer`, over the tokens of the path. -/
def pointer (value : Value) (tokens : List String) : Option Value :=
  tokens.foldlM child value

/-- Add a field at its place in the order of the keys, unless the key is there. -/
def insertField (key : String) (value : Value) : List (String × Value) → List (String × Value)
  | [] => [(key, value)]
  | field :: fields =>
    if field.1 = key then
      field :: fields
    else if key < field.1 then
      (key, value) :: field :: fields
    else
      field :: insertField key value fields

/-- `Map::entry(key).or_insert(value)`; it does nothing to a value that is no object. -/
def entryOrInsert (payload : Value) (key : String) (value : Value) : Value :=
  match payload with
  | .object fields => .object (insertField key value fields)
  | other => other

mutual

/-- How many values a value is made of. -/
def size : Value → Nat
  | .array items => sizeItems items + 1
  | .object fields => sizeFields fields + 1
  | _ => 1

def sizeItems : List Value → Nat
  | [] => 0
  | item :: items => size item + sizeItems items

def sizeFields : List (String × Value) → Nat
  | [] => 0
  | (_, item) :: fields => size item + sizeFields fields

end

@[simp]
theorem get_object (key : String) (fields : List (String × Value))
    : (Value.object fields).get key = (fields.find? (fun field => field.1 == key)).map Prod.snd := by
  rfl

@[simp]
theorem get_array (key : String) (items : List Value) : (Value.array items).get key = none := by
  rfl

@[simp]
theorem get_string (key : String) (s : String) : (Value.string s).get key = none := by
  rfl

@[simp]
theorem asStr_string (s : String) : (Value.string s).asStr = some s := by
  rfl

@[simp]
theorem asBool_bool (b : Bool) : (Value.bool b).asBool = some b := by
  rfl

end Value

namespace Value

def Ordered : Value → Prop
  | .object fields => fields.Pairwise (fun a b => a.1 < b.1)
  | _ => True

theorem mem_insertField {key : String} {value : Value} {fields : List (String × Value)}
    {field : String × Value} (h : field ∈ insertField key value fields)
    : field = (key, value) ∨ field ∈ fields := by
  induction fields with
  | nil => exact .inl (List.mem_singleton.mp h)
  | cons head fields ih =>
    unfold insertField at h
    split at h
    . exact .inr h
    . split at h
      . exact List.mem_cons.mp h
      . rcases List.mem_cons.mp h with rfl | h
        . exact .inr (List.mem_cons_self ..)
        . exact (ih h).imp_right (List.mem_cons_of_mem _)

theorem pairwise_insertField (key : String) (value : Value) {fields : List (String × Value)}
    (h : fields.Pairwise (fun a b => a.1 < b.1))
    : (insertField key value fields).Pairwise (fun a b => a.1 < b.1) := by
  induction fields with
  | nil => exact List.pairwise_singleton _ _
  | cons head fields ih =>
    obtain ⟨hhead, hfields⟩ := List.pairwise_cons.mp h
    unfold insertField
    split
    . exact h
    . next hne =>
      split
      . next hlt =>
        refine List.pairwise_cons.mpr ⟨?_, h⟩
        rintro field hmem
        rcases List.mem_cons.mp hmem with rfl | hmem
        . exact hlt
        . exact lt_trans hlt (hhead field hmem)
      . next hlt =>
        refine List.pairwise_cons.mpr ⟨?_, ih hfields⟩
        intro field hmem
        rcases mem_insertField hmem with rfl | hmem
        . exact lt_of_le_of_ne (not_lt.mp hlt) hne
        . exact hhead field hmem

theorem find?_insertField_self (key : String) (value : Value) {fields : List (String × Value)}
    (h : fields.Pairwise (fun a b => a.1 < b.1))
    : ((insertField key value fields).find? (fun field => field.1 == key)).map Prod.snd
        = some (((fields.find? (fun field => field.1 == key)).map Prod.snd).getD value) := by
  induction fields with
  | nil => simp [insertField]
  | cons head fields ih =>
    obtain ⟨hhead, hfields⟩ := List.pairwise_cons.mp h
    unfold insertField
    split
    . next heq => simp [heq]
    . next hne =>
      split
      . next hlt =>
        have hnone : (head :: fields).find? (fun field => field.1 == key) = none := by
          rw [List.find?_eq_none]
          intro field hmem hkey
          have hkey : field.1 = key := by simpa using hkey
          rcases List.mem_cons.mp hmem with rfl | hmem
          . exact hne hkey
          . exact absurd (lt_trans hlt (hhead field hmem)) (by rw [hkey]; exact lt_irrefl _)
        rw [hnone]
        simp
      . have hkey : (head.1 == key) = false := by simpa using hne
        rw [List.find?_cons, hkey, List.find?_cons, hkey]
        exact ih hfields

theorem find?_insertField_ne {key key' : String} (value : Value) (fields : List (String × Value))
    (h : key ≠ key')
    : (insertField key value fields).find? (fun field => field.1 == key')
        = fields.find? (fun field => field.1 == key') := by
  have hkey : (key == key') = false := by simpa using h
  induction fields with
  | nil => simp [insertField, h]
  | cons head fields ih =>
    unfold insertField
    split
    . rfl
    . split
      . rw [List.find?_cons, hkey]
      . rw [List.find?_cons, List.find?_cons, ih]

section EntryOrInsert

variable {payload : Value} (h : payload.Ordered) (key : String) (value : Value)

include h

theorem ordered_entryOrInsert : (payload.entryOrInsert key value).Ordered := by
  cases payload with
  | object fields => exact pairwise_insertField key value h
  | _ => exact h

theorem get_entryOrInsert_self
    : (payload.entryOrInsert key value).get key
        = match payload with
          | .object _ => some ((payload.get key).getD value)
          | _ => none := by
  cases payload with
  | object fields => exact find?_insertField_self key value h
  | _ => rfl

end EntryOrInsert

theorem get_entryOrInsert_ne (payload : Value) {key key' : String} (value : Value) (h : key ≠ key')
    : (payload.entryOrInsert key value).get key' = payload.get key' := by
  cases payload with
  | object fields => exact congrArg (Option.map Prod.snd) (find?_insertField_ne value fields h)
  | _ => rfl

/-- Put a field at its place in the order of the keys; a field with the key is replaced. -/
def setField (key : String) (value : Value) : List (String × Value) → List (String × Value)
  | [] => [(key, value)]
  | field :: fields =>
    if field.1 = key then
      (key, value) :: fields
    else if key < field.1 then
      (key, value) :: field :: fields
    else
      field :: setField key value fields

/-- `Map::insert(key, value)`; it does nothing to a value that is no object. -/
def insert (payload : Value) (key : String) (value : Value) : Value :=
  match payload with
  | .object fields => .object (setField key value fields)
  | other => other

theorem find?_setField_self (key : String) (value : Value) (fields : List (String × Value))
    : (setField key value fields).find? (fun field => field.1 == key) = some (key, value) := by
  induction fields with
  | nil => simp [setField]
  | cons head fields ih =>
    unfold setField
    split
    . simp
    . next hne =>
      split
      . simp
      . have hkey : (head.1 == key) = false := by simpa using hne
        rw [List.find?_cons, hkey]
        exact ih

theorem find?_setField_ne {key key' : String} (value : Value) (fields : List (String × Value))
    (h : key ≠ key')
    : (setField key value fields).find? (fun field => field.1 == key')
        = fields.find? (fun field => field.1 == key') := by
  have hkey : (key == key') = false := by simpa using h
  induction fields with
  | nil => simp [setField, h]
  | cons head fields ih =>
    unfold setField
    split
    . next heq =>
      have hhead : (head.1 == key') = false := by rw [heq]; exact hkey
      rw [List.find?_cons, hkey, List.find?_cons, hhead]
    . split
      . rw [List.find?_cons, hkey]
      . rw [List.find?_cons, List.find?_cons, ih]

theorem get_insert_self (fields : List (String × Value)) (key : String) (value : Value)
    : ((Value.object fields).insert key value).get key = some value := by
  exact congrArg (Option.map Prod.snd) (find?_setField_self key value fields)

theorem get_insert_ne (payload : Value) {key key' : String} (value : Value) (h : key ≠ key')
    : (payload.insert key value).get key' = payload.get key' := by
  cases payload with
  | object fields => exact congrArg (Option.map Prod.snd) (find?_setField_ne value fields h)
  | _ => rfl

end Value

/-- What the runtime uses of `serde_json`'s text format, and of the `Debug` form of texts. -/
structure SerdeJson where
  toString : Value → String
  fromStr : String → Except String Value
  /-- A character outside ASCII, escaped if the Unicode tables of the compiler say so. -/
  debugUnicode : Char → String := String.singleton

def SerdeJson.small : SerdeJson where
  toString
    | .null => "null"
    | .bool true => "true"
    | .bool false => "false"
    | .string s => "\"" ++ s ++ "\""
    | .array [] => "[]"
    | .object [] => "{}"
    | _ => ""
  fromStr
    | "null" => .ok .null
    | "true" => .ok (.bool true)
    | "false" => .ok (.bool false)
    | "[]" => .ok (.array [])
    | "{}" => .ok (.object [])
    | "" => .error "EOF while parsing a value at line 1 column 0"
    | _ => .error "expected value at line 1 column 1"

namespace Value

mutual

def render : Value → String
  | null => "null"
  | bool b => toString b
  | number (.posInt n) => toString n
  | number (.negInt n) => toString n
  | number (.float bits) => toString bits
  | string s => "\"" ++ s ++ "\""
  | array items => "[" ++ String.intercalate "," (renderItems items) ++ "]"
  | object fields => "\x7b" ++ String.intercalate "," (renderFields fields) ++ "\x7d"

def renderItems : List Value → List String
  | [] => []
  | item :: rest => render item :: renderItems rest

def renderFields : List (String × Value) → List String
  | [] => []
  | (key, value) :: rest => ("\"" ++ key ++ "\":" ++ render value) :: renderFields rest

end

end Value

def SerdeJson.ofValues (values : List Value) : SerdeJson where
  toString := Value.render
  fromStr text :=
    match values.find? (fun value => value.render == text) with
    | some value => .ok value
    | none => .error "expected value at line 1 column 1"

end AnimaAgent
