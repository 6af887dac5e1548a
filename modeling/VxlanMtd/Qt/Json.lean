import Mathlib.Data.List.Dedup
import Mathlib.Data.Rat.Defs
import Mathlib.Tactic.NormNum

/-!
# Qt — JSON values, objects and documents

The part of Qt's JSON classes the protocol and the configurator use:

* `QJsonValue` — the six kinds of JSON value, and `undefined` for a member
  that is not there; a number is a finite double, hence a rational;
* `QJsonObject` — members by name. Only lookups are observable here, so the
  list's order carries no meaning, and the first entry of a name is the one
  that counts;
* `QJsonDocument` — what a text can parse to: an object or an array.

Typed accessors never fail: on a value of another kind they return the
default of their type, as Qt's do.
-/

namespace VxlanMtd

/-- The range of a C++ `int`. -/
def IsInt (n : Int) : Prop := -2 ^ 31 ≤ n ∧ n < 2 ^ 31

instance (n : Int) : Decidable (IsInt n) := inferInstanceAs (Decidable (_ ∧ _))

/-- `QJsonValue`. -/
inductive QJsonValue where
  | undefined
  | null
  | bool (b : Bool)
  | double (d : Rat)
  | string (s : String)
  | array (a : List QJsonValue)
  | object (o : List (String × QJsonValue))

/-- `QJsonArray`. -/
abbrev QJsonArray := List QJsonValue

/-- `QJsonObject`. -/
abbrev QJsonObject := List (String × QJsonValue)

/-- `QJsonDocument`, as `QJsonDocument::fromJson` produces it. -/
inductive QJsonDocument where
  | object (o : QJsonObject)
  | array (a : QJsonArray)

namespace QJsonValue

/-- The constructor of a JSON number from an `int`. -/
def ofInt (n : Int) : QJsonValue := .double n

def isUndefined : QJsonValue → Bool
  | .undefined => true
  | _ => false

def isNull : QJsonValue → Bool
  | .null => true
  | _ => false

def isBool : QJsonValue → Bool
  | .bool _ => true
  | _ => false

def isString : QJsonValue → Bool
  | .string _ => true
  | _ => false

def isArray : QJsonValue → Bool
  | .array _ => true
  | _ => false

def isObject : QJsonValue → Bool
  | .object _ => true
  | _ => false

def toBool : QJsonValue → Bool
  | .bool b => b
  | _ => false

def toString : QJsonValue → String
  | .string s => s
  | _ => ""

/-- `toInt`: the number if it is integral and fits an `int`, 0 otherwise. -/
def toInt : QJsonValue → Int
  | .double d => if d.den = 1 ∧ IsInt d.num then d.num else 0
  | _ => 0

/-- `toBool` with a default for values of another kind. -/
def toBoolOr (v : QJsonValue) (defaultValue : Bool) : Bool :=
  match v with
  | .bool b => b
  | _ => defaultValue

/-- `toString` with a default for values of another kind. -/
def toStringOr (v : QJsonValue) (defaultValue : String) : String :=
  match v with
  | .string s => s
  | _ => defaultValue

/-- `toInt` with a default for what is no number that fits an `int`. -/
def toIntOr (v : QJsonValue) (defaultValue : Int) : Int :=
  match v with
  | .double d => if d.den = 1 ∧ IsInt d.num then d.num else defaultValue
  | _ => defaultValue

def toArray : QJsonValue → QJsonArray
  | .array a => a
  | _ => []

def toObject : QJsonValue → QJsonObject
  | .object o => o
  | _ => []

/-- An `int` survives the trip through a JSON number. -/
theorem toInt_ofInt {n : Int} (h : IsInt n) : (ofInt n).toInt = n := by
  simp [ofInt, toInt, h]

/-- The same with a default, which is not used. -/
theorem toIntOr_ofInt {n : Int} (h : IsInt n) (d : Int) : (ofInt n).toIntOr d = n := by
  simp [ofInt, toIntOr, h]

/-- A value of the kind that is asked for is taken. -/
@[simp] theorem toBoolOr_bool (b d : Bool) : (QJsonValue.bool b).toBoolOr d = b := rfl

/-- A member that is missing gives the default. -/
@[simp] theorem toBoolOr_undefined (d : Bool) : QJsonValue.undefined.toBoolOr d = d := rfl

@[simp] theorem toStringOr_string (s d : String) : (QJsonValue.string s).toStringOr d = s := rfl

@[simp] theorem toStringOr_undefined (d : String) :
    QJsonValue.undefined.toStringOr d = d := rfl

/-- A boolean is no number: asking for an `int` gives the default. -/
@[simp] theorem toIntOr_bool (b : Bool) (d : Int) : (QJsonValue.bool b).toIntOr d = d := rfl

@[simp] theorem toIntOr_undefined (d : Int) : QJsonValue.undefined.toIntOr d = d := rfl

/-- The readers without a default, on values of their kind. -/
@[simp] theorem toString_string (s : String) : (QJsonValue.string s).toString = s := rfl

@[simp] theorem toArray_array (a : QJsonArray) : (QJsonValue.array a).toArray = a := rfl

@[simp] theorem toObject_object (o : QJsonObject) : (QJsonValue.object o).toObject = o := rfl

end QJsonValue

namespace QJsonObject

/-- `value`, `operator[] const`: the member, `undefined` if there is none. -/
def value : QJsonObject → String → QJsonValue
  | [], _ => .undefined
  | (k, v) :: o, key => if k = key then v else value o key

def contains (o : QJsonObject) (key : String) : Bool := o.any fun e => e.1 == key

/-- `size`: the number of members. -/
def size (o : QJsonObject) : Nat := (o.map Prod.fst).dedup.length

/-- Assignment to a member; assigning `undefined` removes it. -/
def insert (o : QJsonObject) (key : String) (v : QJsonValue) : QJsonObject :=
  let others := o.filter fun e => e.1 != key
  if v.isUndefined then others else (key, v) :: others

@[simp] theorem value_nil (key : String) : value [] key = .undefined := rfl

/-- Taking a member away leaves the others. -/
theorem value_filter_ne (o : QJsonObject) {key k : String} (h : k ≠ key) :
    value (o.filter fun e => e.1 != key) k = value o k := by
  induction o with
  | nil => rfl
  | cons e o ih =>
    by_cases he : e.1 = key
    · have hk : e.1 ≠ k := fun hEq => h (hEq.symm.trans he)
      simp [he, value, ih, h.symm]
    · by_cases hk : e.1 = k <;> simp [he, hk, value, ih, h]

/-- The member just assigned. -/
@[simp] theorem value_insert (o : QJsonObject) (key : String) {v : QJsonValue}
    (hv : v.isUndefined = false) : value (insert o key v) key = v := by
  simp [insert, hv, value]

/-- The members not assigned. -/
theorem value_insert_of_ne (o : QJsonObject) {key k : String} (h : k ≠ key) (v : QJsonValue) :
    value (insert o key v) k = value o k := by
  rw [insert]
  split
  · exact value_filter_ne o h
  · simp [value, h.symm, value_filter_ne o h]

/-- Assignments made one after the other. -/
def insertAll (o : QJsonObject) (assignments : List (String × QJsonValue)) : QJsonObject :=
  assignments.foldl (fun o e => o.insert e.1 e.2) o

/-- A name that the later assignments do not touch keeps its member. -/
theorem value_insertAll_of_notMem (o : QJsonObject) {assignments : List (String × QJsonValue)}
    {k : String} (h : k ∉ assignments.map Prod.fst) :
    value (insertAll o assignments) k = value o k := by
  induction assignments generalizing o with
  | nil => rfl
  | cons e es ih =>
    rw [List.map_cons, List.mem_cons, not_or] at h
    exact (ih (o.insert e.1 e.2) h.2).trans (value_insert_of_ne o h.1 e.2)

/-- Each of several assignments to distinct names is found under its name. -/
theorem value_insertAll (o : QJsonObject) {assignments : List (String × QJsonValue)}
    (hNodup : (assignments.map Prod.fst).Nodup) {k : String} {v : QJsonValue}
    (h : (k, v) ∈ assignments) (hv : v.isUndefined = false) :
    value (insertAll o assignments) k = v := by
  induction assignments generalizing o with
  | nil => exact absurd h List.not_mem_nil
  | cons e es ih =>
    rw [List.map_cons, List.nodup_cons] at hNodup
    rcases List.mem_cons.mp h with rfl | hMem
    · exact (value_insertAll_of_notMem _ hNodup.1).trans (value_insert o k hv)
    · exact ih (o.insert e.1 e.2) hNodup.2 hMem

/-- The members whose names `keep` selects. -/
def restrict (o : QJsonObject) (keep : String → Bool) : QJsonObject :=
  o.filter fun e => keep e.1

/-- Of a restricted object, the members that were selected. -/
theorem value_restrict (o : QJsonObject) (keep : String → Bool) (k : String) :
    value (restrict o keep) k = if keep k then value o k else .undefined := by
  induction o with
  | nil => exact (ite_self _).symm
  | cons e o ih =>
    rw [restrict] at ih
    rw [restrict, List.filter_cons]
    by_cases hKeep : keep e.1 = true
    · rw [if_pos hKeep, value, value]
      by_cases hk : e.1 = k
      · rw [if_pos hk, if_pos hk, if_pos (hk ▸ hKeep)]
      · rw [if_neg hk, if_neg hk, ih]
    · rw [if_neg hKeep, ih, value]
      by_cases hk : e.1 = k
      · rw [← hk, if_neg hKeep, if_neg hKeep]
      · rw [if_neg hk]

/-- Taking a member away leaves the names of the others. -/
theorem contains_filter_ne (o : QJsonObject) {key k : String} (h : k ≠ key) :
    contains (o.filter fun e => e.1 != key) k = contains o k := by
  induction o with
  | nil => rfl
  | cons e o ih =>
    rw [contains] at ih
    by_cases he : e.1 = key
    · simp [he, contains, ih, h.symm]
    · simp [he, contains, ih]

/-- A member that is inserted is there, unless it is undefined. -/
@[simp] theorem contains_insert (o : QJsonObject) (key : String) {v : QJsonValue}
    (hv : v.isUndefined = false) : contains (insert o key v) key = true := by
  simp [insert, hv, contains]

/-- An insertion leaves the other names. -/
theorem contains_insert_of_ne (o : QJsonObject) {key k : String} (h : k ≠ key)
    (v : QJsonValue) : contains (insert o key v) k = contains o k := by
  rw [insert]
  split
  · exact contains_filter_ne o h
  · rw [contains, List.any_cons, ← contains, contains_filter_ne o h]
    simp [h.symm]

/-- A member with a value is there. -/
theorem contains_of_value {o : QJsonObject} {key : String}
    (h : (o.value key).isUndefined = false) : o.contains key = true := by
  induction o with
  | nil => simp [QJsonValue.isUndefined] at h
  | cons e o ih =>
    by_cases hKey : e.1 = key
    · simp [contains, hKey]
    · rw [value, if_neg hKey] at h
      rw [contains, List.any_cons, ← contains, ih h, Bool.or_true]

end QJsonObject

end VxlanMtd
