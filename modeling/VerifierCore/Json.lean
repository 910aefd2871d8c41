import Mathlib

/-!
# JSON values as the verifier reads them

Documents, HTTP bodies and JWT payloads reach the verifier as untyped JSON.
This module gives the values and the defensive readers every check uses on
them: the predicates of the JSON-shape helpers and the message of a caught
value.

A JavaScript value that may be missing is an {lit}`Option Json`, with
{lit}`none` for {lit}`undefined`.

Main results:

- Theorem {lit}`get?_set_self` and {lit}`get?_set_of_ne`: what an object reads
  after one member was replaced.
-/

namespace VerifierCore

/-- A JavaScript number other than `NaN`, read as an exact rational or an
infinity. -/
abbrev Num := WithBot (WithTop ℚ)

/-- A JSON value.  Object members keep their order; the first of several
members with one name is the one that is read. -/
inductive Json where
  | null
  | bool (b : Bool)
  | num (n : Num)
  | str (s : String)
  | arr (items : List Json)
  | obj (members : List (String × Json))
deriving Inhabited

namespace Json

/-! ## Decidable equality -/

mutual

/-- Equality of JSON values is decided member by member. -/
protected def decEq : (a b : Json) → Decidable (a = b)
  | .null, .null => isTrue rfl
  | .bool a, .bool b => decidable_of_iff (a = b) (by simp)
  | .num a, .num b => decidable_of_iff (a = b) (by simp)
  | .str a, .str b => decidable_of_iff (a = b) (by simp)
  | .arr as, .arr bs =>
      match Json.decEqItems as bs with
      | isTrue h => isTrue (h ▸ rfl)
      | isFalse h => isFalse fun heq => h (Json.arr.inj heq)
  | .obj as, .obj bs =>
      match Json.decEqMembers as bs with
      | isTrue h => isTrue (h ▸ rfl)
      | isFalse h => isFalse fun heq => h (Json.obj.inj heq)
  | .null, .bool _ | .null, .num _ | .null, .str _ | .null, .arr _ | .null, .obj _
  | .bool _, .null | .bool _, .num _ | .bool _, .str _ | .bool _, .arr _ | .bool _, .obj _
  | .num _, .null | .num _, .bool _ | .num _, .str _ | .num _, .arr _ | .num _, .obj _
  | .str _, .null | .str _, .bool _ | .str _, .num _ | .str _, .arr _ | .str _, .obj _
  | .arr _, .null | .arr _, .bool _ | .arr _, .num _ | .arr _, .str _ | .arr _, .obj _
  | .obj _, .null | .obj _, .bool _ | .obj _, .num _ | .obj _, .str _ | .obj _, .arr _ =>
      isFalse (by simp)

/-- Equality of array items. -/
protected def decEqItems : (as bs : List Json) → Decidable (as = bs)
  | [], [] => isTrue rfl
  | [], _ :: _ => isFalse (by simp)
  | _ :: _, [] => isFalse (by simp)
  | a :: as, b :: bs =>
      match Json.decEq a b, Json.decEqItems as bs with
      | isTrue ha, isTrue has => isTrue (by rw [ha, has])
      | isFalse ha, _ => isFalse fun h => ha (List.cons.inj h).1
      | _, isFalse has => isFalse fun h => has (List.cons.inj h).2

/-- Equality of object members. -/
protected def decEqMembers : (as bs : List (String × Json)) → Decidable (as = bs)
  | [], [] => isTrue rfl
  | [], _ :: _ => isFalse (by simp)
  | _ :: _, [] => isFalse (by simp)
  | (k, a) :: as, (l, b) :: bs =>
      if hk : k = l then
        match Json.decEq a b, Json.decEqMembers as bs with
        | isTrue ha, isTrue has => isTrue (by rw [hk, ha, has])
        | isFalse ha, _ => isFalse fun h => ha (Prod.mk.inj (List.cons.inj h).1).2
        | _, isFalse has => isFalse fun h => has (List.cons.inj h).2
      else isFalse fun h => hk (Prod.mk.inj (List.cons.inj h).1).1

end

instance : DecidableEq Json :=
  Json.decEq

/-! ## Members -/

/-- The member `key` of an object; anything else has no members. -/
def get? : Json → String → Option Json
  | .obj members, key => members.lookup key
  | _, _ => none

/-- Replace a member in place, or add it behind the others. -/
def setMember (key : String) (value : Json) : List (String × Json) → List (String × Json)
  | [] => [(key, value)]
  | (k, v) :: rest => if k = key then (key, value) :: rest else (k, v) :: setMember key value rest

/-- A copy of an object with one member replaced: `{ ...object, [key]: value }`. -/
def set : Json → String → Json → Json
  | .obj members, key, value => .obj (setMember key value members)
  | _, key, value => .obj [(key, value)]

/-- A member that was set is found with its new value. -/
theorem lookup_setMember_self (key : String) (value : Json) (members : List (String × Json)) :
    (setMember key value members).lookup key = some value := by
  induction members with
  | nil => simp [setMember]
  | cons member rest ih =>
      obtain ⟨k, v⟩ := member
      by_cases h : k = key
      · simp [setMember, h]
      · simp [setMember, h, List.lookup_cons, beq_eq_false_iff_ne.mpr (Ne.symm h), ih]

/-- Setting a member leaves the others as they are. -/
theorem lookup_setMember_of_ne {key other : String} (h : other ≠ key) (value : Json)
    (members : List (String × Json)) :
    (setMember key value members).lookup other = members.lookup other := by
  have hbeq : (other == key) = false := beq_eq_false_iff_ne.mpr h
  induction members with
  | nil => simp [setMember, List.lookup_cons, hbeq]
  | cons member rest ih =>
      obtain ⟨k, v⟩ := member
      by_cases hk : k = key
      · simp [setMember, hk, List.lookup_cons, hbeq]
      · simp [setMember, hk, List.lookup_cons, ih]

/-- The replaced member reads as the new value. -/
@[simp]
theorem get?_set_self (object : Json) (key : String) (value : Json) :
    (object.set key value).get? key = some value := by
  cases object with
  | obj members => exact lookup_setMember_self key value members
  | null | bool | num | str | arr => simp [set, get?]

/-- Every other member of an object reads as before. -/
theorem get?_set_of_ne {key other : String} (h : other ≠ key) (members : List (String × Json))
    (value : Json) :
    ((Json.obj members).set key value).get? other = (Json.obj members).get? other :=
  lookup_setMember_of_ne h value members

/-- Both array and non-null object: `typeof value === 'object' && value !== null`. -/
def isObjectType : Json → Bool
  | .arr _ | .obj _ => true
  | _ => false

/-- JavaScript truthiness of a JSON value. -/
def truthy : Json → Bool
  | .null => false
  | .bool b => b
  | .num n => n ≠ 0
  | .str s => s ≠ ""
  | .arr _ | .obj _ => true

end Json

/-! ## Readers of untrusted values -/

/-- Truthiness of a value that may be missing. -/
def truthy (value : Option Json) : Bool :=
  value.any Json.truthy

/-- A non-null, non-array object. -/
def isPlainObject : Option Json → Bool
  | some (.obj _) => true
  | _ => false

/-- `Array.isArray`. -/
def isArray : Option Json → Bool
  | some (.arr _) => true
  | _ => false

/-- The string itself, if the value is one. -/
def asString : Option Json → Option String
  | some (.str s) => some s
  | _ => none

/-- The string values of a term that may be a single string or an array. -/
def stringValues : Option Json → List String
  | some (.str s) => [s]
  | some (.arr items) => items.filterMap fun item => asString item
  | _ => []

/-- The id of a credential's `issuer`: the string itself, or the object's `id`.
An empty string, a non-string id, or any other shape has no id. -/
def issuerId : Option Json → Option String
  | some (.str s) => if s ≠ "" then some s else none
  | some (.obj members) =>
      match (Json.obj members).get? "id" with
      | some (.str id) => if id ≠ "" then some id else none
      | _ => none
  | _ => none

/-- The id of `credential.issuer`: the single rule for reading an issuer. -/
def credentialIssuerId (credential : Json) : Option String :=
  issuerId (credential.get? "issuer")

/-- A caught value.  An error object carries its `message` member. -/
abbrev Thrown := Json

/-- Describe a caught value for a human-readable message. -/
def errorMessage (error : Thrown) (fallback : String) : String :=
  match error with
  | .str s => s
  | .obj members =>
      match (Json.obj members).get? "message" with
      | some (.str message) => message
      | _ => fallback
  | _ => fallback

end VerifierCore
