import VerifierCore.Suites.Core

/-!
# Schemas

The schema library the Open Badges module parses with, as far as the module uses it: the
package {lit}`zod`, which the lock file pins at version 3.25.76 and the repository does not
contain.  The definitions follow its documented behaviour.  A schema collects the issues of a
value with the paths they were found at, and has an output unless a value was of the wrong
type: a failed refinement leaves the output in place, so that the refinements behind it
still run.

Main results:

- Theorems {lit}`accepted_seq` and {lit}`accepted_array`: a value is accepted exactly if
  its parts are.
- Theorem {lit}`stable_passthrough`: an object of stable fields is returned once more as it
  was returned before.
-/

namespace VerifierCore

namespace Zod

/-! ## Parsed values -/

/-- One issue of a parse. -/
structure Issue where
  path : PointerSegments
  message : String
deriving DecidableEq

/-- What a schema makes of a value.  There is no output where the parse was given up. -/
structure Parsed (α : Type) where
  issues : List Issue
  output : Option α
deriving DecidableEq

namespace Parsed

variable {α β : Type}

/-- A parse that raised no issue. -/
def ok (a : α) : Parsed α :=
  { issues := [], output := some a }

/-- Give the parse up at the value itself. -/
def abort (message : String) : Parsed α :=
  { issues := [{ path := [], message := message }], output := none }

/-- Another view of the output; the issues stay. -/
def map (f : α → β) (parsed : Parsed α) : Parsed β :=
  { issues := parsed.issues, output := parsed.output.map f }

/-- The issues of two parts, and an output if both have one. -/
def seq (f : Parsed (α → β)) (parsed : Parsed α) : Parsed β :=
  { issues := f.issues ++ parsed.issues
    output := f.output.bind fun f => parsed.output.map f }

/-- What was parsed is a part of a larger value. -/
def under (segment : PointerSegment) (parsed : Parsed α) : Parsed α :=
  { issues := parsed.issues.map fun issue => { issue with path := segment :: issue.path }
    output := parsed.output }

/-- The output of a parse without issues: what `safeParse` returns when it succeeds. -/
def accepted (parsed : Parsed α) : Option α :=
  if parsed.issues = [] then parsed.output else none

@[simp]
theorem accepted_ok (a : α) : (ok a).accepted = some a :=
  rfl

/-- What was given up is not accepted. -/
@[simp]
theorem accepted_abort (message : String) : (abort message : Parsed α).accepted = none :=
  rfl

/-- What is accepted is the output of the parse. -/
theorem output_of_accepted {parsed : Parsed α} {a : α} (h : parsed.accepted = some a) :
    parsed.output = some a := by
  unfold accepted at h
  split at h
  · exact h
  · cases h

/-- A view of what is accepted is accepted. -/
@[simp]
theorem accepted_map (f : α → β) (parsed : Parsed α) :
    (parsed.map f).accepted = parsed.accepted.map f := by
  unfold accepted map
  split_ifs <;> rfl

/-- Where a part lies in a larger value does not decide whether it is accepted. -/
@[simp]
theorem accepted_under (segment : PointerSegment) (parsed : Parsed α) :
    (parsed.under segment).accepted = parsed.accepted := by
  simp [accepted, under]

/-- Two parts are accepted together exactly if both are. -/
@[simp]
theorem accepted_seq (f : Parsed (α → β)) (parsed : Parsed α) :
    (f.seq parsed).accepted = f.accepted.bind fun f => parsed.accepted.map f := by
  unfold accepted seq
  by_cases hfirst : f.issues = []
  · by_cases hsecond : parsed.issues = []
    · simp [hfirst, hsecond]
    · cases f.output <;> simp [hfirst, hsecond]
  · simp [hfirst]

end Parsed

/-- A schema reads a value that may be missing. -/
abbrev Schema (α : Type) : Type :=
  Option Json → Parsed α

/-! ## Schemas -/

section Schemas

variable {α β : Type}

/-- The name of a value's type in messages. -/
def parsedType : Option Json → String
  | none => "undefined"
  | some .null => "null"
  | some (.bool _) => "boolean"
  | some (.num _) => "number"
  | some (.str _) => "string"
  | some (.arr _) => "array"
  | some (.obj _) => "object"

/-- The message for a value of the wrong type, or for one that is missing. -/
def invalidType (expected : String) (value : Option Json) : String :=
  if value = none then "Required"
  else s!"Expected {expected}, received {parsedType value}"

/-- Strings, and nothing that could be turned into one. -/
def string : Schema String
  | some (.str s) => .ok s
  | value => .abort (invalidType "string" value)

/-- Any value, a missing one included. -/
def unknown : Schema (Option Json)
  | value => .ok value

/-- A missing value is accepted. -/
def optional (schema : Schema α) : Schema (Option α)
  | none => .ok none
  | some value => (schema (some value)).map some

/-- The items of an array, each at its index. -/
def items (schema : Schema α) : List Json → Nat → Parsed (List α)
  | [], _ => .ok []
  | item :: rest, i =>
      (((schema (some item)).under (.index i)).map List.cons).seq (items schema rest (i + 1))

/-- An array whose items the schema reads. -/
def array (schema : Schema α) : Schema (List α)
  | some (.arr values) => items schema values 0
  | value => .abort (invalidType "array" value)

/-- An object, read member by member; members no field reads are passed through. -/
def object (read : Json → Parsed α) : Schema α
  | some (.obj members) => read (.obj members)
  | value => .abort (invalidType "object" value)

/-- One member of an object. -/
def field (value : Json) (key : String) (schema : Schema α) : Parsed α :=
  (schema (value.get? key)).under (.name key)

/-- Refine a schema: issues are added to an output, which stays. -/
def refine (schema : Schema α) (check : α → List Issue) : Schema α :=
  fun value =>
    let parsed := schema value
    { issues := parsed.issues ++ (parsed.output.map check).getD [], output := parsed.output }

/-- Transform the output of a parse without issues. -/
def transform (schema : Schema α) (f : α → β) : Schema β :=
  fun value =>
    let parsed := schema value
    { issues := parsed.issues, output := parsed.accepted.map f }

/-- The first of two schemas that accepts the value, or else the first with an output. -/
def union (first second : Schema α) : Schema α :=
  fun value =>
    if (first value).accepted.isSome then first value
    else if (second value).accepted.isSome then second value
    else if (first value).output.isSome then first value
    else if (second value).output.isSome then second value
    else .abort "Invalid input"

/-! ## What is accepted -/

/-- The strings are accepted, as they are. -/
@[simp]
theorem accepted_string (value : Option Json) : (string value).accepted = asString value := by
  unfold string asString
  split <;> simp_all

/-- Items are accepted from any index on exactly if each of them is. -/
theorem accepted_items (schema : Schema α) (values : List Json) (i : Nat) :
    (items schema values i).accepted = values.mapM fun value => (schema (some value)).accepted := by
  induction values generalizing i with
  | nil => rfl
  | cons value rest ih =>
      rw [items, Parsed.accepted_seq, ih, List.mapM_cons, Parsed.accepted_map,
        Parsed.accepted_under]
      cases (schema (some value)).accepted with
      | none => rfl
      | some a =>
          cases rest.mapM fun value => (schema (some value)).accepted with
          | none => rfl
          | some as => rfl

/-- An array is accepted exactly if all its items are. -/
@[simp]
theorem accepted_array (schema : Schema α) (values : List Json) :
    (array schema (some (.arr values))).accepted =
      values.mapM fun value => (schema (some value)).accepted :=
  accepted_items schema values 0

/-- A schema for which acceptance is a test reads the arrays all of whose items pass it. -/
theorem accepted_array_eq_ite {schema : Schema α} {test : Json → Bool} {read : Json → α}
    (hitem : ∀ value, (schema (some value)).accepted =
      if test value then some (read value) else none) (values : List Json) :
    (array schema (some (.arr values))).accepted =
      if values.all test then some (values.map read) else none := by
  rw [accepted_array]
  induction values with
  | nil => rfl
  | cons value rest ih =>
      rw [List.mapM_cons, ih, hitem]
      by_cases htest : test value = true
      · by_cases hrest : rest.all test = true
        · simp [htest, hrest]
        · simp [htest, hrest]
      · simp [htest]

/-- An optional string is accepted where it is missing or a string. -/
theorem accepted_optional_string (value : Option Json) :
    (optional string value).accepted =
      if value.all fun v => (asString v).isSome then some (asString value) else none := by
  cases value with
  | none => rfl
  | some value => cases value <;> rfl

/-- A field accepts what its schema accepts of the member. -/
@[simp]
theorem accepted_field (value : Json) (key : String) (schema : Schema α) :
    (field value key schema).accepted = (schema (value.get? key)).accepted := by
  simp [field]

/-- An object is read by its reader. -/
@[simp]
theorem accepted_object (read : Json → Parsed α) (members : List (String × Json)) :
    (object read (some (.obj members))).accepted = (read (.obj members)).accepted :=
  rfl

/-- A refinement accepts what its schema accepts and its check finds no issue with. -/
theorem accepted_refine (schema : Schema α) (check : α → List Issue) (value : Option Json) :
    (refine schema check value).accepted =
      (schema value).accepted.filter fun a => check a = [] := by
  unfold refine Parsed.accepted
  by_cases hissues : (schema value).issues = []
  · cases houtput : (schema value).output with
    | none => simp [hissues, houtput]
    | some a =>
        by_cases hcheck : check a = []
        · simp [hissues, houtput, hcheck, Option.filter_some]
        · simp [hissues, houtput, hcheck, Option.filter_some]
  · simp [hissues]

/-- A transformation accepts the values of its schema, and returns them transformed. -/
@[simp]
theorem accepted_transform (schema : Schema α) (f : α → β) (value : Option Json) :
    (transform schema f value).accepted = (schema value).accepted.map f := by
  unfold transform Parsed.accepted
  split_ifs <;> simp_all

/-- A union accepts what one of its schemas accepts, the first of them first. -/
theorem accepted_union (first second : Schema α) (value : Option Json) :
    (union first second value).accepted =
      (first value).accepted.or (second value).accepted := by
  unfold union
  cases hfirst : (first value).accepted with
  | some a => simp [hfirst]
  | none =>
      cases hsecond : (second value).accepted with
      | some a => simp [hsecond]
      | none =>
          simp only [Option.isSome_none, Bool.false_eq_true, if_false, Option.or_none]
          split_ifs
          · exact hfirst
          · exact hsecond
          · rfl

end Schemas

/-! ## JSON outputs -/

/-- The formats of strings that the library tests: `url` and `datetime` with an offset. -/
structure StringFormats where
  url : String → Bool
  datetime : String → Bool

section Outputs

/-- A string whose text passes a test. -/
def checked (test : String → Bool) (message : String) : Schema String :=
  refine string fun text => if test text then [] else [{ path := [], message := message }]

/-- A schema of strings as one of JSON. -/
def text (schema : Schema String) : Schema Json :=
  fun value => (schema value).map Json.str

/-- A string that the library takes for a URL. -/
def url (formats : StringFormats) : Schema Json :=
  text (checked formats.url "Invalid url")

/-- A string that the library takes for a date and time with an offset. -/
def datetime (formats : StringFormats) : Schema Json :=
  text (checked formats.datetime "Invalid datetime")

/-- An array as JSON. -/
def arrayOf (schema : Schema Json) : Schema Json :=
  fun value => (array schema value).map Json.arr

/-- An array with at least one item.  The items of an empty one are still parsed. -/
def nonempty (message : String) (schema : Schema Json) : Schema Json
  | some (.arr []) => { issues := [{ path := [], message := message }], output := some (.arr []) }
  | value => arrayOf schema value

/-- A value that has to be there. -/
def required (schema : Schema Json) : Schema (Option Json) :=
  fun value => (schema value).map some

/-- The fields of an object with the schemas of their values. -/
abbrev Fields : Type :=
  List (String × Schema (Option Json))

/-- The members the fields read; a field without an output is left out. -/
def readFields (value : Json) : Fields → Parsed (List (String × Json))
  | [] => .ok []
  | (key, schema) :: rest =>
      ((field value key schema).map fun output members =>
        (output.map fun v => (key, v)).toList ++ members).seq (readFields value rest)

/-- The members that no field reads. -/
def unread (fields : Fields) (members : List (String × Json)) : List (String × Json) :=
  members.filter fun member => fields.all fun field => field.1 ≠ member.1

/-- An object with these fields; its other members are passed through behind them. -/
def passthrough (fields : Fields) : Schema Json
  | some (.obj members) =>
      (readFields (.obj members) fields).map fun read => .obj (read ++ unread fields members)
  | value => .abort (invalidType "object" value)

end Outputs

/-! ### Fields -/

section Fields

variable {value : Json} {fields : Fields}

/-- The issues of an object are those of its fields, in their order. -/
theorem issues_readFields (value : Json) (fields : Fields) :
    (readFields value fields).issues =
      fields.flatMap fun f => (field value f.1 f.2).issues := by
  induction fields with
  | nil => rfl
  | cons f rest ih =>
      rw [readFields, Parsed.seq, Parsed.map, ih, List.flatMap_cons]

/-- An object has an output exactly if all its fields have. -/
theorem isSome_output_readFields (value : Json) (fields : Fields) :
    (readFields value fields).output.isSome =
      fields.all fun f => (f.2 (value.get? f.1)).output.isSome := by
  induction fields with
  | nil => rfl
  | cons f rest ih =>
      rw [readFields, List.all_cons, ← ih]
      simp only [Parsed.seq, Parsed.map, field, Parsed.under]
      cases (f.2 (value.get? f.1)).output <;> simp

/-- An object that passes its other members through has an output exactly if its fields have. -/
theorem isSome_output_passthrough (fields : Fields) (members : List (String × Json)) :
    (passthrough fields (some (.obj members))).output.isSome =
      fields.all fun f => (f.2 ((Json.obj members).get? f.1)).output.isSome := by
  rw [← isSome_output_readFields, passthrough, Parsed.map, Option.isSome_map]

/-- An accepted object has accepted fields. -/
theorem accepted_of_mem_fields {members : List (String × Json)} {f : String × Schema (Option Json)}
    (h : (readFields value fields).accepted = some members) (hmem : f ∈ fields) :
    ∃ output, (f.2 (value.get? f.1)).accepted = some output := by
  induction fields generalizing members with
  | nil => cases hmem
  | cons first rest ih =>
      rw [readFields, Parsed.accepted_seq, Parsed.accepted_map, accepted_field] at h
      cases hfirst : (first.2 (value.get? first.1)).accepted with
      | none => simp [hfirst] at h
      | some output =>
          rcases List.mem_cons.mp hmem with rfl | hrest
          · exact ⟨output, hfirst⟩
          · cases hback : (readFields value rest).accepted with
            | none => simp [hfirst, hback] at h
            | some back => exact ih hback hrest

/-- A field behind a fresh key has another key. -/
theorem ne_key_of_mem {f g : String × Schema (Option Json)} (hfresh : f.1 ∉ fields.map Prod.fst)
    (hmem : g ∈ fields) : g.1 ≠ f.1 :=
  fun heq => hfresh (heq ▸ List.mem_map_of_mem hmem)

/-- No field is found under a key that none has. -/
theorem lookup_eq_none_of_notMem {key : String} (h : key ∉ fields.map Prod.fst) :
    fields.lookup key = none := by
  rw [List.lookup_eq_none_iff]
  intro f hmem
  have hne : key ≠ f.1 := fun heq => h (heq ▸ List.mem_map_of_mem hmem)
  simpa using hne

/-- A field is found under its key. -/
theorem lookup_of_mem_fields (hnodup : (fields.map Prod.fst).Nodup)
    {f : String × Schema (Option Json)} (hmem : f ∈ fields) : fields.lookup f.1 = some f.2 := by
  induction fields with
  | nil => cases hmem
  | cons first rest ih =>
      rcases List.nodup_cons.mp hnodup with ⟨hfresh, hrest⟩
      rcases List.mem_cons.mp hmem with rfl | hmem
      · exact List.lookup_cons_self
      · rw [List.lookup_cons, beq_eq_false_iff_ne.mpr (ne_key_of_mem hfresh hmem)]
        exact ih hrest hmem

/-- The fields' outputs are found under their keys. -/
theorem lookup_readFields {members : List (String × Json)}
    (h : (readFields value fields).output = some members) (hnodup : (fields.map Prod.fst).Nodup) :
    (∀ key, key ∉ fields.map Prod.fst → members.lookup key = none) ∧
      ∀ f ∈ fields, (f.2 (value.get? f.1)).output = some (members.lookup f.1) := by
  induction fields generalizing members with
  | nil =>
      cases h
      exact ⟨fun _ _ => rfl, fun f hmem => by cases hmem⟩
  | cons first rest ih =>
      rcases Option.bind_eq_some_iff.mp h with ⟨cons, hcons, hmap⟩
      rcases Option.map_eq_some_iff.mp hcons with ⟨output, hfirst, rfl⟩
      rcases Option.map_eq_some_iff.mp hmap with ⟨back, hback, rfl⟩
      rcases List.nodup_cons.mp hnodup with ⟨hfresh, hrest⟩
      have hlookup (key : String) (hkey : key ≠ first.1) :
          ((output.map fun v => (first.1, v)).toList ++ back).lookup key = back.lookup key := by
        cases output with
        | none => rfl
        | some v => simp [List.lookup_cons, beq_eq_false_iff_ne.mpr hkey]
      rcases ih hback hrest with ⟨hnone, hfields⟩
      constructor
      · intro key hkey
        rw [List.map_cons, List.mem_cons, not_or] at hkey
        exact (hlookup key hkey.1).trans (hnone key hkey.2)
      · intro f hmem
        rcases List.mem_cons.mp hmem with rfl | hmem
        · refine Eq.trans hfirst ?_
          cases output with
          | none => exact congrArg some (hnone f.1 hfresh).symm
          | some v => simp
        · have hback := hlookup f.1 (ne_key_of_mem hfresh hmem)
          exact (hfields f hmem).trans (congrArg some hback.symm)

/-- The members that are passed through are not under a field's key. -/
theorem lookup_unread (members : List (String × Json)) {f : String × Schema (Option Json)}
    (hmem : f ∈ fields) : (unread fields members).lookup f.1 = none := by
  rw [List.lookup_eq_none_iff]
  intro member hmember
  have hkey : f.1 ≠ member.1 := by
    simpa using List.all_eq_true.mp (List.mem_filter.mp hmember).2 f hmem
  simpa using hkey

/-- A member of an output is the output of its field. -/
theorem get?_passthrough {members : List (String × Json)} {output : Json}
    {f : String × Schema (Option Json)} (hnodup : (fields.map Prod.fst).Nodup)
    (h : (passthrough fields (some (.obj members))).output = some output) (hmem : f ∈ fields) :
    (f.2 ((Json.obj members).get? f.1)).output = some (output.get? f.1) := by
  rcases Option.map_eq_some_iff.mp h with ⟨read, hread, rfl⟩
  rw [(lookup_readFields hread hnodup).2 f hmem, Json.get?, List.lookup_append,
    lookup_unread members hmem, Option.or_none]

end Fields

/-! ## Definite schemas -/

/-- A schema gives a value up only with an issue. -/
def Definite {α : Type} (schema : Schema α) : Prop :=
  ∀ value, (schema value).issues = [] → (schema value).output.isSome

section Definite

variable {α β : Type} {schema : Schema α}

/-- A value is accepted by a definite schema exactly if it raises no issue. -/
theorem Definite.isSome_accepted_iff (h : Definite schema) (value : Option Json) :
    (schema value).accepted.isSome ↔ (schema value).issues = [] := by
  unfold Parsed.accepted
  by_cases hissues : (schema value).issues = []
  · rw [if_pos hissues]
    exact iff_of_true (h value hissues) hissues
  · rw [if_neg hissues]
    exact iff_of_false (by simp) hissues

/-- A definite schema rejects a value exactly if it raises an issue. -/
theorem Definite.accepted_eq_none_iff (h : Definite schema) (value : Option Json) :
    (schema value).accepted = none ↔ (schema value).issues ≠ [] := by
  rw [← Option.not_isSome_iff_eq_none, h.isSome_accepted_iff]

@[simp]
theorem definite_string : Definite string := by
  intro value hissues
  unfold string at hissues ⊢
  split
  · rfl
  · simp [Parsed.abort] at hissues

/-- A refinement adds issues and takes no output away. -/
@[simp]
theorem definite_refine {check : α → List Issue} (h : Definite schema) :
    Definite (refine schema check) := by
  intro value hissues
  exact h value (List.append_eq_nil_iff.mp hissues).1

@[simp]
theorem definite_checked (test : String → Bool) (message : String) :
    Definite (checked test message) :=
  definite_refine definite_string

/-- A view of an output is there where the output is. -/
theorem definite_map {f : α → β} (h : Definite schema) :
    Definite fun value => (schema value).map f := by
  intro value hissues
  have hsome := h value hissues
  simpa [Parsed.map] using hsome

@[simp]
theorem definite_text {schema : Schema String} (h : Definite schema) : Definite (text schema) :=
  definite_map h

@[simp]
theorem definite_url (formats : StringFormats) : Definite (url formats) :=
  definite_text (definite_checked _ _)

@[simp]
theorem definite_datetime (formats : StringFormats) : Definite (datetime formats) :=
  definite_text (definite_checked _ _)

@[simp]
theorem definite_required {schema : Schema Json} (h : Definite schema) :
    Definite (required schema) :=
  definite_map h

/-- A missing value is an output, and so is what the schema makes of another. -/
@[simp]
theorem definite_optional (h : Definite schema) : Definite (optional schema) := by
  intro value hissues
  cases value with
  | none => rfl
  | some value => exact definite_map h (some value) hissues

/-- Items without an issue all have an output. -/
theorem isSome_output_items (h : Definite schema) (values : List Json) (i : Nat)
    (hissues : (items schema values i).issues = []) : (items schema values i).output.isSome := by
  induction values generalizing i with
  | nil => rfl
  | cons value rest ih =>
      have hissues := List.append_eq_nil_iff.mp hissues
      have hvalue := h (some value) (List.map_eq_nil_iff.mp hissues.1)
      have hrest := ih (i + 1) hissues.2
      rcases Option.isSome_iff_exists.mp hvalue with ⟨a, ha⟩
      rcases Option.isSome_iff_exists.mp hrest with ⟨as, has⟩
      simp [items, Parsed.seq, Parsed.map, Parsed.under, ha, has]

/-- An array gives up only where it is no array or an item gives up. -/
@[simp]
theorem definite_array (h : Definite schema) : Definite (array schema) := by
  intro value hissues
  unfold array at hissues ⊢
  split
  · exact isSome_output_items h _ 0 hissues
  · simp [Parsed.abort] at hissues

@[simp]
theorem definite_arrayOf {schema : Schema Json} (h : Definite schema) : Definite (arrayOf schema) :=
  definite_map (definite_array h)

/-- An empty array raises an issue, and any other is an array of its items. -/
@[simp]
theorem definite_nonempty (message : String) {schema : Schema Json} (h : Definite schema) :
    Definite (nonempty message schema) := by
  intro value hissues
  by_cases hempty : value = some (.arr [])
  · subst hempty
    simp [nonempty] at hissues
  · have heq : nonempty message schema value = arrayOf schema value := by
      unfold nonempty
      split
      · exact absurd rfl hempty
      · rfl
    rw [heq] at hissues ⊢
    exact definite_arrayOf h value hissues

/-- Without an issue the output is accepted, and so it is transformed. -/
@[simp]
theorem definite_transform {f : α → β} (h : Definite schema) : Definite (transform schema f) := by
  intro value hissues
  have haccepted := (h.isSome_accepted_iff value).mpr hissues
  simpa [transform] using haccepted

/-- A union of definite schemas gives a value up only with an issue. -/
@[simp]
theorem definite_union {second : Schema α} (hfirst : Definite schema) (hsecond : Definite second) :
    Definite (union schema second) := by
  intro value hissues
  unfold union at hissues ⊢
  split_ifs at hissues ⊢
  · exact hfirst value hissues
  · exact hsecond value hissues
  · assumption
  · assumption
  · simp [Parsed.abort] at hissues

/-- An object of definite fields gives up only where it is no object or a field gives up. -/
@[simp]
theorem definite_passthrough {fields : Fields} (h : ∀ f ∈ fields, Definite f.2) :
    Definite (passthrough fields) := by
  intro value hissues
  unfold passthrough at hissues ⊢
  split
  · rename_i members
    have hread : (readFields (.obj members) fields).issues = [] := hissues
    rw [issues_readFields, List.flatMap_eq_nil_iff] at hread
    have hsome : (readFields (.obj members) fields).output.isSome := by
      rw [isSome_output_readFields, List.all_eq_true]
      intro f hmem
      exact h f hmem _ (List.map_eq_nil_iff.mp (hread f hmem))
    simpa [Parsed.map] using hsome
  · simp [Parsed.abort] at hissues

end Definite

/-! ## Stable schemas -/

/-- A schema accepts what it returns, and returns it again. -/
def Stable (schema : Schema Json) : Prop :=
  ∀ value output, (schema value).accepted = some output →
    (schema (some output)).accepted = some output

/-- Parsing a field again changes nothing, also where the field is left out. -/
def StableField (schema : Schema (Option Json)) : Prop :=
  ∀ value output, (schema value).accepted = some output → (schema output).accepted = some output

/-- A schema returns what it accepts. -/
def Verbatim (schema : Schema Json) : Prop :=
  ∀ value output, (schema value).accepted = some output → value = some output

section Stable

variable {schema : Schema Json}

/-- What returns its input returns it again. -/
theorem Verbatim.stable (h : Verbatim schema) : Stable schema := by
  intro value output haccepted
  obtain rfl := h value output haccepted
  exact haccepted

/-- A test of a string leaves the string as it is. -/
theorem verbatim_checked (test : String → Bool) (message : String) :
    Verbatim (text (checked test message)) := by
  intro value output h
  rw [text, Parsed.accepted_map, checked, accepted_refine, accepted_string] at h
  rcases Option.map_eq_some_iff.mp h with ⟨s, hs, rfl⟩
  have hstring := (Option.filter_eq_some_iff.mp hs).1
  unfold asString at hstring
  split at hstring
  · cases hstring
    rfl
  · cases hstring

/-- A tested string passes the test again. -/
@[simp]
theorem stable_text_checked (test : String → Bool) (message : String) :
    Stable (text (checked test message)) :=
  (verbatim_checked test message).stable

@[simp]
theorem stable_url (formats : StringFormats) : Stable (url formats) :=
  stable_text_checked _ _

@[simp]
theorem stable_datetime (formats : StringFormats) : Stable (datetime formats) :=
  stable_text_checked _ _

/-- What passes a check is returned unchanged, and passes it again. -/
@[simp]
theorem stable_refine {check : Json → List Issue} (h : Stable schema) :
    Stable (refine schema check) := by
  intro value output haccepted
  rw [accepted_refine, Option.filter_eq_some_iff] at haccepted ⊢
  exact ⟨h value output haccepted.1, haccepted.2⟩

/-- A required field is as stable as its schema. -/
@[simp]
theorem stable_required (h : Stable schema) : StableField (required schema) := by
  intro value output haccepted
  rw [required, Parsed.accepted_map] at haccepted
  rcases Option.map_eq_some_iff.mp haccepted with ⟨v, hv, rfl⟩
  rw [required, Parsed.accepted_map, h value v hv]
  rfl

/-- A field that is left out stays out, and any other is as stable as its schema. -/
@[simp]
theorem stable_optional (h : Stable schema) : StableField (optional schema) := by
  intro value output haccepted
  cases value with
  | none =>
      cases haccepted
      rfl
  | some value =>
      rw [optional, Parsed.accepted_map] at haccepted
      rcases Option.map_eq_some_iff.mp haccepted with ⟨v, hv, rfl⟩
      rw [optional, Parsed.accepted_map, h (some value) v hv]
      rfl

/-- The items an array returns are accepted as they are. -/
theorem Stable.mapM_accepted (h : Stable schema) {values outputs : List Json}
    (hvalues : (values.mapM fun value => (schema (some value)).accepted) = some outputs) :
    (outputs.mapM fun value => (schema (some value)).accepted) = some outputs := by
  induction values generalizing outputs with
  | nil =>
      cases hvalues
      rfl
  | cons value rest ih =>
      rw [List.mapM_cons] at hvalues
      rcases Option.bind_eq_some_iff.mp hvalues with ⟨output, houtput, hrest⟩
      rcases Option.bind_eq_some_iff.mp hrest with ⟨back, hback, hpure⟩
      cases hpure
      rw [List.mapM_cons, h _ _ houtput, ih hback]
      rfl

/-- An array of stable items is stable. -/
@[simp]
theorem stable_arrayOf (h : Stable schema) : Stable (arrayOf schema) := by
  intro value output haccepted
  rw [arrayOf, Parsed.accepted_map] at haccepted
  rcases Option.map_eq_some_iff.mp haccepted with ⟨outputs, houtputs, rfl⟩
  rw [arrayOf, Parsed.accepted_map, accepted_array]
  unfold array at houtputs
  split at houtputs
  · rw [accepted_items] at houtputs
    rw [h.mapM_accepted houtputs]
    rfl
  · cases houtputs

/-- A union is stable if what its schemas return is accepted by the second and not by the
first. -/
theorem stable_union {first second : Schema Json}
    (hfirst : ∀ value output, (first value).accepted = some output →
      (first (some output)).accepted = none ∧ (second (some output)).accepted = some output)
    (hsecond : Stable second)
    (hrejects : ∀ value output, (second value).accepted = some output →
      (first (some output)).accepted = none) : Stable (union first second) := by
  intro value output haccepted
  rw [accepted_union] at haccepted ⊢
  rcases Option.or_eq_some_iff.mp haccepted with hread | ⟨_, hread⟩
  · rw [(hfirst value output hread).1, (hfirst value output hread).2, Option.none_or]
  · rw [hrejects value output hread, hsecond value output hread, Option.none_or]

/-- What the fields read of a value depends on what they accept of it. -/
theorem accepted_readFields_congr {value other : Json} {fields : Fields}
    (h : ∀ f ∈ fields, (f.2 (value.get? f.1)).accepted = (f.2 (other.get? f.1)).accepted) :
    (readFields value fields).accepted = (readFields other fields).accepted := by
  induction fields with
  | nil => rfl
  | cons first rest ih =>
      rw [List.forall_mem_cons] at h
      rw [readFields, readFields, Parsed.accepted_seq, Parsed.accepted_seq, Parsed.accepted_map,
        Parsed.accepted_map, accepted_field, accepted_field, h.1, ih h.2]

/-- The members the fields return are theirs. -/
theorem mem_keys_of_readFields {value : Json} {fields : Fields} {members : List (String × Json)}
    (h : (readFields value fields).output = some members) (hnodup : (fields.map Prod.fst).Nodup)
    {member : String × Json} (hmem : member ∈ members) : member.1 ∈ fields.map Prod.fst := by
  by_contra hnot
  have hnone := (lookup_readFields h hnodup).1 member.1 hnot
  rw [List.lookup_eq_none_iff] at hnone
  simpa using hnone member hmem

/-- What is passed through of two lists of members is passed through of each. -/
theorem unread_append (fields : Fields) (members members' : List (String × Json)) :
    unread fields (members ++ members') = unread fields members ++ unread fields members' :=
  List.filter_append ..

/-- What is passed through once is passed through again. -/
theorem unread_unread (fields : Fields) (members : List (String × Json)) :
    unread fields (unread fields members) = unread fields members := by
  rw [unread, unread, List.filter_filter]
  simp

/-- Of the members of fields alone nothing is passed through. -/
theorem unread_eq_nil {fields : Fields} {members : List (String × Json)}
    (h : ∀ member ∈ members, member.1 ∈ fields.map Prod.fst) : unread fields members = [] := by
  rw [unread, List.filter_eq_nil_iff]
  intro member hmem hall
  rcases List.mem_map.mp (h member hmem) with ⟨f, hf, hkey⟩
  have hne := List.all_eq_true.mp hall f hf
  simp [hkey] at hne

/-- An object of stable fields returns itself: its fields are in front already, and its
other members behind them. -/
@[simp]
theorem stable_passthrough {fields : Fields} (h : ∀ f ∈ fields, StableField f.2)
    (hnodup : (fields.map Prod.fst).Nodup) : Stable (passthrough fields) := by
  intro value output haccepted
  unfold passthrough at haccepted
  split at haccepted
  · rename_i members
    rw [Parsed.accepted_map] at haccepted
    rcases Option.map_eq_some_iff.mp haccepted with ⟨read, hread, rfl⟩
    have houtput := Parsed.output_of_accepted hread
    have hagain : (readFields (.obj (read ++ unread fields members)) fields).accepted =
        some read := by
      rw [← hread]
      apply accepted_readFields_congr
      intro f hf
      rcases accepted_of_mem_fields hread hf with ⟨v, hv⟩
      have hlookup : v = read.lookup f.1 := by
        have hfield := (lookup_readFields houtput hnodup).2 f hf
        rw [Parsed.output_of_accepted hv] at hfield
        exact Option.some.inj hfield
      rw [Json.get?, List.lookup_append, lookup_unread members hf, Option.or_none, ← hlookup,
        h f hf _ _ hv, hv]
    have hunread : unread fields (read ++ unread fields members) = unread fields members := by
      rw [unread_append, unread_unread,
        unread_eq_nil fun member hmem => mem_keys_of_readFields houtput hnodup hmem,
        List.nil_append]
    rw [passthrough, Parsed.accepted_map, hagain, Option.map_some, hunread]
  · cases haccepted

end Stable

end Zod

end VerifierCore
