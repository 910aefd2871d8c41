import VerifierCore.Foundations.Pointer
import VerifierCore.Suites.Core
import Std.Data.String.ToNat

/-!
# The pointers of structure problems

Every problem of the structure checks carries a JSON Pointer.  Read back, it leads to the
value the problem is about, or names the member that is missing, and that value breaks the
rule whose text the problem carries.

Main results:

- Theorem {lit}`pointerTokens_formatJsonPointer`: a formatted pointer is read back as its
  segments.
- Theorems {lit}`vcStructureRules_located` and {lit}`vpStructureRules_located`: every
  violation lies where it is reported.
- Theorem {lit}`structureProblems_pointed`: the same of the problems of both checks.
-/

namespace VerifierCore

open Foundations

/-! ## Reading pointers -/

/-- The text of a segment: a name, or an index in decimal. -/
def PointerSegment.text : PointerSegment → String
  | .name text => text
  | .index i => toString i

/-- The tokens of a pointer. -/
def pointerTokens (pointer : String) : Option (List String) :=
  (decodePointer pointer.toList).map fun tokens => tokens.map String.ofList

/-- Replacing a character replaces it wherever it stands. -/
theorem toList_replaceAll (text : String) (c : Char) (replacement : String) :
    (replaceAll text c replacement).toList =
      text.toList.flatMap fun d => if d = c then replacement.toList else [d] :=
  String.toList_ofList

/-- The two replacements in their order escape a token. -/
theorem toList_escaped (text : String) :
    (replaceAll (replaceAll text '~' "~0") '/' "~1").toList = escapeToken text.toList := by
  rw [toList_replaceAll, toList_replaceAll, List.flatMap_assoc, escapeToken]
  apply List.flatMap_congr
  intro c _
  by_cases htilde : c = '~'
  · rw [if_pos htilde, if_pos htilde]
    rfl
  · rw [if_neg htilde, if_neg htilde, List.flatMap_singleton]
    rfl

/-- A pointer that is not empty joins its escaped segments behind slashes. -/
theorem formatJsonPointer_eq {segments : PointerSegments} (h : segments ≠ []) :
    formatJsonPointer segments = String.singleton '/' ++ join (String.singleton '/')
      (segments.map fun segment => replaceAll (replaceAll segment.text '~' "~0") '/' "~1") := by
  rw [formatJsonPointer, if_neg (by simpa using h)]
  refine congrArg (fun texts => String.singleton '/' ++ join (String.singleton '/') texts) ?_
  apply List.map_congr_left
  intro segment _
  cases segment <;> rfl

/-- A formatted pointer is the encoding of the texts of its segments. -/
theorem toList_formatJsonPointer (segments : PointerSegments) :
    (formatJsonPointer segments).toList =
      encodePointer (segments.map fun segment => segment.text.toList) := by
  by_cases hempty : segments = []
  · rw [hempty]
    rfl
  · rw [formatJsonPointer_eq hempty, encodePointer_eq (by simpa using hempty),
      String.toList_append, String.toList_singleton, toList_join, List.map_map, List.map_map]
    refine congrArg (fun texts => '/' :: ['/'].intercalate texts) ?_
    apply List.map_congr_left
    intro segment _
    exact toList_escaped segment.text

/-- A formatted pointer is read back as the texts of its segments. -/
theorem pointerTokens_formatJsonPointer (segments : PointerSegments) :
    pointerTokens (formatJsonPointer segments) = some (segments.map PointerSegment.text) := by
  rw [pointerTokens, toList_formatJsonPointer, decodePointer_encodePointer, Option.map_some,
    List.map_map]
  congr 1
  apply List.map_congr_left
  intro segment _
  exact String.ofList_toList

/-! ## What a pointer refers to -/

/-- The child a token names: the member of an object, or the entry of an array at the
index with this numeral. -/
def Json.child : Json → String → Option Json
  | .obj members, token => members.lookup token
  | .arr items, token =>
      (items.zipIdx.find? fun entry => toString entry.2 = token).map fun entry => entry.1
  | _, _ => none

/-- The child at an index is the item there. -/
theorem Json.child_index {items : List Json} {i : Nat} {entry : Json}
    (h : items[i]? = some entry) : (Json.arr items).child (toString i) = some entry := by
  have hfind : items.zipIdx.find? (fun entry => toString entry.2 = toString i) =
      some (entry, i) := by
    rcases List.getElem?_eq_some_iff.mp h with ⟨hi, hentry⟩
    rw [List.find?_eq_some_iff_getElem]
    refine ⟨by simp, i, by simpa using hi, by simpa using hentry, ?_⟩
    intro j hj
    have hne : toString j ≠ toString i := fun heq => absurd (Nat.repr_injective heq) (by omega)
    simpa using hne
  rw [Json.child, hfind]
  rfl

/-- Tokens point from a document at a value, or at a member that an object of the
document does not have. -/
inductive Points (document : Json) : List String → Option Json → Prop where
  | present {front : List String} {last : String} {container value : Json} :
      resolve Json.child document front = some container → container.isObjectType = true →
      container.child last = some value → Points document (front ++ [last]) (some value)
  | absent {front : List String} {last : String} {members : List (String × Json)} :
      resolve Json.child document front = some (.obj members) →
      (Json.obj members).child last = none → Points document (front ++ [last]) none

/-- A pointer to a value is resolved to it. -/
theorem Points.resolve_eq {document value : Json} {tokens : List String}
    (h : Points document tokens (some value)) :
    resolve Json.child document tokens = some value := by
  cases h with
  | present hcontainer _ hchild =>
      rw [resolve_append, hcontainer]
      simp [resolve, hchild]

/-- A member of an object of the document, whether it is there or not. -/
theorem Points.member {document : Json} {members : List (String × Json)}
    {pointer : PointerSegments} (key : String)
    (h : resolve Json.child document (pointer.map PointerSegment.text) = some (.obj members)) :
    Points document ((pointer ++ [PointerSegment.name key]).map PointerSegment.text)
      ((Json.obj members).get? key) := by
  rw [List.map_append]
  cases hvalue : (Json.obj members).get? key with
  | none => exact .absent h hvalue
  | some value => exact .present h rfl hvalue

/-- A pointer to a list leads on to its entries. -/
theorem Points.entry {document entry : Json} {items : List Json} {pointer : PointerSegments}
    {i : Nat} (h : resolve Json.child document (pointer.map PointerSegment.text) = some (.arr items))
    (hentry : items[i]? = some entry) :
    Points document ((pointer ++ [PointerSegment.index i]).map PointerSegment.text) (some entry) := by
  rw [List.map_append]
  exact .present h rfl (Json.child_index hentry)

/-- The entries of a value that is pointed at are pointed at. -/
theorem Points.of_mem_asEntries {document value entry : Json} {pointer path : PointerSegments}
    (h : Points document (pointer.map PointerSegment.text) (some value))
    (hmem : (entry, path) ∈ asEntries value pointer) :
    Points document (path.map PointerSegment.text) (some entry) := by
  unfold asEntries at hmem
  split at hmem
  · rcases List.mem_map.mp hmem with ⟨⟨item, i⟩, hitem, heq⟩
    cases heq
    exact .entry h.resolve_eq (List.mem_zipIdx_iff_getElem?.mp hitem)
  · cases List.mem_singleton.mp hmem
    exact h

/-! ## Broken rules -/

/-- A value breaks a structure rule, with the path and the text it is reported with. -/
inductive Offence (platform : Platform) : PointerSegments → String → Option Json → Prop where
  | required (name : String) (value : Option Json) : value = none ∨ value = some .null →
      Offence platform [.name name] s!"\"{name}\" is required." value
  | firstContext (pointer : PointerSegments) (value : Option Json) : isVcContext value = false →
      Offence platform pointer
        s!"The first \"@context\" entry must be \"{vcContextV1}\" or \"{vcContextV2}\"." value
  | contextMissing (value : Option Json) : includesVcContext value = false →
      Offence platform [.name "@context"]
        s!"\"@context\" must include \"{vcContextV1}\" or \"{vcContextV2}\"." value
  | typeIncludes (required : String) (value : Json) : required ∉ stringValues (some value) →
      Offence platform [.name "type"] s!"\"type\" must include \"{required}\"." (some value)
  | url (pointer : PointerSegments) (value : Option Json) : platform.isUrl value = false →
      Offence platform pointer s!"\"{displayPath pointer}\" must be a URL." value
  | urlOrId (pointer : PointerSegments) (value : Json) : asString (some value) = none →
      isPlainObject (some value) = false →
      Offence platform pointer
        s!"\"{displayPath pointer}\" must be a URL or an object with a URL \"id\"." (some value)
  | emptySubject :
      Offence platform [.name "credentialSubject"]
        "\"credentialSubject\" must have at least one entry." (some (.arr []))
  | subject (pointer : PointerSegments) (value : Json) :
      isPlainObject (some value) = false ∨ value = .obj [] →
      Offence platform pointer s!"\"{displayPath pointer}\" must be a non-empty object."
        (some value)
  | dateTime (prop : String) (value : Json) : isDateTime platform value = false →
      Offence platform [.name prop] s!"\"{prop}\" must be a valid dateTime." (some value)
  | typedEntry (pointer : PointerSegments) (value : Json) : isPlainObject (some value) = false →
      Offence platform pointer s!"\"{displayPath pointer}\" must be an object with a \"type\"."
        (some value)
  | entryType (pointer : PointerSegments) (value : Option Json) : stringValues value = [] →
      Offence platform (pointer ++ [.name "type"]) s!"\"{displayPath pointer}\" must have a \"type\"."
        value
  | entryId (pointer : PointerSegments) :
      Offence platform (pointer ++ [.name "id"])
        s!"\"{displayPath pointer}\" must have a URL \"id\"." none
  | credential (pointer : PointerSegments) (value : Json) : isPlainObject (some value) = false →
      Offence platform pointer s!"\"{displayPath pointer}\" must be an object." (some value)

/-- A violation is reported where a value of the document breaks its rule. -/
def Violation.Located (platform : Platform) (document : Json) (violation : Violation) : Prop :=
  ∃ value, Points document (violation.pointer.map PointerSegment.text) value ∧
    Offence platform violation.pointer violation.detail value

/-- A reported violation is located where it points. -/
theorem located_report {platform : Platform} {document : Json} {pointer : PointerSegments}
    {detail : String} {value : Option Json}
    (hpoints : Points document (pointer.map PointerSegment.text) value)
    (hoffence : Offence platform pointer detail value) :
    ∀ violation ∈ report pointer detail, violation.Located platform document := by
  intro violation hmem
  cases List.mem_singleton.mp hmem
  exact ⟨value, hpoints, hoffence⟩

/-! ### Displayed paths -/

/-- Joining without a separator is concatenation. -/
theorem join_empty_concat (strings : List String) (s : String) :
    join "" (strings ++ [s]) = join "" strings ++ s := by
  induction strings with
  | nil => simp [join]
  | cons first rest ih =>
      cases rest with
      | nil => simp [join]
      | cons next rest =>
          have hjoin (strings : List String) :
              join "" (first :: next :: strings) = first ++ "" ++ join "" (next :: strings) := rfl
          rw [List.cons_append, List.cons_append, hjoin, hjoin, ← List.cons_append, ih,
            ← String.append_assoc]

/-- The name of a member of a value that is not the whole document. -/
theorem displayPath_concat {pointer : PointerSegments} (h : pointer ≠ []) (key : String) :
    displayPath (pointer ++ [.name key]) = displayPath pointer ++ "." ++ key := by
  have hlength : pointer.length ≠ 0 := by simpa using h
  rw [displayPath, List.zipIdx_append, List.map_append, List.zipIdx_singleton, List.map_singleton,
    join_empty_concat, displayPath]
  simp only [Nat.zero_add, hlength, if_false]
  rw [String.append_assoc]
  rfl

/-- The `id` of an entry is named behind the entry. -/
theorem offence_id {platform : Platform} {pointer : PointerSegments} {value : Option Json}
    (hne : pointer ≠ []) (h : platform.isUrl value = false) :
    Offence platform (pointer ++ [.name "id"]) s!"\"{displayPath pointer}.id\" must be a URL."
      value := by
  have hsplit : displayPath pointer ++ "." ++ "id" ++ "\" must be a URL." =
      displayPath pointer ++ ".id\" must be a URL." := by
    rw [String.append_assoc, String.append_assoc]
    rfl
  have hurl := Offence.url (pointer ++ [.name "id"]) value h
  rw [displayPath_concat hne] at hurl
  refine Eq.mp (congrArg (fun detail => Offence platform _ detail value) ?_) hurl
  refine (String.append_assoc ..).trans (.trans ?_ (String.append_assoc ..).symm)
  exact congrArg ("\"" ++ ·) hsplit

/-- The entries of a value that is pointed to are pointed to. -/
theorem ne_nil_of_mem_asEntries {value entry : Json} {pointer path : PointerSegments}
    (hne : pointer ≠ []) (h : (entry, path) ∈ asEntries value pointer) : path ≠ [] := by
  unfold asEntries at h
  split at h
  · rcases List.mem_map.mp h with ⟨⟨item, i⟩, _, heq⟩
    cases heq
    simp
  · cases List.mem_singleton.mp h
    exact hne

/-! ## The rules report where the values are -/

section Rules

variable {platform : Platform}

/-- A value that should be a URL or an object with one is pointed to. -/
theorem checkUrlOrIdObject_located {document value : Json} {pointer : PointerSegments}
    (hne : pointer ≠ []) (h : Points document (pointer.map PointerSegment.text) (some value)) :
    ∀ violation ∈ checkUrlOrIdObject platform value pointer,
      violation.Located platform document := by
  unfold checkUrlOrIdObject
  dsimp only
  split
  · rename_i s
    split_ifs with hurl
    · simp
    · exact located_report h (.url pointer _ (by simpa using hurl))
  · rename_i members
    split_ifs with hurl
    · simp
    · exact located_report (.member "id" h.resolve_eq) (offence_id hne (by simpa using hurl))
  · rename_i hstr hobj
    refine located_report h (.urlOrId pointer value ?_ ?_)
    · cases value <;> simp_all [asString]
    · cases value <;> simp_all [isPlainObject]

/-- An entry without a type is reported where it stands. -/
theorem checkTypedEntry_located {document entry : Json} {pointer : PointerSegments}
    (h : Points document (pointer.map PointerSegment.text) (some entry)) :
    ∀ violation ∈ checkTypedEntry entry pointer, violation.Located platform document := by
  unfold checkTypedEntry
  dsimp only
  split_ifs with hplain htype
  · exact located_report h (.typedEntry pointer entry (by simpa using hplain))
  · cases entry with
    | obj members =>
        exact located_report (.member "type" h.resolve_eq)
          (.entryType pointer _ (List.length_eq_zero_iff.mp htype))
    | null | bool | num | str | arr => simp [isPlainObject] at hplain
  · simp

/-- An entry whose `id` breaks its rule is reported at that `id`. -/
theorem checkEntryId_located {document : Json} {members : List (String × Json)}
    {pointer : PointerSegments} (rule : IdRule) (hne : pointer ≠ [])
    (h : Points document (pointer.map PointerSegment.text) (some (.obj members))) :
    ∀ violation ∈ checkEntryId platform (.obj members) pointer rule,
      violation.Located platform document := by
  have hid := Points.member "id" h.resolve_eq
  unfold checkEntryId
  split
  · rename_i hnone
    rw [hnone] at hid
    cases rule with
    | required => exact located_report hid (.entryId pointer)
    | optional => simp
  · rename_i id hsome
    rw [hsome] at hid
    split_ifs with hurl
    · simp
    · exact located_report hid (offence_id hne (by simpa using hurl))

variable {members : List (String × Json)}

/-- The members of the document itself. -/
theorem Points.root (members : List (String × Json)) (key : String) :
    Points (.obj members) ([PointerSegment.name key].map PointerSegment.text)
      ((Json.obj members).get? key) :=
  @Points.member _ _ [] key rfl

/-- The entries of a property of the document. -/
theorem points_of_mem_property {value entry : Json} {prop : String} {path : PointerSegments}
    (hvalue : (Json.obj members).get? prop = some value)
    (h : (entry, path) ∈ asEntries value [.name prop]) :
    Points (.obj members) (path.map PointerSegment.text) (some entry) ∧ path ≠ [] := by
  have hroot := Points.root members prop
  rw [hvalue] at hroot
  exact ⟨hroot.of_mem_asEntries h, ne_nil_of_mem_asEntries (by simp) h⟩

/-- A context that should not come first is reported where it stands. -/
theorem checkFirstContextEntry_located :
    ∀ violation ∈ checkFirstContextEntry ((Json.obj members).get? "@context"),
      violation.Located platform (.obj members) := by
  have hroot := Points.root members "@context"
  cases hcontext : (Json.obj members).get? "@context" with
  | none => simp [checkFirstContextEntry, includesVcContext, stringValues]
  | some context =>
      rw [hcontext] at hroot
      cases context with
      | arr items =>
          cases items with
          | nil => simp [checkFirstContextEntry, includesVcContext, stringValues]
          | cons first rest =>
              have hfirst : firstContextEntry (some (.arr (first :: rest))) = some first := rfl
              unfold checkFirstContextEntry
              rw [hfirst]
              by_cases hfine : (!includesVcContext (some (.arr (first :: rest))) ||
                isVcContext (some first)) = true
              · simp [hfine]
              · rw [if_neg hfine]
                rw [Bool.or_eq_true, not_or] at hfine
                exact located_report (Points.entry hroot.resolve_eq rfl)
                  (.firstContext _ (some first) (by simpa using hfine.2))
      | str s => simp [checkFirstContextEntry, includesVcContext, stringValues, firstContextEntry]
      | null | bool | num | obj => simp [checkFirstContextEntry, includesVcContext, stringValues]

/-- A type list without the required type is reported where it stands. -/
theorem checkTypeIncludes_located (required : String) :
    ∀ violation ∈ checkTypeIncludes ((Json.obj members).get? "type") required,
      violation.Located platform (.obj members) := by
  have hroot := Points.root members "type"
  cases htype : (Json.obj members).get? "type" with
  | none =>
      rw [htype] at hroot
      exact located_report hroot (.required "type" _ (.inl rfl))
  | some type =>
      rw [htype] at hroot
      unfold checkTypeIncludes
      by_cases hincludes : required ∈ stringValues (some type)
      · simp [hincludes]
      · simp only [hincludes, if_false]
        exact located_report hroot (.typeIncludes required type hincludes)

/-- A subject that claims nothing is reported where it stands. -/
theorem checkCredentialSubject_located :
    ∀ violation ∈ checkCredentialSubject platform (.obj members),
      violation.Located platform (.obj members) := by
  have hroot := Points.root members "credentialSubject"
  unfold checkCredentialSubject
  dsimp only
  split
  · rename_i hnone
    exact located_report hroot (.required "credentialSubject" _ (.inl hnone))
  · rename_i hnull
    exact located_report hroot (.required "credentialSubject" _ (.inr hnull))
  · rename_i hempty
    rw [hempty] at hroot
    exact located_report hroot .emptySubject
  · rename_i value _ _ hvalue
    intro violation hmem
    rcases List.mem_flatMap.mp hmem with ⟨⟨entry, path⟩, hentry, hreported⟩
    rcases points_of_mem_property hvalue hentry with ⟨hpoints, hne⟩
    dsimp only at hreported
    split_ifs at hreported with hsubject
    · refine located_report hpoints (.subject path entry ?_) violation hreported
      simpa using hsubject
    · cases entry with
      | obj entries =>
          have hid := Points.member "id" hpoints.resolve_eq
          split at hreported
          · simp at hreported
          · rename_i id hsome
            rw [hsome] at hid
            split_ifs at hreported with hurl
            · simp at hreported
            · exact located_report hid (offence_id hne (by simpa using hurl)) violation hreported
      | null | bool | num | str | arr => simp [isPlainObject] at hsubject

/-- A date that cannot be read is reported where it stands. -/
theorem checkDateTime_located (prop : String) :
    ∀ violation ∈ checkDateTime platform (.obj members) prop,
      violation.Located platform (.obj members) := by
  have hroot := Points.root members prop
  unfold checkDateTime
  split
  · simp
  · rename_i value hvalue
    rw [hvalue] at hroot
    split_ifs with hdate
    · simp
    · exact located_report hroot (.dateTime prop value (by simpa using hdate))

/-- The dates of a version are reported where they stand. -/
theorem checkDates_located :
    ∀ violation ∈ checkDates platform (.obj members), violation.Located platform (.obj members) := by
  intro violation hmem
  unfold checkDates at hmem
  split at hmem
  · rw [List.mem_append, List.mem_append] at hmem
    rcases hmem with (hrequired | hissued) | hexpires
    · split_ifs at hrequired with hnone
      · exact located_report (Points.root members "issuanceDate")
          (.required "issuanceDate" _ (.inl (Option.isNone_iff_eq_none.mp hnone)))
          violation hrequired
      · simp at hrequired
    · exact checkDateTime_located _ violation hissued
    · exact checkDateTime_located _ violation hexpires
  · rw [List.mem_append] at hmem
    rcases hmem with hfrom | huntil
    · exact checkDateTime_located _ violation hfrom
    · exact checkDateTime_located _ violation huntil
  · simp at hmem

/-- The entries of a typed property are reported where they stand. -/
theorem checkTypedProperty_located (property : String × Option IdRule) :
    ∀ violation ∈ checkTypedProperty platform (.obj members) property,
      violation.Located platform (.obj members) := by
  unfold checkTypedProperty
  split
  · simp
  · rename_i value hvalue
    intro violation hmem
    rcases List.mem_flatMap.mp hmem with ⟨⟨entry, path⟩, hentry, hreported⟩
    rcases points_of_mem_property hvalue hentry with ⟨hpoints, hne⟩
    rcases List.mem_append.mp hreported with htyped | hid
    · exact checkTypedEntry_located hpoints violation htyped
    · cases entry with
      | obj entries =>
          cases hrule : property.2 with
          | none => simp [hrule] at hid
          | some rule =>
              refine checkEntryId_located rule hne hpoints violation ?_
              simpa [hrule, isPlainObject] using hid
      | null | bool | num | str | arr => simp [isPlainObject] at hid

/-- Every violation of a credential is reported where a value breaks its rule. -/
theorem vcStructureRules_located :
    ∀ violation ∈ vcStructureRules platform (.obj members),
      violation.Located platform (.obj members) := by
  intro violation hmem
  unfold vcStructureRules at hmem
  simp only [List.mem_append] at hmem
  rcases hmem with ((((hcontext | htype) | hsubject) | hissuer) | hdates) | htyped
  · exact checkFirstContextEntry_located violation hcontext
  · exact checkTypeIncludes_located _ violation htype
  · exact checkCredentialSubject_located violation hsubject
  · have hroot := Points.root members "issuer"
    split at hissuer
    · rename_i hnone
      exact located_report hroot (.required "issuer" _ (.inl hnone)) violation hissuer
    · rename_i issuer hsome
      rw [hsome] at hroot
      exact checkUrlOrIdObject_located (by simp) hroot violation hissuer
  · exact checkDates_located violation hdates
  · rcases List.mem_flatMap.mp htyped with ⟨property, _, hreported⟩
    exact checkTypedProperty_located property violation hreported

/-- A rule that reports at the entries it is given reports at entries of the document. -/
theorem checkEntries_located {prop : String} {rule : Json → PointerSegments → List Violation}
    (hrule : ∀ entry path, Points (.obj members) (path.map PointerSegment.text) (some entry) →
      ∀ violation ∈ rule entry path, violation.Located platform (.obj members)) :
    ∀ violation ∈ checkEntries (.obj members) prop rule,
      violation.Located platform (.obj members) := by
  unfold checkEntries
  split
  · simp
  · rename_i value hvalue
    intro violation hmem
    rcases List.mem_flatMap.mp hmem with ⟨⟨entry, path⟩, hentry, hreported⟩
    exact hrule entry path (points_of_mem_property hvalue hentry).1 violation hreported

/-- Every violation of a presentation is reported where a value breaks its rule. -/
theorem vpStructureRules_located :
    ∀ violation ∈ vpStructureRules platform (.obj members),
      violation.Located platform (.obj members) := by
  intro violation hmem
  unfold vpStructureRules at hmem
  simp only [List.mem_append] at hmem
  rcases hmem with (((((hmissing | hcontext) | htype) | hid) | hholder) | hproof) | hcredentials
  · split_ifs at hmissing with hincludes
    · simp at hmissing
    · exact located_report (Points.root members "@context")
        (.contextMissing _ (by simpa using hincludes)) violation hmissing
  · exact checkFirstContextEntry_located violation hcontext
  · exact checkTypeIncludes_located _ violation htype
  · have hroot := Points.root members "id"
    split at hid
    · simp at hid
    · rename_i id hsome
      rw [hsome] at hroot
      split_ifs at hid with hurl
      · simp at hid
      · exact located_report hroot (.url [.name "id"] (some id) (by simpa using hurl))
          violation hid
  · have hroot := Points.root members "holder"
    split at hholder
    · simp at hholder
    · rename_i holder hsome
      rw [hsome] at hroot
      exact checkUrlOrIdObject_located (by simp) hroot violation hholder
  · exact checkEntries_located (fun entry path hpoints => checkTypedEntry_located hpoints)
      violation hproof
  · refine checkEntries_located (fun entry path hpoints => ?_) violation hcredentials
    split_ifs with hplain
    · simp
    · exact located_report hpoints (.credential path entry (by simpa using hplain))

end Rules

/-! ## The problems of the checks -/

/-- A problem carries a pointer into the document, and its text is that of a rule the
value there breaks. -/
def ProblemDetail.Pointed (platform : Platform) (document : Json) (problem : ProblemDetail) :
    Prop :=
  ∃ pointer segments value, problem.instance? = some pointer ∧
    pointerTokens pointer = some (segments.map PointerSegment.text) ∧
    Points document (segments.map PointerSegment.text) value ∧
    Offence platform segments problem.detail value

/-- Located violations are pointed to by the problems made of them. -/
theorem pointed_of_located {platform : Platform} {document : Json} {title message : String}
    {violations : List Violation} {problems : List ProblemDetail} {payload : Option CheckPayload}
    (hlocated : ∀ violation ∈ violations, violation.Located platform document)
    (h : runStructureRules title message violations = .failure problems payload) :
    ∀ problem ∈ problems, problem.Pointed platform document := by
  intro problem hmem
  have hproblems := runStructureRules_problems h
  have hpair : (problem.instance?, problem.detail) ∈
      violations.map fun v => (some (formatJsonPointer v.pointer), v.detail) := by
    rw [← hproblems]
    exact List.mem_map_of_mem hmem
  rcases List.mem_map.mp hpair with ⟨violation, hviolation, heq⟩
  rw [Prod.mk.injEq] at heq
  rcases hlocated violation hviolation with ⟨value, hpoints, hoffence⟩
  exact ⟨_, violation.pointer, value, heq.1.symm, pointerTokens_formatJsonPointer _, hpoints,
    heq.2 ▸ hoffence⟩

/-- Pointers are read back as their segments, and every problem of the structure checks on
an object carries one that leads to what it is about.  A value that is no object gets a
single problem, which concerns all of it and carries none. -/
theorem structureProblems_pointed (platform : Platform) (subject : VerificationSubject) :
    (∀ segments : PointerSegments,
      pointerTokens (formatJsonPointer segments) = some (segments.map PointerSegment.text)) ∧
    (∀ members problems payload, subject.verifiableCredential = some (.obj members) →
      vcStructureOutcome platform subject = .failure problems payload →
      ∀ problem ∈ problems, problem.Pointed platform (.obj members)) ∧
    (∀ members problems payload, subject.verifiablePresentation = some (.obj members) →
      vpStructureOutcome platform subject = .failure problems payload →
      ∀ problem ∈ problems, problem.Pointed platform (.obj members)) ∧
    (isPlainObject subject.verifiableCredential = false →
      ∃ problem, vcStructureOutcome platform subject = .failure [problem] ∧
        problem.instance? = none) ∧
    (isPlainObject subject.verifiablePresentation = false →
      ∃ problem, vpStructureOutcome platform subject = .failure [problem] ∧
        problem.instance? = none) := by
  refine ⟨pointerTokens_formatJsonPointer, ?_, ?_, ?_, ?_⟩
  · intro members problems payload hcredential h
    rw [vcStructureOutcome, hcredential] at h
    exact pointed_of_located vcStructureRules_located h
  · intro members problems payload hpresentation h
    rw [vpStructureOutcome, hpresentation] at h
    exact pointed_of_located vpStructureRules_located h
  · intro hplain
    unfold vcStructureOutcome
    dsimp only
    split
    · rename_i members hcredential
      simp [hcredential, isPlainObject] at hplain
    · exact ⟨_, rfl, rfl⟩
  · intro hplain
    unfold vpStructureOutcome
    dsimp only
    split
    · rename_i members hpresentation
      simp [hpresentation, isPlainObject] at hplain
    · exact ⟨_, rfl, rfl⟩

/-! ### A problem with and one without a pointer -/

namespace NumericId

/-- A credential with a number for the `id` of its first subject. -/
def members : List (String × Json) :=
  [("@context", .arr [.str vcContextV2]),
    ("type", .arr [.str "VerifiableCredential"]),
    ("issuer", .str "https://issuer.example"),
    ("credentialSubject", .arr [.obj [("id", .num 5)]])]

/-- The runtime takes the issuer for a URL. -/
def platform : Platform :=
  PlatformTable.platform { urls := ["https://issuer.example"] }

/-- A credential with a number for the `id` of its subject. -/
def subject : VerificationSubject :=
  { verifiableCredential := some (.obj members) }

/-- A credential that is no object. -/
def textSubject : VerificationSubject :=
  { verifiableCredential := some (.str "credential") }

end NumericId

/-- The one problem points to the number. -/
theorem structureProblems_pointed_numericId :
    ∃ problem, vcStructureOutcome NumericId.platform NumericId.subject = .failure [problem] ∧
      problem.instance? = some "/credentialSubject/0/id" ∧
      problem.Pointed NumericId.platform (.obj NumericId.members) := by
  have houtcome : vcStructureOutcome NumericId.platform NumericId.subject =
      .failure [{ type := ProblemTypes.malformedValueError
                  title := "Invalid Credential Structure"
                  detail := "\"credentialSubject[0].id\" must be a URL."
                  instance? := some "/credentialSubject/0/id" }] := by
    decide +kernel
  have hpointed := (structureProblems_pointed NumericId.platform NumericId.subject).2.1
  exact ⟨_, houtcome, rfl, hpointed _ _ _ rfl houtcome _ List.mem_cons_self⟩

/-- A credential that is a string is reported without a pointer. -/
theorem not_structureProblems_pointed_text :
    ¬∀ (platform : Platform) (subject : VerificationSubject) (credential : Json)
      (problems : List ProblemDetail) (payload : Option CheckPayload),
      subject.verifiableCredential = some credential →
        vcStructureOutcome platform subject = .failure problems payload →
          ∀ problem ∈ problems, problem.Pointed platform credential := by
  intro h
  rcases h NumericId.platform NumericId.textSubject (.str "credential") _ _ rfl rfl _
    List.mem_cons_self with ⟨pointer, _, _, hpointer, _⟩
  cases hpointer

end VerifierCore
