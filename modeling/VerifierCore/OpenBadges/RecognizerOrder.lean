import VerifierCore.OpenBadges.Recognizers
import VerifierCore.Suites.Pointers

/-!
# The order of the recognizers

Recognition takes the first recognizer that applies.  A credential whose `type` names both a
badge and an endorsement lets both apply, and then the order decides unless both envelopes
reject it with the same problems.

Main results:

- Theorem {lit}`zodErrorToProblems_eq_iff`: what the problems of a rejection tell of its
  issues.
- Theorem {lit}`recognizers_commute_iff`: the credentials for which the order is immaterial.
-/

namespace VerifierCore

open Zod Foundations

/-! ## Shown issues -/

/-- What a problem shows of an issue: the texts of its path, and its message. -/
def Zod.Issue.shown (issue : Issue) : List String × String :=
  (issue.path.map PointerSegment.text, issue.message)

/-- Segments of the same texts make the same pointer. -/
theorem formatJsonPointer_congr {segments others : PointerSegments}
    (h : segments.map PointerSegment.text = others.map PointerSegment.text) :
    formatJsonPointer segments = formatJsonPointer others := by
  have htexts (segments : PointerSegments) : segments.map (fun segment => segment.text.toList) =
      (segments.map PointerSegment.text).map String.toList := by
    rw [List.map_map]
    rfl
  rw [← String.toList_inj, toList_formatJsonPointer, toList_formatJsonPointer, htexts, htexts, h]

/-- Two pointers are written alike exactly if their segments are. -/
theorem formatJsonPointer_eq_iff (segments others : PointerSegments) :
    formatJsonPointer segments = formatJsonPointer others ↔
      segments.map PointerSegment.text = others.map PointerSegment.text := by
  constructor
  · intro h
    have htokens := congrArg pointerTokens h
    rw [pointerTokens_formatJsonPointer, pointerTokens_formatJsonPointer] at htokens
    exact Option.some.inj htokens
  · exact formatJsonPointer_congr

/-- Two lists look the same under a function that tells no less than another. -/
theorem map_eq_map_iff_of_forall {α β γ : Type} {f : α → β} {g : α → γ}
    (h : ∀ a b, f a = f b ↔ g a = g b) (as bs : List α) :
    as.map f = bs.map f ↔ as.map g = bs.map g := by
  induction as generalizing bs with
  | nil => simp [eq_comm, List.map_eq_nil_iff]
  | cons a as ih =>
      cases bs with
      | nil => simp
      | cons b bs => simp only [List.map_cons, List.cons.injEq, h a b, ih bs]

/-- Problems are the same exactly if the issues they show are. -/
theorem zodErrorToProblems_eq_iff (issues others : List Issue) :
    zodErrorToProblems issues = zodErrorToProblems others ↔
      issues.map Issue.shown = others.map Issue.shown := by
  apply map_eq_map_iff_of_forall
  intro issue other
  have hinstance :
      (if issue.path = [] then none else some (formatJsonPointer issue.path)) =
        (if other.path = [] then none else some (formatJsonPointer other.path)) ↔
      issue.path.map PointerSegment.text = other.path.map PointerSegment.text := by
    by_cases hissue : issue.path = []
    · by_cases hother : other.path = []
      · simp [hissue, hother]
      · simp [hissue, hother, eq_comm]
    · by_cases hother : other.path = []
      · simp [hissue, hother]
      · rw [if_neg hissue, if_neg hother, Option.some.injEq, formatJsonPointer_eq_iff]
  simp only [ProblemDetail.mk.injEq, hinstance, Issue.shown, Prod.mk.injEq, true_and]
  exact and_comm

/-! ## The issues of an object -/

/-- An issue as shown from an object that has the value as a member. -/
def shownUnder (key : String) (shown : List String × String) : List String × String :=
  (key :: shown.1, shown.2)

/-- The shown issue is with the member under this key. -/
def shownAt (key : String) (shown : List String × String) : Bool :=
  shown.1.head? = some key

/-- The shown issues of the fields of an object. -/
def shownFields (value : Json) (fields : Fields) : List (List String × String) :=
  fields.flatMap fun f =>
    ((f.2 (value.get? f.1)).issues.map Issue.shown).map (shownUnder f.1)

/-- What is shown under a key can be told apart. -/
theorem shownUnder_injective (key : String) : Function.Injective (shownUnder key) := by
  intro shown other h
  simp only [shownUnder, Prod.mk.injEq, List.cons.injEq, true_and] at h
  exact Prod.ext h.1 h.2

/-- What is shown of an object is what is shown of its fields. -/
theorem shown_passthrough (members : List (String × Json)) (fields : Fields) :
    (passthrough fields (some (.obj members))).issues.map Issue.shown =
      shownFields (.obj members) fields := by
  have hissues : (passthrough fields (some (.obj members))).issues =
      fields.flatMap fun f => (field (.obj members) f.1 f.2).issues :=
    issues_readFields _ _
  rw [hissues, List.map_flatMap, shownFields]
  apply List.flatMap_congr
  intro f _
  simp only [field, Parsed.under, List.map_map]
  rfl

/-- All that is shown under a key is at that key. -/
theorem filter_shownUnder_self (key : String) (shown : List (List String × String)) :
    (shown.map (shownUnder key)).filter (shownAt key) = shown.map (shownUnder key) := by
  rw [List.filter_eq_self]
  intro entry hmem
  rcases List.mem_map.mp hmem with ⟨_, _, rfl⟩
  simp [shownAt, shownUnder]

/-- Nothing that is shown under one key is at another. -/
theorem filter_shownUnder_of_ne {key other : String} (h : key ≠ other)
    (shown : List (List String × String)) :
    (shown.map (shownUnder other)).filter (shownAt key) = [] := by
  rw [List.filter_eq_nil_iff]
  intro entry hmem
  rcases List.mem_map.mp hmem with ⟨_, _, rfl⟩
  simpa [shownAt, shownUnder] using h.symm

/-- The issues at a key are those of its field. -/
theorem filter_shownFields {fields : Fields} (hnodup : (fields.map Prod.fst).Nodup) (value : Json)
    (key : String) :
    (shownFields value fields).filter (shownAt key) =
      ((fields.lookup key).elim [] fun schema =>
        (schema (value.get? key)).issues.map Issue.shown).map (shownUnder key) := by
  induction fields with
  | nil => rfl
  | cons f rest ih =>
      rcases List.nodup_cons.mp hnodup with ⟨hfresh, hrest⟩
      rw [shownFields, List.flatMap_cons, List.filter_append, ← shownFields, ih hrest]
      by_cases hkey : key = f.1
      · rw [hkey, filter_shownUnder_self, lookup_eq_none_of_notMem hfresh, List.lookup_cons_self]
        exact List.append_nil _
      · rw [filter_shownUnder_of_ne hkey, List.lookup_cons, beq_eq_false_iff_ne.mpr hkey]
        rfl

/-- Two objects that show the same issues show the same ones at every key of a field,
whatever is shown that is not with a field. -/
theorem shown_lookup_eq {fields others : Fields} (hfields : (fields.map Prod.fst).Nodup)
    (hothers : (others.map Prod.fst).Nodup) {value : Json} (key : String)
    {rest back : List (List String × String)} (hrest : rest.filter (shownAt key) = [])
    (hback : back.filter (shownAt key) = [])
    (h : shownFields value fields ++ rest = shownFields value others ++ back) :
    ((fields.lookup key).elim [] fun schema =>
        (schema (value.get? key)).issues.map Issue.shown) =
      (others.lookup key).elim [] fun schema =>
        (schema (value.get? key)).issues.map Issue.shown := by
  have hfilter := congrArg (List.filter (shownAt key)) h
  rw [List.filter_append, List.filter_append, hrest, hback, List.append_nil, List.append_nil,
    filter_shownFields hfields, filter_shownFields hothers] at hfilter
  exact (shownUnder_injective key).list_map hfilter

/-- What is shown at a key that only one of the objects has a field for is nothing. -/
theorem issues_eq_nil_of_alone {fields others : Fields} (hfields : (fields.map Prod.fst).Nodup)
    (hothers : (others.map Prod.fst).Nodup) {value : Json} {f : String × Schema (Option Json)}
    (hmem : f ∈ fields) (halone : f.1 ∉ others.map Prod.fst)
    {rest back : List (List String × String)} (hrest : rest.filter (shownAt f.1) = [])
    (hback : back.filter (shownAt f.1) = [])
    (h : shownFields value fields ++ rest = shownFields value others ++ back) :
    (f.2 (value.get? f.1)).issues = [] := by
  have hlookup := shown_lookup_eq hfields hothers f.1 hrest hback h
  rw [lookup_of_mem_fields hfields hmem, lookup_eq_none_of_notMem halone] at hlookup
  exact List.map_eq_nil_iff.mp hlookup

/-- A first field with an issue comes first in what is shown. -/
theorem shownFields_cons {value : Json} {key : String} {schema : Schema (Option Json)}
    (h : (schema (value.get? key)).issues ≠ []) (rest : Fields)
    (back : List (List String × String)) :
    ∃ shown tail, shownFields value ((key, schema) :: rest) ++ back =
      shownUnder key shown :: tail := by
  rcases List.exists_cons_of_ne_nil h with ⟨issue, issues, hissues⟩
  refine ⟨issue.shown, (issues.map Issue.shown).map (shownUnder key) ++
    shownFields value rest ++ back, ?_⟩
  rw [shownFields, List.flatMap_cons, hissues, List.map_cons, List.map_cons, List.cons_append,
    List.cons_append]
  rfl

/-! ## Types -/

/-- A `type` that is neither a string nor an array of strings raises the same issues
whatever it is required to include. -/
theorem jsonLdTypeField_of_untyped {value : Option Json} (requiredTypes : List String)
    (h : (stringOrStrings value).accepted = none) :
    (jsonLdTypeField requiredTypes value).issues = (stringOrStrings value).issues ∧
      (jsonLdTypeField requiredTypes value).output = none := by
  simp [jsonLdTypeField, refine, transform, h]

/-- Any other `type` raises issues only for what it does not include. -/
theorem jsonLdTypeField_of_typed {value : Option Json} {types : Json} (requiredTypes : List String)
    (h : (stringOrStrings value).accepted = some types) :
    (jsonLdTypeField requiredTypes value).issues = requireTypes requiredTypes types ∧
      (jsonLdTypeField requiredTypes value).output = some (asArray types) := by
  have hissues : (stringOrStrings value).issues = [] :=
    (definite_stringOrStrings.isSome_accepted_iff value).mp (by simp [h])
  have hcheck : requireTypes requiredTypes (asArray types) = requireTypes requiredTypes types := by
    rw [requireTypes, stringValues_asArray]
    rfl
  simp [jsonLdTypeField, refine, transform, h, hissues, hcheck]

/-- Different types are missed alike only if nothing is missed. -/
theorem shown_requireTypes_iff {first second : String}
    (hne : s!"type must include '{first}'" ≠ s!"type must include '{second}'") (types : Json) :
    (requireTypes [first] types).map Issue.shown = (requireTypes [second] types).map Issue.shown ↔
      first ∈ stringValues (some types) ∧ second ∈ stringValues (some types) := by
  by_cases hfirst : first ∈ stringValues (some types)
  · by_cases hsecond : second ∈ stringValues (some types)
    · simp [requireTypes, hfirst, hsecond]
    · simp [requireTypes, hfirst, hsecond]
  · by_cases hsecond : second ∈ stringValues (some types)
    · simp [requireTypes, hfirst, hsecond]
    · simp [requireTypes, hfirst, hsecond, Issue.shown, hne]

/-! ## Subjects -/

section Subjects

variable (formats : StringFormats)

/-- The `type` is a string or an array of strings and names both kinds of subjects. -/
def NamesBothSubjects (type : Option Json) : Prop :=
  (stringOrStrings type).accepted.isSome ∧ "AchievementSubject" ∈ stringValues type ∧
    "EndorsementSubject" ∈ stringValues type

/-- The id is a URL and an IRI. -/
def IsUrlAndIri (id : Option Json) : Prop :=
  ∃ text, id = some (.str text) ∧ formats.url text = true ∧ isIri text = true

/-- The id is there and no string. -/
def IsNoText (id : Option Json) : Prop :=
  ∃ value, id = some value ∧ asString (some value) = none

/-- The two envelopes have the same to say of a `type` of a subject. -/
theorem shown_type_iff (type : Option Json) :
    (jsonLdTypeField ["AchievementSubject"] type).issues.map Issue.shown =
        (jsonLdTypeField ["EndorsementSubject"] type).issues.map Issue.shown ↔
      (stringOrStrings type).accepted = none ∨ NamesBothSubjects type := by
  cases htyped : (stringOrStrings type).accepted with
  | none =>
      rw [(jsonLdTypeField_of_untyped _ htyped).1, (jsonLdTypeField_of_untyped _ htyped).1]
      simp
  | some types =>
      have htype := stringOrStrings_accepted htyped
      subst htype
      rw [(jsonLdTypeField_of_typed _ htyped).1, (jsonLdTypeField_of_typed _ htyped).1,
        shown_requireTypes_iff (by decide)]
      simp [NamesBothSubjects, htyped]

/-- An optional URL raises one issue, unless the library takes the text for one. -/
theorem issues_url_str (text : String) :
    (Zod.optional (url formats) (some (.str text))).issues =
      if formats.url text then [] else [{ path := [], message := "Invalid url" }] := by
  simp [Zod.optional, url, Zod.text, checked, refine, string, Parsed.map, Parsed.ok]

/-- A required IRI raises one issue, unless the text is one. -/
theorem issues_iriString_str (text : String) :
    (required iriString (some (.str text))).issues =
      if isIri text then [] else [{ path := [], message := "Expected an IRI (scheme:rest)" }] := by
  simp [required, iriString, Zod.text, checked, refine, string, Parsed.map, Parsed.ok]

/-- An id that is there and no string fails both schemas in the same way. -/
theorem issues_of_isNoText {id : Option Json} (h : IsNoText id) :
    (Zod.optional (url formats) id).issues = (required iriString id).issues ∧
      (required iriString id).issues ≠ [] ∧
      (Zod.optional (url formats) id).output = none ∧ (required iriString id).output = none := by
  rcases h with ⟨value, rfl, hstring⟩
  cases value with
  | str text => cases hstring
  | null | bool | num | arr | obj => exact ⟨rfl, List.cons_ne_nil _ _, rfl, rfl⟩

/-- The two envelopes have the same to say of an id of a subject. -/
theorem shown_id_iff (id : Option Json) :
    (Zod.optional (url formats) id).issues.map Issue.shown =
        (required iriString id).issues.map Issue.shown ↔
      IsUrlAndIri formats id ∨ IsNoText id := by
  constructor
  · intro h
    cases id with
    | none => cases h
    | some value =>
        cases hstring : asString (some value) with
        | none => exact .inr ⟨value, rfl, hstring⟩
        | some text =>
            have hvalue : value = .str text := by
              cases value <;> simp_all [asString]
            subst hvalue
            rw [issues_url_str, issues_iriString_str] at h
            refine .inl ⟨text, rfl, ?_⟩
            by_cases hurl : formats.url text = true
            · by_cases hiri : isIri text = true
              · exact ⟨hurl, hiri⟩
              · simp [hurl, hiri] at h
            · by_cases hiri : isIri text = true
              · simp [hurl, hiri] at h
              · simp [hurl, hiri, Issue.shown] at h
  · rintro (⟨text, rfl, hurl, hiri⟩ | htext)
    · rw [issues_url_str, issues_iriString_str, if_pos hurl, if_pos hiri]
    · rw [(issues_of_isNoText formats htext).1]

/-- A type that names both kinds of subjects is accepted for either. -/
theorem accepted_of_namesBothSubjects {type : Option Json} (h : NamesBothSubjects type)
    {name : String} (hname : name ∈ stringValues type) :
    (jsonLdTypeField [name] type).issues = [] ∧ (jsonLdTypeField [name] type).output.isSome := by
  rcases Option.isSome_iff_exists.mp h.1 with ⟨types, htypes⟩
  rw [stringOrStrings_accepted htypes] at hname
  rw [(jsonLdTypeField_of_typed _ htypes).1, (jsonLdTypeField_of_typed _ htypes).2]
  exact ⟨by simp [requireTypes, hname], rfl⟩

variable {formats} in
/-- An id that is a URL and an IRI is accepted by either schema. -/
theorem accepted_of_isUrlAndIri {id : Option Json} (h : IsUrlAndIri formats id) :
    (Zod.optional (url formats) id).issues = [] ∧ (required iriString id).issues = [] ∧
      (Zod.optional (url formats) id).output = some id ∧
      (required iriString id).output = some id := by
  rcases h with ⟨text, rfl, hurl, hiri⟩
  rw [issues_url_str, issues_iriString_str, if_pos hurl, if_pos hiri]
  exact ⟨rfl, rfl, rfl, rfl⟩

/-- The members of a subject of which both envelopes have the same to say: what only one of
them reads is accepted, and `type` and `id` do not both fail. -/
structure SameSubject (members : List (String × Json)) : Prop where
  others : ∀ f ∈ achievementSubjectFields formats ++ endorsementSubjectFields,
    f.1 ≠ "type" → f.1 ≠ "id" → (f.2 ((Json.obj members).get? f.1)).accepted.isSome
  named : (stringOrStrings ((Json.obj members).get? "type")).accepted = none ∧
      IsUrlAndIri formats ((Json.obj members).get? "id") ∨
    NamesBothSubjects ((Json.obj members).get? "type") ∧
      (IsUrlAndIri formats ((Json.obj members).get? "id") ∨
        IsNoText ((Json.obj members).get? "id"))

variable {formats} {members : List (String × Json)}

/-- What is shown of the subject of a badge is what is shown of its fields, and that it names no
recipient. -/
theorem shown_achievementSubject (members : List (String × Json)) :
    (obv3p0AchievementSubjectSchema formats (some (.obj members))).issues.map Issue.shown =
      shownFields (.obj members) (achievementSubjectFields formats) ++
        ((((passthrough (achievementSubjectFields formats) (some (.obj members))).output.map
          requireRecipient).getD []).map Issue.shown) := by
  rw [obv3p0AchievementSubjectSchema, refine, List.map_append, shown_passthrough]

/-- What a subject is missing as a whole is shown at none of its members. -/
theorem filter_shown_requireRecipient (output : Option Json) (key : String) :
    (((output.map requireRecipient).getD []).map Issue.shown).filter (shownAt key) = [] := by
  cases output with
  | none => rfl
  | some subject =>
      rw [Option.map_some, Option.getD_some, requireRecipient]
      split_ifs
      · rfl
      · rfl

/-- The fields of the subject of a badge are different. -/
theorem achievementSubjectFields_nodup :
    ((achievementSubjectFields formats).map Prod.fst).Nodup := by
  simp [achievementSubjectFields]

/-- The fields of an endorsement's subject have different names. -/
theorem endorsementSubjectFields_nodup : (endorsementSubjectFields.map Prod.fst).Nodup := by
  simp [endorsementSubjectFields]

/-- The two kinds of subjects share `type` and `id` only. -/
theorem achievementSubjectFields_alone :
    ∀ f ∈ achievementSubjectFields formats, f.1 ≠ "type" → f.1 ≠ "id" →
      f.1 ∉ endorsementSubjectFields.map Prod.fst := by
  simp [achievementSubjectFields, endorsementSubjectFields]

/-- Apart from its type and its id, an endorsement reads no field of the subject of a badge. -/
theorem endorsementSubjectFields_alone :
    ∀ f ∈ endorsementSubjectFields, f.1 ≠ "type" → f.1 ≠ "id" →
      f.1 ∉ (achievementSubjectFields formats).map Prod.fst := by
  simp [achievementSubjectFields, endorsementSubjectFields]

/-- A subject of which both envelopes show the same. -/
theorem sameSubject_of_shown
    (h : (obv3p0AchievementSubjectSchema formats (some (.obj members))).issues.map Issue.shown =
      (obv3p0EndorsementSubjectSchema (some (.obj members))).issues.map Issue.shown) :
    SameSubject formats members := by
  rw [shown_achievementSubject, obv3p0EndorsementSubjectSchema, shown_passthrough,
    ← List.append_nil (shownFields _ endorsementSubjectFields)] at h
  have hroot (key : String) := filter_shown_requireRecipient
    (passthrough (achievementSubjectFields formats) (some (.obj members))).output key
  have htype := (shown_type_iff ((Json.obj members).get? "type")).mp
    (shown_lookup_eq achievementSubjectFields_nodup endorsementSubjectFields_nodup "type"
      (hroot _) rfl h)
  have hid := (shown_id_iff formats ((Json.obj members).get? "id")).mp
    (shown_lookup_eq achievementSubjectFields_nodup endorsementSubjectFields_nodup "id"
      (hroot _) rfl h)
  constructor
  · intro f hmem hnotType hnotId
    rcases List.mem_append.mp hmem with hachievement | hendorsement
    · rw [(definite_achievementSubjectFields formats f hachievement).isSome_accepted_iff]
      exact issues_eq_nil_of_alone achievementSubjectFields_nodup endorsementSubjectFields_nodup
        hachievement (achievementSubjectFields_alone f hachievement hnotType hnotId) (hroot _) rfl h
    · rw [(definite_endorsementSubjectFields f hendorsement).isSome_accepted_iff]
      exact issues_eq_nil_of_alone endorsementSubjectFields_nodup achievementSubjectFields_nodup
        hendorsement (endorsementSubjectFields_alone f hendorsement hnotType hnotId) rfl (hroot _)
        h.symm
  · rcases htype with huntyped | hboth
    · rcases hid with hurl | htext
      · exact .inl ⟨huntyped, hurl⟩
      · -- the first issue is with the type in one envelope and with the id in the other
        have hfirst : (required (jsonLdTypeField ["AchievementSubject"])
            ((Json.obj members).get? "type")).issues ≠ [] := by
          intro hissues
          exact (definite_stringOrStrings.accepted_eq_none_iff _).mp huntyped
            ((jsonLdTypeField_of_untyped _ huntyped).1.symm.trans hissues)
        rcases shownFields_cons hfirst (achievementSubjectFields formats).tail _ with
          ⟨shown, tail, hachievement⟩
        rcases shownFields_cons (issues_of_isNoText formats htext).2.1
          endorsementSubjectFields.tail [] with ⟨other, back, hendorsement⟩
        have hheads := hachievement.symm.trans (h.trans hendorsement)
        simp [shownUnder] at hheads
    · exact .inr ⟨hboth, hid⟩

/-- What only one envelope reads raises nothing. -/
theorem SameSubject.issues_eq_nil (h : SameSubject formats members)
    {f : String × Schema (Option Json)}
    (hmem : f ∈ achievementSubjectFields formats ++ endorsementSubjectFields)
    (htype : f.1 ≠ "type") (hid : f.1 ≠ "id") :
    (f.2 ((Json.obj members).get? f.1)).issues = [] := by
  have haccepted := h.others f hmem htype hid
  rcases List.mem_append.mp hmem with hachievement | hendorsement
  · exact ((definite_achievementSubjectFields formats f hachievement).isSome_accepted_iff _).mp
      haccepted
  · exact ((definite_endorsementSubjectFields f hendorsement).isSome_accepted_iff _).mp haccepted

/-- The issues of the type and of the id make up what is shown. -/
theorem SameSubject.shownFields_achievement (h : SameSubject formats members) :
    shownFields (.obj members) (achievementSubjectFields formats) =
      (((jsonLdTypeField ["AchievementSubject"] ((Json.obj members).get? "type")).issues.map
        Issue.shown).map (shownUnder "type")) ++
      (((Zod.optional (url formats) ((Json.obj members).get? "id")).issues.map
        Issue.shown).map (shownUnder "id")) := by
  have hquiet (f : String × Schema (Option Json)) (hmem : f ∈ achievementSubjectFields formats)
      (htype : f.1 ≠ "type") (hid : f.1 ≠ "id") :=
    h.issues_eq_nil (List.mem_append_left _ hmem) htype hid
  have hachievement := hquiet ("achievement", required (obv3p0AchievementSchema formats))
    (by simp [achievementSubjectFields]) (by simp) (by simp)
  have hidentifier := hquiet ("identifier", Zod.optional (arrayOf obv3p0IdentityObjectSchema))
    (by simp [achievementSubjectFields]) (by simp) (by simp)
  have hresult := hquiet ("result", Zod.optional (arrayOf (obv3p0ResultSchema formats)))
    (by simp [achievementSubjectFields]) (by simp) (by simp)
  have himage := hquiet ("image", Zod.optional imageField)
    (by simp [achievementSubjectFields]) (by simp) (by simp)
  dsimp only at hachievement hidentifier hresult himage
  simp only [shownFields, achievementSubjectFields, List.flatMap_cons, List.flatMap_nil,
    hachievement, hidentifier, hresult, himage, List.map_nil, List.nil_append, List.append_nil]
  rfl

/-- Of a subject that serves both, an endorsement shows what is wrong with its id and its type.
-/
theorem SameSubject.shownFields_endorsement (h : SameSubject formats members) :
    shownFields (.obj members) endorsementSubjectFields =
      (((required iriString ((Json.obj members).get? "id")).issues.map
        Issue.shown).map (shownUnder "id")) ++
      (((jsonLdTypeField ["EndorsementSubject"] ((Json.obj members).get? "type")).issues.map
        Issue.shown).map (shownUnder "type")) := by
  have hcomment := h.issues_eq_nil (f := ("endorsementComment", Zod.optional (Zod.text string)))
    (by simp [endorsementSubjectFields]) (by simp) (by simp)
  dsimp only at hcomment
  simp only [shownFields, endorsementSubjectFields, List.flatMap_cons, List.flatMap_nil,
    hcomment, List.map_nil, List.append_nil]
  rfl

/-- Where both envelopes have the same to say, a subject that is read has an id. -/
theorem SameSubject.requireRecipient_eq_nil (h : SameSubject formats members) {output : Json}
    (houtput : (passthrough (achievementSubjectFields formats)
      (some (.obj members))).output = some output) : requireRecipient output = [] := by
  have hmember (f : String × Schema (Option Json)) (hmem : f ∈ achievementSubjectFields formats) :=
    get?_passthrough achievementSubjectFields_nodup houtput hmem
  have hid := hmember ("id", Zod.optional (url formats)) (by simp [achievementSubjectFields])
  have htype := hmember ("type", required (jsonLdTypeField ["AchievementSubject"]))
    (by simp [achievementSubjectFields])
  rcases h.named with ⟨huntyped, _⟩ | ⟨_, hurl | htext⟩
  · have hnone := (jsonLdTypeField_of_untyped ["AchievementSubject"] huntyped).2
    simp [required, Parsed.map, hnone] at htype
  · have hget := Option.some.inj ((accepted_of_isUrlAndIri hurl).2.2.1.symm.trans hid)
    rcases hurl with ⟨text, htext, _, hiri⟩
    have hne : text ≠ "" := by
      intro hempty
      rw [hempty] at hiri
      cases hiri
    rw [requireRecipient, ← hget, htext]
    simp [asString, hne]
  · exact absurd ((issues_of_isNoText formats htext).2.2.1.symm.trans hid) (by simp)

/-- Both envelopes show the same of such a subject. -/
theorem SameSubject.shown_eq (h : SameSubject formats members) :
    (obv3p0AchievementSubjectSchema formats (some (.obj members))).issues.map Issue.shown =
      (obv3p0EndorsementSubjectSchema (some (.obj members))).issues.map Issue.shown := by
  have hroot : ((passthrough (achievementSubjectFields formats) (some (.obj members))).output.map
      requireRecipient).getD [] = [] := by
    cases houtput :
        (passthrough (achievementSubjectFields formats) (some (.obj members))).output with
    | none => rfl
    | some output => exact h.requireRecipient_eq_nil houtput
  rw [shown_achievementSubject, hroot, obv3p0EndorsementSubjectSchema, shown_passthrough,
    h.shownFields_achievement, h.shownFields_endorsement, List.map_nil, List.append_nil]
  rcases h.named with ⟨huntyped, hurl⟩ | ⟨hboth, hid⟩
  · have hissues := accepted_of_isUrlAndIri hurl
    rw [hissues.1, hissues.2.1, (shown_type_iff _).mpr (.inl huntyped)]
    exact List.append_nil _
  · rw [(accepted_of_namesBothSubjects hboth hboth.2.1).1,
      (accepted_of_namesBothSubjects hboth hboth.2.2).1, (shown_id_iff formats _).mpr hid]
    exact (List.append_nil _).symm

/-- Either both envelopes read such a subject or neither does. -/
theorem SameSubject.isSome_output_eq (h : SameSubject formats members) :
    (obv3p0AchievementSubjectSchema formats (some (.obj members))).output.isSome =
      (obv3p0EndorsementSubjectSchema (some (.obj members))).output.isSome := by
  have hneither
      (hachievement : ∃ f ∈ achievementSubjectFields formats,
        (f.2 ((Json.obj members).get? f.1)).output = none)
      (hendorsement : ∃ f ∈ endorsementSubjectFields,
        (f.2 ((Json.obj members).get? f.1)).output = none) :
      (passthrough (achievementSubjectFields formats) (some (.obj members))).output.isSome =
        (passthrough endorsementSubjectFields (some (.obj members))).output.isSome := by
    rcases hachievement with ⟨f, hf, hnone⟩
    rcases hendorsement with ⟨g, hg, hgnone⟩
    rw [isSome_output_passthrough, isSome_output_passthrough,
      List.all_eq_false.mpr ⟨f, hf, by simp [hnone]⟩,
      List.all_eq_false.mpr ⟨g, hg, by simp [hgnone]⟩]
  rcases h.named with ⟨huntyped, _⟩ | ⟨hboth, hurl | htext⟩
  · have hnone (name : String) : (required (jsonLdTypeField [name])
        ((Json.obj members).get? "type")).output = none := by
      simp [required, Parsed.map, (jsonLdTypeField_of_untyped _ huntyped).2]
    exact hneither ⟨("type", _), List.mem_cons_self, hnone "AchievementSubject"⟩
      ⟨("type", _), by simp [endorsementSubjectFields], hnone "EndorsementSubject"⟩
  · have hendorsement :
        (obv3p0EndorsementSubjectSchema (some (.obj members))).issues.map Issue.shown = [] := by
      rw [obv3p0EndorsementSubjectSchema, shown_passthrough, h.shownFields_endorsement,
        (accepted_of_isUrlAndIri hurl).2.1, (accepted_of_namesBothSubjects hboth hboth.2.2).1]
      rfl
    have hachievement := h.shown_eq.trans hendorsement
    rw [definite_obv3p0AchievementSubjectSchema formats _ (List.map_eq_nil_iff.mp hachievement),
      definite_obv3p0EndorsementSubjectSchema _ (List.map_eq_nil_iff.mp hendorsement)]
  · have hid := issues_of_isNoText formats htext
    exact hneither ⟨("id", _), by simp [achievementSubjectFields], hid.2.2.1⟩
      ⟨("id", _), by simp [endorsementSubjectFields], hid.2.2.2⟩

end Subjects

/-! ## Envelopes -/

section Envelopes

variable {formats : StringFormats} {fields : Fields} {members : List (String × Json)}

/-- An output calls for the dates that the credential itself calls for. -/
theorem requireDates_output (hnodup : (fields.map Prod.fst).Nodup)
    (hcontext : ("@context", required obv3p0ContextArray) ∈ fields)
    (hissuance : ("issuanceDate", Zod.optional (datetime formats)) ∈ fields)
    (hvalid : ("validFrom", Zod.optional (datetime formats)) ∈ fields) {output : Json}
    (h : (passthrough fields (some (.obj members))).output = some output) :
    requireDates output = requireDates (.obj members) := by
  have hdate (value : Option Json) (date : Option Json)
      (hdate : (Zod.optional (datetime formats) value).output = some date) :
      date = none ↔ value = none := by
    cases value with
    | none =>
        cases hdate
        simp
    | some value =>
        rcases Option.map_eq_some_iff.mp hdate with ⟨text, _, rfl⟩
        simp
  have hcontexts : output.get? "@context" = (Json.obj members).get? "@context" := by
    have hget := get?_passthrough hnodup h hcontext
    rcases Option.map_eq_some_iff.mp hget with ⟨contexts, hcontexts, heq⟩
    rw [(obv3p0ContextArray_output hcontexts).1]
    exact heq.symm
  rw [requireDates, requireDates, hcontexts]
  simp only [hdate _ _ (get?_passthrough hnodup h hissuance),
    hdate _ _ (get?_passthrough hnodup h hvalid)]

/-- What an envelope shows: the issues of its fields, and a missing date if all were read. -/
theorem shown_envelope (hnodup : (fields.map Prod.fst).Nodup)
    (hcontext : ("@context", required obv3p0ContextArray) ∈ fields)
    (hissuance : ("issuanceDate", Zod.optional (datetime formats)) ∈ fields)
    (hvalid : ("validFrom", Zod.optional (datetime formats)) ∈ fields)
    (members : List (String × Json)) :
    (refine (passthrough fields) requireDates (some (.obj members))).issues.map Issue.shown =
      shownFields (.obj members) fields ++
        if (passthrough fields (some (.obj members))).output.isSome then
          (requireDates (.obj members)).map Issue.shown
        else [] := by
  rw [refine, List.map_append, shown_passthrough]
  cases houtput : (passthrough fields (some (.obj members))).output with
  | none => rfl
  | some output =>
      rw [Option.map_some, Option.getD_some,
        requireDates_output hnodup hcontext hissuance hvalid houtput]
      rfl

/-- A missing date is shown at no other member. -/
theorem filter_shown_requireDates (credential : Json) {key : String}
    (hissuance : key ≠ "issuanceDate") (hvalid : key ≠ "validFrom") :
    ((requireDates credential).map Issue.shown).filter (shownAt key) = [] := by
  rw [List.filter_eq_nil_iff]
  intro shown hmem
  rcases List.mem_map.mp hmem with ⟨issue, hissue, rfl⟩
  rcases List.mem_append.mp hissue with hissued | hfrom
  · split_ifs at hissued
    · cases List.mem_singleton.mp hissued
      simpa [shownAt, Issue.shown, PointerSegment.text] using hissuance.symm
    · cases hissued
  · split_ifs at hfrom
    · cases List.mem_singleton.mp hfrom
      simpa [shownAt, Issue.shown, PointerSegment.text] using hvalid.symm
    · cases hfrom

/-- A refinement depends on what its check says of the output only. -/
theorem refine_congr {schema : Schema Json} {check other : Json → List Issue} {value : Option Json}
    (h : ∀ output, (schema value).output = some output → check output = other output) :
    refine schema check value = refine schema other value := by
  rw [refine, refine]
  cases houtput : (schema value).output with
  | none => rfl
  | some output => rw [Option.map_some, Option.map_some, h output houtput]

/-- The types of the two envelopes raise the same issues where both names are there. -/
theorem openBadgeTypeField_eq {type : Option Json}
    (hbadge : "OpenBadgeCredential" ∈ stringValues type)
    (hendorsement : "EndorsementCredential" ∈ stringValues type) :
    openBadgeTypeField type = endorsementTypeField type := by
  apply refine_congr
  intro output houtput
  have hstrings : stringValues (some output) = stringValues type := by
    cases htyped : (stringOrStrings type).accepted with
    | none =>
        rw [(jsonLdTypeField_of_untyped _ htyped).2] at houtput
        cases houtput
    | some types =>
        rw [(jsonLdTypeField_of_typed _ htyped).2] at houtput
        cases houtput
        rw [stringValues_asArray, stringOrStrings_accepted htyped]
  rw [(requireStrings_eq_nil_iff _ _ _).mpr (by simp [hstrings, hbadge]),
    (requireStrings_eq_nil_iff _ _ _).mpr (by simp [hstrings, hendorsement])]

/-- The members of a credential of which both envelopes show the same, once both kinds of
types are there: what only endorsements have is accepted, and the subjects are alike. -/
structure SameIssues (formats : StringFormats) (credential : Json) : Prop where
  others : ∀ f ∈ endorsementFields formats, f.1 ∈ ["name", "description", "awardedDate"] →
    (f.2 (credential.get? f.1)).accepted.isSome
  subject : ∀ members, credential.get? "credentialSubject" = some (.obj members) →
    SameSubject formats members

/-- The fields of a badge are different. -/
theorem openBadgeFields_nodup : ((openBadgeFields formats).map Prod.fst).Nodup := by
  simp [openBadgeFields]

/-- The fields of an endorsement have different names. -/
theorem endorsementFields_nodup : ((endorsementFields formats).map Prod.fst).Nodup := by
  simp [endorsementFields]

/-- What is shown of a badge is what is shown of its fields, and of its dates if it has an
output. -/
theorem shown_openBadge (members : List (String × Json)) :
    (obv3p0OpenBadgeCredentialSchema formats (some (.obj members))).issues.map Issue.shown =
      shownFields (.obj members) (openBadgeFields formats) ++
        if (passthrough (openBadgeFields formats) (some (.obj members))).output.isSome then
          (requireDates (.obj members)).map Issue.shown
        else [] :=
  @shown_envelope formats _ openBadgeFields_nodup (by simp [openBadgeFields])
    (by simp [openBadgeFields]) (by simp [openBadgeFields]) members

/-- What is shown of an endorsement is what is shown of its fields, and of its dates if it has
an output. -/
theorem shown_endorsement (members : List (String × Json)) :
    (obv3p0EndorsementCredentialSchema formats (some (.obj members))).issues.map Issue.shown =
      shownFields (.obj members) (endorsementFields formats) ++
        if (passthrough (endorsementFields formats) (some (.obj members))).output.isSome then
          (requireDates (.obj members)).map Issue.shown
        else [] :=
  @shown_envelope formats _ endorsementFields_nodup (by simp [endorsementFields])
    (by simp [endorsementFields]) (by simp [endorsementFields]) members

/-- Only endorsements have the members that a badge envelope passes over. -/
theorem endorsementFields_alone :
    ∀ f ∈ endorsementFields formats, f.1 ∈ ["name", "description", "awardedDate"] →
      f.1 ∉ (openBadgeFields formats).map Prod.fst ∧ f.1 ≠ "issuanceDate" ∧ f.1 ≠ "validFrom" := by
  simp [endorsementFields, openBadgeFields]

/-- Credentials of which both envelopes show the same. -/
theorem sameIssues_of_shown
    (h : (obv3p0OpenBadgeCredentialSchema formats (some (.obj members))).issues.map Issue.shown =
      (obv3p0EndorsementCredentialSchema formats (some (.obj members))).issues.map Issue.shown) :
    SameIssues formats (.obj members) := by
  rw [shown_openBadge, shown_endorsement] at h
  have hdates (read : Bool) {key : String} (hissuance : key ≠ "issuanceDate")
      (hvalid : key ≠ "validFrom") :
      (if read then (requireDates (.obj members)).map Issue.shown else []).filter (shownAt key) =
        [] := by
    split_ifs
    · exact filter_shown_requireDates _ hissuance hvalid
    · rfl
  constructor
  · intro f hmem hname
    rcases endorsementFields_alone f hmem hname with ⟨halone, hissuance, hvalid⟩
    rw [(definite_endorsementFields formats f hmem).isSome_accepted_iff]
    exact issues_eq_nil_of_alone endorsementFields_nodup openBadgeFields_nodup hmem halone
      (hdates _ hissuance hvalid) (hdates _ hissuance hvalid) h.symm
  · intro subject hsubject
    have hissues := shown_lookup_eq openBadgeFields_nodup endorsementFields_nodup
      "credentialSubject" (hdates _ (by decide) (by decide)) (hdates _ (by decide) (by decide)) h
    rw [hsubject] at hissues
    exact sameSubject_of_shown hissues

/-- The subject schemas show the same of such a credential, and both read it or neither. -/
theorem SameIssues.subject_eq {credential : Json} (h : SameIssues formats credential) :
    (obv3p0AchievementSubjectSchema formats (credential.get? "credentialSubject")).issues.map
        Issue.shown =
      (obv3p0EndorsementSubjectSchema (credential.get? "credentialSubject")).issues.map
        Issue.shown ∧
    (obv3p0AchievementSubjectSchema formats
        (credential.get? "credentialSubject")).output.isSome =
      (obv3p0EndorsementSubjectSchema (credential.get? "credentialSubject")).output.isSome := by
  cases hsubject : credential.get? "credentialSubject" with
  | none => exact ⟨rfl, rfl⟩
  | some value =>
      cases value with
      | obj subject =>
          have hsame := h.subject subject hsubject
          exact ⟨hsame.shown_eq, hsame.isSome_output_eq⟩
      | null | bool | num | str | arr => exact ⟨rfl, rfl⟩

/-- Both envelopes show the same of such a credential if both kinds of types are there. -/
theorem SameIssues.shown_eq (h : SameIssues formats (.obj members))
    (hbadge : "OpenBadgeCredential" ∈ stringValues ((Json.obj members).get? "type"))
    (hendorsement : "EndorsementCredential" ∈ stringValues ((Json.obj members).get? "type")) :
    (obv3p0OpenBadgeCredentialSchema formats (some (.obj members))).issues.map Issue.shown =
      (obv3p0EndorsementCredentialSchema formats (some (.obj members))).issues.map Issue.shown := by
  have hquiet (f : String × Schema (Option Json)) (hmem : f ∈ endorsementFields formats)
      (hname : f.1 ∈ ["name", "description", "awardedDate"]) :
      (f.2 ((Json.obj members).get? f.1)).issues = [] ∧
        (f.2 ((Json.obj members).get? f.1)).output.isSome := by
    have hdefinite := definite_endorsementFields formats f hmem
    have hissues := (hdefinite.isSome_accepted_iff _).mp (h.others f hmem hname)
    exact ⟨hissues, hdefinite _ hissues⟩
  have hname := hquiet ("name", required (Zod.text string)) (by simp [endorsementFields])
    (by simp)
  have hdescription := hquiet ("description", Zod.optional (Zod.text string))
    (by simp [endorsementFields]) (by simp)
  have hawarded := hquiet ("awardedDate", Zod.optional (datetime formats))
    (by simp [endorsementFields]) (by simp)
  dsimp only at hname hdescription hawarded
  have htype : required openBadgeTypeField ((Json.obj members).get? "type") =
      required endorsementTypeField ((Json.obj members).get? "type") := by
    rw [required, openBadgeTypeField_eq hbadge hendorsement]
    rfl
  have hsubject := h.subject_eq
  have hissues : shownFields (.obj members) (openBadgeFields formats) =
      shownFields (.obj members) (endorsementFields formats) := by
    simp only [shownFields, openBadgeFields, endorsementFields, List.flatMap_cons,
      List.flatMap_nil, htype, hname.1, hdescription.1, hawarded.1, List.map_nil, List.nil_append]
    have hlast : (required (obv3p0AchievementSubjectSchema formats)
          ((Json.obj members).get? "credentialSubject")).issues.map Issue.shown =
        (required obv3p0EndorsementSubjectSchema
          ((Json.obj members).get? "credentialSubject")).issues.map Issue.shown := hsubject.1
    rw [hlast]
  have hread : (passthrough (openBadgeFields formats) (some (.obj members))).output.isSome =
      (passthrough (endorsementFields formats) (some (.obj members))).output.isSome := by
    have hlast : (required (obv3p0AchievementSubjectSchema formats)
          ((Json.obj members).get? "credentialSubject")).output.isSome =
        (required obv3p0EndorsementSubjectSchema
          ((Json.obj members).get? "credentialSubject")).output.isSome := by
      simp only [required, Parsed.map, Option.isSome_map, hsubject.2]
    rw [isSome_output_passthrough, isSome_output_passthrough]
    simp only [openBadgeFields, endorsementFields, List.all_cons, List.all_nil, htype, hlast,
      hname.2, hdescription.2, hawarded.2, Bool.true_and]
  rw [shown_openBadge, shown_endorsement, hissues, hread]

/-- Nothing is shown exactly if no field raises an issue. -/
theorem shownFields_eq_nil_iff (value : Json) (fields : Fields) :
    shownFields value fields = [] ↔ ∀ f ∈ fields, (f.2 (value.get? f.1)).issues = [] := by
  simp [shownFields, List.flatMap_eq_nil_iff]

/-- A badge is rejected for one of its members, or for the date its version calls for. -/
theorem openBadge_rejected_iff (members : List (String × Json)) :
    (obv3p0OpenBadgeCredentialSchema formats (some (.obj members))).accepted = none ↔
      (∃ f ∈ openBadgeFields formats, (f.2 ((Json.obj members).get? f.1)).accepted = none) ∨
        requireDates (.obj members) ≠ [] := by
  have hfield (f : String × Schema (Option Json)) (hmem : f ∈ openBadgeFields formats) :=
    (definite_openBadgeFields formats f hmem).accepted_eq_none_iff ((Json.obj members).get? f.1)
  rw [(definite_obv3p0OpenBadgeCredentialSchema formats).accepted_eq_none_iff, ne_eq,
    ← List.map_eq_nil_iff (f := Issue.shown), shown_openBadge, List.append_eq_nil_iff,
    shownFields_eq_nil_iff]
  by_cases hfields : ∀ f ∈ openBadgeFields formats,
      (f.2 ((Json.obj members).get? f.1)).issues = []
  · have hread : (passthrough (openBadgeFields formats) (some (.obj members))).output.isSome := by
      rw [isSome_output_passthrough, List.all_eq_true]
      exact fun f hmem => definite_openBadgeFields formats f hmem _ (hfields f hmem)
    have hnone : ¬∃ f ∈ openBadgeFields formats,
        (f.2 ((Json.obj members).get? f.1)).accepted = none := by
      rintro ⟨f, hmem, hrejected⟩
      exact (hfield f hmem).mp hrejected (hfields f hmem)
    rw [if_pos hread, List.map_eq_nil_iff, or_iff_right hnone]
    exact not_congr (and_iff_right hfields)
  · refine iff_of_true (fun h => hfields h.1) (.inl ?_)
    by_contra hnone
    apply hfields
    intro f hmem
    by_contra hissues
    exact hnone ⟨f, hmem, (hfield f hmem).mpr hissues⟩

end Envelopes

/-! ## The order of the recognizers -/

/-- What recognition makes of the result of the recognizer it takes. -/
def resultOutcome : RecognitionResult → CheckOutcome
  | .recognized profile normalized =>
      .success s!"recognized as {profile}" (some (.recognition (.recognized profile normalized)))
  | .malformed _ problems => .failure problems

/-- The first recognizer that applies decides. -/
theorem recognize_of_applies {credential : Option Json} {recognizer : RecognizerSpec}
    {result : RecognitionResult} (happlies : recognizer.applies credential = .ok true)
    (hparse : recognizer.parse credential = .ok result) (rest : List RecognizerSpec) :
    recognize credential (recognizer :: rest) = .ok (resultOutcome result) := by
  rw [recognize, happlies]
  dsimp only
  rw [hparse]
  cases result <;> rfl

/-- One that does not apply is passed over. -/
theorem recognize_of_not_applies {credential : Option Json} {recognizer : RecognizerSpec}
    (happlies : recognizer.applies credential = .ok false) (rest : List RecognizerSpec) :
    recognize credential (recognizer :: rest) = recognize credential rest := by
  rw [recognize, happlies]

/-- Results of different profiles have the same outcome exactly if both are malformed, with
the same problems. -/
theorem resultOutcome_eq_iff {profile other : String} (hne : profile ≠ other)
    (parsed parsedOther : Parsed Json) :
    resultOutcome (recognitionResult profile parsed) =
        resultOutcome (recognitionResult other parsedOther) ↔
      parsed.accepted = none ∧ parsedOther.accepted = none ∧
        zodErrorToProblems parsed.issues = zodErrorToProblems parsedOther.issues := by
  cases haccepted : parsed.accepted with
  | none =>
      cases hother : parsedOther.accepted with
      | none => simp [recognitionResult, haccepted, hother, resultOutcome]
      | some normalized => simp [recognitionResult, haccepted, hother, resultOutcome]
  | some normalized =>
      cases hother : parsedOther.accepted with
      | none => simp [recognitionResult, haccepted, hother, resultOutcome]
      | some otherNormalized =>
          simp [recognitionResult, haccepted, hother, resultOutcome, hne]

/-- A credential that both envelopes reject with the same problems: they show the same of it,
and some member that both read, or the date that its version calls for, is not as it has to
be. -/
structure RejectedAlike (formats : StringFormats) (credential : Json) : Prop where
  same : SameIssues formats credential
  rejected : (∃ f ∈ openBadgeFields formats, (f.2 (credential.get? f.1)).accepted = none) ∨
    requireDates credential ≠ []

/-- What a credential is that passes both gates. -/
theorem gates_both {credential : Option Json} (hbadge : isOpenBadgeCredential credential = true)
    (hendorsement : isEndorsementCredential credential = true) :
    ∃ members, credential = some (.obj members) ∧
      "OpenBadgeCredential" ∈ stringValues ((Json.obj members).get? "type") ∧
      "EndorsementCredential" ∈ stringValues ((Json.obj members).get? "type") := by
  rw [isOpenBadgeCredential, Bool.and_eq_true, hasType_eq, decide_eq_true_eq] at hbadge
  rw [isEndorsementCredential, Bool.and_eq_true, hasType_eq, decide_eq_true_eq] at hendorsement
  cases credential with
  | none => simp [memberOf, stringValues] at hbadge
  | some value =>
      cases value with
      | obj members => exact ⟨members, rfl, hbadge.2, hendorsement.2⟩
      | null | bool | num | str | arr => simp [memberOf, Json.get?, stringValues] at hbadge

/-- Where both recognizers apply, the order is immaterial exactly for the credentials that
both envelopes reject with the same problems. -/
theorem resultOutcome_eq_iff_rejectedAlike {formats : StringFormats}
    {members : List (String × Json)}
    (hbadge : "OpenBadgeCredential" ∈ stringValues ((Json.obj members).get? "type"))
    (hendorsement : "EndorsementCredential" ∈ stringValues ((Json.obj members).get? "type")) :
    resultOutcome (parseObv3p0OpenBadgeCredential formats (some (.obj members))) =
        resultOutcome (parseObv3p0EndorsementCredential formats (some (.obj members))) ↔
      RejectedAlike formats (.obj members) := by
  rw [parseObv3p0OpenBadgeCredential, parseObv3p0EndorsementCredential,
    resultOutcome_eq_iff (by decide), zodErrorToProblems_eq_iff]
  constructor
  · rintro ⟨hrejected, _, hshown⟩
    exact ⟨sameIssues_of_shown hshown, (openBadge_rejected_iff members).mp hrejected⟩
  · intro h
    have hshown := h.same.shown_eq hbadge hendorsement
    have hrejected := (openBadge_rejected_iff members).mpr h.rejected
    refine ⟨hrejected, ?_, hshown⟩
    rw [(definite_obv3p0EndorsementCredentialSchema formats).accepted_eq_none_iff, ne_eq,
      ← List.map_eq_nil_iff (f := Issue.shown), ← hshown, List.map_eq_nil_iff]
    exact ((definite_obv3p0OpenBadgeCredentialSchema formats).accepted_eq_none_iff _).mp hrejected

/-- The context with these recognizers configured. -/
def withRecognizers (context : VerificationContext) (recognizers : List RecognizerSpec) :
    VerificationContext :=
  { context with recognizers := some recognizers }

/-- With recognizers configured, the check has the outcome of the first that applies. -/
theorem execute_withRecognizers (subject : VerificationSubject) (context : VerificationContext)
    (store : ContextStore) (recognizer : RecognizerSpec) (rest : List RecognizerSpec) :
    recognitionProfileCheck.execute subject (withRecognizers context (recognizer :: rest)) store =
      .done (recognize subject.verifiableCredential (recognizer :: rest), store) :=
  rfl

/-- The two orders of the recognizers have the same outcome exactly for the credentials that
pass at most one of the gates, and for those that both envelopes reject alike. -/
theorem recognizers_commute_iff (formats : StringFormats) (subject : VerificationSubject)
    (context : VerificationContext) (store : ContextStore) :
    recognitionProfileCheck.execute subject (withRecognizers context
        [obv3p0Recognizer formats, obv3p0EndorsementRecognizer formats]) store =
      recognitionProfileCheck.execute subject (withRecognizers context
        [obv3p0EndorsementRecognizer formats, obv3p0Recognizer formats]) store ↔
      ¬(isOpenBadgeCredential subject.verifiableCredential = true ∧
          isEndorsementCredential subject.verifiableCredential = true) ∨
        ∃ credential, subject.verifiableCredential = some credential ∧
          RejectedAlike formats credential := by
  rw [execute_withRecognizers, execute_withRecognizers, Program.done.injEq, Prod.mk.injEq]
  generalize hcredential : subject.verifiableCredential = credential
  have happlies (value : Bool) (h : isOpenBadgeCredential credential = value) :
      (obv3p0Recognizer formats).applies credential = .ok value := congrArg Except.ok h
  have hother (value : Bool) (h : isEndorsementCredential credential = value) :
      (obv3p0EndorsementRecognizer formats).applies credential = .ok value := congrArg Except.ok h
  cases hbadge : isOpenBadgeCredential credential with
  | false =>
      cases hendorsement : isEndorsementCredential credential with
      | false =>
          simp [recognize_of_not_applies (happlies _ hbadge),
            recognize_of_not_applies (hother _ hendorsement)]
      | true =>
          simp [recognize_of_not_applies (happlies _ hbadge),
            recognize_of_applies (hother _ hendorsement) rfl]
  | true =>
      cases hendorsement : isEndorsementCredential credential with
      | false =>
          simp [recognize_of_applies (happlies _ hbadge) rfl,
            recognize_of_not_applies (hother _ hendorsement)]
      | true =>
          rcases gates_both hbadge hendorsement with ⟨members, rfl, htype, hendorsed⟩
          have hiff := @resultOutcome_eq_iff_rejectedAlike formats members htype hendorsed
          rw [recognize_of_applies (happlies _ hbadge) rfl,
            recognize_of_applies (hother _ hendorsement) rfl]
          simpa using hiff

/-! ### A badge that is an endorsement as well -/

namespace SpecConforming

/-- A credential of both types. -/
def badgeAndEndorsement : Json :=
  badge [.str "VerifiableCredential", .str "OpenBadgeCredential", .str "EndorsementCredential"]

/-- A credential with both types that is missing everything else but its name. -/
def nameOnly : Json :=
  .obj [("@context", context),
    ("type", .arr [.str "OpenBadgeCredential", .str "EndorsementCredential"]),
    ("name", .str "Neither")]

end SpecConforming

open SpecConforming in
example :
    recognize (some nameOnly) [obv3p0Recognizer formats, obv3p0EndorsementRecognizer formats] =
      recognize (some nameOnly)
        [obv3p0EndorsementRecognizer formats, obv3p0Recognizer formats] := by
  decide +kernel

open SpecConforming in
/-- A badge that has the type of an endorsement as well is recognized in one order and
rejected in the other. -/
theorem not_recognizers_commute :
    ¬∀ (formats : StringFormats) (subject : VerificationSubject) (context : VerificationContext)
      (store : ContextStore),
      recognitionProfileCheck.execute subject (withRecognizers context
          [obv3p0Recognizer formats, obv3p0EndorsementRecognizer formats]) store =
        recognitionProfileCheck.execute subject (withRecognizers context
          [obv3p0EndorsementRecognizer formats, obv3p0Recognizer formats]) store := by
  intro h
  have horders := h formats { verifiableCredential := some badgeAndEndorsement } {} {}
  rw [execute_withRecognizers, execute_withRecognizers, Program.done.injEq, Prod.mk.injEq]
    at horders
  have hsuccess := congrArg (Except.map CheckOutcome.isSuccess) horders.1
  revert hsuccess
  decide +kernel

end VerifierCore
