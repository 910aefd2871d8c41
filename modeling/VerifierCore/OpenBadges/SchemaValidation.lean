import VerifierCore.Foundations.Memo
import VerifierCore.OpenBadges.SchemaSelection

/-!
# Validation against the vendored schemas

The JSON Schema check of an Open Badges credential.  The validators are compiled on first
use and kept for the life of the process; compiling and running them is left to the library,
which is a parameter here.

Main results:

- Theorem {lit}`executeObv3Schema_validators`: what one check does to the kept validators.
- Theorem {lit}`schemaChecks_cached`: over any sequence of checks the kept validators do not
  show in the outcomes, and each schema is kept at most once.
-/

namespace VerifierCore

open Foundations

/-! ## The library -/

/-- One error of a validator. -/
structure AjvError where
  instancePath : String
  message : Option String

/-- What a validator says of a value.  The errors are those it leaves behind. -/
structure AjvVerdict where
  valid : Bool
  errors : Option (List AjvError)

/-- A compiled validator, which may throw. -/
abbrev ValidateFunction : Type :=
  Json → Except Thrown AjvVerdict

/-- The schema library: a schema is compiled to a validator, or compiling throws. -/
structure Ajv where
  compile : VendoredObSchema → Except Thrown ValidateFunction

/-- The validators that were compiled, by the ids of their schemas. -/
abbrev Validators : Type :=
  MemoTable String ValidateFunction

/-! ## The check -/

/-- The compiled schema, from the table of those that were compiled before. -/
def validatorFor (ajv : Ajv) (vendored : VendoredObSchema) (validators : Validators) :
    Except Thrown ValidateFunction × Validators :=
  memoized ajv.compile VendoredObSchema.id vendored validators

/-- The text that an error of the library is reported with. -/
def ajvErrorText (error : AjvError) : String :=
  let message := match error.message with
    | none | some "" => "Validation error"
    | some message => message
  if error.instancePath = "" then message else s!"{error.instancePath}: {message}"

namespace ProblemTypes

def schemaValidationFailed := problemType "SCHEMA_VALIDATION_FAILED"
def schemaValidationError := problemType "SCHEMA_VALIDATION_ERROR"

end ProblemTypes

/-- The details of a failed validation. -/
def ajvErrorDetails (errors : Option (List AjvError)) : String :=
  match join "; " ((errors.getD []).map ajvErrorText) with
  | "" => "Unknown validation error"
  | details => details

/-- The outcome of a validator that was compiled and run, or of what was thrown. -/
def schemaOutcome (vendored : VendoredObSchema) : Except Thrown AjvVerdict → CheckOutcome
  | .ok verdict =>
      if verdict.valid then
        .success s!"OBv3 schema validation passed against {vendored.specSection} ({vendored.id})."
      else
        let errorDetails := ajvErrorDetails verdict.errors
        .failure
          [{ type := ProblemTypes.schemaValidationFailed
             title := "Schema Validation Failed"
             detail := s!"Schema validation failed against {vendored.specSection}: {errorDetails}" }]
  | .error error =>
      .failure
        [{ type := ProblemTypes.schemaValidationError
           title := "Schema Validation Error"
           detail := errorMessage error "An error occurred during schema validation." }]

/-- The check, with the validators kept so far and the ones kept after it. -/
def executeObv3Schema (ajv : Ajv) (subject : VerificationSubject) (validators : Validators) :
    Except Thrown CheckOutcome × Validators :=
  match selectObSchema subject with
  | .error error => (.error error, validators)
  | .ok (.skipped reason) => (.ok (.skipped reason), validators)
  | .ok (.selected selection) =>
      let validate := validatorFor ajv selection.vendored validators
      (.ok (schemaOutcome selection.vendored (validate.1.bind fun validate =>
        validate selection.credential)), validate.2)

/-- The check of a process that has compiled nothing yet. -/
def obv3SchemaCheck (ajv : Ajv) : VerificationCheck where
  id := "schema.obv3.json"
  fatal := some false
  appliesTo := some [.verifiableCredential]
  execute := pureBody fun subject _ => (executeObv3Schema ajv subject []).1

/-! ## Kept validators -/

/-- The vendored schemas. -/
def vendoredDomain : Set VendoredObSchema :=
  {schema | schema ∈ vendoredObSchemas}

theorem id_injOn_vendored : Set.InjOn VendoredObSchema.id vendoredDomain := by
  have hids : ∀ schema ∈ vendoredObSchemas, ∀ other ∈ vendoredObSchemas,
      schema.id = other.id → schema = other := by decide +kernel
  intro schema hschema other hother hid
  exact hids schema hschema other hother hid

/-- The validators of a process: each was compiled from the vendored schema of its id. -/
structure Validators.Kept (ajv : Ajv) (validators : Validators) : Prop where
  faithful : validators.Faithful ajv.compile VendoredObSchema.id vendoredDomain
  wellKeyed : validators.WellKeyed VendoredObSchema.id vendoredDomain

theorem Validators.kept_nil (ajv : Ajv) : Validators.Kept ajv [] :=
  ⟨MemoTable.faithful_nil _ _ _, ⟨List.nodup_nil, by simp⟩⟩

/-- There are no more validators than schemas. -/
theorem Validators.Kept.length_le {ajv : Ajv} {validators : Validators}
    (hkept : validators.Kept ajv) : validators.length ≤ vendoredObSchemas.length := by
  have hsub : validators.map Prod.fst ⊆ vendoredObSchemas.map VendoredObSchema.id := by
    intro id hid
    rcases hkept.wellKeyed.keys id hid with ⟨schema, hschema, rfl⟩
    exact List.mem_map_of_mem hschema
  have hle := (List.subperm_of_subset hkept.wellKeyed.nodup hsub).length_le
  rwa [List.length_map, List.length_map] at hle

/-- One check keeps the validators as they should be, and they do not show in its
outcome. -/
theorem executeObv3Schema_validators {ajv : Ajv} {subject : VerificationSubject}
    {validators : Validators} (hkept : validators.Kept ajv) :
    (executeObv3Schema ajv subject validators).2.Kept ajv ∧
      (executeObv3Schema ajv subject validators).1 = (executeObv3Schema ajv subject []).1 := by
  rcases selectObSchema_ok subject with ⟨reason, hskipped⟩ | ⟨selection, hselected, _, hsound⟩
  · simp only [executeObv3Schema, hskipped]
    exact ⟨hkept, trivial⟩
  · have hmem : selection.vendored ∈ vendoredDomain := hsound.vendored
    have hfresh := memoized_eq (Validators.kept_nil ajv).faithful hmem
    have hcompiled := memoized_eq hkept.faithful hmem
    simp only [executeObv3Schema, hselected, validatorFor, hcompiled, hfresh]
    exact ⟨⟨memoized_faithful id_injOn_vendored hkept.faithful hmem,
      memoized_wellKeyed hkept.wellKeyed hmem⟩, trivial⟩

/-- In a process that has run any checks before, each check has the outcome it has alone, and
no schema is compiled to a second validator. -/
theorem schemaChecks_cached (ajv : Ajv) (subjects : List VerificationSubject) :
    (runMemoized (executeObv3Schema ajv) subjects []).1 =
        subjects.map (fun subject => (executeObv3Schema ajv subject []).1) ∧
      ((runMemoized (executeObv3Schema ajv) subjects []).2.map Prod.fst).Nodup ∧
      (runMemoized (executeObv3Schema ajv) subjects []).2.length ≤ vendoredObSchemas.length ∧
      ∀ schema ∈ vendoredObSchemas, ∀ validate,
        (runMemoized (executeObv3Schema ajv) subjects []).2.lookup schema.id = some validate →
          ajv.compile schema = .ok validate := by
  have hstep (subject : VerificationSubject) (validators : Validators)
      (hkept : validators.Kept ajv) :
      (executeObv3Schema ajv subject validators).2.Kept ajv ∧
        (executeObv3Schema ajv subject validators).1 = (executeObv3Schema ajv subject []).1 :=
    executeObv3Schema_validators hkept
  have hrun := runMemoized_invariant hstep subjects [] (Validators.kept_nil ajv)
  have hkept := hrun.2
  exact ⟨hrun.1, hkept.wellKeyed.nodup, hkept.length_le, hkept.faithful⟩

end VerifierCore
