import VerifierCore.Suites.Core

/-!
# The recognition and registry suites

Recognition selects the first recognizer that applies and reports what it makes
of the credential.  The registry check looks the issuer up and reports what the
lookup found; nothing the lookup does can make it throw.

Main definitions:

- Definition {lit}`recognitionSuite`: the recognizers in front of the other suites.
- Definition {lit}`issuerRegistryCheck`: one lookup of the issuer, or none.
-/

namespace VerifierCore

open Foundations Program

/-! ## Recognition -/

/-- The outcome of the first recognizer that applies. -/
def recognize (credential : Option Json) : List RecognizerSpec → Except Thrown CheckOutcome
  | [] => .ok (.skipped "no recognizer matched")
  | recognizer :: rest =>
      match recognizer.applies credential with
      | .error error => .error error
      | .ok false => recognize credential rest
      | .ok true =>
          match recognizer.parse credential with
          | .error error => .error error
          | .ok (.recognized profile normalized) =>
              .ok (.success s!"recognized as {profile}"
                (some (.recognition (.recognized profile normalized))))
          | .ok (.malformed _ problems) => .ok (.failure problems)

/-- The check for the form that a recognizer knows the credential by. -/
def recognitionProfileCheck : VerificationCheck where
  id := "recognition.profile"
  appliesTo := some [.verifiableCredential]
  fatal := some false
  execute := pureBody fun subject context =>
    match context.recognizers.getD [] with
    | [] => .ok (.skipped "no recognizers configured")
    | recognizers => recognize subject.verifiableCredential recognizers

/-- The suite of the recognized form. -/
def recognitionSuite : VerificationSuite where
  id := "recognition"
  phase := some .recognition
  checks := [recognitionProfileCheck]

/-! ## Issuer registry -/

/-- The noun for a count of registries. -/
def registriesNoun (count : Nat) : String :=
  if count = 1 then "registry" else "registries"

/-- The outcome of a lookup that returned. -/
def registryOutcome (issuerDid : String) (registries : List EntityIdentityRegistry)
    (result : RegistryLookupResult) : CheckOutcome :=
  let payload := some (CheckPayload.registry result.toRegistryCheckPayload)
  let uncheckedNames := result.uncheckedRegistries.map RegistryReference.name
  let uncheckedCount := uncheckedNames.length
  let uncheckedSummary :=
    s!"{uncheckedCount} {registriesNoun uncheckedCount} could not be checked: " ++
      join ", " uncheckedNames
  if result.found then
    let matchingNames := result.matchesFound.map fun found => found.registry.name
    let message :=
      match matchingNames with
      | [name] => s!"Issuer found in registry: {name}"
      | names => s!"Issuer found in {names.length} registries: " ++ join ", " names
    .success (if uncheckedCount > 0 then s!"{message}. {uncheckedSummary}" else message) payload
  else if uncheckedCount ≥ registries.length then
    .failure
      [{ type := ProblemTypes.registryUnchecked
         title := "Registry Unchecked"
         detail := s!"Issuer registration could not be determined: {uncheckedSummary}" }]
      payload
  else
    let checkedCount := registries.length - uncheckedCount
    let notRegistered : ProblemDetail :=
      { type := ProblemTypes.issuerNotRegistered
        title := "Issuer Not Registered"
        detail :=
          if uncheckedCount = 0 then
            s!"Issuer {issuerDid} was not found in any known DID registry."
          else
            s!"Issuer {issuerDid} was not found in the {checkedCount} {registriesNoun checkedCount} that could be checked; {uncheckedCount} could not be checked." }
    let rest : List ProblemDetail :=
      if uncheckedCount > 0 then
        [{ type := ProblemTypes.registryUnchecked
           title := "Registry Unchecked"
           detail := uncheckedSummary }]
      else []
    .failure (notRegistered :: rest) payload

/-- The outcome of a lookup that threw. -/
def registryErrorOutcome (error : Thrown) : CheckOutcome :=
  failWith ProblemTypes.registryError "Registry Lookup Error"
    (errorMessage error "An error occurred while looking up issuer in registries.")

/-- The check whether a registry lists the issuer. -/
def issuerRegistryCheck : VerificationCheck where
  id := "registry.issuer"
  fatal := some false
  appliesTo := some [.verifiableCredential]
  execute subject context store :=
    match subject.verifiableCredential.filter Json.truthy with
    | none => pure (.ok (.skipped "No verifiable credential found in subject."), store)
    | some credential =>
        match context.registries.getD [] with
        | [] => pure (.ok (.skipped "No registries configured in verification context."), store)
        | registries =>
            match credentialIssuerId credential, context.lookupIssuers with
            | none, _ =>
                pure (.ok (failWith ProblemTypes.issuerNotFound "Issuer Not Found"
                  "Credential has no issuer or issuer ID is missing."), store)
            | some _, none =>
                pure (.ok (.skipped "No lookupIssuers in verification context."), store)
            | some issuerDid, some lookupIssuers => do
                let looked ← lookupIssuers issuerDid registries {}
                match looked with
                | .ok result => pure (.ok (registryOutcome issuerDid registries result), store)
                | .error error => pure (.ok (registryErrorOutcome error), store)

/-- The suite of the issuer's registries. -/
def registrySuite : VerificationSuite where
  id := "registry"
  phase := some .trust
  checks := [issuerRegistryCheck]

end VerifierCore
