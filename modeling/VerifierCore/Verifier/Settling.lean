import VerifierCore.Verifier.Presentation
import VerifierCore.Verifier.Recursion

/-!
# One level of recursion

The handlers of a verifier are given the verifier itself.  They only ask it for closed
calls, and these look no issuer up.  So the recursion between the verifier and its handlers
is one level deep: from there on nothing changes with the depth.

Main results:

- Theorem {lit}`callClosed_defaultHandlers`: the handlers of the repository make closed
  calls only.
- Theorem {lit}`createVerifier_settles`: the verifier is the same at every depth from one
  on.
-/

namespace VerifierCore

open Foundations Program

/-! ## Handlers and their calls -/

/-- Verifiers that agree on closed calls are the same to the handlers. -/
def CallClosed (handlers : RegistryHandlerMap) : Prop :=
  ∀ type did registry platform (verifier verifier' : Verifier),
    (∀ call : VerifyCredentialCall, call.IsClosed →
      verifier.verifyCredential call = verifier'.verifyCredential call) →
    handlers type did registry { platform := platform, verifier := .ok verifier } =
      handlers type did registry { platform := platform, verifier := .ok verifier' }

/-- The one handler that uses the verifier asks for a closed call. -/
theorem lookupVcRecognitionForRegistry_congr {platform : Platform} {did url : String}
    {acceptedIssuers : List String} {verifier verifier' : Verifier}
    (hclosed : ∀ call : VerifyCredentialCall, call.IsClosed →
      verifier.verifyCredential call = verifier'.verifyCredential call) :
    lookupVcRecognitionForRegistry platform did url acceptedIssuers verifier =
      lookupVcRecognitionForRegistry platform did url acceptedIssuers verifier' := by
  unfold lookupVcRecognitionForRegistry
  simp only [fun loaded => hclosed (recognitionCall loaded) (isClosed_recognitionCall loaded)]

/-- The default handlers ask the verifier for closed calls alone. -/
theorem callClosed_defaultHandlers : CallClosed defaultHandlers := by
  intro type did registry platform verifier verifier' hclosed
  cases type with
  | dccLegacy | oidf => rfl
  | vcRecognition =>
      simp only [defaultHandlers, lookupVcRecognition, lookupVcRecognitionForRegistry_congr hclosed]

/-! ## Lookups -/

section

variable {handlers : RegistryHandlerMap} {context context' : RegistryHandlerContext} {did : String}
  {registries : List EntityIdentityRegistry}

/-- A walk only asks the handlers of its registries. -/
theorem walkRegistries_congr
    (h : ∀ registry ∈ registries, handlers registry.type did registry context =
      handlers registry.type did registry context')
    (exhaustive : Bool) :
    walkRegistries handlers context did exhaustive registries =
      walkRegistries handlers context' did exhaustive registries := by
  induction registries with
  | nil => rfl
  | cons registry rest ih =>
      have hrest := ih fun other hmem => h other (List.mem_cons_of_mem _ hmem)
      simp only [walkRegistries, h registry List.mem_cons_self, hrest]

theorem createRegistryLookup_congr
    (h : ∀ registry ∈ registries, handlers registry.type did registry context =
      handlers registry.type did registry context')
    (options : LookupIssuersOptions) :
    createRegistryLookup handlers context did registries options =
      createRegistryLookup handlers context' did registries options := by
  simp only [createRegistryLookup, lookupAndStore, walkRegistries_congr h options.exhaustive]

end

/-! ## Depths -/

section

variable {platform : Platform} {config : VerifierConfig}

/-- Lookups whose handlers may call a verifier are the same at every depth. -/
theorem lookupIssuersAt_settles (hhandlers : CallClosed (config.registryHandlers.getD defaultHandlers))
    (depth depth' : Nat) :
    lookupIssuersAt platform config depth = lookupIssuersAt platform config depth' := by
  funext did registries options
  apply createRegistryLookup_congr
  intro registry _
  apply hhandlers
  intro call hcall
  exact verifyCredential_depth hcall depth depth'

/-- From depth one on, where the handlers are given a verifier, the verifier is the same at
every depth, for credentials and for presentations. -/
theorem createVerifier_settles
    (hhandlers : CallClosed (config.registryHandlers.getD defaultHandlers)) (depth : Nat) :
    createVerifier platform config (depth + 1) = createVerifier platform config 1 ∧
      ∀ call, verifyPresentation platform config (depth + 1) call =
        verifyPresentation platform config 1 call := by
  have hlookups : lookupIssuersAt platform config depth = lookupIssuersAt platform config 0 :=
    lookupIssuersAt_settles hhandlers depth 0
  have hverifier : createVerifier platform config (depth + 1) = createVerifier platform config 1 :=
    congrArg (fun lookup => Verifier.mk (verifyCredentialWith platform config lookup)) hlookups
  refine ⟨hverifier, ?_⟩
  intro call
  unfold verifyPresentation
  rw [hverifier]
  exact congrArg (fun lookup => verifyPresentationWith platform config lookup
    (createVerifier platform config 1) call) hlookups

end

/-- With the handlers of the repository the badge's verifier settles. -/
theorem createVerifier_settles_badge :
    createVerifier BadgePresentation.platform BadgePresentation.config 5 =
      createVerifier BadgePresentation.platform BadgePresentation.config 1 :=
  (createVerifier_settles (by exact callClosed_defaultHandlers) 4).1

end VerifierCore
