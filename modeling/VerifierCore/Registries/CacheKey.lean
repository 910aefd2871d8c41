import VerifierCore.Foundations.JsonText
import VerifierCore.Registries.Handler

/-!
# Keys of the lookup result cache

A lookup's result is cached under its DID and its registry list.  The list enters
the key as the sorted JSON texts of its registries' ids, so that neither the order
of the registries nor that of their accepted issuers matters.

Main results:

- Theorem {lit}`resultCacheKey_inj`: lookups that share a key ask about the same
  DID in registries with the same ids.
- Theorem {lit}`resultCacheKey_eq_iff`: which lookups share a key.
-/

namespace VerifierCore

open Foundations

/-! ## Registries -/

/-- Where a configured registry is read from. -/
def registryUrl : EntityIdentityRegistry → String
  | .oidf _ trustAnchorEC => trustAnchorEC
  | .dccLegacy _ url | .vcRecognition _ url _ => url

/-- The configured registry, as it is named in a lookup result. -/
def registryReference (registry : EntityIdentityRegistry) : RegistryReference :=
  { name := registry.name, type := registry.type, url := registryUrl registry }

/-- A registry's id: its type, name and URL, and the sorted accepted issuers of a
recognition registry. -/
def registryId (registry : EntityIdentityRegistry) : List JsonText :=
  [.string registry.type.name, .string registry.name, .string (registryUrl registry)] ++
    match registry with
    | .vcRecognition _ _ acceptedIssuers =>
        [.array ((sortStrings acceptedIssuers).map .string)]
    | _ => []

/-- The JSON text of an id. -/
def stringifyId (id : List JsonText) : String :=
  JsonText.stringify (.array id)

/-- Stable cache key for a list of registries. -/
def registryCacheKey (registries : List EntityIdentityRegistry) : String :=
  JsonText.stringify (.array ((sortStrings
    (registries.map fun registry => stringifyId (registryId registry))).map .string))

/-- Namespace of the DID-level result cache. -/
def resultCachePrefix : String :=
  "reg-result:2:"

/-- The key a lookup's result is cached under. -/
def resultCacheKey (did : String) (registries : List EntityIdentityRegistry) : String :=
  resultCachePrefix ++ did ++ ":" ++ registryCacheKey registries

/-! ## What a key determines -/

/-- The ids of a list in the order their texts are sorted. -/
def sortedIds (registries : List EntityIdentityRegistry) : List (List JsonText) :=
  (registries.map registryId).insertionSort fun id id' =>
    stringLt (stringifyId id') (stringifyId id) = false

theorem sortedIds_perm (registries : List EntityIdentityRegistry) :
    (sortedIds registries).Perm (registries.map registryId) :=
  List.perm_insertionSort _ _

/-- The key is the text of the sorted ids. -/
theorem registryCacheKey_eq_nested (registries : List EntityIdentityRegistry) :
    registryCacheKey registries = (JsonText.nested (sortedIds registries)).stringify := by
  have hsorted : (sortedIds registries).map stringifyId =
      sortStrings (registries.map fun registry => stringifyId (registryId registry)) := by
    have hmap := List.map_insertionSort
      (r := fun id id' => stringLt (stringifyId id') (stringifyId id) = false)
      (s := fun text text' => stringLt text' text = false) stringifyId
      (registries.map registryId) (fun _ _ _ _ => Iff.rfl)
    rw [List.map_map] at hmap
    exact hmap
  rw [registryCacheKey, JsonText.nested, ← hsorted, List.map_map]
  rfl

theorem toList_resultCacheKey (did : String) (registries : List EntityIdentityRegistry) :
    (resultCacheKey did registries).toList =
      resultCachePrefix.toList ++
        (did.toList ++ ':' :: (JsonText.nested (sortedIds registries)).encode) := by
  simp [resultCacheKey, registryCacheKey_eq_nested]

/-- The DID and the ids of the registries can be read off the key, the ids up to
their order. -/
theorem resultCacheKey_inj {did did' : String} {registries registries' : List EntityIdentityRegistry}
    (h : resultCacheKey did registries = resultCacheKey did' registries') :
    did = did' ∧ (registries.map registryId).Perm (registries'.map registryId) := by
  have hlists := congrArg String.toList h
  rw [toList_resultCacheKey, toList_resultCacheKey] at hlists
  have hsplit := JsonText.eq_of_append_colon_encode (List.append_cancel_left hlists)
  have hdid : did = did' := String.toList_inj.mp hsplit.1
  have hperm : (registries.map registryId).Perm (sortedIds registries') := by
    rw [← hsplit.2]
    exact (sortedIds_perm registries).symm
  exact ⟨hdid, hperm.trans (sortedIds_perm registries')⟩

/-! ## Keys as multisets -/

/-- What of a configured registry a key is to keep apart: its type, its name, its
URL, and which issuers a recognition registry accepts, in any order. -/
def registryIdentity (registry : EntityIdentityRegistry) :
    RegistryType × String × String × Option (Multiset String) :=
  (registry.type, registry.name, registryUrl registry,
    match registry with
    | .vcRecognition _ _ acceptedIssuers => some acceptedIssuers
    | _ => none)

/-- The registries of a list in any order, each as often as it is configured. -/
def registryIdentities (registries : List EntityIdentityRegistry) :
    Multiset (RegistryType × String × String × Option (Multiset String)) :=
  registries.map registryIdentity

/-- Sorted issuers are written alike exactly when they are the same in some
order. -/
theorem sortedIssuers_eq_iff {issuers issuers' : List String} :
    (sortStrings issuers).map JsonText.string = (sortStrings issuers').map .string ↔
      (issuers : Multiset String) = issuers' := by
  have hstring : Function.Injective JsonText.string := fun _ _ h => JsonText.string.inj h
  rw [(List.map_injective_iff.mpr hstring).eq_iff, sortStrings_eq_iff_perm, Multiset.coe_eq_coe]

/-- A registry's id says no more and no less. -/
theorem registryId_eq_iff {registry registry' : EntityIdentityRegistry} :
    registryId registry = registryId registry' ↔
      registryIdentity registry = registryIdentity registry' := by
  cases registry <;> cases registry' <;>
    simp [registryId, registryIdentity, EntityIdentityRegistry.type, RegistryType.name,
      EntityIdentityRegistry.name, registryUrl, sortedIssuers_eq_iff]

/-- Two readings of a list's elements that tell the same elements apart agree on
which lists are permutations of each other. -/
theorem perm_map_of_factors {α β γ : Type} {f : α → β} {g : α → γ}
    (h : ∀ a b, f a = f b → g a = g b) {as bs : List α} (hperm : (as.map f).Perm (bs.map f)) :
    (as.map g).Perm (bs.map g) := by
  cases as with
  | nil =>
      rw [List.map_nil, List.nil_perm, List.map_eq_nil_iff] at hperm
      subst hperm
      exact .refl _
  | cons a as =>
      have hfactors : Function.FactorsThrough g f := fun x y hxy => h x y hxy
      have hextend : g = Function.extend f g (fun _ => g a) ∘ f := by
        funext x
        exact (hfactors.extend_apply _ x).symm
      rw [hextend, ← List.map_map, ← List.map_map]
      exact hperm.map _

/-- Lists whose ids are the same in some order share a key. -/
theorem registryCacheKey_eq_of_perm {registries registries' : List EntityIdentityRegistry}
    (h : (registries.map registryId).Perm (registries'.map registryId)) :
    registryCacheKey registries = registryCacheKey registries' := by
  have htexts := h.map stringifyId
  rw [List.map_map, List.map_map] at htexts
  exact congrArg (fun texts => JsonText.stringify (.array (texts.map .string)))
    (sortStrings_eq_iff_perm.mpr htexts)

/-- Two lookups share a key exactly when they ask about one DID in registries that
are the same up to their order and the order of their accepted issuers. -/
theorem resultCacheKey_eq_iff (did did' : String)
    (registries registries' : List EntityIdentityRegistry) :
    resultCacheKey did registries = resultCacheKey did' registries' ↔
      did = did' ∧ registryIdentities registries = registryIdentities registries' := by
  rw [registryIdentities, registryIdentities, Multiset.coe_eq_coe]
  constructor
  · intro h
    rcases resultCacheKey_inj h with ⟨hdid, hperm⟩
    exact ⟨hdid, perm_map_of_factors (fun _ _ => registryId_eq_iff.mp) hperm⟩
  · rintro ⟨rfl, hperm⟩
    have hids : (registries.map registryId).Perm (registries'.map registryId) :=
      perm_map_of_factors (fun _ _ => registryId_eq_iff.mpr) hperm
    rw [resultCacheKey, resultCacheKey, registryCacheKey_eq_of_perm hids]

/-- Registries with equal ids are named alike in a result. -/
theorem registryReference_eq_of_registryId_eq {registry registry' : EntityIdentityRegistry}
    (h : registryId registry = registryId registry') :
    registryReference registry = registryReference registry' := by
  have hparts : registry.type.name = registry'.type.name ∧ registry.name = registry'.name ∧
      registryUrl registry = registryUrl registry' := by
    have htake := congrArg (List.take 3) h
    simpa [registryId] using htake
  have htype : registry.type = registry'.type := by
    have hname := hparts.1
    cases registry <;> cases registry' <;> simp_all [EntityIdentityRegistry.type, RegistryType.name]
  simp [registryReference, htype, hparts.2.1, hparts.2.2]

theorem inNamespace_resultCacheKey (did : String) (registries : List EntityIdentityRegistry) :
    InNamespace .result (resultCacheKey did registries) :=
  ⟨did ++ ":" ++ registryCacheKey registries,
    by simp [resultCacheKey, resultCachePrefix, CacheNamespace.start, String.append_assoc]⟩

end VerifierCore
