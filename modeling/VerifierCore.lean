import VerifierCore.Foundations.Program
import VerifierCore.Foundations.Loop
import VerifierCore.Foundations.Evaluation
import VerifierCore.Foundations.Elision
import VerifierCore.Foundations.Memo
import VerifierCore.Foundations.World
import VerifierCore.Foundations.Interleaving
import VerifierCore.Foundations.Monitor
import VerifierCore.Foundations.RelyGuarantee
import VerifierCore.Foundations.Restriction
import VerifierCore.Foundations.ExpiringStore
import VerifierCore.Foundations.Grouping
import VerifierCore.Foundations.JsonText
import VerifierCore.Foundations.Numerals
import VerifierCore.Foundations.Pointer
import VerifierCore.Foundations.Prefixes
import VerifierCore.Foundations.Spans
import VerifierCore.Foundations.Utf8
import VerifierCore.Json
import VerifierCore.Platform
import VerifierCore.Text
import VerifierCore.Types
import VerifierCore.FoldResults
import VerifierCore.HttpGetService.UrlPolicy
import VerifierCore.HttpGetService.Literals
import VerifierCore.HttpGetService.AddressRanges
import VerifierCore.HttpGetService.Builtin
import VerifierCore.HttpGetService.PolicyRuns
import VerifierCore.HttpGetService.BodyCap
import VerifierCore.HttpGetService.Custody
import VerifierCore.HttpGetService.DocumentLoader
import VerifierCore.RunSuites
import VerifierCore.RunSuites.Report
import VerifierCore.RunSuites.TwoPass
import VerifierCore.RunSuites.Regrouping
import VerifierCore.RunSuites.DrillDown
import VerifierCore.CryptoDispatch
import VerifierCore.DataIntegrityCrypto
import VerifierCore.DataIntegrityCrypto.Rejection
import VerifierCore.DataIntegrityCrypto.DidWeb
import VerifierCore.DataIntegrityCrypto.Verdicts
import VerifierCore.Suites.Core
import VerifierCore.Suites.Proof
import VerifierCore.Suites.ProofSets
import VerifierCore.Suites.Registry
import VerifierCore.Suites.IssuerRegistry
import VerifierCore.Suites.Status
import VerifierCore.Suites.Gate
import VerifierCore.Suites.StatusRuns
import VerifierCore.Suites.StatusOutcomes
import VerifierCore.Suites.Pointers
import VerifierCore.Schemas
import VerifierCore.Registries.CacheKey
import VerifierCore.Registries.CacheTtl
import VerifierCore.Registries.Handler
import VerifierCore.Registries.Jws
import VerifierCore.Registries.DccLegacy
import VerifierCore.Registries.Oidf
import VerifierCore.Registries.VcRecognition
import VerifierCore.Registries.Lookup
import VerifierCore.Registries.ShortCircuit
import VerifierCore.Verifier
import VerifierCore.RunSuites.Services
import VerifierCore.Verifier.Recursion
import VerifierCore.Verifier.Presentation
import VerifierCore.Verifier.ChallengeBinding
import VerifierCore.Verifier.Soundness
import VerifierCore.Verifier.AdditionalSuites
import VerifierCore.Verifier.PresentationSuites
import VerifierCore.Verifier.IssuerDetails
import VerifierCore.Verifier.Flatten
import VerifierCore.Verifier.Settling
import VerifierCore.Verifier.VerifySuite
import VerifierCore.Timing.Untimed
import VerifierCore.Timing.Transparency
import VerifierCore.Timing.Nesting
import VerifierCore.OpenBadges.Zod
import VerifierCore.OpenBadges.Shapes
import VerifierCore.OpenBadges.Classes
import VerifierCore.OpenBadges.Recognizers
import VerifierCore.OpenBadges.RecognizerOrder
import VerifierCore.OpenBadges.Normalization
import VerifierCore.OpenBadges.Resilience
import VerifierCore.OpenBadges.AchievementTypes
import VerifierCore.OpenBadges.SchemaSelection
import VerifierCore.OpenBadges.SchemaValidation
import VerifierCore.OpenBadges.Suites
import VerifierCore.SharedCache
import VerifierCore.SharedCache.Recognition
import VerifierCore.SharedCache.Lookups
import VerifierCore.SharedCache.Signatures
import VerifierCore.SharedCache.Results
import VerifierCore.SharedCache.Memberships
import VerifierCore.SharedCache.Lifetimes
import VerifierCore.SharedCache.Expiry
import VerifierCore.SharedCache.ReadThrough
import VerifierCore.SharedCache.Listings
import VerifierCore.SharedCache.Verifications
