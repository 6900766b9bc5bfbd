import GrammarCheck.Main
import GrammarCheck.Proofs.FingerprintDigits
import GrammarCheck.Proofs.Artifact
import GrammarCheck.Proofs.Loading
import GrammarCheck.Proofs.LoadOutcome
import GrammarCheck.Proofs.Coherence
import GrammarCheck.Proofs.FirstError
import GrammarCheck.Proofs.Spelling
import GrammarCheck.Proofs.LibraryFailure
import GrammarCheck.Proofs.OpeningStages
import GrammarCheck.Proofs.Building
import GrammarCheck.Proofs.Discovery
import GrammarCheck.Proofs.Isolation
import GrammarCheck.Proofs.LowerCase
import GrammarCheck.Proofs.AsciiCase
import GrammarCheck.Proofs.FileName
import GrammarCheck.Proofs.PathEnd
import GrammarCheck.Proofs.AsciiBytes
import GrammarCheck.Proofs.NamingRules
import GrammarCheck.Proofs.Registry
import GrammarCheck.Proofs.Planning
import GrammarCheck.Proofs.Selection
import GrammarCheck.Proofs.LibraryValues
import GrammarCheck.Proofs.NormalNames
import GrammarCheck.Proofs.Assignments
import GrammarCheck.Proofs.EntryPoints
import GrammarCheck.Proofs.Offering
import GrammarCheck.Proofs.ListingAgreement
import GrammarCheck.Proofs.Refusal
import GrammarCheck.Proofs.BundledSpellings
import GrammarCheck.Proofs.Tally
import GrammarCheck.Proofs.Composition
import GrammarCheck.Proofs.ReportText
import GrammarCheck.Proofs.Verdict
import GrammarCheck.Proofs.Strictness
import GrammarCheck.Proofs.JsonText
import GrammarCheck.Proofs.ReportJson
