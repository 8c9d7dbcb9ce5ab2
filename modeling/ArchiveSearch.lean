import ArchiveSearch.Text.Basic
import ArchiveSearch.Text.Blank
import ArchiveSearch.Text.Utf8
import ArchiveSearch.Text.Entity
import ArchiveSearch.Text.CaseTable
import ArchiveSearch.Text.Lowercase
import ArchiveSearch.Text.Terminal
import ArchiveSearch.Text.Similarity
import ArchiveSearch.Query.Token
import ArchiveSearch.Query.Filter
import ArchiveSearch.Query.Term
import ArchiveSearch.Matching.Candidate
import ArchiveSearch.Matching.Visibility
import ArchiveSearch.Matching.Record
import ArchiveSearch.Matching.Pass
import ArchiveSearch.Matching.Probe
import ArchiveSearch.Fragment.Error
import ArchiveSearch.Fragment.Percent
import ArchiveSearch.Fragment.Codec
import ArchiveSearch.Page.Config
import ArchiveSearch.Page.Post
import ArchiveSearch.Page.Entry
import ArchiveSearch.Page.Markup
import ArchiveSearch.Page.Basic
import ArchiveSearch.Page.Event
import ArchiveSearch.CommandLine
import ArchiveSearch.Preview
import ArchiveSearch.Main
import ArchiveSearch.Proofs.Utf8
import ArchiveSearch.Proofs.Utf8Faults
import ArchiveSearch.Proofs.Percent
import ArchiveSearch.Proofs.FragmentReading
import ArchiveSearch.Proofs.FragmentRoundTrip
import ArchiveSearch.Proofs.QuoteParity
import ArchiveSearch.Proofs.TokenRuns
import ArchiveSearch.Proofs.BrowserSession
import ArchiveSearch.Proofs.LatestQuery
import ArchiveSearch.Proofs.Submission
import ArchiveSearch.Proofs.Navigation
import ArchiveSearch.Proofs.Lowercase
import ArchiveSearch.Proofs.PreviewOutput
import ArchiveSearch.Proofs.QueryConcatenation
import ArchiveSearch.Proofs.FilterWriting
import ArchiveSearch.Proofs.PreviewFragment
import ArchiveSearch.Proofs.FinalSigma
import ArchiveSearch.Proofs.LiteralSearch
import ArchiveSearch.Proofs.QuotedSearch
import ArchiveSearch.Proofs.Conjunction
import ArchiveSearch.Proofs.FailedFragments
import ArchiveSearch.Proofs.CanonicalFragment
import ArchiveSearch.Proofs.ControlMarkup
import ArchiveSearch.Proofs.FilterGrammar
import ArchiveSearch.Proofs.PassRule
import ArchiveSearch.Proofs.EntryMarkup
import ArchiveSearch.Proofs.CategoryBoundary
import ArchiveSearch.Proofs.Trimming
import ArchiveSearch.Proofs.PostLine
import ArchiveSearch.Proofs.Negation
import ArchiveSearch.Proofs.NormalForm
import ArchiveSearch.Proofs.VisibilityOverride
import ArchiveSearch.Proofs.TokenReading
