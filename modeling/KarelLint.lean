import KarelLint.Main
import KarelLint.OrderedMap.Lookup
import KarelLint.Proofs.Session.Consistency
import KarelLint.Proofs.Session.History
import KarelLint.Proofs.Session.Freshness
import KarelLint.Proofs.Session.StaleAnswers
import KarelLint.Proofs.Diagnosis.CallVerdict
import KarelLint.Proofs.Source.Scan
import KarelLint.Proofs.Source.Scanned
import KarelLint.Proofs.Grammar.Program
import KarelLint.Proofs.Grammar.CleanCheck
import KarelLint.Proofs.Session.Requests
import KarelLint.Proofs.Source.Findings
import KarelLint.Proofs.Diagnosis.Anchors
import KarelLint.Proofs.Source.Layout
import KarelLint.Proofs.Source.LayoutSearch
import KarelLint.Proofs.Diagnosis.Rejections
import KarelLint.Proofs.Diagnosis.Relocation
import KarelLint.Proofs.Source.CallSites
import KarelLint.Proofs.Diagnosis.HeadingCalls
import KarelLint.Proofs.Session.Closing
import KarelLint.Proofs.Session.WalkOrder
import KarelLint.Proofs.Session.Isolation
import KarelLint.Proofs.Text.Lines
import KarelLint.Proofs.Diagnosis.Displays
import KarelLint.Proofs.Source.Padding
import KarelLint.Proofs.Diagnosis.Translation
import KarelLint.Proofs.Text.Pattern
import KarelLint.Proofs.Source.HeadingPattern
import KarelLint.Proofs.Source.ClosedCalls
import KarelLint.Proofs.Source.Nesting
import KarelLint.Proofs.Text.Places
import KarelLint.Proofs.Terminal.Excerpts
import KarelLint.Proofs.Diagnosis.ArgumentCounts
import KarelLint.Proofs.Text.ByteOrder
import KarelLint.Proofs.Session.Offers
import KarelLint.Proofs.Source.WholeNames
import KarelLint.Proofs.Terminal.ConciseLines
import KarelLint.Proofs.Source.Table
import KarelLint.Proofs.Session.SettingsReading
import KarelLint.Proofs.Session.Replies
