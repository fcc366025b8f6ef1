import NoteTemplate.Main
import NoteTemplate.Proofs.Expansion.Variables
import NoteTemplate.Proofs.Text.Caseless
import NoteTemplate.Proofs.Matching.Depth
import NoteTemplate.Proofs.Matching.Search
import NoteTemplate.Proofs.Matching.Validity
import NoteTemplate.Proofs.Matching.Layout
import NoteTemplate.Proofs.Template.Grammar
import NoteTemplate.Proofs.Template.Scan
import NoteTemplate.Proofs.Template.Parse
import NoteTemplate.Proofs.Template.Canonical
import NoteTemplate.Proofs.Expansion.Enumeration
import NoteTemplate.Proofs.Matching.Outcomes
import NoteTemplate.Proofs.Template.NormalForm
import NoteTemplate.Proofs.Matching.Fields
import NoteTemplate.Proofs.Matching.Filling
import NoteTemplate.Proofs.Matching.Faults
import NoteTemplate.Proofs.Rules.Cache
import NoteTemplate.Proofs.Rules.Loading
import NoteTemplate.Proofs.Rules.Answers
import NoteTemplate.Proofs.Matching.Covering
import NoteTemplate.Proofs.Matching.AnyOrder
import NoteTemplate.Proofs.Matching.Language
import NoteTemplate.Proofs.Expansion.Editing
import NoteTemplate.Proofs.Matching.Editing
import NoteTemplate.Proofs.TestFile.Verdict
import NoteTemplate.Proofs.Expansion.Ranking
import NoteTemplate.Proofs.Template.Brackets
import NoteTemplate.Proofs.Template.Partition
import NoteTemplate.Proofs.Template.VariableFaults
import NoteTemplate.Proofs.Template.Reports
import NoteTemplate.Proofs.Template.Ranges
import NoteTemplate.Proofs.Template.Spans
import NoteTemplate.Proofs.Template.Concatenation
import NoteTemplate.Proofs.Template.Drift
import NoteTemplate.Proofs.Matching.Consistency
import NoteTemplate.Proofs.Matching.Highlighting
import NoteTemplate.Proofs.Matching.Repetitions
import NoteTemplate.Proofs.Matching.Monotonicity
import NoteTemplate.Proofs.Matching.LiteralPrefix
import NoteTemplate.Proofs.Text.Recasing
import NoteTemplate.Proofs.Expansion.Recasing
import NoteTemplate.Proofs.Matching.Recasing
import NoteTemplate.Proofs.Matching.LetterCase
import NoteTemplate.Proofs.Matching.Boundary
import NoteTemplate.Proofs.Text.Occurrences
import NoteTemplate.Proofs.Expansion.Scores
import NoteTemplate.Proofs.Matching.Preference
import NoteTemplate.Proofs.Rules.Requests
import NoteTemplate.Proofs.Command.Categories
import NoteTemplate.Proofs.Expansion.Permutations
import NoteTemplate.Proofs.Text.OffsetSearch
import NoteTemplate.Proofs.Template.Splitting
import NoteTemplate.Proofs.Template.Stages
import NoteTemplate.Proofs.Regex.Language
import NoteTemplate.Proofs.Value.Phone
import NoteTemplate.Proofs.Expansion.SimpleForm
import NoteTemplate.Proofs.Expansion.Counting
import NoteTemplate.Proofs.Matching.SharedCaptures
import NoteTemplate.Proofs.Template.FaultCounts
