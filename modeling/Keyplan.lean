import Keyplan.Keycap
import Keyplan.Main
import Keyplan.Proofs.Grammar
import Keyplan.Proofs.Layers
import Keyplan.Proofs.Spans
import Keyplan.Proofs.Relocation
import Keyplan.Proofs.KeyExpression
import Keyplan.Proofs.SetKey
import Keyplan.Proofs.AddLayer
import Keyplan.Proofs.Session
import Keyplan.Proofs.Legibility
import Keyplan.Proofs.RoundTrip
import Keyplan.Proofs.Evaluability
import Keyplan.Proofs.Revalidation
import Keyplan.Proofs.BlockStyle
import Keyplan.Proofs.BlockRoundTrip
import Keyplan.Proofs.DiskOperations
import Keyplan.Proofs.Backups
import Keyplan.Proofs.CommandSafety
import Keyplan.Proofs.Rollback
import Keyplan.Proofs.Places
import Keyplan.Proofs.Preamble
import Keyplan.Proofs.BeforeEdit
import Keyplan.Proofs.Comments
import Keyplan.Proofs.Joining
import Keyplan.Proofs.EditLaws
import Keyplan.Proofs.Reading
import Keyplan.Proofs.Faults
import Keyplan.Proofs.Extension
import Keyplan.Proofs.Traversal
import Keyplan.Proofs.WellFormed
import Keyplan.Proofs.ModifierChains
import Keyplan.Proofs.ErrorPropagation
import Keyplan.Proofs.Masks
import Keyplan.Proofs.CommentStart
import Keyplan.Proofs.QuotedValues
import Keyplan.Proofs.TrailingComments
import Keyplan.Proofs.SourceLines
import Keyplan.Proofs.Descent
import Keyplan.Proofs.Consumption
import Keyplan.Proofs.Layout
import Keyplan.Proofs.FlowStyle
import Keyplan.Proofs.FailedCalls
import Keyplan.Proofs.Spellings
import Keyplan.Proofs.Occurrences
import Keyplan.Proofs.QuotedReaders
