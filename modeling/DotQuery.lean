import DotQuery.Command.Run
import DotQuery.Rules.Strict
import DotQuery.Main
import DotQuery.Proofs.Broadcast
import DotQuery.Proofs.Distribution
import DotQuery.Proofs.Splitting
import DotQuery.Proofs.Causes
import DotQuery.Proofs.Rendering
import DotQuery.Proofs.Validation
import DotQuery.Proofs.RuleSet
import DotQuery.Proofs.PlainQuery
import DotQuery.Proofs.Overflow
import DotQuery.Proofs.Quoting
import DotQuery.Proofs.ListQuery
import DotQuery.Proofs.SeveralQueries
import DotQuery.Proofs.AllOrNothing
import DotQuery.Proofs.Visibility
import DotQuery.Proofs.Ages
import DotQuery.Proofs.ReferenceClock
import DotQuery.Proofs.WrittenInstant
import DotQuery.Proofs.Comparators
import DotQuery.Proofs.Equators
import DotQuery.Proofs.Rounding
import DotQuery.Proofs.IntegerFilters
import DotQuery.Proofs.Fallback
import DotQuery.Proofs.EqualValues
import DotQuery.Proofs.NumericAnswers
import DotQuery.Proofs.SequenceExtremes
import DotQuery.Proofs.Presence
import DotQuery.Proofs.ReferenceLookup
import DotQuery.Proofs.NamedPath
import DotQuery.Proofs.SingleCall
import DotQuery.Proofs.JsonLines
import DotQuery.Proofs.LongestLiteral
import DotQuery.Proofs.Batch
