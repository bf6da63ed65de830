import Patternwork.Loading.File
import Patternwork.Store
import Patternwork.Proofs.Decimal.Positional
import Patternwork.Proofs.Decimal.Binary64
import Patternwork.Proofs.Decimal.Text
import Patternwork.Proofs.Settings.Alike
import Patternwork.Proofs.Key
import Patternwork.Proofs.Compilation
import Patternwork.Proofs.Store.Call
import Patternwork.Proofs.Store.Origin
import Patternwork.Proofs.Store.Effect
import Patternwork.Proofs.Store.World
import Patternwork.Proofs.Store.Transparency
import Patternwork.Proofs.Store.Settled
import Patternwork.Proofs.Store.Sharing
import Patternwork.Proofs.Store.Annotation
import Patternwork.Proofs.Decimal.Integral
import Patternwork.Proofs.Backtrack.Beside
import Patternwork.Proofs.Backtrack.Search
import Patternwork.Proofs.Backtrack.Guard
import Patternwork.Proofs.Backtrack.Reading.Lexeme
import Patternwork.Proofs.Backtrack.Reading.Inside
import Patternwork.Proofs.Backtrack.Reading.Rounds
import Patternwork.Proofs.Backtrack.Reading.Assembled
import Patternwork.Proofs.Backtrack.Numbering
import Patternwork.Proofs.Backtrack.Compiled
import Patternwork.Proofs.Negation.Program
import Patternwork.Proofs.Negation.Blocking
import Patternwork.Proofs.Negation.Loop
import Patternwork.Proofs.Flags
import Patternwork.Proofs.Negation.Compiled
import Patternwork.Proofs.Backtrack.Outcome
import Patternwork.Proofs.Store.Yield
import Patternwork.Proofs.Negation.Meaning
import Patternwork.Proofs.Negation.Overlap
import Patternwork.Proofs.Negation.Literal
import Patternwork.Proofs.Store.Series
import Patternwork.Proofs.Notation.Literal
import Patternwork.Proofs.Regular.Words
import Patternwork.Proofs.Regular.Literal
import Patternwork.Proofs.Backtrack.Reading.Literal
import Patternwork.Proofs.Lists.Literal
import Patternwork.Proofs.Lists.Negated
import Patternwork.Proofs.Settings.History
import Patternwork.Proofs.Json.Document
import Patternwork.Proofs.Settings.Influence
import Patternwork.Proofs.Settings.Fixpoint
import Patternwork.Proofs.Store.Growth
import Patternwork.Proofs.Store.Outcome
import Patternwork.Proofs.Store.Agreement
import Patternwork.Proofs.Settings.Merging
import Patternwork.Proofs.Settings.Frame
import Patternwork.Proofs.Negation.Engine
import Patternwork.Proofs.Decimal.Packing
import Patternwork.Proofs.Decimal.Arithmetic
import Patternwork.Proofs.Json.Scaling
import Patternwork.Proofs.Json.Double
import Patternwork.Proofs.Json.Range
import Patternwork.Proofs.Json.Fidelity
import Patternwork.Proofs.Flags.Language
import Patternwork.Proofs.Store.Nocase
import Patternwork.Proofs.Regular.DotCaret
import Patternwork.Proofs.Store.MatchNothing
import Patternwork.Proofs.Lists.Sentinel
import Patternwork.Proofs.Notation.Lexeme
import Patternwork.Proofs.Notation.Escape
import Patternwork.Proofs.Notation.Bracket
import Patternwork.Proofs.Lists.Union
