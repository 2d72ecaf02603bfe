import Sieve.Config.File
import Sieve.Document.Sample
import Sieve.Filter.Json
import Sieve.Json.Codec
import Sieve.Json.Printer
import Sieve.Json.Reader
import Sieve.Matches
import Sieve.Proofs.Trials
import Sieve.Proofs.Reordering
import Sieve.Proofs.Coverage
import Sieve.Proofs.Json.Parameter
import Sieve.Proofs.Json.Grammar
import Sieve.Proofs.Failures
import Sieve.Proofs.Merging
import Sieve.Proofs.Monotonicity
import Sieve.Proofs.Complement
import Sieve.Proofs.Json.Fitting
import Sieve.Proofs.Traversal
import Sieve.Proofs.Negation
import Sieve.Proofs.Precedence
import Sieve.Proofs.CaseRelaxing
import Sieve.Proofs.Coherence
import Sieve.Proofs.SelfMatch
import Sieve.Proofs.Building
import Sieve.Proofs.Json.Building
import Sieve.Proofs.Naming
import Sieve.Proofs.Spelling
import Sieve.Proofs.Economy
import Sieve.Proofs.Interchange
import Sieve.Proofs.Conjunction
import Sieve.Proofs.Tolerance
import Sieve.Proofs.Number.Exact
import Sieve.Proofs.WholeNumbers
import Sieve.Proofs.Accounting
import Sieve.Proofs.Noninterference
import Sieve.Proofs.Evaluation
import Sieve.Proofs.History
