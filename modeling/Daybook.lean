import Daybook.AccountTree
import Daybook.Grammar.Source
import Daybook.Ledger.Record
import Daybook.Proofs.AccountTree.Path
import Daybook.Proofs.AccountTree.Segments
import Daybook.Proofs.AccountTree.Summary
import Daybook.Proofs.Grammar.Continuation
import Daybook.Proofs.Grammar.LineEnding
import Daybook.Proofs.Grammar.Soundness
import Daybook.Proofs.Ledger.Composition
import Daybook.Proofs.Ledger.Dependence
import Daybook.Proofs.Ledger.Failure
import Daybook.Proofs.Ledger.Finiteness
import Daybook.Proofs.Ledger.Growth
import Daybook.Proofs.Ledger.OpenPosting
import Daybook.Proofs.Ledger.RunningBalance
import Daybook.Proofs.Ledger.Verification
import Daybook.Query
import Daybook.Statement.Text
import Daybook.Proofs.Expression.Strictness
import Daybook.Proofs.Expression.Commodities
import Daybook.Proofs.Ledger.Refusal
import Daybook.Proofs.Grammar.Truncation
import Daybook.Proofs.Grammar.ErrorLocation
import Daybook.Proofs.Grammar.SymbolOrder
import Daybook.Proofs.Ledger.DefinedName
import Daybook.Proofs.Query.Meaning
import Daybook.Proofs.Query.Search
import Daybook.Proofs.Expression.Order
import Daybook.Proofs.Grammar.AccountName
