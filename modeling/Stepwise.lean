import Stepwise.Main
import Stepwise.Proofs.Client
import Stepwise.Proofs.CommandLine
import Stepwise.Proofs.Expr.Pending
import Stepwise.Proofs.Expr.RoundTrip
import Stepwise.Proofs.Lowering.Guard
import Stepwise.Proofs.Lowering.Limit
import Stepwise.Proofs.Lowering.Origin
import Stepwise.Proofs.Lowering.Stack
import Stepwise.Proofs.Numeral.Agreement
import Stepwise.Proofs.Operand.Text
import Stepwise.Proofs.OperationOrder.Fault
import Stepwise.Proofs.OperationOrder.Reordering
import Stepwise.Proofs.Settings.Inline
import Stepwise.Proofs.Settings.Precedence
import Stepwise.Proofs.Token.Refusal
import Stepwise.Proofs.Yaml.Document
import Stepwise.Proofs.Yaml.Scanner
