import Parlance.Check.Datum
import Parlance.Check.Runner
import Parlance.Check.Session
import Parlance.Kind
import Parlance.Lexer.Patterns
import Parlance.Main
import Parlance.Pl0.CommandLine
import Parlance.Precedence.Parser
import Parlance.Proofs.Check.Accounting
import Parlance.Proofs.Diagnostic
import Parlance.Proofs.Lexer.Patterns.Number
import Parlance.Proofs.Lexer.Patterns.Quoted
import Parlance.Proofs.Pl0.Calls
import Parlance.Proofs.Pl0.Causality
import Parlance.Proofs.Pl0.CommandLine
import Parlance.Proofs.Pl0.Placement
import Parlance.Proofs.Pl0.Printing
import Parlance.Proofs.Pl0.Rejection
import Parlance.Proofs.Pl0.Renaming
import Parlance.Proofs.Pl0.Separation
import Parlance.Proofs.Pl0.SignedTerms
import Parlance.Proofs.Pl0.StaticBinding
import Parlance.Proofs.Precedence.Limits
import Parlance.Proofs.Precedence.Regrouping
import Parlance.Proofs.Precedence.Termination
import Parlance.Proofs.Scanner.Delivery
import Parlance.Proofs.Scanner.Ending
