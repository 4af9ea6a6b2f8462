import Hostcall.Main
import Hostcall.Proofs.Console.ExitCode
import Hostcall.Proofs.Console.Files
import Hostcall.Proofs.Console.Processing
import Hostcall.Proofs.Console.Session
import Hostcall.Proofs.Evaluation.Account
import Hostcall.Proofs.Evaluation.Composition
import Hostcall.Proofs.Evaluation.Confinement
import Hostcall.Proofs.Evaluation.Failure
import Hostcall.Proofs.Evaluation.Indifference
import Hostcall.Proofs.Evaluation.Juxtaposition
import Hostcall.Proofs.Evaluation.Lookups
import Hostcall.Proofs.Evaluation.Preservation
import Hostcall.Proofs.Evaluation.Relenting
import Hostcall.Proofs.Evaluation.Rules
import Hostcall.Proofs.Evaluation.Trace
import Hostcall.Proofs.Evaluation.Turns
import Hostcall.Proofs.Token.Layout
import Hostcall.Proofs.Token.LineEndings
import Hostcall.Proofs.Token.Listing
import Hostcall.Proofs.Token.Resumption
import Hostcall.Proofs.Tree.Completion
import Hostcall.Proofs.Tree.Grammar
import Hostcall.Proofs.Tree.Locality
import Hostcall.Proofs.Tree.Nesting
import Hostcall.Proofs.Tree.Outline
import Hostcall.Proofs.Tree.Parts
import Hostcall.Proofs.Tree.Position
import Hostcall.Proofs.Tree.Progress
import Hostcall.Proofs.Tree.Respelling
import Hostcall.Proofs.Tree.Thinning
import Hostcall.Sandbox.Calling
import Hostcall.Token.Scanner
import Hostcall.Tree.Reader
