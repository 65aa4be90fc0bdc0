import Calculator.Main
import Calculator.Proofs.Token.Tiling
import Calculator.Proofs.Grammar.Depth
import Calculator.Proofs.Grammar.LateClosing
import Calculator.Proofs.Grammar.Interruption
import Calculator.Proofs.Grammar.Resumption
import Calculator.Proofs.Grammar.RoundTrip
import Calculator.Proofs.Grammar.ShuntingYard
import Calculator.Proofs.Grammar.Viability
import Calculator.Proofs.Evaluation.Chains
import Calculator.Proofs.Evaluation.Frame
import Calculator.Proofs.Evaluation.Groups
import Calculator.Proofs.Evaluation.Trace
import Calculator.Proofs.Evaluation.Value
import Calculator.Proofs.Evaluation.Verdict
import Calculator.Proofs.Postfix.Counting
import Calculator.Proofs.Line.Failures
import Calculator.Proofs.Line.Stages
import Calculator.Proofs.Session.Settings
import Calculator.Proofs.Evaluation.Image
import Calculator.Proofs.Postfix.Order
import Calculator.Proofs.Evaluation.Size
import Calculator.Proofs.Grammar.Kinds
import Calculator.Proofs.Tree.Outline
import Calculator.Proofs.Batch.Composition
import Calculator.Proofs.Config.Nearest
import Calculator.Proofs.Session.Expressions
import Calculator.Proofs.Config.Decoding
import Calculator.Proofs.Evaluation.ReadBack
import Calculator.Proofs.Evaluation.Integers
