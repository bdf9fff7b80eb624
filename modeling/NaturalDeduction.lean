import NaturalDeduction.Elapsed
import NaturalDeduction.English
import NaturalDeduction.English.Sentence
import NaturalDeduction.Formula.Context
import NaturalDeduction.Formula.Grammar
import NaturalDeduction.Formula.Recipe
import NaturalDeduction.Generate
import NaturalDeduction.Layout
import NaturalDeduction.Library
import NaturalDeduction.Proof.Dependence
import NaturalDeduction.Proof.Evaluation
import NaturalDeduction.Report
import NaturalDeduction.Structure
import NaturalDeduction.Trace
import NaturalDeduction.Proofs.Grammar
import NaturalDeduction.Proofs.Parsing
import NaturalDeduction.Proofs.RoundTrip
import NaturalDeduction.Proofs.Building
import NaturalDeduction.Proofs.Checking
import NaturalDeduction.Proofs.Discharge
import NaturalDeduction.Proofs.Entailment
import NaturalDeduction.Proofs.Reading
import NaturalDeduction.Proofs.Soundness
import NaturalDeduction.Proofs.Replacement
import NaturalDeduction.Proofs.Idempotence
import NaturalDeduction.Proofs.Stability
import NaturalDeduction.Proofs.Abstraction
import NaturalDeduction.Proofs.Lifting
import NaturalDeduction.Proofs.Roles
import NaturalDeduction.Proofs.Exchange
import NaturalDeduction.Proofs.Bookkeeping
import NaturalDeduction.Proofs.Instances
import NaturalDeduction.Proofs.Substitution
import NaturalDeduction.Proofs.Generalization
import NaturalDeduction.Proofs.Blocks
import NaturalDeduction.Proofs.Procedures
import NaturalDeduction.Proofs.Columns
import NaturalDeduction.Proofs.Rows
import NaturalDeduction.Proofs.Citations
import NaturalDeduction.Proofs.SameTree
import NaturalDeduction.Proofs.Translation
import NaturalDeduction.Proofs.Generation
import NaturalDeduction.Proofs.Splitting
import NaturalDeduction.Proofs.Trimming
import NaturalDeduction.Proofs.Lines
import NaturalDeduction.Proofs.Negation
import NaturalDeduction.Proofs.Rendering
import NaturalDeduction.Proofs.Setting
