import Aliasing.Grammar.Expr
import Aliasing.Main
import Aliasing.Proofs.Classes
import Aliasing.Proofs.Passes
import Aliasing.Proofs.Components
import Aliasing.Proofs.Histories
import Aliasing.Proofs.Strategies
import Aliasing.Proofs.Origins
import Aliasing.Proofs.Agreement
import Aliasing.Proofs.Incremental
import Aliasing.Proofs.AliasSets
import Aliasing.Proofs.Findings
import Aliasing.Proofs.ReadBack
import Aliasing.Proofs.NodeSets
import Aliasing.Proofs.RecordLines
import Aliasing.Proofs.LogLines
import Aliasing.Proofs.OversizedLines
import Aliasing.Proofs.Overlaps
import Aliasing.Proofs.LineOrder
import Aliasing.Proofs.Sizes
import Aliasing.Proofs.Statistics
import Aliasing.Proofs.Coarsening
import Aliasing.Proofs.Assembly
import Aliasing.Proofs.Nesting
import Aliasing.Proofs.Traces
import Aliasing.Proofs.Outcomes
import Aliasing.Proofs.Fixpoint
import Aliasing.Proofs.Gathering
import Aliasing.Proofs.JsonDocuments
import Aliasing.Proofs.Concatenation
import Aliasing.Proofs.Decoding
import Aliasing.Proofs.Lookups
import Aliasing.Proofs.AliasSetLines
import Aliasing.Proofs.LineByLine
import Aliasing.Proofs.SeparatedLists
import Aliasing.Proofs.Repetitions
import Aliasing.Proofs.LongestIds
