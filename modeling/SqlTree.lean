import SqlTree.Arena
import SqlTree.Comparison
import SqlTree.Node.Held
import SqlTree.Proofs.Walk.Reference
import SqlTree.Proofs.Walk.Unfolding
import SqlTree.Script.Stage
import SqlTree.Survey
import SqlTree.Walk.Builder
import SqlTree.Walk.Walker
import SqlTree.Proofs.Walk.Run
import SqlTree.Proofs.Walk.Trail
import SqlTree.Proofs.Walk.Transport
import SqlTree.Proofs.Walk.Nesting
import SqlTree.Proofs.Walk.Failure
import SqlTree.Proofs.Walk.Routing
import SqlTree.Proofs.Walk.Order
import SqlTree.Proofs.Walk.Inspection
import SqlTree.Proofs.Walk.Extension
import SqlTree.Proofs.Node.ChildTable
import SqlTree.Proofs.Node.Template
import SqlTree.Proofs.Walk.Preorder
import SqlTree.Proofs.Node.Outline
import SqlTree.Proofs.Walk.Tour
import SqlTree.Proofs.Walk.Pruning
import SqlTree.Proofs.Node.Silhouette
import SqlTree.Proofs.Walk.Indifference
import SqlTree.Proofs.Walk.Rebuilding
import SqlTree.Proofs.Walk.Stopping
import SqlTree.Proofs.Walk.Journal
import SqlTree.Proofs.Walk.Locality
import SqlTree.Proofs.Node.Storage
import SqlTree.Proofs.Walk.Copying
import SqlTree.Proofs.Walk.Unshared
import SqlTree.Proofs.Walk.Registration
import SqlTree.Proofs.Node.Admission
import SqlTree.Proofs.Walk.Statements
import SqlTree.Proofs.Walk.Leaves
import SqlTree.Proofs.Scalar.TypeText
import SqlTree.Proofs.Scalar.NameText
import SqlTree.Proofs.Scalar.SpanText
