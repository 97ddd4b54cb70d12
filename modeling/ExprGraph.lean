import ExprGraph.Decimal.Lemmas
import ExprGraph.Graph.Build.Lemmas
import ExprGraph.Session.Flattening
import ExprGraph.Proofs.WellFormed
import ExprGraph.Proofs.Acyclicity
import ExprGraph.Proofs.Atomicity
import ExprGraph.Proofs.Aggregation
import ExprGraph.Proofs.RecursiveWalk
import ExprGraph.Proofs.HandleClosure
import ExprGraph.Proofs.Identity
import ExprGraph.Proofs.Adjacency
import ExprGraph.Proofs.OperandTypes
import ExprGraph.Proofs.Frames
import ExprGraph.Proofs.TreeDump
import ExprGraph.Proofs.Annotations
import ExprGraph.Proofs.NodeNumbers
import ExprGraph.Proofs.ImplicitLoads
import ExprGraph.Proofs.AddressResolution
import ExprGraph.Proofs.Creation
import ExprGraph.Proofs.BuilderAgreement
import ExprGraph.Proofs.AllocationLog
import ExprGraph.Proofs.DumpLines
import ExprGraph.Proofs.DumpEntries
import ExprGraph.Proofs.VectorGroups
import ExprGraph.Proofs.AdjacencyChain
import ExprGraph.Proofs.AddressText
import ExprGraph.Proofs.AllocationOrder
