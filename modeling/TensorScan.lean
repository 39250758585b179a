import TensorScan.Graph.Evaluation
import TensorScan.Operator.Catalogue
import TensorScan.Proofs.Floating.Rounding
import TensorScan.Proofs.Graph.Outcome
import TensorScan.Proofs.Operator.Catalogue
import TensorScan.Proofs.Graph.OneScan
import TensorScan.Proofs.Operator.Client
import TensorScan.Proofs.Graph.Numbering
import TensorScan.Proofs.Operator.Padded
import TensorScan.Proofs.Representation
import TensorScan.Proofs.Scan.Planning
import TensorScan.Proofs.Operator.Creation
import TensorScan.Proofs.Floating.Neutral
import TensorScan.Proofs.Word
import TensorScan.Proofs.Scan.Steps
import TensorScan.Proofs.Scan.Guarded
import TensorScan.Proofs.Axis
import TensorScan.Proofs.Operator.Recurrence
import TensorScan.Proofs.Operator.Modes
import TensorScan.Proofs.Graph.Exchange
import TensorScan.Proofs.Operator.Join
import TensorScan.Proofs.Operator.Axis
import TensorScan.Proofs.Operator.ScanRegistration
import TensorScan.Proofs.Graph.Roots
import TensorScan.Proofs.RoundTrip
