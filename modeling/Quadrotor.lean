import Quadrotor.Decimal.Shortest
import Quadrotor.Decimal.Notation
import Quadrotor.Decimal.Reading
import Quadrotor.Document.Basic
import Quadrotor.Document.Reader
import Quadrotor.Document.Writer
import Quadrotor.Text.CodeRanges
import Quadrotor.Text.Printable
import Quadrotor.Text.GraphemeExtend
import Quadrotor.Document.Decode
import Quadrotor.Guard
import Quadrotor.Interval
import Quadrotor.Grid.Shape
import Quadrotor.Grid.Basic
import Quadrotor.Model.Error
import Quadrotor.Model.Encoding
import Quadrotor.Model.Config
import Quadrotor.Model.Vehicle
import Quadrotor.Model.StateLog
import Quadrotor.Model.Basic
import Quadrotor.Model.Evaluate
import Quadrotor.Model.Partition
import Quadrotor.Sim.Options
import Quadrotor.Sim.Policy
import Quadrotor.Sim.ClosedLoop
import Quadrotor.Sim.Rollout
import Quadrotor.Decimal.Nearest
import Quadrotor.Yaml.Reader
import Quadrotor.Yaml.Writer
import Quadrotor.Cli.Scenario
import Quadrotor.Cli.Command
import Quadrotor.Cli.Report
import Quadrotor.Main
import Quadrotor.Proofs.GridIndex
import Quadrotor.Proofs.Evaluation
import Quadrotor.Proofs.Interval
import Quadrotor.Proofs.Pointwise
import Quadrotor.Proofs.Partition
import Quadrotor.Proofs.PartitionSafety
import Quadrotor.Proofs.Rollout
import Quadrotor.Proofs.History
import Quadrotor.Proofs.RunFailure
import Quadrotor.Proofs.SplitRun
import Quadrotor.Proofs.Construction
import Quadrotor.Proofs.Clamping
import Quadrotor.Proofs.Boxing
import Quadrotor.Proofs.LateralChannel
import Quadrotor.Proofs.RowSplit
import Quadrotor.Proofs.PartitionPool
