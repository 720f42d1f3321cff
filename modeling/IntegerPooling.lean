import IntegerPooling.Algorithm
import IntegerPooling.Algorithm.Name
import IntegerPooling.Axis
import IntegerPooling.Binary32.Basic
import IntegerPooling.Binary32.Nearest
import IntegerPooling.Binary32.Scale
import IntegerPooling.Blocks
import IntegerPooling.Buffer
import IntegerPooling.Cache
import IntegerPooling.Direct
import IntegerPooling.Element.Basic
import IntegerPooling.Element.Bytes
import IntegerPooling.Element.DataType
import IntegerPooling.Failure
import IntegerPooling.InstructionSet
import IntegerPooling.Journal
import IntegerPooling.Kernel.Basic
import IntegerPooling.Kernel.Run
import IntegerPooling.Layout
import IntegerPooling.Operator.Basic
import IntegerPooling.Operator.Plan
import IntegerPooling.Options.Basic
import IntegerPooling.Options.Environment
import IntegerPooling.Plan
import IntegerPooling.Pool
import IntegerPooling.Power
import IntegerPooling.Proofs.Axis
import IntegerPooling.Proofs.Binary32.Order
import IntegerPooling.Proofs.Binary32.Range
import IntegerPooling.Proofs.Binary32.Reciprocal
import IntegerPooling.Proofs.Binary32.Rounding
import IntegerPooling.Proofs.Binary32.Scale
import IntegerPooling.Proofs.Binary32.Symmetry
import IntegerPooling.Proofs.Blocks.Channels
import IntegerPooling.Proofs.Blocks.Footprint
import IntegerPooling.Proofs.Blocks.Sweep
import IntegerPooling.Proofs.Buffer
import IntegerPooling.Proofs.Cache
import IntegerPooling.Proofs.Cache.Identity
import IntegerPooling.Proofs.Direct.Agreement
import IntegerPooling.Proofs.Direct.Sum
import IntegerPooling.Proofs.Direct.Taps
import IntegerPooling.Proofs.Direct.Window
import IntegerPooling.Proofs.Factor
import IntegerPooling.Proofs.Kernel.Assembly
import IntegerPooling.Proofs.Kernel.Average
import IntegerPooling.Proofs.Kernel.Bytes
import IntegerPooling.Proofs.Kernel.Call
import IntegerPooling.Proofs.Kernel.Confinement
import IntegerPooling.Proofs.Kernel.Decision
import IntegerPooling.Proofs.Kernel.Execution
import IntegerPooling.Proofs.Kernel.Maximum
import IntegerPooling.Proofs.Kernel.Monotone
import IntegerPooling.Proofs.Kernel.Order
import IntegerPooling.Proofs.Kernel.Output
import IntegerPooling.Proofs.Kernel.Pixel
import IntegerPooling.Proofs.Kernel.Plane
import IntegerPooling.Proofs.Kernel.Soundness
import IntegerPooling.Proofs.Kernel.Transpose
import IntegerPooling.Proofs.Kernel.Tuning
import IntegerPooling.Proofs.Kernel.Within
import IntegerPooling.Proofs.Layout
import IntegerPooling.Proofs.Layout.Enumeration
import IntegerPooling.Proofs.Operator.Obstacles
import IntegerPooling.Proofs.Options.Environment
import IntegerPooling.Proofs.Outcome
import IntegerPooling.Proofs.Pool
import IntegerPooling.Proofs.Routine
import IntegerPooling.Proofs.Sequence
import IntegerPooling.Proofs.Session
import IntegerPooling.Proofs.Text.Numeral
import IntegerPooling.Proofs.Traversal
import IntegerPooling.Proofs.Traversal.RowMajor
import IntegerPooling.Proofs.Window
import IntegerPooling.Reduction
import IntegerPooling.Routine
import IntegerPooling.Session
import IntegerPooling.Size
import IntegerPooling.Spatial
import IntegerPooling.Text.Blank
import IntegerPooling.Text.Numeral
import IntegerPooling.Traversal
