import Docblocks.Block.Edit
import Docblocks.Block.Marker
import Docblocks.Block.Strip
import Docblocks.Block.Upsert
import Docblocks.Calendar
import Docblocks.Command.Consulted
import Docblocks.Command.Execute
import Docblocks.Command.Grammar
import Docblocks.Command.Invocation
import Docblocks.Command.Usage
import Docblocks.Disk.Basic
import Docblocks.Disk.Device
import Docblocks.Disk.Path
import Docblocks.Environment
import Docblocks.Fault
import Docblocks.Main
import Docblocks.Manifest.Document
import Docblocks.Number.Binary
import Docblocks.Number.Digits
import Docblocks.Number.Shortest
import Docblocks.Permission
import Docblocks.Project
import Docblocks.Run.Basic
import Docblocks.Run.Report
import Docblocks.Run.World
import Docblocks.Schema.Descriptor
import Docblocks.Schema.FieldType
import Docblocks.Schema.Tags
import Docblocks.Settings.Basic
import Docblocks.Settings.Document
import Docblocks.Text.Base64
import Docblocks.Text.Blank
import Docblocks.Text.Case
import Docblocks.Text.Digit
import Docblocks.Text.Layout
import Docblocks.Text.Point
import Docblocks.Text.Quoted
import Docblocks.Text.Search
import Docblocks.Text.Shown
import Docblocks.Text.Stream
import Docblocks.Text.Utf8
import Docblocks.Value.Basic
import Docblocks.Value.Slots
import Docblocks.Value.Written
import Docblocks.Yaml.Assembly
import Docblocks.Yaml.Cursor
import Docblocks.Yaml.Document
import Docblocks.Yaml.Fault
import Docblocks.Yaml.Merge
import Docblocks.Yaml.Node
import Docblocks.Yaml.Scalar
import Docblocks.Yaml.ScalarValue
import Docblocks.Yaml.Source
import Docblocks.Yaml.Tag
import Docblocks.Yaml.Token
import Docblocks.Proofs.Text.Places
import Docblocks.Proofs.Text.Lines
import Docblocks.Proofs.Block.Marked
import Docblocks.Proofs.Block.Frame
import Docblocks.Proofs.Block.Outcomes
import Docblocks.Proofs.Block.Locating
import Docblocks.Proofs.Block.Matching
import Docblocks.Proofs.Block.Repetition
import Docblocks.Proofs.Block.Editing
import Docblocks.Proofs.Block.Stripping
import Docblocks.Proofs.Disk.Writing
import Docblocks.Proofs.Run.Step
import Docblocks.Proofs.Run.Batch
import Docblocks.Proofs.Run.Rerun
import Docblocks.Proofs.Run.Effect
import Docblocks.Proofs.Run.Independence
import Docblocks.Proofs.Run.Survival
import Docblocks.Proofs.Run.Permitted
import Docblocks.Proofs.Command.Passive
import Docblocks.Proofs.Command.Check
import Docblocks.Proofs.Run.Atomicity
import Docblocks.Proofs.Run.Accounting
import Docblocks.Proofs.Run.Rehearsal
import Docblocks.Proofs.Run.Warning
import Docblocks.Proofs.Result
import Docblocks.Proofs.Value.Written
import Docblocks.Proofs.Schema.Wording
import Docblocks.Proofs.Schema.Payload
import Docblocks.Proofs.Schema.Faults
import Docblocks.Proofs.Manifest.Reading
