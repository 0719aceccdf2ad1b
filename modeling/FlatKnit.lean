import FlatKnit.Main
import FlatKnit.Proofs.Word
import FlatKnit.Proofs.Plan.Overflow
import FlatKnit.Proofs.Shape.Taper
import FlatKnit.Proofs.Shape.Segment
import FlatKnit.Proofs.Shape.Overflow
import FlatKnit.Proofs.Shape.ClosedForm
import FlatKnit.Proofs.Shape.Peak
import FlatKnit.Proofs.Plan.Replay
import FlatKnit.Proofs.Shape.Lines
import FlatKnit.Proofs.Shape.Timeline
import FlatKnit.Proofs.Shape.Numbering
import FlatKnit.Proofs.Shape.Nesting
import FlatKnit.Proofs.Shape.Sections
import FlatKnit.Proofs.Decimal.Sign
import FlatKnit.Proofs.Shape.CastOn
import FlatKnit.Proofs.Shape.StitchCheck
import FlatKnit.Proofs.Settings.RoundTrip
import FlatKnit.Proofs.CommandLine.Rows
import FlatKnit.Proofs.Json.WellFormed
import FlatKnit.Proofs.Shape.Record
import FlatKnit.Proofs.Panel.Reload
import FlatKnit.Proofs.Garment.Sizes
import FlatKnit.Proofs.Garment.Overflow
import FlatKnit.Proofs.CommandLine.Fit
import FlatKnit.Proofs.CommandLine.Stages
import FlatKnit.Proofs.Settings.Valid
import FlatKnit.Proofs.CommandLine.Checks
import FlatKnit.Proofs.CommandLine.Precedence
import FlatKnit.Proofs.CommandLine.PanelSize
import FlatKnit.Proofs.Decimal.Finite
import FlatKnit.Proofs.Inches.Finite
import FlatKnit.Proofs.CommandLine.Alone
import FlatKnit.Proofs.Plan.Stretches
import FlatKnit.Proofs.Plan.Fewest
import FlatKnit.Proofs.Shape.Spread
import FlatKnit.Proofs.Shape.Turns
import FlatKnit.Proofs.Shape.Notes
import FlatKnit.Proofs.Shape.Renumbering
import FlatKnit.Proofs.Decimal.Order
import FlatKnit.Proofs.Shape.Dimensions
import FlatKnit.Proofs.Shape.Noise
import FlatKnit.Proofs.Garment.Loading
import FlatKnit.Proofs.Panel.Loading
import FlatKnit.Proofs.Text.Delimited
import FlatKnit.Proofs.Plan.Table
import FlatKnit.Proofs.Instruction
import FlatKnit.Proofs.Text.Blank
import FlatKnit.Proofs.Inches.Sign
import FlatKnit.Proofs.Pattern
import FlatKnit.Proofs.Settings.Files
import FlatKnit.Proofs.Settings.Entries
import FlatKnit.Proofs.Settings.Defaults
import FlatKnit.Proofs.Decimal.Fixed
import FlatKnit.Proofs.Inches.Shown
import FlatKnit.Proofs.Shape.Room
import FlatKnit.Proofs.Shape.Counts
