import ThreeAddress.Allocation
import ThreeAddress.Assembly
import ThreeAddress.Binary32
import ThreeAddress.Command.Arguments
import ThreeAddress.Command.Run
import ThreeAddress.Diagnostic
import ThreeAddress.Files.Access
import ThreeAddress.Files.Disk
import ThreeAddress.Finding
import ThreeAddress.Instruction
import ThreeAddress.Line
import ThreeAddress.Line.Listing
import ThreeAddress.Line.Rules
import ThreeAddress.Log
import ThreeAddress.Lowering
import ThreeAddress.Lowering.Flow
import ThreeAddress.Lowering.Journal
import ThreeAddress.Lowering.Run
import ThreeAddress.Lowering.Values
import ThreeAddress.Main
import ThreeAddress.Numeral
import ThreeAddress.Program
import ThreeAddress.Proofs.Assembly.Instructions
import ThreeAddress.Proofs.Assembly.Sections
import ThreeAddress.Proofs.Command.Delivery
import ThreeAddress.Proofs.Command.Export
import ThreeAddress.Proofs.Control.Arguments
import ThreeAddress.Proofs.Control.Idioms
import ThreeAddress.Proofs.Control.Skeleton
import ThreeAddress.Proofs.Diagnostic.Summary
import ThreeAddress.Proofs.Execution.Blocks
import ThreeAddress.Proofs.Execution.Preservation
import ThreeAddress.Proofs.Execution.Simulation
import ThreeAddress.Proofs.Files.Parents
import ThreeAddress.Proofs.Files.Walks
import ThreeAddress.Proofs.Files.Writes
import ThreeAddress.Proofs.Line.Canonical
import ThreeAddress.Proofs.Line.RuleOrder
import ThreeAddress.Proofs.Line.Shapes
import ThreeAddress.Proofs.Line.SourceTexts
import ThreeAddress.Proofs.Line.Spelling
import ThreeAddress.Proofs.Line.Values
import ThreeAddress.Proofs.Lowering.Changes
import ThreeAddress.Proofs.Lowering.Drops
import ThreeAddress.Proofs.Lowering.Findings
import ThreeAddress.Proofs.Lowering.Growth
import ThreeAddress.Proofs.Lowering.History
import ThreeAddress.Proofs.Lowering.Options
import ThreeAddress.Proofs.Lowering.Places
import ThreeAddress.Proofs.Lowering.QuotedCharacters
import ThreeAddress.Proofs.Lowering.Renaming
import ThreeAddress.Proofs.Lowering.Scripts
import ThreeAddress.Proofs.Lowering.Steps
import ThreeAddress.Proofs.Lowering.Tidy
import ThreeAddress.Proofs.Numeral.Grammar
import ThreeAddress.Proofs.Program.Concatenation
import ThreeAddress.Proofs.Program.Layout
import ThreeAddress.Proofs.Program.Rendering
import ThreeAddress.Proofs.Program.Reports
import ThreeAddress.Proofs.Registers.Exhaustion
import ThreeAddress.Proofs.Registers.Files
import ThreeAddress.Proofs.Registers.Logs
import ThreeAddress.Proofs.Registers.Provenance
import ThreeAddress.Proofs.Registers.Reads
import ThreeAddress.Proofs.Registers.Refusals
import ThreeAddress.Proofs.Registers.SingleAssignment
import ThreeAddress.Proofs.Registers.Sources
import ThreeAddress.Proofs.Registers.Substitutions
import ThreeAddress.Proofs.Registers.Taken
import ThreeAddress.Proofs.Storage.Declarations
import ThreeAddress.Proofs.Storage.Loads
import ThreeAddress.Proofs.Storage.Stores
import ThreeAddress.Proofs.Text.Flat
import ThreeAddress.Proofs.Text.Spaced
import ThreeAddress.Register
import ThreeAddress.Table
import ThreeAddress.Text.Characters
import ThreeAddress.Text.LetterCase
import ThreeAddress.Text.Lines
import ThreeAddress.Text.Pattern
import ThreeAddress.Text.Pattern.Bracketed
import ThreeAddress.Text.Pattern.Cursor
import ThreeAddress.Text.Pattern.Escape
import ThreeAddress.Text.Pattern.Group
import ThreeAddress.Text.Pattern.Meaning
import ThreeAddress.Text.Pattern.Node
import ThreeAddress.Text.Pattern.Written
import ThreeAddress.Text.Pieces
import ThreeAddress.Text.Property
import ThreeAddress.Text.Property.Age
import ThreeAddress.Text.Property.Binary
import ThreeAddress.Text.Property.Category
import ThreeAddress.Text.Property.Script
import ThreeAddress.Text.Property.Segmentation
import ThreeAddress.Text.Quoted
import ThreeAddress.Text.Ranges
