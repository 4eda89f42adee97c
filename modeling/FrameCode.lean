import FrameCode.Channel
import FrameCode.CommandLine
import FrameCode.ErrorClass
import FrameCode.Fault
import FrameCode.Frame
import FrameCode.Frames
import FrameCode.Instruction
import FrameCode.LabelTable
import FrameCode.LexError
import FrameCode.Line
import FrameCode.LoadError
import FrameCode.Machine
import FrameCode.Machine.Action
import FrameCode.Machine.Operands
import FrameCode.Machine.Run
import FrameCode.Machine.Step
import FrameCode.Main
import FrameCode.Markup.Char
import FrameCode.Markup.Document
import FrameCode.Markup.Name
import FrameCode.Markup.Namespace
import FrameCode.Markup.Node
import FrameCode.Markup.Reference
import FrameCode.Markup.Scan
import FrameCode.Markup.Token
import FrameCode.Numeral
import FrameCode.Opcode
import FrameCode.Operand
import FrameCode.Order
import FrameCode.Program
import FrameCode.Program.Document
import FrameCode.Proofs.ActionOutcomes
import FrameCode.Proofs.Arrangement
import FrameCode.Proofs.Atomicity
import FrameCode.Proofs.BackwardTransfers
import FrameCode.Proofs.CharacterCodes
import FrameCode.Proofs.Comparison
import FrameCode.Proofs.ControlFlow
import FrameCode.Proofs.Definedness
import FrameCode.Proofs.DocumentGrammar
import FrameCode.Proofs.EffectForm
import FrameCode.Proofs.Effects
import FrameCode.Proofs.ErrorLocation
import FrameCode.Proofs.FaultOrigin
import FrameCode.Proofs.FirstError
import FrameCode.Proofs.FloorDivision
import FrameCode.Proofs.Footprint
import FrameCode.Proofs.Handlers
import FrameCode.Proofs.IndexedStrings
import FrameCode.Proofs.InputLines
import FrameCode.Proofs.IntegerLiterals
import FrameCode.Proofs.InternalFaults
import FrameCode.Proofs.LexicalGrammar
import FrameCode.Proofs.Listing
import FrameCode.Proofs.LoadFailures
import FrameCode.Proofs.LocalFrames
import FrameCode.Proofs.MarkupNames
import FrameCode.Proofs.MessageLines
import FrameCode.Proofs.Numerals
import FrameCode.Proofs.OrderComparison
import FrameCode.Proofs.OrderForms
import FrameCode.Proofs.ReadBack
import FrameCode.Proofs.Rearrangement
import FrameCode.Proofs.Remarks
import FrameCode.Proofs.Renumbering
import FrameCode.Proofs.Resolution
import FrameCode.Proofs.Results
import FrameCode.Proofs.Runs
import FrameCode.Proofs.SourceForm
import FrameCode.Proofs.StackDiscipline
import FrameCode.Proofs.StoreLaws
import FrameCode.Proofs.StringLiterals
import FrameCode.Proofs.StringOrder
import FrameCode.Proofs.SuccessCondition
import FrameCode.Proofs.TextLines
import FrameCode.Proofs.Transitions
import FrameCode.Proofs.Transparency
import FrameCode.Proofs.TypeNames
import FrameCode.Proofs.Unspaced
import FrameCode.Proofs.VariableTexts
import FrameCode.Text.Alphanumeric
import FrameCode.Text.Blank
import FrameCode.Text.Escape
import FrameCode.Text.Identifier
import FrameCode.Text.Printable
import FrameCode.Text.Quoted
import FrameCode.Text.Ranges
import FrameCode.TypeTag
import FrameCode.Value
import FrameCode.Word
