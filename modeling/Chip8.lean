import Chip8.Config.Arithmetic
import Chip8.Config.Build
import Chip8.Cycle.Table
import Chip8.Fault.Raised
import Chip8.Machine.Host
import Chip8.Proofs.Instruction.Effect
import Chip8.Proofs.Instruction.Pattern
import Chip8.Yaml.Document
import Chip8.Proofs.Instruction.Outcome
import Chip8.Proofs.Machine.Cycle
import Chip8.Proofs.Machine.Clock
import Chip8.Proofs.Machine.Invariant
import Chip8.Proofs.Machine.Bounds
import Chip8.Proofs.Machine.Refusal
import Chip8.Proofs.Machine.FaultLaw
import Chip8.Proofs.Machine.Residue
import Chip8.Proofs.Instruction.Footprint
import Chip8.Proofs.Machine.Footprint
import Chip8.Proofs.Machine.KeyWait
import Chip8.Proofs.Machine.CallReturn
import Chip8.Proofs.Machine.Redraw
import Chip8.Proofs.Instruction.Inputs
import Chip8.Proofs.Machine.InputRelation
import Chip8.Proofs.Machine.InputFlow
import Chip8.Proofs.Text.Hex
import Chip8.Proofs.Instruction.Decoding
import Chip8.Proofs.Instruction.Equipment
import Chip8.Proofs.Machine.Twins
import Chip8.Proofs.Machine.DialectLocality
import Chip8.Proofs.Machine.Rebirth
import Chip8.Proofs.Machine.Listing
import Chip8.Proofs.Machine.Loading
import Chip8.Proofs.Display.Sprite
import Chip8.Proofs.Machine.Drawing
import Chip8.Proofs.Display.Superposition
import Chip8.Proofs.Cycle.Count
import Chip8.Proofs.Machine.CycleCount
import Chip8.Proofs.Machine.Arithmetic
import Chip8.Proofs.Machine.Transfer
import Chip8.Proofs.DelayTimer.Polling
import Chip8.Proofs.Memory.Disassembly
import Chip8.Proofs.Text.Numeral
import Chip8.Proofs.Config.Reading
import Chip8.Proofs.Config.Building
import Chip8.Proofs.Memory.ListedRange
import Chip8.Proofs.Ram.LastWrite
import Chip8.Proofs.Word.Digits
import Chip8.Proofs.Display.Views
import Chip8.Proofs.Text.DigitRow
import Chip8.Proofs.Config.IntegerText
import Chip8.Proofs.Config.UnknownSetting
