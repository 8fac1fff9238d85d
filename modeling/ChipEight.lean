import ChipEight.Files.Lookup
import ChipEight.Machine.OperationTable
import ChipEight.Main
import ChipEight.Proofs.Accepted
import ChipEight.Proofs.Accesses
import ChipEight.Proofs.Accrual
import ChipEight.Proofs.Arguments
import ChipEight.Proofs.Arithmetic
import ChipEight.Proofs.CallStack
import ChipEight.Proofs.Countdown
import ChipEight.Proofs.Counter
import ChipEight.Proofs.Disassembly
import ChipEight.Proofs.Dumps
import ChipEight.Proofs.Failures
import ChipEight.Proofs.Footprints
import ChipEight.Proofs.Frames
import ChipEight.Proofs.Keystrokes
import ChipEight.Proofs.Language
import ChipEight.Proofs.Loads
import ChipEight.Proofs.Lockstep
import ChipEight.Proofs.Printed
import ChipEight.Proofs.Sessions
import ChipEight.Proofs.Settings
import ChipEight.Proofs.Sheets
import ChipEight.Proofs.Splits
import ChipEight.Proofs.Sprites
import ChipEight.Proofs.Stages
import ChipEight.Proofs.Stepping
import ChipEight.Proofs.Straight
import ChipEight.Proofs.Strictness
import ChipEight.Proofs.Transfers
import ChipEight.Proofs.TurnedDown
import ChipEight.Proofs.Typed
import ChipEight.Proofs.Validity
import ChipEight.Proofs.Views
import ChipEight.Workbench
