import Chip8.Interpreter.Operation
import Chip8.Main
import Chip8.Opcode.Encode
import Chip8.Options.Written
import Chip8.Session.Schedule
import Chip8.Screen
import Chip8.Proofs.Interpreter.CallStack
import Chip8.Proofs.Interpreter.Parity
import Chip8.Proofs.Interpreter.Safety
import Chip8.Proofs.Interpreter.Waiting
import Chip8.Proofs.Opcode.Word
import Chip8.Proofs.Opcode.RoundTrip
import Chip8.Proofs.Interpreter.Addresses
import Chip8.Proofs.Device.Discreet
import Chip8.Proofs.Interpreter.Journal
import Chip8.Proofs.Session.Phase
import Chip8.Proofs.Session.Counts
import Chip8.Proofs.Session.Buzzer
import Chip8.Proofs.Interpreter.Loading
import Chip8.Proofs.Interpreter.Latch
import Chip8.Proofs.Keyboard.Held
import Chip8.Proofs.Cadence
import Chip8.Proofs.Interpreter.Timers
import Chip8.Proofs.Session.Slicing
import Chip8.Proofs.Interpreter.Changes
import Chip8.Proofs.Interpreter.RandomBytes
import Chip8.Proofs.Interpreter.Drawing
import Chip8.Proofs.Interpreter.Exchange
import Chip8.Proofs.Ram.History
import Chip8.Proofs.Machine.Cells
import Chip8.Proofs.Interpreter.Footprint
import Chip8.Proofs.Interpreter.Saving
import Chip8.Proofs.Interpreter.Arithmetic
import Chip8.Proofs.Interpreter.Operands
import Chip8.Proofs.Interpreter.Decimals
import Chip8.Proofs.Session.Events
import Chip8.Proofs.Picture.Planes
import Chip8.Proofs.Session.Frames
import Chip8.Proofs.Session.Drift
import Chip8.Proofs.Keyboard.Release
import Chip8.Proofs.Ram.Limits
import Chip8.Proofs.Text.Numeral
import Chip8.Proofs.Launch
import Chip8.Proofs.Options.RoundTrip
