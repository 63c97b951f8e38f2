import Chip8.Main
import Chip8.Request
import Chip8.Session
import Chip8.Proofs.Words
import Chip8.Proofs.StackContents
import Chip8.Proofs.CycleCases
import Chip8.Proofs.Histories
import Chip8.Proofs.Faults
import Chip8.Proofs.Reachable
import Chip8.Proofs.Calls
import Chip8.Proofs.FastPath
import Chip8.Proofs.Accesses
import Chip8.Proofs.AwaitKey
import Chip8.Proofs.HostInputs
import Chip8.Proofs.Ownership
import Chip8.Proofs.Polling
import Chip8.Proofs.Operations
import Chip8.Proofs.Repainting
import Chip8.Proofs.LogLevel
import Chip8.Proofs.Frames
import Chip8.Proofs.Pictures
import Chip8.Proofs.WindowScreen
import Chip8.Proofs.Halting
import Chip8.Proofs.Restarts
import Chip8.Proofs.Beeps
import Chip8.Proofs.WindowProtocol
import Chip8.Proofs.RandomStream
import Chip8.Proofs.Drawing
import Chip8.Proofs.Redrawing
import Chip8.Proofs.Transfers
import Chip8.Proofs.RegisterArithmetic
import Chip8.Proofs.Dispatch
import Chip8.Proofs.TimerStart
import Chip8.Proofs.FaultErrors
import Chip8.Proofs.LogLines
import Chip8.Proofs.AssemblyText
import Chip8.Proofs.InstructionTrace
import Chip8.Proofs.TimerCatchUp
import Chip8.Proofs.LostTicks
import Chip8.Proofs.ProgressBars
import Chip8.Proofs.RenderedScreens
import Chip8.Proofs.HostMemory
import Chip8.Proofs.Keyboard
