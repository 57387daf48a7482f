import Chip8.Changes
import Chip8.Instruction.Encode
import Chip8.Machine.History
import Chip8.Main
import Chip8.Proofs.Machine.Course
import Chip8.Proofs.Machine.Calls
import Chip8.Proofs.Machine.Burst
import Chip8.Proofs.Machine.Bounds
import Chip8.Proofs.Machine.Lineages
import Chip8.Proofs.Machine.Effects
import Chip8.Proofs.Machine.Stores
import Chip8.Proofs.FrameBuffer
import Chip8.Proofs.Machine.Picture
import Chip8.Proofs.Machine.Folding
import Chip8.Proofs.Machine.Keys
import Chip8.Proofs.Session.Passes
import Chip8.Proofs.Machine.Timers
import Chip8.Proofs.Machine.RandomBytes
import Chip8.Proofs.Clock
import Chip8.Proofs.Session.Scenes
import Chip8.Proofs.Session.Showing
import Chip8.Proofs.Machine.Arithmetic
import Chip8.Proofs.Instruction
import Chip8.Proofs.Machine.Flow
import Chip8.Proofs.Machine.Transfers
import Chip8.Proofs.Machine.IndexSums
import Chip8.Proofs.Machine.Loading
import Chip8.Proofs.CallStack
import Chip8.Proofs.Sound
import Chip8.Proofs.Guarded.Parts
import Chip8.Proofs.Guarded.Machine
import Chip8.Proofs.Tone
