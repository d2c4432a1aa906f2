import SuperChip.Console
import SuperChip.Files.System
import SuperChip.Main
import SuperChip.Proofs.Bare.Soundness
import SuperChip.Proofs.Calls
import SuperChip.Proofs.Faults
import SuperChip.Proofs.Lockstep
import SuperChip.Proofs.Lockstep.Extension
import SuperChip.Proofs.Lockstep.IndexMask
import SuperChip.Proofs.Lockstep.PowerOn
import SuperChip.Proofs.Run.Iteration
import SuperChip.Proofs.Sharing
import SuperChip.Proofs.Standing
import SuperChip.Shutdown
import SuperChip.Terminal.Grid
import SuperChip.Proofs.Terminal.Painting
import SuperChip.Proofs.Keypad
import SuperChip.Proofs.Shutdown
import SuperChip.Proofs.Lockstep.Timing
import SuperChip.Proofs.Rolls
import SuperChip.Proofs.Screen.Sprites
import SuperChip.Proofs.Screen.Drawing
import SuperChip.Proofs.Screen.Redrawing
import SuperChip.Proofs.Screen.Scrolling
import SuperChip.Proofs.Ownership
import SuperChip.Proofs.Arithmetic
import SuperChip.Proofs.Transfers
import SuperChip.Proofs.Loading
import SuperChip.Proofs.Beeps
import SuperChip.Proofs.Terminal.Holding
import SuperChip.Proofs.Dispatch.Filling
import SuperChip.Proofs.Colour
