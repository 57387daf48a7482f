import Chip8.FrameBuffer
import Chip8.Memory
import Chip8.Text

namespace Chip8

def joinRuns : List (Nat × α) → List (Nat × List α)
  | [] => []
  | (place, value) :: rest =>
      match joinRuns rest with
      | (next, values) :: runs =>
          if next = place + 1 then
            (place, value :: values) :: runs
          else
            (place, [value]) :: (next, values) :: runs
      | [] => [(place, [value])]

/-- The maximal runs of consecutive addresses whose bytes differ, with the new bytes. -/
def Memory.changedRuns (before after : Memory) : List (Nat × List UInt8) :=
  let changed := (List.range Memory.size).filterMap fun address =>
    let address := UInt16.ofNat address
    if before.get address = after.get address then
      none
    else
      some (address.toNat, after.get address)
  joinRuns changed

/-- The number whose binary digits are the given ones, most significant first. -/
def ofBinary (bits : List Bool) : Nat :=
  bits.foldl (fun value bit => 2 * value + bit.toNat) 0

/-- Sixteen digits a row, the leftmost pixel being the most significant bit. -/
def FrameBuffer.rowText (buffer : FrameBuffer) (row : Nat) : String :=
  Text.hex 16 (ofBinary (buffer.row row))

def FrameBuffer.changedRows (before after : FrameBuffer) : List (Nat × String) :=
  (List.range height).filterMap fun row =>
    if before.row row = after.row row then none else some (row, after.rowText row)

end Chip8
