import Chip8.Word

namespace Chip8

inductive Architecture where
  /-- Shifts act on VX, block transfers leave I alone, the jump with offset adds VX. -/
  | chip
  /-- Shifts read VY, block transfers advance I, the jump with offset adds V0. -/
  | cosmac
  deriving DecidableEq, Repr, Inhabited

namespace Architecture

def name : Architecture → String
  | .chip => "Chip"
  | .cosmac => "Cosmac"

def option : Architecture → String
  | .chip => "chip"
  | .cosmac => "cosmac"

def ofOption? (text : String) : Option Architecture :=
  [chip, cosmac].find? fun architecture => architecture.option = text

end Architecture

/-! The instruction set. Register operands are bytes of which the machine uses the low digit, and
addresses are whole words, so an instruction may also be one that no word encodes. -/

inductive Instruction where
  | clearScreen
  | returnFromCall
  | jump (target : Address)
  | call (target : Address)
  | skipEqualConstant (x value : UInt8)
  | skipNotEqualConstant (x value : UInt8)
  | skipEqual (x y : UInt8)
  | skipNotEqual (x y : UInt8)
  | setConstant (x value : UInt8)
  | addConstant (x value : UInt8)
  | copy (x y : UInt8)
  | or (x y : UInt8)
  | and (x y : UInt8)
  | xor (x y : UInt8)
  | add (x y : UInt8)
  /-- VX becomes VX less VY. -/
  | subtract (x y : UInt8)
  /-- VX becomes VY less VX. -/
  | subtractFrom (x y : UInt8)
  /-- VX becomes the value of the source register, shifted by one bit. -/
  | shiftRight (x source : UInt8)
  | shiftLeft (x source : UInt8)
  | setIndex (target : Address)
  /-- Jumps to the target plus the value of the offset register, within twelve bits. -/
  | jumpWithOffset (target : Address) (offset : UInt8)
  | random (x mask : UInt8)
  | draw (x y height : UInt8)
  | skipHeld (x : UInt8)
  | skipNotHeld (x : UInt8)
  | readDelay (x : UInt8)
  | awaitKey (x : UInt8)
  | setDelay (x : UInt8)
  | setSound (x : UInt8)
  | addIndex (x : UInt8)
  | pointGlyph (x : UInt8)
  | storeDecimal (x : UInt8)
  /-- Stores V0 to the last register at I; `advance` moves I past the stored bytes. -/
  | storeBlock (last : UInt8) (advance : Bool)
  | loadBlock (last : UInt8) (advance : Bool)
  | unknown (word : Word)
  deriving DecidableEq, Repr, Inhabited

end Chip8
