import Chip8.Instruction.Basic

namespace Chip8.Instruction

def name : Instruction → String
  | .clearScreen => "ClearScreen"
  | .returnFromCall => "PopSubroutine"
  | .jump _ => "Jump"
  | .call _ => "PushSubroutine"
  | .skipEqualConstant _ _ => "SkipEqualConstant"
  | .skipNotEqualConstant _ _ => "SkipNotEqualConstant"
  | .skipEqual _ _ => "SkipEqualRegister"
  | .skipNotEqual _ _ => "SkipNotEqualRegister"
  | .setConstant _ _ => "SetRegister"
  | .addConstant _ _ => "AddToRegister"
  | .copy _ _ => "CopyRegister"
  | .or _ _ => "Or"
  | .and _ _ => "And"
  | .xor _ _ => "XOr"
  | .add _ _ => "Add"
  | .subtract _ _ => "SubtractForward"
  | .subtractFrom _ _ => "SubtractBackward"
  | .shiftRight _ _ => "RightShift"
  | .shiftLeft _ _ => "LeftShift"
  | .setIndex _ => "SetIndexRegister"
  | .jumpWithOffset _ _ => "JumpWithOffset"
  | .random _ _ => "Random"
  | .draw _ _ _ => "Display"
  | .skipHeld _ => "SkipIfPressed"
  | .skipNotHeld _ => "SkipIfNotPressed"
  | .readDelay _ => "CopyDelayToRegister"
  | .awaitKey _ => "GetKey"
  | .setDelay _ => "CopyRegisterToDelay"
  | .setSound _ => "CopyRegisterToSound"
  | .addIndex _ => "AddToIndex"
  | .pointGlyph _ => "PointChar"
  | .storeDecimal _ => "ToDecimal"
  | .storeBlock _ _ => "StoreRegisterToMemory"
  | .loadBlock _ _ => "LoadRegisterFromMemory"
  | .unknown _ => "Unimplemented"

private def number8 (value : UInt8) : String :=
  toString value.toNat

private def number16 (value : UInt16) : String :=
  toString value.toNat

private def truth (value : Bool) : String :=
  if value then "true" else "false"

def operands : Instruction → List String
  | .clearScreen | .returnFromCall => []
  | .jump target | .call target | .setIndex target | .unknown target => [number16 target]
  | .skipEqualConstant x value | .skipNotEqualConstant x value | .setConstant x value
  | .addConstant x value | .random x value => [number8 x, number8 value]
  | .skipEqual x y | .skipNotEqual x y | .copy x y | .or x y | .and x y | .xor x y | .add x y
  | .subtract x y | .subtractFrom x y | .shiftRight x y | .shiftLeft x y =>
      [number8 x, number8 y]
  | .jumpWithOffset target offset => [number16 target, number8 offset]
  | .draw x y height => [number8 x, number8 y, number8 height]
  | .skipHeld x | .skipNotHeld x | .readDelay x | .awaitKey x | .setDelay x | .setSound x
  | .addIndex x | .pointGlyph x | .storeDecimal x => [number8 x]
  | .storeBlock last advance | .loadBlock last advance => [number8 last, truth advance]

def text (instruction : Instruction) : String :=
  match instruction.operands with
  | [] => instruction.name
  | operands => instruction.name ++ "(" ++ ", ".intercalate operands ++ ")"

private def named0? : String → Option Instruction
  | "ClearScreen" => some .clearScreen
  | "PopSubroutine" => some .returnFromCall
  | _ => none

private def named1? (value : Nat) : String → Option Instruction
  | "Jump" => some (.jump (UInt16.ofNat value))
  | "PushSubroutine" => some (.call (UInt16.ofNat value))
  | "SetIndexRegister" => some (.setIndex (UInt16.ofNat value))
  | "SkipIfPressed" => some (.skipHeld (UInt8.ofNat value))
  | "SkipIfNotPressed" => some (.skipNotHeld (UInt8.ofNat value))
  | "CopyDelayToRegister" => some (.readDelay (UInt8.ofNat value))
  | "GetKey" => some (.awaitKey (UInt8.ofNat value))
  | "CopyRegisterToDelay" => some (.setDelay (UInt8.ofNat value))
  | "CopyRegisterToSound" => some (.setSound (UInt8.ofNat value))
  | "AddToIndex" => some (.addIndex (UInt8.ofNat value))
  | "PointChar" => some (.pointGlyph (UInt8.ofNat value))
  | "ToDecimal" => some (.storeDecimal (UInt8.ofNat value))
  | "Unimplemented" => some (.unknown (UInt16.ofNat value))
  | _ => none

private def named2? (first second : Nat) : String → Option Instruction
  | "SkipEqualConstant" => some (.skipEqualConstant (UInt8.ofNat first) (UInt8.ofNat second))
  | "SkipNotEqualConstant" =>
      some (.skipNotEqualConstant (UInt8.ofNat first) (UInt8.ofNat second))
  | "SkipEqualRegister" => some (.skipEqual (UInt8.ofNat first) (UInt8.ofNat second))
  | "SkipNotEqualRegister" => some (.skipNotEqual (UInt8.ofNat first) (UInt8.ofNat second))
  | "SetRegister" => some (.setConstant (UInt8.ofNat first) (UInt8.ofNat second))
  | "AddToRegister" => some (.addConstant (UInt8.ofNat first) (UInt8.ofNat second))
  | "CopyRegister" => some (.copy (UInt8.ofNat first) (UInt8.ofNat second))
  | "Or" => some (.or (UInt8.ofNat first) (UInt8.ofNat second))
  | "And" => some (.and (UInt8.ofNat first) (UInt8.ofNat second))
  | "XOr" => some (.xor (UInt8.ofNat first) (UInt8.ofNat second))
  | "Add" => some (.add (UInt8.ofNat first) (UInt8.ofNat second))
  | "SubtractForward" => some (.subtract (UInt8.ofNat first) (UInt8.ofNat second))
  | "SubtractBackward" => some (.subtractFrom (UInt8.ofNat first) (UInt8.ofNat second))
  | "RightShift" => some (.shiftRight (UInt8.ofNat first) (UInt8.ofNat second))
  | "LeftShift" => some (.shiftLeft (UInt8.ofNat first) (UInt8.ofNat second))
  | "JumpWithOffset" => some (.jumpWithOffset (UInt16.ofNat first) (UInt8.ofNat second))
  | "Random" => some (.random (UInt8.ofNat first) (UInt8.ofNat second))
  | "StoreRegisterToMemory" => some (.storeBlock (UInt8.ofNat first) (second != 0))
  | "LoadRegisterFromMemory" => some (.loadBlock (UInt8.ofNat first) (second != 0))
  | _ => none

/-- The instruction of a name and its operands, a choice being written as 0 or 1. -/
def ofNameAndOperands? (name : String) : List Nat → Option Instruction
  | [] => named0? name
  | [value] => named1? value name
  | [first, second] => named2? first second name
  | [x, y, height] =>
      if name = "Display" then
        some (.draw (UInt8.ofNat x) (UInt8.ofNat y) (UInt8.ofNat height))
      else
        none
  | _ => none

end Chip8.Instruction
