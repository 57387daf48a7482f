import Chip8.Instruction.Decode
import Chip8.Machine.Basic

namespace Chip8.Machine

namespace Outcome

def next (machine : Machine) : Outcome Advance where
  machine := machine
  result := .ok .next

def redirect (machine : Machine) (target : Address) (log : List Record := []) :
    Outcome Advance where
  machine := { machine with counter := target }
  result := .ok .redirected
  log := log

def reissue (machine : Machine) : Outcome Advance where
  machine := machine
  result := .ok .reissue

def fault (machine : Machine) (fault : Fault) : Outcome Advance where
  machine := machine
  result := .error fault

end Outcome

/-- The advance that follows still happens, so a skip moves the counter by two instructions. -/
def skipIf (machine : Machine) (condition : Bool) : Outcome Advance :=
  .next (if condition then machine.advance else machine)

def setRegister (machine : Machine) (register value : UInt8) : Machine :=
  { machine with registers := machine.registers.set register value }

/-- Sets a register and then the flag, so that the flag wins where they are the same. -/
def setWithFlag (machine : Machine) (register value : UInt8) (flag : Bool) : Machine :=
  { machine with registers := (machine.registers.set register value).setFlag flag }

def decimalDigits (value : UInt8) : List UInt8 :=
  [value / 100, value / 10 % 10, value % 10]

/-- Runs an instruction. The counter moves only for jumps, calls, returns and taken skips. -/
def execute (machine : Machine) (keys : KeyState) : Instruction → Outcome Advance
  | .clearScreen => .next { machine with frameBuffer := .blank }
  | .returnFromCall =>
      match machine.stack.pop with
      | .ok (target, stack) => .redirect { machine with stack } target [.returned target]
      | .error fault => .fault machine fault
  | .jump target => .redirect machine target
  | .call target =>
      match machine.stack.push (machine.counter + 2) with
      | .ok stack => .redirect { machine with stack } target [.called target machine.counter]
      | .error fault => .fault machine fault
  | .skipEqualConstant x value => machine.skipIf (machine.registers.get x == value)
  | .skipNotEqualConstant x value => machine.skipIf (machine.registers.get x != value)
  | .skipEqual x y => machine.skipIf (machine.registers.get x == machine.registers.get y)
  | .skipNotEqual x y => machine.skipIf (machine.registers.get x != machine.registers.get y)
  | .setConstant x value => .next (machine.setRegister x value)
  | .addConstant x value =>
      .next { machine with registers := machine.registers.add x value }
  | .copy x y => .next (machine.setRegister x (machine.registers.get y))
  | .or x y =>
      .next (machine.setRegister x (machine.registers.get x ||| machine.registers.get y))
  | .and x y =>
      .next (machine.setRegister x (machine.registers.get x &&& machine.registers.get y))
  | .xor x y =>
      .next (machine.setRegister x (machine.registers.get x ^^^ machine.registers.get y))
  | .add x y =>
      let left := machine.registers.get x
      let right := machine.registers.get y
      .next (machine.setWithFlag x (left + right) (256 ≤ left.toNat + right.toNat))
  | .subtract x y =>
      let left := machine.registers.get x
      let right := machine.registers.get y
      .next (machine.setWithFlag x (left - right) (right ≤ left))
  | .subtractFrom x y =>
      let left := machine.registers.get x
      let right := machine.registers.get y
      .next (machine.setWithFlag x (right - left) (left ≤ right))
  | .shiftRight x source =>
      let value := machine.registers.get source
      .next (machine.setWithFlag x (value >>> 1) (value &&& 1 == 1))
  | .shiftLeft x source =>
      let value := machine.registers.get source
      .next (machine.setWithFlag x (value <<< 1) (value >>> 7 == 1))
  | .setIndex target => .next { machine with index := target }
  | .jumpWithOffset target offset =>
      .redirect machine ((target + (machine.registers.get offset).toUInt16) &&& 0x0FFF)
  | .random x mask =>
      let (byte, random) := machine.random.draw
      .next (({ machine with random } : Machine).setRegister x (byte &&& mask))
  | .draw x y height =>
      let sprite := machine.memory.read machine.index height.toNat
      let (frameBuffer, collided) :=
        machine.frameBuffer.paint (machine.registers.get x) (machine.registers.get y) sprite
      .next { machine with frameBuffer, registers := machine.registers.setFlag collided }
  | .skipHeld x => machine.skipIf (Keypad.isHeld keys (machine.registers.get x))
  | .skipNotHeld x => machine.skipIf (!Keypad.isHeld keys (machine.registers.get x))
  | .readDelay x => .next (machine.setRegister x machine.delay.count)
  | .awaitKey x =>
      match Keypad.firstPressed? keys with
      | some key => { Outcome.next (machine.setRegister x key) with log := [.captured key x] }
      | none => .reissue machine
  | .setDelay x => .next { machine with delay := ⟨machine.registers.get x⟩ }
  | .setSound x => .next { machine with sound := ⟨machine.registers.get x⟩ }
  | .addIndex x =>
      let index := machine.index + (machine.registers.get x).toUInt16
      .next { machine with index, registers := machine.registers.setFlag (0x1000 ≤ index) }
  | .pointGlyph x =>
      let glyph := (machine.registers.get x).toNat % 16
      .next
        { machine with index := Memory.fontStart + UInt16.ofNat (Font.glyphSize * glyph) }
  | .storeDecimal x =>
      let digits := decimalDigits (machine.registers.get x)
      .next { machine with memory := machine.memory.write machine.index digits }
  | .storeBlock last advance =>
      let count := last.toNat + 1
      .next
        { machine with
          memory := machine.memory.write machine.index (machine.registers.block count)
          index := if advance then machine.index + UInt16.ofNat count else machine.index }
  | .loadBlock last advance =>
      let count := last.toNat + 1
      .next
        { machine with
          registers := machine.registers.fill 0 (machine.memory.read machine.index count)
          index := if advance then machine.index + UInt16.ofNat count else machine.index }
  | .unknown word =>
      { Outcome.next machine with log := [.skipped word machine.counter] }

def instruction (machine : Machine) : Instruction :=
  .decode machine.architecture machine.fetch

/-- Fetches, decodes and executes one instruction, and then moves on to the following one unless
the instruction decided otherwise. -/
def step (machine : Machine) (keys : KeyState) : Outcome Advance :=
  let outcome := machine.execute keys machine.instruction
  { machine :=
      match outcome.result with
      | .ok .next => outcome.machine.advance
      | _ => outcome.machine
    result := outcome.result
    log := .executing machine.counter machine.fetch machine.instruction :: outcome.log }

end Chip8.Machine
