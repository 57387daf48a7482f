import Chip8.CallStack
import Chip8.FrameBuffer
import Chip8.Instruction.Basic
import Chip8.Instruction.Text
import Chip8.Keypad
import Chip8.Memory
import Chip8.Random
import Chip8.Registers
import Chip8.Timer

namespace Chip8

inductive Level where
  | error | warn | info | debug | trace
  deriving DecidableEq, Repr

namespace Level

def rank : Level → Nat
  | .error => 0
  | .warn => 1
  | .info => 2
  | .debug => 3
  | .trace => 4

/-- A log kept at the first level shows records of the second. -/
def shows (kept level : Level) : Bool :=
  level.rank ≤ kept.rank

def name : Level → String
  | .error => "ERROR"
  | .warn => "WARN"
  | .info => "INFO"
  | .debug => "DEBUG"
  | .trace => "TRACE"

def option : Level → String
  | .error => "error"
  | .warn => "warn"
  | .info => "info"
  | .debug => "debug"
  | .trace => "trace"

def ofOption? (text : String) : Option Level :=
  [error, warn, info, debug, trace].find? fun level => level.option = text

end Level

namespace Machine

inductive Record where
  | loaded (count : Nat)
  | executing (position : Address) (word : Word) (instruction : Instruction)
  | returned (target : Address)
  | called (target position : Address)
  | captured (key register : UInt8)
  | skipped (word : Word) (position : Address)
  deriving DecidableEq, Repr

namespace Record

def level : Record → Level
  | .loaded _ => .debug
  | .executing _ _ _ => .trace
  | .returned _ => .debug
  | .called _ _ => .debug
  | .captured _ _ => .debug
  | .skipped _ _ => .warn

private def address (value : Address) : String :=
  Text.hex 3 value.toNat

def message : Record → String
  | .loaded count =>
      s!"loaded {count} bytes at 0x" ++ address Memory.programStart
  | .executing position word instruction =>
      address position ++ ": " ++ Text.hex 4 word.toNat ++ " " ++ instruction.text
  | .returned target => "return to " ++ address target
  | .called target position => "call " ++ address target ++ " from " ++ address position
  | .captured key register =>
      "key " ++ Text.hex 1 key.toNat ++ " captured into v" ++ Text.hex 1 register.toNat
  | .skipped word position =>
      "unknown instruction " ++ Text.hex 4 word.toNat ++ " at " ++ address position ++
        ", skipping"

end Record

end Machine

structure Machine where
  architecture : Architecture
  memory : Memory
  registers : Registers
  index : Address
  counter : Address
  stack : CallStack
  frameBuffer : FrameBuffer
  delay : Timer
  sound : Timer
  random : RandomSource
  deriving DecidableEq

/-- What follows an instruction: the next one, the one that it chose, or the same one again. -/
inductive Advance where
  | next | redirected | reissue
  deriving DecidableEq, Repr

namespace Machine

/-- A machine after an action, with the action's result and what was noted meanwhile. -/
structure Outcome (α : Type) where
  machine : Machine
  result : Except Fault α
  log : List Record := []

def initial (architecture : Architecture) (random : RandomSource) : Machine where
  architecture := architecture
  memory := .initial
  registers := .initial
  index := 0
  counter := Memory.programStart
  stack := .empty
  frameBuffer := .blank
  delay := {}
  sound := {}
  random := random

def withSeed (architecture : Architecture) (seed : UInt64) : Machine :=
  initial architecture (.ofSeed seed)

/-- Places a program in memory. One that does not fit changes nothing. -/
def load (machine : Machine) (program : List UInt8) : Outcome Nat :=
  match machine.memory.load program with
  | .ok memory =>
      { machine := { machine with memory }
        result := .ok program.length
        log := [.loaded program.length] }
  | .error fault => { machine, result := .error fault }

/-- The counter points at a whole instruction inside the loaded program. -/
def inProgram (machine : Machine) : Bool :=
  Memory.programStart.toNat ≤ machine.counter.toNat ∧
    machine.counter.toNat + 1 < Memory.programStart.toNat + machine.memory.programLength

def fetch (machine : Machine) : Word :=
  machine.memory.word machine.counter

def advance (machine : Machine) : Machine :=
  { machine with counter := machine.counter + 2 }

def tick (machine : Machine) : Machine :=
  { machine with delay := machine.delay.tick, sound := machine.sound.tick }

def ticks (machine : Machine) (count : Nat) : Machine :=
  { machine with delay := machine.delay.ticks count, sound := machine.sound.ticks count }

def soundActive (machine : Machine) : Bool :=
  machine.sound.active

theorem kept_load {α : Type} (machine : Machine) (program : List UInt8) (kept : Machine → α)
    (hkept : ∀ memory, kept { machine with memory } = kept machine) :
    kept (machine.load program).machine = kept machine := by
  simp only [load]
  cases machine.memory.load program with
  | ok memory => exact hkept memory
  | error fault => rfl

theorem load_of_fits {machine : Machine} {program : List UInt8}
    (hfits : program.length ≤ Memory.programLimit) :
    machine.load program =
      { machine :=
          { machine with
            memory :=
              { machine.memory.write Memory.programStart program with
                programLength := program.length } }
        result := .ok program.length
        log := [.loaded program.length] } := by
  simp only [load, Memory.load, if_pos hfits]

theorem load_of_not_fits {machine : Machine} {program : List UInt8}
    (hlarge : ¬ program.length ≤ Memory.programLimit) :
    machine.load program =
      { machine, result := .error (.romTooLarge program.length Memory.programLimit) } := by
  simp only [load, Memory.load, if_neg hlarge]

@[simp] theorem ticks_zero (machine : Machine) : machine.ticks 0 = machine := by
  simp [ticks]

theorem ticks_succ (machine : Machine) (count : Nat) :
    machine.ticks (count + 1) = machine.tick.ticks count := by
  simp [ticks, tick, Timer.ticks_succ]

theorem tick_ticks (machine : Machine) (count : Nat) :
    (machine.ticks count).tick = machine.ticks (count + 1) := by
  simp [ticks, tick, Timer.tick_ticks]

end Machine

end Chip8
