import Chip8.Proofs.Machine.Course

namespace Chip8

/-! What a step does to the memory and to the picture, and which components it leaves aside. Two
instructions store bytes and two change the picture; three use the timers, and none reads the
architecture. -/

/-- The instruction may choose what follows it and set a register, and does nothing else. -/
def Instruction.Controls : Instruction → Prop
  | .returnFromCall | .jump _ | .call _ | .jumpWithOffset _ _ | .awaitKey _
  | .skipEqualConstant _ _ | .skipNotEqualConstant _ _ | .skipEqual _ _ | .skipNotEqual _ _
  | .skipHeld _ | .skipNotHeld _ => True
  | _ => False

def Instruction.UsesTimers : Instruction → Prop
  | .readDelay _ | .setDelay _ | .setSound _ => True
  | _ => False

namespace Machine

def withAside (machine : Machine) (architecture : Architecture) (delay sound : Timer) : Machine :=
  { machine with architecture, delay, sound }

/-- The bytes that an instruction stores, the first of them at I. -/
def stored (machine : Machine) : Instruction → List UInt8
  | .storeDecimal x => decimalDigits (machine.registers.get x)
  | .storeBlock last _ => machine.registers.block (last.toNat + 1)
  | _ => []

def pictured (machine : Machine) : Instruction → FrameBuffer
  | .clearScreen => .blank
  | .draw x y height =>
      (machine.frameBuffer.paint (machine.registers.get x) (machine.registers.get y)
        (machine.memory.read machine.index height.toNat)).1
  | _ => machine.frameBuffer

variable (machine : Machine) (keys : KeyState)

theorem machine_execute_of_controls {instruction : Instruction}
    (hcontrols : instruction.Controls) :
    ∃ counter stack registers, (machine.execute keys instruction).machine =
      { machine with counter, stack, registers } := by
  cases instruction with
  | returnFromCall =>
      simp only [execute]
      cases machine.stack.pop with
      | ok popped => exact ⟨popped.1, popped.2, machine.registers, rfl⟩
      | error fault => exact ⟨machine.counter, machine.stack, machine.registers, rfl⟩
  | call target =>
      simp only [execute]
      cases machine.stack.push (machine.counter + 2) with
      | ok stack => exact ⟨target, stack, machine.registers, rfl⟩
      | error fault => exact ⟨machine.counter, machine.stack, machine.registers, rfl⟩
  | jump | jumpWithOffset => exact ⟨_, machine.stack, machine.registers, rfl⟩
  | awaitKey x => exact ⟨machine.counter, machine.stack, _, machine.machine_execute_awaitKey keys x⟩
  | skipEqualConstant | skipNotEqualConstant | skipEqual | skipNotEqual | skipHeld
  | skipNotHeld => exact ⟨_, machine.stack, machine.registers, machine.machine_skipIf _⟩
  | _ => exact hcontrols.elim

theorem kept_execute_of_controls {α : Type} {instruction : Instruction} (kept : Machine → α)
    (hkept : ∀ counter stack registers,
      kept { machine with counter, stack, registers } = kept machine)
    (hcontrols : instruction.Controls) :
    kept (machine.execute keys instruction).machine = kept machine := by
  obtain ⟨counter, stack, registers, hafter⟩ :=
    machine.machine_execute_of_controls keys hcontrols
  rw [hafter]
  exact hkept counter stack registers

theorem memory_execute (instruction : Instruction) :
    (machine.execute keys instruction).machine.memory =
      machine.memory.write machine.index (machine.stored instruction) := by
  cases instruction with
  | returnFromCall | jump | call | jumpWithOffset | awaitKey | skipEqualConstant
  | skipNotEqualConstant | skipEqual | skipNotEqual | skipHeld | skipNotHeld =>
      exact machine.kept_execute_of_controls keys memory (fun _ _ _ => rfl) trivial
  | _ => rfl

theorem frameBuffer_execute (instruction : Instruction) :
    (machine.execute keys instruction).machine.frameBuffer = machine.pictured instruction := by
  cases instruction with
  | returnFromCall | jump | call | jumpWithOffset | awaitKey | skipEqualConstant
  | skipNotEqualConstant | skipEqual | skipNotEqual | skipHeld | skipNotHeld =>
      exact machine.kept_execute_of_controls keys frameBuffer (fun _ _ _ => rfl) trivial
  | _ => rfl

theorem execute_withAside (architecture : Architecture) (delay sound : Timer)
    {instruction : Instruction} (hfree : ¬ instruction.UsesTimers) :
    ((machine.withAside architecture delay sound).execute keys instruction).result =
        (machine.execute keys instruction).result ∧
      ((machine.withAside architecture delay sound).execute keys instruction).machine =
        (machine.execute keys instruction).machine.withAside architecture delay sound := by
  cases instruction with
  | readDelay | setDelay | setSound => exact absurd trivial hfree
  | returnFromCall =>
      simp only [execute, withAside]
      cases machine.stack.pop <;> exact ⟨rfl, rfl⟩
  | call target =>
      simp only [execute, withAside]
      cases machine.stack.push (machine.counter + 2) <;> exact ⟨rfl, rfl⟩
  | awaitKey x =>
      simp only [execute, withAside]
      cases Keypad.firstPressed? keys <;> exact ⟨rfl, rfl⟩
  | skipEqualConstant | skipNotEqualConstant | skipEqual | skipNotEqual | skipHeld
  | skipNotHeld =>
      refine ⟨rfl, ?_⟩
      simp only [execute, machine_skipIf, withAside]
  | _ => exact ⟨rfl, rfl⟩

theorem machine_execute_eq_withAside {instruction : Instruction}
    (hfree : ¬ instruction.UsesTimers) :
    (machine.execute keys instruction).machine =
      (machine.execute keys instruction).machine.withAside machine.architecture machine.delay
        machine.sound :=
  (machine.execute_withAside keys machine.architecture machine.delay machine.sound hfree).2

theorem exists_counter_step :
    ∃ counter, (machine.step keys).machine =
      { (machine.execute keys machine.instruction).machine with counter } := by
  simp only [step]
  split
  · exact ⟨_, rfl⟩
  · exact ⟨(machine.execute keys machine.instruction).machine.counter, rfl⟩

theorem kept_step {α : Type} (kept : Machine → α)
    (hkept : ∀ (state : Machine) (counter : Address),
      kept { state with counter } = kept state) :
    kept (machine.step keys).machine =
      kept (machine.execute keys machine.instruction).machine := by
  obtain ⟨counter, hstep⟩ := machine.exists_counter_step keys
  rw [hstep]
  exact hkept _ counter

theorem memory_step :
    (machine.step keys).machine.memory =
      machine.memory.write machine.index (machine.stored machine.instruction) :=
  (machine.kept_step keys memory fun _ _ => rfl).trans
    (machine.memory_execute keys machine.instruction)

theorem frameBuffer_step :
    (machine.step keys).machine.frameBuffer = machine.pictured machine.instruction :=
  (machine.kept_step keys frameBuffer fun _ _ => rfl).trans
    (machine.frameBuffer_execute keys machine.instruction)

end Machine

end Chip8
