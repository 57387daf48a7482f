import Chip8.Proofs.Guarded.Parts
import Chip8.Proofs.Machine.Stores

namespace Chip8

open Guarded

structure LooseMachine where
  architecture : Architecture
  memory : Memory
  registers : Registers
  index : Address
  counter : Address
  stack : LooseStack
  frameBuffer : FrameBuffer
  delay : Timer
  sound : Timer
  random : RandomSource

structure LooseOutcome where
  machine : LooseMachine
  result : Except Fault Advance
  log : List Machine.Record := []

namespace Machine

def loose (machine : Machine) : LooseMachine :=
  { machine with stack := machine.stack.loose }

def Outcome.loose (outcome : Outcome Advance) : LooseOutcome where
  machine := outcome.machine.loose
  result := outcome.result
  log := outcome.log

end Machine

namespace LooseMachine

def next (machine : LooseMachine) : LooseOutcome where
  machine := machine
  result := .ok .next

def redirect (machine : LooseMachine) (target : Address) (log : List Machine.Record := []) :
    LooseOutcome where
  machine := { machine with counter := target }
  result := .ok .redirected
  log := log

def fault (machine : LooseMachine) (fault : Fault) : LooseOutcome where
  machine := machine
  result := .error fault

def advance (machine : LooseMachine) : LooseMachine :=
  { machine with counter := machine.counter + 2 }

def skipIf (machine : LooseMachine) (condition : Bool) : LooseOutcome :=
  next (if condition then machine.advance else machine)

def setRegister? (machine : LooseMachine) (register value : UInt8) : Option LooseOutcome := do
  let registers ← machine.registers.set? register value
  some (next { machine with registers })

def setWithFlag? (machine : LooseMachine) (register value : UInt8) (flag : Bool) :
    Option LooseOutcome := do
  let registers ← machine.registers.set? register value
  let registers ← registers.setFlag? flag
  some (next { machine with registers })

def glyph? (value : UInt8) : Option Address := do
  let offset ← fit? UInt16.size ((value &&& 0xF).toNat * Font.glyphSize)
  let start ← fit? UInt16.size (Memory.fontStart.toNat + offset)
  some (UInt16.ofNat start)

def passed? (index : Address) (last : UInt8) : (advance : Bool) → Option Address
  | false => some index
  | true => do
      let count ← fit? UInt16.size (last.toNat + 1)
      some (index + UInt16.ofNat count)

def execute? (machine : LooseMachine) (keys : KeyState) : Instruction → Option LooseOutcome
  | .clearScreen => some (next { machine with frameBuffer := .blank })
  | .returnFromCall => do
      match ← machine.stack.pop? with
      | .ok (target, stack) => some (redirect { machine with stack } target [.returned target])
      | .error fault => some (machine.fault fault)
  | .jump target => some (machine.redirect target)
  | .call target => do
      match ← machine.stack.push? (machine.counter + 2) with
      | .ok stack =>
          some (redirect { machine with stack } target [.called target machine.counter])
      | .error fault => some (machine.fault fault)
  | .skipEqualConstant x value => do
      let left ← machine.registers.get? x
      some (machine.skipIf (left == value))
  | .skipNotEqualConstant x value => do
      let left ← machine.registers.get? x
      some (machine.skipIf (left != value))
  | .skipEqual x y => do
      let left ← machine.registers.get? x
      let right ← machine.registers.get? y
      some (machine.skipIf (left == right))
  | .skipNotEqual x y => do
      let left ← machine.registers.get? x
      let right ← machine.registers.get? y
      some (machine.skipIf (left != right))
  | .setConstant x value => machine.setRegister? x value
  | .addConstant x value => do
      let registers ← machine.registers.add? x value
      some (next { machine with registers })
  | .copy x y => do
      let right ← machine.registers.get? y
      machine.setRegister? x right
  | .or x y => do
      let left ← machine.registers.get? x
      let right ← machine.registers.get? y
      machine.setRegister? x (left ||| right)
  | .and x y => do
      let left ← machine.registers.get? x
      let right ← machine.registers.get? y
      machine.setRegister? x (left &&& right)
  | .xor x y => do
      let left ← machine.registers.get? x
      let right ← machine.registers.get? y
      machine.setRegister? x (left ^^^ right)
  | .add x y => do
      let left ← machine.registers.get? x
      let right ← machine.registers.get? y
      machine.setWithFlag? x (left + right) (256 ≤ left.toNat + right.toNat)
  | .subtract x y => do
      let left ← machine.registers.get? x
      let right ← machine.registers.get? y
      machine.setWithFlag? x (left - right) (right ≤ left)
  | .subtractFrom x y => do
      let left ← machine.registers.get? x
      let right ← machine.registers.get? y
      machine.setWithFlag? x (right - left) (left ≤ right)
  | .shiftRight x source => do
      let value ← machine.registers.get? source
      let shifted ← shiftByteRight? value 1
      machine.setWithFlag? x shifted (value &&& 1 == 1)
  | .shiftLeft x source => do
      let value ← machine.registers.get? source
      let shifted ← shiftByteLeft? value 1
      let top ← shiftByteRight? value 7
      machine.setWithFlag? x shifted (top == 1)
  | .setIndex target => some (next { machine with index := target })
  | .jumpWithOffset target offset => do
      let distance ← machine.registers.get? offset
      some (machine.redirect ((target + distance.toUInt16) &&& 0x0FFF))
  | .random x mask =>
      let (byte, random) := machine.random.draw
      setRegister? { machine with random } x (byte &&& mask)
  | .draw x y height => do
      let column ← machine.registers.get? x
      let row ← machine.registers.get? y
      let sprite ← machine.memory.read? machine.index height.toNat
      let (frameBuffer, collided) ← machine.frameBuffer.paint? column row sprite
      let registers ← machine.registers.setFlag? collided
      some (next { machine with frameBuffer, registers })
  | .skipHeld x => do
      let key ← machine.registers.get? x
      some (machine.skipIf (Keypad.isHeld keys key))
  | .skipNotHeld x => do
      let key ← machine.registers.get? x
      some (machine.skipIf (!Keypad.isHeld keys key))
  | .readDelay x => machine.setRegister? x machine.delay.count
  | .awaitKey x =>
      match Keypad.firstPressed? keys with
      | some key => do
          let outcome ← machine.setRegister? x key
          some { outcome with log := [.captured key x] }
      | none => some { machine, result := .ok .reissue }
  | .setDelay x => do
      let count ← machine.registers.get? x
      some (next { machine with delay := ⟨count⟩ })
  | .setSound x => do
      let count ← machine.registers.get? x
      some (next { machine with sound := ⟨count⟩ })
  | .addIndex x => do
      let distance ← machine.registers.get? x
      let index := machine.index + distance.toUInt16
      let registers ← machine.registers.setFlag? (0x1000 ≤ index)
      some (next { machine with index, registers })
  | .pointGlyph x => do
      let digit ← machine.registers.get? x
      let index ← glyph? digit
      some (next { machine with index })
  | .storeDecimal x => do
      let value ← machine.registers.get? x
      let memory ← machine.memory.write? machine.index (Machine.decimalDigits value)
      some (next { machine with memory })
  | .storeBlock last advance => do
      let values ← machine.registers.block? (last.toNat + 1)
      let memory ← machine.memory.write? machine.index values
      let index ← passed? machine.index last advance
      some (next { machine with memory, index })
  | .loadBlock last advance => do
      let values ← machine.memory.read? machine.index (last.toNat + 1)
      let registers ← machine.registers.fill? 0 values
      let index ← passed? machine.index last advance
      some (next { machine with registers, index })
  | .unknown word => some { machine.next with log := [.skipped word machine.counter] }

def fetch? (machine : LooseMachine) : Option Word :=
  machine.memory.word? machine.counter

def step? (machine : LooseMachine) (keys : KeyState) : Option LooseOutcome := do
  let word ← machine.fetch?
  let instruction ← Instruction.decode? machine.architecture word
  let outcome ← machine.execute? keys instruction
  some
    { machine :=
        match outcome.result with
        | .ok .next => outcome.machine.advance
        | _ => outcome.machine
      result := outcome.result
      log := .executing machine.counter word instruction :: outcome.log }

def inProgram? (machine : LooseMachine) : Option Bool := do
  let stop ← fit? USize.size (Memory.programStart.toNat + machine.memory.programLength)
  if Memory.programStart.toNat ≤ machine.counter.toNat then
    let last ← fit? USize.size (machine.counter.toNat + 1)
    some (last < stop)
  else
    some false

@[simp] theorem glyph?_eq (value : UInt8) :
    glyph? value =
      some (Memory.fontStart + UInt16.ofNat (Font.glyphSize * (value.toNat % 16))) := by
  have hdigit : (value &&& 0xF).toNat = value.toNat % 16 := by
    rw [UInt8.toNat_and]
    exact Nat.and_two_pow_sub_one_eq_mod value.toNat 4
  have hlast : value.toNat % 16 * Font.glyphSize ≤ 75 :=
    Nat.mul_le_mul_right 5 (Nat.le_of_lt_succ (Nat.mod_lt _ (by decide)))
  have hoffset : value.toNat % 16 * Font.glyphSize < UInt16.size :=
    Nat.lt_of_le_of_lt hlast (by decide)
  have hstart : Memory.fontStart.toNat + value.toNat % 16 * Font.glyphSize < UInt16.size :=
    Nat.lt_of_le_of_lt (Nat.add_le_add_left hlast _) (by decide)
  simp only [glyph?, hdigit, fit?_of_lt hoffset, fit?_of_lt hstart, Option.bind_eq_bind,
    Option.bind_some, UInt16.ofNat_add, UInt16.ofNat_toNat]
  rw [Nat.mul_comm]

@[simp] theorem passed?_eq (index : Address) (last : UInt8) (advance : Bool) :
    passed? index last advance =
      some (if advance then index + UInt16.ofNat (last.toNat + 1) else index) := by
  cases advance with
  | false => rfl
  | true =>
      have hcount : last.toNat + 1 < UInt16.size :=
        Nat.lt_of_le_of_lt (Nat.succ_le_of_lt last.toNat_lt) (by decide)
      rw [passed?, fit?_of_lt hcount]
      rfl

end LooseMachine

namespace Machine

variable (machine : Machine) (keys : KeyState)

@[simp] theorem registers_loose : machine.loose.registers = machine.registers := rfl

@[simp] theorem memory_loose : machine.loose.memory = machine.memory := rfl

@[simp] theorem stack_loose : machine.loose.stack = machine.stack.loose := rfl

@[simp] theorem frameBuffer_loose : machine.loose.frameBuffer = machine.frameBuffer := rfl

@[simp] theorem index_loose : machine.loose.index = machine.index := rfl

@[simp] theorem counter_loose : machine.loose.counter = machine.counter := rfl

theorem setRegister?_loose (register value : UInt8) :
    machine.loose.setRegister? register value =
      some (Outcome.next (machine.setRegister register value)).loose := by
  simp only [LooseMachine.setRegister?, registers_loose, Registers.set?_eq, Option.bind_eq_bind,
    Option.bind_some]
  rfl

theorem setWithFlag?_loose (register value : UInt8) (flag : Bool) :
    machine.loose.setWithFlag? register value flag =
      some (Outcome.next (machine.setWithFlag register value flag)).loose := by
  simp only [LooseMachine.setWithFlag?, registers_loose, Registers.set?_eq, Registers.setFlag?_eq,
    Option.bind_eq_bind, Option.bind_some]
  rfl

theorem skipIf_loose (condition : Bool) :
    machine.loose.skipIf condition = (machine.skipIf condition).loose := by
  cases condition <;> rfl

theorem execute?_loose (instruction : Instruction) :
    machine.loose.execute? keys instruction = some (machine.execute keys instruction).loose := by
  cases instruction with
  | clearScreen | jump | setIndex | unknown => rfl
  | returnFromCall =>
      simp only [LooseMachine.execute?, execute, stack_loose, CallStack.pop?_loose,
        Option.bind_eq_bind, Option.bind_some]
      cases machine.stack.pop <;> rfl
  | call target =>
      simp only [LooseMachine.execute?, execute, stack_loose, counter_loose,
        CallStack.push?_loose, Option.bind_eq_bind, Option.bind_some]
      cases machine.stack.push (machine.counter + 2) <;> rfl
  | skipEqualConstant | skipNotEqualConstant | skipEqual | skipNotEqual | skipHeld
  | skipNotHeld =>
      simp only [LooseMachine.execute?, execute, registers_loose, Registers.get?_eq, skipIf_loose,
        Option.bind_eq_bind, Option.bind_some]
  | setConstant | readDelay => exact machine.setRegister?_loose _ _
  | random x mask =>
      exact setRegister?_loose { machine with random := machine.random.draw.2 } x
        (machine.random.draw.1 &&& mask)
  | awaitKey x =>
      simp only [LooseMachine.execute?, execute]
      cases Keypad.firstPressed? keys with
      | none => rfl
      | some key =>
          simp only [setRegister?_loose, Option.bind_eq_bind, Option.bind_some]
          rfl
  | copy | or | and | xor =>
      simp only [LooseMachine.execute?, execute, registers_loose, Registers.get?_eq,
        setRegister?_loose, Option.bind_eq_bind, Option.bind_some]
  | add | subtract | subtractFrom =>
      simp only [LooseMachine.execute?, execute, registers_loose, Registers.get?_eq,
        setWithFlag?_loose, Option.bind_eq_bind, Option.bind_some]
  | shiftRight x source =>
      have hone (value : UInt8) := shiftByteRight?_eq value (show 1 < 8 by decide)
      simp only [LooseMachine.execute?, execute, registers_loose, Registers.get?_eq, hone,
        setWithFlag?_loose, Option.bind_eq_bind, Option.bind_some]
      rfl
  | shiftLeft x source =>
      have hone (value : UInt8) := shiftByteLeft?_eq value (show 1 < 8 by decide)
      have hseven (value : UInt8) := shiftByteRight?_eq value (show 7 < 8 by decide)
      simp only [LooseMachine.execute?, execute, registers_loose, Registers.get?_eq, hone, hseven,
        setWithFlag?_loose, Option.bind_eq_bind, Option.bind_some]
      rfl
  | addConstant | jumpWithOffset | setDelay | setSound | addIndex | pointGlyph =>
      simp only [LooseMachine.execute?, execute, registers_loose, index_loose, Registers.get?_eq,
        Registers.add?_eq, Registers.setFlag?_eq, LooseMachine.glyph?_eq, Option.bind_eq_bind,
        Option.bind_some]
      rfl
  | draw x y height =>
      have hshort : (machine.memory.read machine.index height.toNat).length ≤ UInt8.size := by
        rw [Memory.length_read]
        exact Nat.le_of_lt height.toNat_lt
      simp only [LooseMachine.execute?, execute, registers_loose, memory_loose, index_loose,
        frameBuffer_loose, Registers.get?_eq, Registers.setFlag?_eq, Memory.read?_eq,
        FrameBuffer.paint?_eq _ _ _ hshort, Option.bind_eq_bind, Option.bind_some]
      rfl
  | storeDecimal | storeBlock | loadBlock =>
      simp only [LooseMachine.execute?, execute, registers_loose, memory_loose, index_loose,
        Registers.get?_eq, Registers.block?_eq, Registers.fill?_eq, Memory.read?_eq,
        Memory.write?_eq, LooseMachine.passed?_eq, Option.bind_eq_bind, Option.bind_some]
      rfl

theorem fetch?_loose : machine.loose.fetch? = some machine.fetch :=
  machine.memory.word?_eq machine.counter

theorem step?_loose : machine.loose.step? keys = some (machine.step keys).loose := by
  have hdecode : Instruction.decode? machine.loose.architecture machine.fetch =
      some machine.instruction :=
    Instruction.decode?_eq machine.architecture machine.fetch
  simp only [LooseMachine.step?, fetch?_loose, hdecode, execute?_loose, Option.bind_eq_bind,
    Option.bind_some, step]
  generalize machine.execute keys machine.instruction = outcome
  rcases outcome with ⟨after, result, log⟩
  cases result with
  | error fault => rfl
  | ok advance => cases advance <;> rfl

theorem inProgram?_loose (hlength : machine.memory.programLength ≤ Memory.programLimit) :
    machine.loose.inProgram? = some machine.inProgram := by
  have hword := USize.le_size
  have hstop : Memory.programStart.toNat + machine.memory.programLength < USize.size :=
    Nat.lt_of_le_of_lt (Nat.add_le_add_left hlength _) (Nat.lt_of_lt_of_le (by decide) hword)
  have hlast : machine.counter.toNat + 1 < USize.size :=
    Nat.lt_of_le_of_lt machine.counter.toNat_lt (Nat.lt_of_lt_of_le (by decide) hword)
  simp only [LooseMachine.inProgram?, memory_loose, counter_loose, fit?_of_lt hstop,
    fit?_of_lt hlast, Option.bind_eq_bind, Option.bind_some, inProgram]
  by_cases hstart : Memory.programStart.toNat ≤ machine.counter.toNat
  · simp [hstart]
  · simp [hstart]

theorem programLength_apply_le (hlength : machine.memory.programLength ≤ Memory.programLimit)
    (operation : Operation) :
    (machine.apply operation).memory.programLength ≤ Memory.programLimit := by
  cases operation with
  | load program =>
      by_cases hfits : program.length ≤ Memory.programLimit
      · rw [apply, load_of_fits hfits]
        exact hfits
      · rw [apply, load_of_not_fits hfits]
        exact hlength
  | step keys =>
      have hkept : (machine.apply (.step keys)).memory.programLength =
          machine.memory.programLength := machine.programLength_apply Bool.false_ne_true
      rw [hkept]
      exact hlength
  | tick => exact hlength

theorem programLength_run_le (hlength : machine.memory.programLength ≤ Memory.programLimit)
    (operations : List Operation) :
    (machine.run operations).memory.programLength ≤ Memory.programLimit := by
  induction operations generalizing machine with
  | nil => exact hlength
  | cons operation rest ih => exact ih _ (machine.programLength_apply_le hlength operation)

end Machine

namespace LooseMachine

theorem exists_loose_eq {machine : LooseMachine} (hdepth : machine.stack.depth ≤ 16) :
    ∃ strict : Machine, strict.loose = machine := by
  obtain ⟨stack, hstack⟩ := CallStack.exists_loose_eq hdepth
  refine ⟨{ machine with stack }, ?_⟩
  rw [Machine.loose, hstack]

theorem depth_loose_le (machine : Machine) : machine.loose.stack.depth ≤ 16 :=
  machine.stack.depth_le

/-- Decoding passes every check on every word, and so do fetching, executing any instruction and
stepping on every machine with at most sixteen calls in progress, which no instruction exceeds.
Asking whether the counter is inside the program needs a program length that an accepted program
leaves; every run keeps one. Each of them gives what it gives without checks. -/
theorem every_check_passes :
    (∀ architecture word,
      Instruction.decode? architecture word = some (.decode architecture word)) ∧
    (∀ architecture random operations,
      ((Machine.initial architecture random).run operations).memory.programLength ≤ 3584) ∧
    ∀ machine : LooseMachine, machine.stack.depth ≤ 16 →
      ∃ strict : Machine, strict.loose = machine ∧
        machine.fetch? = some strict.fetch ∧
        (machine.memory.programLength ≤ 3584 → machine.inProgram? = some strict.inProgram) ∧
        (∀ keys instruction, ∃ outcome,
          machine.execute? keys instruction = some outcome ∧
            outcome.machine.stack.depth ≤ 16 ∧
            outcome = (strict.execute keys instruction).loose) ∧
        ∀ keys, ∃ outcome,
          machine.step? keys = some outcome ∧
            outcome.machine.stack.depth ≤ 16 ∧
            outcome = (strict.step keys).loose := by
  refine ⟨Instruction.decode?_eq, fun architecture random operations => ?_,
    fun machine hdepth => ?_⟩
  · exact Machine.programLength_run_le _ (Nat.zero_le _) operations
  · obtain ⟨strict, rfl⟩ := exists_loose_eq hdepth
    refine ⟨strict, rfl, strict.fetch?_loose, strict.inProgram?_loose,
      fun keys instruction => ?_, fun keys => ?_⟩
    · exact ⟨_, strict.execute?_loose keys instruction, depth_loose_le _, rfl⟩
    · exact ⟨_, strict.step?_loose keys, depth_loose_le _, rfl⟩

/-- A block of all registers and more, stored from the last address on, with no call to spare. -/
theorem every_check_passes_extremes :
    let machine : LooseMachine :=
      { (Machine.withSeed .cosmac 7).loose with
        index := 0xFFFF
        counter := 0xFFFF
        stack := { slots := Vector.replicate 16 0xFFFF, depth := 16 } }
    machine.stack.depth ≤ 16 ∧ machine.memory.programLength ≤ 3584 ∧
      machine.fetch?.isSome ∧ machine.inProgram?.isSome ∧
      (machine.execute? .idle (.storeBlock 0xFF true)).isSome ∧
      (machine.execute? .idle (.draw 0xFF 0xEE 0xFF)).isSome ∧
      (machine.step? .idle).isSome := by
  intro machine
  have hdepth : machine.stack.depth ≤ 16 := Nat.le_refl 16
  have hlength : machine.memory.programLength ≤ 3584 := by decide
  obtain ⟨strict, -, hfetch, hinside, hexecute, hstep⟩ := every_check_passes.2.2 machine hdepth
  obtain ⟨_, hstore, -⟩ := hexecute .idle (.storeBlock 0xFF true)
  obtain ⟨_, hdraw, -⟩ := hexecute .idle (.draw 0xFF 0xEE 0xFF)
  obtain ⟨_, hstep, -⟩ := hstep .idle
  simp only [hfetch, hinside hlength, hstore, hdraw, hstep, Option.isSome_some, and_true]
  exact ⟨hdepth, hlength⟩

end LooseMachine

end Chip8
