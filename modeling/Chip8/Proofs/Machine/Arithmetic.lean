import Chip8.Proofs.Machine.Course

namespace Chip8

/-- What an arithmetic word works on. A shift takes its source from VX on the newer lineage and
from VY on the older. -/
structure Operands where
  left : UInt8
  right : UInt8
  source : UInt8

/-- The words of family 8 that set the flag, told apart by the last digit. -/
inductive Arithmetic where
  | add | subtract | subtractFrom | shiftRight | shiftLeft

namespace Arithmetic

def digit : Arithmetic → UInt8
  | .add => 0x4
  | .subtract => 0x5
  | .shiftRight => 0x6
  | .subtractFrom => 0x7
  | .shiftLeft => 0xE

def instruction (architecture : Architecture) (word : Word) : Arithmetic → Instruction
  | .add => .add word.x word.y
  | .subtract => .subtract word.x word.y
  | .shiftRight => .shiftRight word.x (Instruction.shiftSource architecture word)
  | .subtractFrom => .subtractFrom word.x word.y
  | .shiftLeft => .shiftLeft word.x (Instruction.shiftSource architecture word)

theorem decode_eq_instruction {architecture : Architecture} {word : Word} (operation : Arithmetic)
    (hfamily : word.family = 0x8) (hdigit : word.n = operation.digit) :
    Instruction.decode architecture word = operation.instruction architecture word := by
  simp only [Instruction.decode, hfamily, Instruction.decodeArithmetic, hdigit]
  cases operation <;> rfl

def value (operands : Operands) : Arithmetic → UInt8
  | .add => operands.left + operands.right
  | .subtract => operands.left - operands.right
  | .subtractFrom => operands.right - operands.left
  | .shiftRight => operands.source >>> 1
  | .shiftLeft => operands.source <<< 1

/-- A sum that carries, a difference that does not borrow, or a bit that is shifted out. -/
def flag (operands : Operands) : Arithmetic → Bool
  | .add => 255 < operands.left.toNat + operands.right.toNat
  | .subtract => operands.right.toNat ≤ operands.left.toNat
  | .subtractFrom => operands.left.toNat ≤ operands.right.toNat
  | .shiftRight => operands.source.toNat.testBit 0
  | .shiftLeft => operands.source.toNat.testBit 7

/-- The flag makes up for what the result has lost. -/
def Exact (operands : Operands) (result flag : Int) : Arithmetic → Prop
  | .add => result + 256 * flag = operands.left.toNat + operands.right.toNat
  | .subtract => result + operands.right.toNat = operands.left.toNat + 256 * (1 - flag)
  | .subtractFrom => result + operands.left.toNat = operands.right.toNat + 256 * (1 - flag)
  | .shiftRight => 2 * result + flag = operands.source.toNat
  | .shiftLeft => result + 256 * flag = 2 * operands.source.toNat

theorem testBit_zero_eq (value : UInt8) : value.toNat.testBit 0 = (value &&& 1 == 1) := by
  have hbit : (value &&& 1).toNat = value.toNat % 2 := by
    rw [UInt8.toNat_and]
    exact Nat.and_one_is_mod _
  rw [Bool.eq_iff_iff, beq_iff_eq, ← UInt8.toNat_inj, hbit, Nat.testBit_zero, decide_eq_true_iff]
  rfl

theorem testBit_seven_eq (value : UInt8) : value.toNat.testBit 7 = (value >>> 7 == 1) := by
  have hlt := value.toNat_lt
  have hbit : (value >>> 7).toNat = value.toNat / 128 % 2 := by
    rw [UInt8.toNat_shiftRight]
    change value.toNat >>> 7 = _
    rw [Nat.shiftRight_eq_div_pow]
    omega
  rw [Bool.eq_iff_iff, beq_iff_eq, ← UInt8.toNat_inj, hbit, Nat.testBit_eq_decide_div_mod_eq,
    decide_eq_true_iff]
  rfl

theorem toNat_decide (condition : Prop) [Decidable condition] :
    (decide condition).toNat = if condition then 1 else 0 := by
  by_cases hcondition : condition <;> simp [hcondition]

theorem exact_value (operation : Arithmetic) (operands : Operands) :
    operation.Exact operands (operation.value operands).toNat (operation.flag operands).toNat := by
  obtain ⟨left, right, source⟩ := operands
  have hleft := left.toNat_lt
  have hright := right.toNat_lt
  have hsource := source.toNat_lt
  cases operation with
  | add =>
      have hvalue : (left + right).toNat = (left.toNat + right.toNat) % 256 := left.toNat_add right
      simp only [Exact, value, flag, hvalue, toNat_decide]
      split <;> omega
  | subtract =>
      have hvalue : (left - right).toNat = (256 - right.toNat + left.toNat) % 256 :=
        left.toNat_sub right
      simp only [Exact, value, flag, hvalue, toNat_decide]
      split <;> omega
  | subtractFrom =>
      have hvalue : (right - left).toNat = (256 - left.toNat + right.toNat) % 256 :=
        right.toNat_sub left
      simp only [Exact, value, flag, hvalue, toNat_decide]
      split <;> omega
  | shiftRight =>
      have hvalue : (source >>> 1).toNat = source.toNat / 2 := by
        rw [UInt8.toNat_shiftRight]
        exact Nat.shiftRight_eq_div_pow source.toNat 1
      simp only [Exact, value, flag, hvalue, Nat.testBit_zero, toNat_decide]
      split <;> omega
  | shiftLeft =>
      have hvalue : (source <<< 1).toNat = source.toNat * 2 % 256 := by
        rw [UInt8.toNat_shiftLeft]
        exact congrArg (· % 256) (Nat.shiftLeft_eq source.toNat 1)
      simp only [Exact, value, flag, hvalue, Nat.testBit_eq_decide_div_mod_eq, toNat_decide]
      split <;> omega

end Arithmetic

namespace Machine

open Registers

variable (machine : Machine) (keys : KeyState) {word : Word}

def operands (machine : Machine) (word : Word) : Operands where
  left := machine.registers.get word.x
  right := machine.registers.get word.y
  source :=
    match machine.architecture with
    | .chip => machine.registers.get word.x
    | .cosmac => machine.registers.get word.y

theorem execute_arithmetic (operation : Arithmetic) :
    machine.execute keys (operation.instruction machine.architecture word) =
      .next (machine.setWithFlag word.x (operation.value (machine.operands word))
        (operation.flag (machine.operands word))) := by
  have hsource : machine.registers.get (Instruction.shiftSource machine.architecture word) =
      (machine.operands word).source := by
    unfold Instruction.shiftSource operands
    cases machine.architecture <;> rfl
  cases operation with
  | add => rfl
  | subtract | subtractFrom =>
      simp only [Arithmetic.instruction, execute, UInt8.le_iff_toNat_le]
      rfl
  | shiftRight =>
      simp only [Arithmetic.instruction, execute, hsource, Arithmetic.flag,
        Arithmetic.testBit_zero_eq]
      rfl
  | shiftLeft =>
      simp only [Arithmetic.instruction, execute, hsource, Arithmetic.flag,
        Arithmetic.testBit_seven_eq]
      rfl

theorem executeWord_arithmetic (operation : Arithmetic) (hfamily : word.family = 0x8)
    (hdigit : word.n = operation.digit) :
    machine.executeWord keys word =
      .next (machine.setWithFlag word.x (operation.value (machine.operands word))
        (operation.flag (machine.operands word))) := by
  rw [executeWord, operation.decode_eq_instruction hfamily hdigit, execute_arithmetic]

theorem exists_executeWord_eq_setRegister
    (hword : word.family = 0x7 ∨ (word.family = 0x8 ∧ word.n < 4)) :
    ∃ value, machine.executeWord keys word = .next (machine.setRegister word.x value) := by
  unfold executeWord
  rcases hword with hfamily | ⟨hfamily, hdigit⟩
  · simp only [Instruction.decode, hfamily]
    exact ⟨machine.registers.get word.x + word.nn, rfl⟩
  · have hlt : word.n.toNat < 4 := UInt8.lt_iff_toNat_lt.mp hdigit
    have hcases : word.n.toNat = 0 ∨ word.n.toNat = 1 ∨ word.n.toNat = 2 ∨ word.n.toNat = 3 := by
      omega
    simp only [Instruction.decode, hfamily, Instruction.decodeArithmetic]
    rcases hcases with hcase | hcase | hcase | hcase <;> rw [hcase] <;> exact ⟨_, rfl⟩

section

variable (machine : Machine) {register : UInt8} (value : UInt8) (flag : Bool)

theorem get_setWithFlag_self (hregister : select register ≠ select flagRegister) :
    (machine.setWithFlag register value flag).registers.get register = value := by
  rw [setWithFlag, get_setFlag_of_ne _ _ hregister, get_set_self]

theorem get_setWithFlag_of_ne {other : UInt8} (hother : select other ≠ select register)
    (hflag : select other ≠ select flagRegister) :
    (machine.setWithFlag register value flag).registers.get other =
      machine.registers.get other := by
  rw [setWithFlag, get_setFlag_of_ne _ _ hflag, get_set, if_neg hother]

end

/-- Each arithmetic word sets the flag by the operands as they were, and where the result does not
go to the flag register, the two together give the exact integer result. It changes nothing else,
and the other words that compute leave the flag alone. -/
theorem arithmetic_is_lossless (machine : Machine) (keys : KeyState) (word : Word) :
    let outcome := machine.executeWord keys word
    let after := outcome.machine
    (∀ operation : Arithmetic, word.family = 0x8 → word.n = operation.digit →
      after.registers.flag = (if operation.flag (machine.operands word) then 1 else 0) ∧
        (word.x ≠ 0xF →
          operation.Exact (machine.operands word) (after.registers.get word.x).toNat
            after.registers.flag.toNat) ∧
        (∀ register : UInt8, register < 16 → register ≠ word.x → register ≠ 0xF →
          after.registers.get register = machine.registers.get register) ∧
        after = { machine with registers := after.registers } ∧
        (machine.fetch = word →
          (machine.step keys).result = .ok .next ∧
            (machine.step keys).machine = after.advance)) ∧
      (word.family = 0x7 ∨ (word.family = 0x8 ∧ word.n < 4) → word.x ≠ 0xF →
        after.registers.flag = machine.registers.flag) := by
  intro outcome after
  have hx (hother : word.x ≠ 0xF) : select word.x ≠ select flagRegister :=
    select_ne_flagRegister word.x_lt hother
  constructor
  · intro operation hfamily hdigit
    have houtcome : outcome = .next (machine.setWithFlag word.x
        (operation.value (machine.operands word)) (operation.flag (machine.operands word))) :=
      machine.executeWord_arithmetic keys operation hfamily hdigit
    have hflag : after.registers.flag =
        if operation.flag (machine.operands word) then 1 else 0 := by
      simp only [after, houtcome]
      exact flag_setFlag _ _
    refine ⟨hflag, ?_, ?_, ?_, ?_⟩
    · intro hother
      have hresult : after.registers.get word.x = operation.value (machine.operands word) := by
        simp only [after, houtcome]
        exact machine.get_setWithFlag_self _ _ (hx hother)
      have hbit : after.registers.flag.toNat =
          (operation.flag (machine.operands word)).toNat := by
        rw [hflag]
        cases operation.flag (machine.operands word) <;> rfl
      rw [hresult, hbit]
      exact operation.exact_value (machine.operands word)
    · intro register hregister hne hother
      simp only [after, houtcome]
      exact machine.get_setWithFlag_of_ne _ _
        (mt (select_eq_select_iff hregister word.x_lt).mp hne)
        (select_ne_flagRegister hregister hother)
    · simp only [after, houtcome]
      rfl
    · rintro rfl
      have hresult : (machine.step keys).result = .ok .next :=
        congrArg Outcome.result houtcome
      exact ⟨hresult, machine_step_of_next hresult⟩
  · intro hword hother
    obtain ⟨value, houtcome⟩ := machine.exists_executeWord_eq_setRegister keys hword
    have hkept : after.registers.flag = (machine.registers.set word.x value).flag := by
      simp only [after, outcome, houtcome]
      rfl
    rw [hkept, flag, get_set, if_neg (hx hother).symm]
    rfl

/-- The flag register shifted into another one on the older lineage, and then copied there. -/
theorem arithmetic_is_lossless_from_flag :
    let machine : Machine :=
      { withSeed .cosmac 0 with
        memory := Memory.blank.write 0 [0x81, 0xF6]
        registers := Registers.initial.set 0xF 0xAB
        counter := 0 }
    let after := (machine.executeWord .idle 0x81F6).machine
    (Word.family 0x81F6 = 0x8 ∧ Word.n 0x81F6 = Arithmetic.shiftRight.digit ∧
      Word.x 0x81F6 ≠ 0xF ∧ machine.fetch = 0x81F6) ∧
      after.registers.flag = 1 ∧
      2 * ((after.registers.get 1).toNat : Int) + after.registers.flag.toNat = 0xAB ∧
      (machine.step .idle).machine = after.advance ∧
      (Word.family 0x81F0 = 0x8 ∧ Word.n 0x81F0 < 4 ∧ Word.x 0x81F0 ≠ 0xF) ∧
      (machine.executeWord .idle 0x81F0).machine.registers.flag = 0xAB := by
  intro machine after
  have hword : Word.family 0x81F6 = 0x8 ∧ Word.n 0x81F6 = Arithmetic.shiftRight.digit ∧
      Word.x 0x81F6 ≠ 0xF := by decide
  have hcopy : Word.family 0x81F0 = 0x8 ∧ Word.n 0x81F0 < 4 ∧ Word.x 0x81F0 ≠ 0xF := by decide
  have hfetch : machine.fetch = 0x81F6 := by decide
  have hbit : Arithmetic.shiftRight.flag (machine.operands 0x81F6) = true := by decide
  have hsource : ((machine.operands 0x81F6).source.toNat : Int) = 0xAB := by decide
  have hflag : machine.registers.flag = 0xAB := by decide
  obtain ⟨hset, hexact, _, _, hstep⟩ :=
    (arithmetic_is_lossless machine .idle 0x81F6).1 .shiftRight hword.1 hword.2.1
  have hkept := (arithmetic_is_lossless machine .idle 0x81F0).2 (.inr ⟨hcopy.1, hcopy.2.1⟩)
    hcopy.2.2
  refine ⟨⟨hword.1, hword.2.1, hword.2.2, hfetch⟩, ?_, ?_, (hstep hfetch).2, hcopy, ?_⟩
  · rw [hset, hbit]
    rfl
  · exact (hexact hword.2.2).trans hsource
  · exact hkept.trans hflag

end Machine

end Chip8
