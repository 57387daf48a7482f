import Chip8.Machine.History
import Chip8.Proofs.Machine.Course

namespace Chip8

/-! The twelve bits of an address that matter. Every access folds an address, every sum keeps the
difference of two congruent ones a multiple of the memory's size, and only the addition to I tells
them apart, by its flag. -/

/-- The addresses fall on the same place of the memory. -/
def Address.Congruent (first second : Address) : Prop :=
  first.toNat % 4096 = second.toNat % 4096

instance (first second : Address) : Decidable (Address.Congruent first second) :=
  inferInstanceAs (Decidable (_ = _))

theorem Address.Congruent.add {first second : Address}
    (hcongruent : Address.Congruent first second) (distance : Address) :
    Address.Congruent (first + distance) (second + distance) := by
  simp only [Address.Congruent, UInt16.toNat_add] at *
  omega

inductive Fault.Congruent : Fault → Fault → Prop
  | underflow : Congruent .stackUnderflow .stackUnderflow
  | overflow {first second : Address} (haddress : Address.Congruent first second) :
      Congruent (.stackOverflow first) (.stackOverflow second)

inductive Alike {α : Type} (Related : α → α → Prop) : Except Fault α → Except Fault α → Prop
  | ok {first second : α} (hrelated : Related first second) :
      Alike Related (.ok first) (.ok second)
  | error {first second : Fault} (hfault : Fault.Congruent first second) :
      Alike Related (.error first) (.error second)

namespace Memory

variable {first second : Address}

theorem fold_congr (hcongruent : Address.Congruent first second) : fold first = fold second :=
  Fin.ext hcongruent

theorem word_congr (memory : Memory) (hcongruent : Address.Congruent first second) :
    memory.word first = memory.word second := by
  simp only [word, get, fold_congr hcongruent, fold_congr (hcongruent.add 1)]

theorem read_congr (memory : Memory) (hcongruent : Address.Congruent first second) (count : Nat) :
    memory.read first count = memory.read second count := by
  simp only [read, get, fold_add, fold_congr hcongruent]

theorem write_congr (memory : Memory) (hcongruent : Address.Congruent first second)
    (values : List UInt8) : memory.write first values = memory.write second values := by
  induction values generalizing memory first second with
  | nil => rfl
  | cons value rest ih =>
      have hset : memory.set first value = memory.set second value := by
        simp only [set, fold_congr hcongruent]
      rw [write_cons, write_cons, hset]
      exact ih _ (hcongruent.add 1)

end Memory

namespace CallStack

/-- The stacks have congruent entries in the same live slots, and the same in the others. -/
structure Congruent (first second : CallStack) : Prop where
  depth_eq : first.depth = second.depth
  live (slot : Fin 16) (hlive : slot.val < first.depth) :
    Address.Congruent first.slots[slot] second.slots[slot]
  free (slot : Fin 16) (hfree : first.depth ≤ slot.val) :
    first.slots[slot] = second.slots[slot]

namespace Congruent

variable {first second : CallStack}

theorem push (hstacks : Congruent first second) {pushed otherPushed : Address}
    (haddress : Address.Congruent pushed otherPushed) :
    Alike Congruent (first.push pushed) (second.push otherPushed) := by
  obtain ⟨hdepth, hlive, hfree⟩ := hstacks
  unfold CallStack.push
  by_cases hroom : first.depth < 16
  · rw [dif_pos hroom, dif_pos (hdepth ▸ hroom)]
    refine .ok ⟨congrArg (· + 1) hdepth, ?_, ?_⟩
    · intro slot (hslot : slot.val < first.depth + 1)
      simp only [Fin.getElem_fin, Vector.getElem_set, ← hdepth]
      by_cases hpushed : first.depth = slot.val
      · rw [if_pos hpushed, if_pos hpushed]
        exact haddress
      · rw [if_neg hpushed, if_neg hpushed]
        exact hlive slot (by omega)
    · intro slot (hslot : first.depth + 1 ≤ slot.val)
      have hpushed : first.depth ≠ slot.val := Nat.ne_of_lt hslot
      simp only [Fin.getElem_fin, Vector.getElem_set, ← hdepth, if_neg hpushed]
      exact hfree slot (Nat.le_of_lt hslot)
  · rw [dif_neg hroom, dif_neg (hdepth ▸ hroom)]
    exact .error (.overflow haddress)

theorem pop (hstacks : Congruent first second) :
    Alike (fun popped otherPopped => Address.Congruent popped.1 otherPopped.1 ∧
      Congruent popped.2 otherPopped.2) first.pop second.pop := by
  obtain ⟨hdepth, hlive, hfree⟩ := hstacks
  rcases first with ⟨slots, depth, hle⟩
  rcases second with ⟨otherSlots, otherDepth, hotherLe⟩
  simp only at hdepth hlive hfree
  subst hdepth
  cases depth with
  | zero => exact .error .underflow
  | succ depth =>
      -- The popped slot is cleared, so that it may count as free.
      refine .ok ⟨hlive ⟨depth, by omega⟩ (Nat.lt_succ_self depth), rfl, ?_, ?_⟩
      · intro slot (hslot : slot.val < depth)
        have hpopped : depth ≠ slot.val := (Nat.ne_of_lt hslot).symm
        simp only [Fin.getElem_fin, Vector.getElem_set, if_neg hpopped]
        exact hlive slot (Nat.lt_succ_of_lt hslot)
      · intro slot (hslot : depth ≤ slot.val)
        simp only [Fin.getElem_fin, Vector.getElem_set]
        by_cases hpopped : depth = slot.val
        · rw [if_pos hpopped, if_pos hpopped]
        · rw [if_neg hpopped, if_neg hpopped]
          exact hfree slot (by omega)

end Congruent

end CallStack

def Word.AddsIndex (word : Word) : Prop :=
  word.family = 0xF ∧ word.nn = 0x1E

instance (word : Word) : Decidable word.AddsIndex :=
  inferInstanceAs (Decidable (_ ∧ _))

namespace Machine

/-- The machines agree but for the counter, I and the live stack entries, which are congruent. -/
structure Congruent (first second : Machine) : Prop where
  counter : Address.Congruent first.counter second.counter
  index : Address.Congruent first.index second.index
  stack : CallStack.Congruent first.stack second.stack
  rest : second =
    { first with counter := second.counter, index := second.index, stack := second.stack }

def CongruentButFlag (first second : Machine) : Prop :=
  Congruent (first.setRegister Registers.flagRegister 0)
    (second.setRegister Registers.flagRegister 0)

structure Outcome.Congruent (first second : Outcome Advance) : Prop where
  machine : Machine.Congruent first.machine second.machine
  result : Alike (· = ·) first.result second.result

namespace Congruent

variable {first second : Machine}

theorem exists_eq (hcongruent : Congruent first second) :
    ∃ counter index stack, second = { first with counter, index, stack } :=
  ⟨_, _, _, hcongruent.rest⟩

theorem fetch_eq (hcongruent : Congruent first second) : first.fetch = second.fetch := by
  rw [hcongruent.rest, fetch, first.memory.word_congr hcongruent.counter]
  rfl

theorem instruction_eq (hcongruent : Congruent first second) :
    first.instruction = second.instruction := by
  have harchitecture : first.architecture = second.architecture := by rw [hcongruent.rest]
  rw [instruction, instruction, harchitecture, hcongruent.fetch_eq]

theorem advance (hcongruent : Congruent first second) :
    Congruent first.advance second.advance := by
  obtain ⟨hcounter, hindex, hstack, hrest⟩ := hcongruent
  refine ⟨hcounter.add 2, hindex, hstack, ?_⟩
  rw [hrest]
  rfl

theorem skipIf (hcongruent : Congruent first second) (condition : Bool) :
    Outcome.Congruent (first.skipIf condition) (second.skipIf condition) := by
  cases condition with
  | false => exact ⟨hcongruent, .ok rfl⟩
  | true => exact ⟨hcongruent.advance, .ok rfl⟩

theorem execute (hcongruent : Congruent first second) (keys : KeyState)
    {instruction : Instruction} (hinstruction : ∀ x, instruction ≠ .addIndex x) :
    Outcome.Congruent (first.execute keys instruction) (second.execute keys instruction) := by
  obtain ⟨counter, index, stack, rfl⟩ := hcongruent.exists_eq
  have hcounter : Address.Congruent first.counter counter := hcongruent.counter
  have hindex : Address.Congruent first.index index := hcongruent.index
  have hstack : CallStack.Congruent first.stack stack := hcongruent.stack
  -- The two machines now share all but these three, so that what an instruction does to the rest
  -- is the same by definition.
  cases instruction with
  | addIndex x => exact absurd rfl (hinstruction x)
  | returnFromCall =>
      have hpop := hstack.pop
      simp only [Machine.execute]
      generalize first.stack.pop = popped at hpop
      generalize stack.pop = otherPopped at hpop
      cases hpop with
      | ok hpopped => exact ⟨⟨hpopped.1, hindex, hpopped.2, rfl⟩, .ok rfl⟩
      | error hfault => exact ⟨hcongruent, .error hfault⟩
  | call target =>
      have hpush := hstack.push (hcounter.add 2)
      simp only [Machine.execute]
      generalize first.stack.push (first.counter + 2) = pushed at hpush
      generalize stack.push (counter + 2) = otherPushed at hpush
      cases hpush with
      | ok hpushed => exact ⟨⟨rfl, hindex, hpushed, rfl⟩, .ok rfl⟩
      | error hfault => exact ⟨hcongruent, .error hfault⟩
  | jump | jumpWithOffset => exact ⟨⟨rfl, hindex, hstack, rfl⟩, .ok rfl⟩
  | skipEqualConstant | skipNotEqualConstant | skipEqual | skipNotEqual | skipHeld
  | skipNotHeld => exact hcongruent.skipIf _
  | setIndex | pointGlyph => exact ⟨⟨hcounter, rfl, hstack, rfl⟩, .ok rfl⟩
  | draw x y height =>
      simp only [Machine.execute, first.memory.read_congr hindex]
      exact ⟨⟨hcounter, hindex, hstack, rfl⟩, .ok rfl⟩
  | awaitKey x =>
      simp only [Machine.execute]
      cases Keypad.firstPressed? keys with
      | none => exact ⟨hcongruent, .ok rfl⟩
      | some key => exact ⟨⟨hcounter, hindex, hstack, rfl⟩, .ok rfl⟩
  | storeDecimal x =>
      simp only [Machine.execute, first.memory.write_congr hindex]
      exact ⟨⟨hcounter, hindex, hstack, rfl⟩, .ok rfl⟩
  | storeBlock last advance =>
      simp only [Machine.execute, first.memory.write_congr hindex]
      cases advance with
      | false => exact ⟨⟨hcounter, hindex, hstack, rfl⟩, .ok rfl⟩
      | true => exact ⟨⟨hcounter, hindex.add _, hstack, rfl⟩, .ok rfl⟩
  | loadBlock last advance =>
      simp only [Machine.execute, first.memory.read_congr hindex]
      cases advance with
      | false => exact ⟨⟨hcounter, hindex, hstack, rfl⟩, .ok rfl⟩
      | true => exact ⟨⟨hcounter, hindex.add _, hstack, rfl⟩, .ok rfl⟩
  | _ => exact ⟨⟨hcounter, hindex, hstack, rfl⟩, .ok rfl⟩

theorem step (hcongruent : Congruent first second) (hword : ¬ first.fetch.AddsIndex)
    (keys : KeyState) :
    Alike (· = ·) (first.step keys).result (second.step keys).result ∧
      Congruent (first.step keys).machine (second.step keys).machine := by
  have hinstruction : ∀ x, first.instruction ≠ .addIndex x :=
    fun x hadds => hword (Instruction.decode_eq_addIndex_iff.mp hadds).1
  obtain ⟨hmachine, hresult⟩ := hcongruent.execute keys hinstruction
  simp only [Machine.step, ← hcongruent.instruction_eq]
  generalize (first.execute keys first.instruction).result = result at hresult
  generalize (second.execute keys first.instruction).result = otherResult at hresult
  cases hresult with
  | error hfault => exact ⟨.error hfault, hmachine⟩
  | @ok advance _ hsame =>
      subst hsame
      cases advance with
      | next => exact ⟨.ok rfl, hmachine.advance⟩
      | redirected | reissue => exact ⟨.ok rfl, hmachine⟩

/-- The flag of the addition to I depends on the high digit; all else does not. -/
theorem step_addsIndex (hcongruent : Congruent first second) (hword : first.fetch.AddsIndex)
    (keys : KeyState) :
    (first.step keys).result = .ok .next ∧ (second.step keys).result = .ok .next ∧
      CongruentButFlag (first.step keys).machine (second.step keys).machine := by
  have hinstruction : first.instruction = .addIndex first.fetch.x :=
    Instruction.decode_eq_addIndex_iff.mpr ⟨hword, rfl⟩
  have hother : second.instruction = .addIndex first.fetch.x :=
    hcongruent.instruction_eq.symm.trans hinstruction
  simp only [Machine.step, hinstruction, hother]
  generalize first.fetch.x = x
  obtain ⟨counter, index, stack, rfl⟩ := hcongruent.exists_eq
  refine ⟨rfl, rfl, hcongruent.counter.add 2, hcongruent.index.add _, hcongruent.stack, ?_⟩
  have hflag : ∀ flag, (first.registers.setFlag flag).set Registers.flagRegister 0 =
      first.registers.set Registers.flagRegister 0 :=
    fun flag => Registers.set_set _ _ _ _
  simp only [Machine.execute, Outcome.next, Machine.advance, setRegister, hflag]

theorem load (hcongruent : Congruent first second) (program : List UInt8) :
    Congruent (first.load program).machine (second.load program).machine := by
  obtain ⟨counter, index, stack, rfl⟩ := hcongruent.exists_eq
  simp only [Machine.load]
  cases first.memory.load program with
  | error fault => exact hcongruent
  | ok memory => exact ⟨hcongruent.counter, hcongruent.index, hcongruent.stack, rfl⟩

theorem tick (hcongruent : Congruent first second) : Congruent first.tick second.tick := by
  obtain ⟨hcounter, hindex, hstack, hrest⟩ := hcongruent
  refine ⟨hcounter, hindex, hstack, ?_⟩
  rw [hrest]
  rfl

end Congruent

theorem lockstep_congruent :
    Lockstep Congruent (Alike (· = ·)) (fun word => ¬ word.AddsIndex) where
  step := Congruent.step
  tick := Congruent.tick
  load := Congruent.load

/-- Congruent machines execute the same word with the same answer and stay congruent, but that the
addition to I may set the flag in one of them only. Without it they stay congruent for good. -/
theorem addresses_matter_modulo_size :
    (∀ (first second : Machine) (keys : KeyState), Congruent first second →
      first.fetch = second.fetch ∧
        (¬ first.fetch.AddsIndex →
          Alike (· = ·) (first.step keys).result (second.step keys).result ∧
            Congruent (first.step keys).machine (second.step keys).machine) ∧
        (first.fetch.AddsIndex →
          (first.step keys).result = .ok .next ∧ (second.step keys).result = .ok .next ∧
            CongruentButFlag (first.step keys).machine (second.step keys).machine)) ∧
      ∀ (first second : Machine) (operations : List Operation), Congruent first second →
        (∀ word ∈ first.words operations, ¬ word.AddsIndex) →
        List.Forall₂ Congruent (first.states operations) (second.states operations) ∧
          List.Forall₂ (Alike (· = ·)) (first.results operations)
            (second.results operations) := by
  constructor
  · intro first second keys hcongruent
    exact ⟨hcongruent.fetch_eq, fun hword => hcongruent.step hword keys,
      fun hword => hcongruent.step_addsIndex hword keys⟩
  · intro first second operations hcongruent hwords
    exact lockstep_congruent.run hcongruent hwords

/-- A block stored around the end of the memory and a return, with addresses that differ in their
high digits; and an addition to I that sets the flag of one machine only. -/
theorem addresses_matter_modulo_size_block :
    let start (counter index entry : Address) : Machine :=
      { withSeed .cosmac 0 with
        memory := Memory.blank.write 0 [0xF1, 0x55, 0x00, 0xEE, 0xF0, 0x1E]
        counter, index
        stack := { slots := (Vector.replicate 16 0).set 0 entry, depth := 1 } }
    let operations : List Operation := [.step .idle, .step .idle]
    Congruent (start 0 0x1FFF 0x202) (start 0x3000 0x0FFF 0x7202) ∧
      (∀ word ∈ (start 0 0x1FFF 0x202).words operations, ¬ word.AddsIndex) ∧
      List.Forall₂ Congruent ((start 0 0x1FFF 0x202).states operations)
        ((start 0x3000 0x0FFF 0x7202).states operations) ∧
      (start 4 0x1FFF 0x202).fetch.AddsIndex ∧
      CongruentButFlag ((start 4 0x1FFF 0x202).step .idle).machine
        ((start 0x3004 0x0FFF 0x7202).step .idle).machine ∧
      ((start 4 0x1FFF 0x202).step .idle).machine.registers.flag = 1 ∧
      ((start 0x3004 0x0FFF 0x7202).step .idle).machine.registers.flag = 0 := by
  intro start operations
  have hcongruent : Congruent (start 0 0x1FFF 0x202) (start 0x3000 0x0FFF 0x7202) :=
    ⟨by decide, by decide, ⟨rfl, by decide, by decide⟩, rfl⟩
  have hadding : Congruent (start 4 0x1FFF 0x202) (start 0x3004 0x0FFF 0x7202) :=
    ⟨by decide, by decide, ⟨rfl, by decide, by decide⟩, rfl⟩
  have hwords : ∀ word ∈ (start 0 0x1FFF 0x202).words operations, ¬ word.AddsIndex :=
    List.forall_iff_forall_mem.mp (by decide)
  have hword : (start 4 0x1FFF 0x202).fetch.AddsIndex := by decide
  obtain ⟨hstep, hrun⟩ := addresses_matter_modulo_size
  refine ⟨hcongruent, hwords, (hrun _ _ _ hcongruent hwords).1, hword,
    ((hstep _ _ .idle hadding).2.2 hword).2.2, ?_, ?_⟩ <;> decide

end Machine

end Chip8
