import Chip8.Instruction.Encode
import Chip8.Machine.History
import Chip8.Proofs.Machine.Arithmetic
import Chip8.Proofs.Machine.Effects
import Chip8.Proofs.Machine.Transfers

namespace Chip8

/-- A shift of one register into another, a jump with offset whose address has a leading digit, or
a block transfer. -/
def Word.Ambiguous (word : Word) : Prop :=
  (word.family = 0x8 ∧ (word.n = 0x6 ∨ word.n = 0xE) ∧ word.x ≠ word.y) ∨
    (word.family = 0xB ∧ word.x ≠ 0) ∨
    (word.family = 0xF ∧ (word.nn = 0x55 ∨ word.nn = 0x65))

instance (word : Word) : Decidable word.Ambiguous :=
  inferInstanceAs (Decidable (_ ∨ _ ∨ _))

namespace Instruction

variable {word : Word}

theorem decodeArithmetic_chip_eq_iff :
    decodeArithmetic .chip word = decodeArithmetic .cosmac word ↔
      ((word.n = 0x6 ∨ word.n = 0xE) → word.x = word.y) := by
  have hright : word.n = 0x6 ↔ word.n.toNat = 0x6 := UInt8.toNat_inj.symm
  have hleft : word.n = 0xE ↔ word.n.toNat = 0xE := UInt8.toNat_inj.symm
  rw [hright, hleft]
  unfold decodeArithmetic
  split <;> simp_all [shiftSource]

theorem decodeTransfer_chip_eq_iff :
    decodeTransfer .chip word = decodeTransfer .cosmac word ↔
      ¬ (word.nn = 0x55 ∨ word.nn = 0x65) := by
  have hstore : word.nn = 0x55 ↔ word.nn.toNat = 0x55 := UInt8.toNat_inj.symm
  have hload : word.nn = 0x65 ↔ word.nn.toNat = 0x65 := UInt8.toNat_inj.symm
  rw [hstore, hload]
  unfold decodeTransfer
  split <;> simp_all [advancesIndex]

theorem decode_chip_eq_decode_cosmac_iff :
    decode .chip word = decode .cosmac word ↔ ¬ word.Ambiguous := by
  unfold decode Word.Ambiguous
  split <;>
    simp_all [decodeArithmetic_chip_eq_iff, decodeTransfer_chip_eq_iff, offsetRegister]

end Instruction

namespace Machine

def withArchitecture (machine : Machine) (architecture : Architecture) : Machine :=
  { machine with architecture }

/-- The machines are the same, but the first is of the newer lineage and the second of the older. -/
structure Counterparts (chip cosmac : Machine) : Prop where
  architecture_eq : chip.architecture = .chip
  eq_withArchitecture : cosmac = chip.withArchitecture .cosmac

section Execution

variable (machine : Machine) (architecture : Architecture) (keys : KeyState)

theorem execute_withArchitecture (instruction : Instruction) :
    ((machine.withArchitecture architecture).execute keys instruction).result =
        (machine.execute keys instruction).result ∧
      ((machine.withArchitecture architecture).execute keys instruction).machine =
        (machine.execute keys instruction).machine.withArchitecture architecture := by
  by_cases huses : instruction.UsesTimers
  · cases instruction with
    | readDelay | setDelay | setSound => exact ⟨rfl, rfl⟩
    | _ => exact huses.elim
  · obtain ⟨hresult, hmachine⟩ :=
      machine.execute_withAside keys architecture machine.delay machine.sound huses
    refine ⟨hresult, hmachine.trans ?_⟩
    rw [machine.machine_execute_eq_withAside keys huses]
    rfl

variable {machine architecture}

theorem step_withArchitecture
    (hreads : Instruction.decode architecture machine.fetch = machine.instruction) :
    ((machine.withArchitecture architecture).step keys).result = (machine.step keys).result ∧
      ((machine.withArchitecture architecture).step keys).machine =
        (machine.step keys).machine.withArchitecture architecture := by
  have hinstruction : (machine.withArchitecture architecture).instruction =
      machine.instruction := hreads
  obtain ⟨hresult, hmachine⟩ :=
    machine.execute_withArchitecture architecture keys machine.instruction
  simp only [step, hinstruction, hresult, hmachine, true_and]
  split <;> rfl

theorem architecture_step : (machine.step keys).machine.architecture = machine.architecture := by
  have hsame : (machine.step keys).machine =
      (machine.step keys).machine.withArchitecture machine.architecture :=
    (step_withArchitecture keys rfl).2
  rw [hsame]
  rfl

end Execution

namespace Counterparts

variable {chip cosmac : Machine}

theorem step (hcounterparts : Counterparts chip cosmac) (hword : ¬ chip.fetch.Ambiguous)
    (keys : KeyState) :
    (chip.step keys).result = (cosmac.step keys).result ∧
      Counterparts (chip.step keys).machine (cosmac.step keys).machine := by
  obtain ⟨hchip, rfl⟩ := hcounterparts
  have hreads : Instruction.decode .cosmac chip.fetch = chip.instruction := by
    rw [instruction, hchip]
    exact (Instruction.decode_chip_eq_decode_cosmac_iff.mpr hword).symm
  obtain ⟨hresult, hmachine⟩ := step_withArchitecture keys hreads
  exact ⟨hresult.symm, (architecture_step keys).trans hchip, hmachine⟩

theorem load (hcounterparts : Counterparts chip cosmac) (program : List UInt8) :
    Counterparts (chip.load program).machine (cosmac.load program).machine := by
  obtain ⟨hchip, rfl⟩ := hcounterparts
  simp only [Machine.load, withArchitecture]
  cases chip.memory.load program <;> exact ⟨hchip, rfl⟩

theorem tick (hcounterparts : Counterparts chip cosmac) :
    Counterparts chip.tick cosmac.tick := by
  obtain ⟨hchip, rfl⟩ := hcounterparts
  exact ⟨hchip, rfl⟩

end Counterparts

theorem lockstep_counterparts :
    Lockstep Counterparts (· = ·) (fun word => ¬ word.Ambiguous) where
  step := Counterparts.step
  tick := Counterparts.tick
  load := Counterparts.load

/-- Counterparts answer alike and stay counterparts as long as no word is ambiguous. -/
theorem lineages_agree_on_unambiguous_words {chip cosmac : Machine}
    (hcounterparts : Counterparts chip cosmac) {operations : List Operation}
    (hwords : ∀ word ∈ chip.words operations, ¬ word.Ambiguous) :
    cosmac.results operations = chip.results operations ∧
      List.Forall₂ Counterparts (chip.states operations) (cosmac.states operations) := by
  obtain ⟨hstates, hresults⟩ := lockstep_counterparts.run hcounterparts hwords
  rw [List.forall₂_eq_eq_eq] at hresults
  exact ⟨hresults.symm, hstates⟩

/-- A program that shifts a register in place, and then writes to a word that is ambiguous before
it runs that word. -/
theorem lineages_agree_on_unambiguous_words_shift :
    let chip : Machine :=
      { withSeed .chip 0 with
        memory := Memory.blank.write 0 [0x80, 0x06, 0xF1, 0x33, 0x81, 0x26]
        registers := (Registers.initial.set 0 7).set 1 0xEE
        counter := 0
        index := 5 }
    let operations : List Operation := List.replicate 3 (.step .idle)
    Counterparts chip (chip.withArchitecture .cosmac) ∧
      (∀ word ∈ chip.words operations, ¬ word.Ambiguous) ∧
      (chip.withArchitecture .cosmac).results operations = chip.results operations := by
  intro chip operations
  have hcounterparts : Counterparts chip (chip.withArchitecture .cosmac) := ⟨rfl, rfl⟩
  have hwords : ∀ word ∈ chip.words operations, ¬ word.Ambiguous :=
    List.forall_iff_forall_mem.mp (by decide)
  exact ⟨hcounterparts, hwords,
    (lineages_agree_on_unambiguous_words hcounterparts hwords).1⟩

end Machine

open Instruction (assemble assembleByte fields_assemble fields_assembleByte)

/-! The ambiguous words of the older lineage, as the newer lineage would have to write them: a shift
comes after a copy of its source, a block transfer is followed by a move of I, and a jump with
offset finds V0 in the register that the newer lineage adds. -/

namespace Arithmetic

def Shifts : Arithmetic → Prop
  | .shiftRight | .shiftLeft => True
  | _ => False

theorem Shifts.congr {operation : Arithmetic} (hshifts : operation.Shifts)
    {operands others : Operands} (hsource : operands.source = others.source) :
    operation.value operands = operation.value others ∧
      operation.flag operands = operation.flag others := by
  cases operation with
  | shiftRight | shiftLeft => simp only [value, flag, hsource, and_self]
  | add | subtract | subtractFrom => exact hshifts.elim

end Arithmetic

namespace Machine

variable (machine : Machine) (keys : KeyState) {word : Word}

theorem executeWord_copy (hfamily : word.family = 0x8) (hdigit : word.n = 0x0) :
    machine.executeWord keys word =
      .next (machine.setRegister word.x (machine.registers.get word.y)) := by
  simp only [executeWord, Instruction.decode, hfamily, Instruction.decodeArithmetic, hdigit]
  rfl

theorem executeWord_storeBlock (hfamily : word.family = 0xF) (hcode : word.nn = 0x55) :
    machine.executeWord keys word =
      .next
        { machine with
          memory := machine.storedBlock word.x
          index :=
            machine.indexBehind word.x (Instruction.advancesIndex machine.architecture) } := by
  rw [executeWord, Instruction.decode_eq_storeBlock_iff.mpr ⟨⟨hfamily, hcode⟩, rfl, rfl⟩,
    execute_storeBlock]

theorem executeWord_loadBlock (hfamily : word.family = 0xF) (hcode : word.nn = 0x65) :
    machine.executeWord keys word =
      .next
        { machine with
          registers := machine.loadedBlock word.x
          index :=
            machine.indexBehind word.x (Instruction.advancesIndex machine.architecture) } := by
  rw [executeWord, Instruction.decode_eq_loadBlock_iff.mpr ⟨⟨hfamily, hcode⟩, rfl, rfl⟩,
    execute_loadBlock]

theorem executeWord_jumpWithOffset (hfamily : word.family = 0xB) :
    machine.executeWord keys word =
      .redirect machine
        ((word.nnn + (machine.registers.get
          (Instruction.offsetRegister machine.architecture word)).toUInt16) &&& 0x0FFF) := by
  rw [executeWord, Instruction.decode_eq_jumpWithOffset_iff.mpr ⟨hfamily, rfl, rfl⟩]
  rfl

theorem setWithFlag_setRegister (register value other : UInt8) (flag : Bool) :
    (machine.setRegister register value).setWithFlag register other flag =
      machine.setWithFlag register other flag := by
  simp only [setWithFlag, setRegister, Registers.set_set]

theorem indexBehind_true (last : UInt8) :
    machine.indexBehind last true = UInt16.ofNat (machine.index.toNat + last.toNat + 1) := by
  rw [← UInt16.toNat_inj, toNat_indexBehind, if_pos rfl, UInt16.toNat_ofNat']

namespace Counterparts

variable {chip cosmac : Machine} (hcounterparts : Counterparts chip cosmac)

include hcounterparts

theorem shift {operation : Arithmetic} (hshifts : operation.Shifts) {copy : Word}
    (hfamily : word.family = 0x8) (hdigit : word.n = operation.digit)
    (hcopyFamily : copy.family = 0x8) (hcopyDigit : copy.n = 0x0)
    (hx : copy.x = word.x) (hy : copy.y = word.y) :
    let copied := chip.executeWord keys copy
    let shifted := copied.machine.executeWord keys word
    let older := cosmac.executeWord keys word
    copied.result = .ok .next ∧ shifted.result = .ok .next ∧ older.result = .ok .next ∧
      Counterparts shifted.machine older.machine := by
  intro copied shifted older
  obtain ⟨hchip, rfl⟩ := hcounterparts
  have hcopied : copied = .next (chip.setRegister word.x (chip.registers.get word.y)) := by
    simp only [copied, chip.executeWord_copy keys hcopyFamily hcopyDigit, hx, hy]
  have hsource : (copied.machine.operands word).source =
      ((chip.withArchitecture .cosmac).operands word).source := by
    simp only [operands, hcopied, Outcome.next, setRegister, hchip, withArchitecture]
    exact Registers.get_set_self _ _ _
  obtain ⟨hvalue, hflag⟩ := hshifts.congr hsource
  have hshifted := copied.machine.executeWord_arithmetic keys operation hfamily hdigit
  have holder :=
    (chip.withArchitecture .cosmac).executeWord_arithmetic keys operation hfamily hdigit
  refine ⟨by rw [hcopied]; rfl, by simp only [shifted, hshifted]; rfl,
    by simp only [older, holder]; rfl, ?_⟩
  simp only [shifted, older, hshifted, holder, hvalue, hflag]
  -- The copy lies where the shift puts its value, so that nothing is left of it.
  simp only [hcopied, Outcome.next, setWithFlag_setRegister]
  exact ⟨hchip, rfl⟩

theorem transfer (hfamily : word.family = 0xF) (hcode : word.nn = 0x55 ∨ word.nn = 0x65) :
    let transferred := chip.executeWord keys word
    let older := cosmac.executeWord keys word
    transferred.result = .ok .next ∧ older.result = .ok .next ∧
      Counterparts
        { transferred.machine with
          index := UInt16.ofNat (chip.index.toNat + word.x.toNat + 1) }
        older.machine := by
  obtain ⟨hchip, rfl⟩ := hcounterparts
  rw [← indexBehind_true]
  rcases hcode with hcode | hcode
  · simp only [executeWord_storeBlock _ keys hfamily hcode]
    exact ⟨rfl, rfl, hchip, rfl⟩
  · simp only [executeWord_loadBlock _ keys hfamily hcode]
    exact ⟨rfl, rfl, hchip, rfl⟩

theorem jump (hfamily : word.family = 0xB) :
    let jumped := (chip.setRegister word.x (chip.registers.get 0)).executeWord keys word
    let older := cosmac.executeWord keys word
    jumped.result = .ok .redirected ∧ older.result = .ok .redirected ∧
      Counterparts (jumped.machine.setRegister word.x (chip.registers.get word.x))
        older.machine := by
  obtain ⟨hchip, rfl⟩ := hcounterparts
  simp only [executeWord_jumpWithOffset _ keys hfamily]
  refine ⟨rfl, rfl, hchip, ?_⟩
  simp only [Outcome.redirect, setRegister, withArchitecture, hchip, Instruction.offsetRegister,
    Registers.get_set_self, Registers.set_set, Registers.set_get]

end Counterparts

/-- A shift on the older lineage is a copy of its source and a shift on the newer. A block transfer
there is one on the newer, after which I is set past the block. A jump with offset there is one on
the newer, from a machine with V0 in the register that it adds, which is put back. -/
theorem newer_words_make_up_older {chip cosmac : Machine}
    (hcounterparts : Counterparts chip cosmac) (keys : KeyState) {x y : UInt8} (hx : x < 16)
    (hy : y < 16) :
    (∀ digit : UInt8, digit = 0x6 ∨ digit = 0xE →
      let copied := chip.executeWord keys (assemble 0x8 x y 0x0)
      let shifted := copied.machine.executeWord keys (assemble 0x8 x y digit)
      let older := cosmac.executeWord keys (assemble 0x8 x y digit)
      copied.result = .ok .next ∧ shifted.result = .ok .next ∧ older.result = .ok .next ∧
        Counterparts shifted.machine older.machine) ∧
      (∀ code : UInt8, code = 0x55 ∨ code = 0x65 →
        let transferred := chip.executeWord keys (assembleByte 0xF x code)
        let older := cosmac.executeWord keys (assembleByte 0xF x code)
        transferred.result = .ok .next ∧ older.result = .ok .next ∧
          Counterparts
            { transferred.machine with
              index := UInt16.ofNat (chip.index.toNat + x.toNat + 1) }
            older.machine) ∧
      ∀ nn : UInt8,
        let jumped := (chip.setRegister x (chip.registers.get 0)).executeWord keys
          (assembleByte 0xB x nn)
        let older := cosmac.executeWord keys (assembleByte 0xB x nn)
        jumped.result = .ok .redirected ∧ older.result = .ok .redirected ∧
          Counterparts (jumped.machine.setRegister x (chip.registers.get x)) older.machine := by
  refine ⟨fun digit hdigit => ?_, fun code hcode => ?_, fun nn => ?_⟩
  · obtain ⟨operation, hshifts, rfl⟩ : ∃ operation : Arithmetic,
        operation.Shifts ∧ operation.digit = digit := by
      rcases hdigit with rfl | rfl
      · exact ⟨.shiftRight, trivial, rfl⟩
      · exact ⟨.shiftLeft, trivial, rfl⟩
    have hfamily : 0x8 < 16 := by decide
    have hlt : operation.digit < 16 := by cases operation <;> decide
    have hzero : (0x0 : UInt8) < 16 := by decide
    obtain ⟨hword, hwordX, hwordY, hdigit⟩ := fields_assemble hfamily hx hy hlt
    obtain ⟨hcopy, hcopyX, hcopyY, hcopyDigit⟩ := fields_assemble hfamily hx hy hzero
    exact hcounterparts.shift keys hshifts hword hdigit hcopy hcopyDigit
      (hcopyX.trans hwordX.symm) (hcopyY.trans hwordY.symm)
  · have hfamily : 0xF < 16 := by decide
    obtain ⟨hword, hwordX, hnn⟩ := fields_assembleByte hfamily hx code
    have htransfer := hcounterparts.transfer keys hword (by rwa [hnn])
    rwa [hwordX] at htransfer
  · have hfamily : 0xB < 16 := by decide
    obtain ⟨hword, hwordX, -⟩ := fields_assembleByte hfamily hx nn
    have hjump := hcounterparts.jump keys hword
    rwa [hwordX] at hjump

/-- A shift into the flag register, a load of all registers around the end of the memory, and a jump
with the flag register in its address. -/
theorem newer_words_make_up_older_in_flag :
    let chip : Machine :=
      { withSeed .chip 0 with
        memory := Memory.blank.write 0 [0x77]
        registers := ((Registers.initial.set 0 0x21).set 3 0x81).set 15 0x02
        index := 0xFFFF }
    let cosmac := chip.withArchitecture .cosmac
    let copied := (chip.executeWord .idle 0x8F30).machine
    let loaded := (chip.executeWord .idle 0xFF65).machine
    let jumped := ((chip.setRegister 15 0x21).executeWord .idle 0xBF10).machine
    (Counterparts chip cosmac ∧ (15 : UInt8) < 16 ∧ (3 : UInt8) < 16 ∧
      ((0xE : UInt8) = 0x6 ∨ (0xE : UInt8) = 0xE) ∧
      ((0x65 : UInt8) = 0x55 ∨ (0x65 : UInt8) = 0x65)) ∧
      copied.registers.flag = 0x81 ∧
      Counterparts (copied.executeWord .idle 0x8F3E).machine
        (cosmac.executeWord .idle 0x8F3E).machine ∧
      loaded.registers.get 1 = 0x77 ∧
      Counterparts { loaded with index := 0x000F } (cosmac.executeWord .idle 0xFF65).machine ∧
      jumped.counter = 0xF31 ∧
      Counterparts (jumped.setRegister 15 0x02) (cosmac.executeWord .idle 0xBF10).machine := by
  intro chip
  have hcounterparts : Counterparts chip (chip.withArchitecture .cosmac) := ⟨rfl, rfl⟩
  have hx : (15 : UInt8) < 16 := by decide
  have hy : (3 : UInt8) < 16 := by decide
  obtain ⟨hshift, htransfer, hjump⟩ :=
    newer_words_make_up_older hcounterparts .idle hx hy
  have hindex : UInt16.ofNat (chip.index.toNat + (15 : UInt8).toNat + 1) = 0x000F := by decide
  rw [hindex] at htransfer
  intro cosmac copied loaded jumped
  refine ⟨⟨hcounterparts, hx, hy, .inr rfl, .inr rfl⟩, by decide, ?_, by decide, ?_,
    by decide, ?_⟩
  · exact (hshift 0xE (.inr rfl)).2.2.2
  · exact (htransfer 0x65 (.inr rfl)).2.2
  · exact (hjump 0x10).2.2

end Machine

end Chip8
