import Chip8.Proofs.Machine.Folding
import Mathlib.Algebra.GroupWithZero.Nat
import Mathlib.Algebra.Order.BigOperators.Group.List
import Mathlib.Algebra.Order.Group.Nat
import Mathlib.Logic.Function.Iterate

namespace Chip8.Machine

/-- I after the value of a register has been added. -/
def addedIndex (machine : Machine) (x : UInt8) : Address :=
  machine.index + (machine.registers.get x).toUInt16

theorem sum_toNat_le (values : List UInt8) :
    (values.map UInt8.toNat).sum ≤ 255 * values.length := by
  have hvalues : ∀ value ∈ values.map UInt8.toNat, value ≤ 255 :=
    List.forall_mem_map.mpr fun value _ => Nat.le_of_lt_succ value.toNat_lt
  have hsum := List.sum_le_card_nsmul (values.map UInt8.toNat) 255 hvalues
  rwa [List.length_map, Nat.nsmul_eq_mul, Nat.mul_comm] at hsum

/-- The values that words add to I, one after the other. In between anything but I may change. -/
inductive AddsUp (first : Machine) : List UInt8 → Machine → Prop where
  | start : AddsUp first [] first
  | changed {values : List UInt8} {machine other : Machine}
      (hbefore : AddsUp first values machine) (hindex : other.index = machine.index) :
      AddsUp first values other
  | added {values : List UInt8} {machine : Machine} (hbefore : AddsUp first values machine)
      (keys : KeyState) {word : Word} (hword : word.AddsIndex) :
      AddsUp first (values ++ [machine.registers.get word.x])
        (machine.executeWord keys word).machine

section Word

variable (machine : Machine) (keys : KeyState) {word : Word} (hword : word.AddsIndex)

theorem toNat_addedIndex (x : UInt8) :
    (machine.addedIndex x).toNat =
      (machine.index.toNat + (machine.registers.get x).toNat) % UInt16.size := by
  rw [addedIndex, UInt16.toNat_add, UInt8.toNat_toUInt16]

include hword

theorem executeWord_of_addsIndex :
    machine.executeWord keys word =
      .next
        { machine with
          index := machine.addedIndex word.x
          registers := machine.registers.setFlag (0x1000 ≤ machine.addedIndex word.x) } := by
  have hinstruction : Instruction.decode machine.architecture word = .addIndex word.x :=
    Instruction.decode_eq_addIndex_iff.mpr ⟨hword, rfl⟩
  rw [executeWord, hinstruction]
  rfl

theorem index_executeWord :
    (machine.executeWord keys word).machine.index = machine.addedIndex word.x := by
  rw [machine.executeWord_of_addsIndex keys hword]
  rfl

theorem flag_executeWord :
    (machine.executeWord keys word).machine.registers.flag =
      if 0x1000 ≤ (machine.executeWord keys word).machine.index.toNat then 1 else 0 := by
  have hflag : (machine.executeWord keys word).machine.registers.flag =
      if 0x1000 ≤ machine.addedIndex word.x then 1 else 0 := by
    rw [machine.executeWord_of_addsIndex keys hword]
    simp [Outcome.next]
  rw [hflag, machine.index_executeWord keys hword]
  rfl

end Word

namespace AddsUp

variable {first machine : Machine} {values : List UInt8}

theorem toNat_index (hchain : AddsUp first values machine) :
    machine.index.toNat =
      (first.index.toNat + (values.map UInt8.toNat).sum) % UInt16.size := by
  induction hchain with
  | start => exact (Nat.mod_eq_of_lt first.index.toNat_lt).symm
  | changed _ hindex ih => rw [hindex, ih]
  | @added values machine hbefore keys word hword ih =>
      rw [index_executeWord _ _ hword, toNat_addedIndex, ih, Nat.mod_add_mod, List.map_append,
        List.sum_append, ← Nat.add_assoc]
      rfl

theorem iterate (keys : KeyState) {word : Word} (hword : word.AddsIndex)
    (hother : Registers.select word.x ≠ Registers.select Registers.flagRegister) {value : UInt8}
    (hvalue : first.registers.get word.x = value) (count : Nat) :
    let after := (fun machine => (machine.executeWord keys word).machine)^[count] first
    AddsUp first (List.replicate count value) after ∧ after.registers.get word.x = value := by
  induction count with
  | zero => exact ⟨.start, hvalue⟩
  | succ count ih =>
      obtain ⟨hchain, hkept⟩ := ih
      rw [Function.iterate_succ_apply', List.replicate_succ']
      generalize (fun machine => (machine.executeWord keys word).machine)^[count] first =
        before at *
      refine ⟨hkept ▸ hchain.added keys hword, ?_⟩
      rw [before.executeWord_of_addsIndex keys hword, ← hkept]
      exact Registers.get_setFlag_of_ne _ _ hother

end AddsUp

/-- After each of any number of additions, I is the sum in sixteen bits, and the flag tells whether
these sixteen bits lie behind the address space. As long as the sum itself fits in them, which it
does for at least 240 additions from an address, the flag tells whether the sum has left it. -/
theorem index_holds_sum_in_sixteen_bits {first machine : Machine} {values : List UInt8}
    (hchain : AddsUp first values machine) (keys : KeyState) {word : Word}
    (hword : word.AddsIndex) :
    let after := (machine.executeWord keys word).machine
    let sum := first.index.toNat +
      ((values ++ [machine.registers.get word.x]).map UInt8.toNat).sum
    after.index.toNat = sum % UInt16.size ∧ after.index.toNat % 4096 = sum % 4096 ∧
      after.registers.flag = (if 0x1000 ≤ sum % UInt16.size then 1 else 0) ∧
      (sum < UInt16.size → after.registers.flag = (if 0x1000 ≤ sum then 1 else 0)) ∧
      (first.index.toNat ≤ 0xFFF → values.length < 240 → sum < UInt16.size) ∧
      (machine.fetch = word →
        (machine.step keys).result = .ok .next ∧ (machine.step keys).machine = after.advance) := by
  intro after sum
  have hindex : after.index.toNat = sum % UInt16.size := (hchain.added keys hword).toNat_index
  have hflag : after.registers.flag = if 0x1000 ≤ sum % UInt16.size then 1 else 0 := by
    rw [← hindex]
    exact machine.flag_executeWord keys hword
  refine ⟨hindex, ?_, hflag, ?_, ?_, ?_⟩
  · rw [hindex]
    exact Nat.mod_mod_of_dvd sum (by decide)
  · intro hfits
    rw [hflag, Nat.mod_eq_of_lt hfits]
  · intro hfirst hfew
    have hvalues := sum_toNat_le (values ++ [machine.registers.get word.x])
    rw [List.length_append, List.length_singleton] at hvalues
    simp only [sum, UInt16.size]
    omega
  · rintro rfl
    have hresult : (machine.step keys).result = .ok .next :=
      congrArg Outcome.result (machine.executeWord_of_addsIndex keys hword)
    exact ⟨hresult, machine_step_of_next hresult⟩

/-- Out of the address space by a register that is then given another value, and on by the flag. -/
theorem index_holds_sum_in_sixteen_bits_by_flag :
    let first : Machine :=
      { withSeed .chip 0 with
        memory := Memory.blank.write 0 [0xFF, 0x1E]
        registers := Registers.initial.set 1 2
        counter := 0
        index := 0x0FFE }
    let left := (first.executeWord .idle 0xF11E).machine
    let machine : Machine := { left with registers := left.registers.set 1 0x99 }
    let after := (machine.executeWord .idle 0xFF1E).machine
    (AddsUp first [2] machine ∧ Word.AddsIndex 0xFF1E ∧ machine.fetch = 0xFF1E) ∧
      after.index.toNat = 0x1001 ∧ after.registers.flag = 1 ∧
      (machine.step .idle).machine = after.advance := by
  intro first left machine after
  have hleft : AddsUp first [2] left := AddsUp.start.added .idle (by decide : Word.AddsIndex 0xF11E)
  have hchain : AddsUp first [2] machine := hleft.changed rfl
  have hword : Word.AddsIndex 0xFF1E := by decide
  have hfetch : machine.fetch = 0xFF1E := by decide
  obtain ⟨hindex, _, hflag, _, _, hstep⟩ := index_holds_sum_in_sixteen_bits hchain .idle hword
  exact ⟨⟨hchain, hword, hfetch⟩, hindex.trans (by decide), hflag.trans (by decide),
    (hstep hfetch).2⟩

/-- After 241 additions of 255 to the last address the sum has left the address space, but the flag
does not tell of it, as the sixteen bits of I have gone round. -/
theorem sum_beyond_sixteen_bits_is_not_flagged :
    let first : Machine :=
      { withSeed .chip 0 with registers := Registers.initial.set 0 0xFF, index := 0x0FFF }
    let machine := (fun machine => (machine.executeWord .idle 0xF01E).machine)^[240] first
    let values := List.replicate 240 0xFF ++ [machine.registers.get (Word.x 0xF01E)]
    let after := (machine.executeWord .idle 0xF01E).machine
    (first.index.toNat ≤ 0xFFF ∧ AddsUp first (List.replicate 240 0xFF) machine ∧
        Word.AddsIndex 0xF01E) ∧
      first.index.toNat + (values.map UInt8.toNat).sum = 65550 ∧ after.registers.flag = 0 := by
  intro first machine values after
  have hword : Word.AddsIndex 0xF01E := by decide
  have hfirst : first.registers.get (Word.x 0xF01E) = 0xFF := by decide
  obtain ⟨hchain, hvalue⟩ : AddsUp first (List.replicate 240 0xFF) machine ∧
      machine.registers.get (Word.x 0xF01E) = 0xFF :=
    AddsUp.iterate .idle hword (by decide) hfirst 240
  -- What the additions leave is known by now, and is not to be computed again.
  clear_value machine
  have hsum : first.index.toNat + (values.map UInt8.toNat).sum = 65550 := by
    have hstart : first.index.toNat = 4095 := rfl
    have hbyte : UInt8.toNat 0xFF = 255 := rfl
    simp only [values, hvalue, hstart, hbyte, List.map_append, List.sum_append,
      List.map_replicate, List.sum_replicate_nat, List.map_singleton, List.sum_singleton]
  have hindex : after.index.toNat = 14 := by
    have hafter : after.index.toNat =
        (first.index.toNat + (values.map UInt8.toNat).sum) % UInt16.size :=
      (hchain.added .idle hword).toNat_index
    rw [hafter, hsum]
    rfl
  refine ⟨⟨by decide, hchain, hword⟩, hsum, ?_⟩
  rw [machine.flag_executeWord .idle hword, hindex]
  rfl

end Chip8.Machine
