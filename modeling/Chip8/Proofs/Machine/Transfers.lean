import Chip8.Machine.Execute

namespace Chip8

namespace Memory

theorem eq_of_byte_eq {first second : Memory}
    (hbyte : ∀ place, first.byte place = second.byte place)
    (hlength : first.programLength = second.programLength) : first = second := by
  obtain ⟨bytes, programLength⟩ := first
  obtain ⟨otherBytes, otherLength⟩ := second
  obtain rfl : programLength = otherLength := hlength
  have hbytes : bytes = otherBytes :=
    Vector.ext fun place hplace => hbyte ⟨place, hplace⟩
  rw [hbytes]

theorem ofNat_add_distance (address : Address) (place : Fin 4096) :
    Fin.ofNat 4096 (address.toNat + (place - fold address).val) = place := by
  apply Fin.ext
  simp only [fold, Fin.val_ofNat, Fin.val_sub]
  omega

theorem distance_ofNat_add (address : Address) {offset : Nat} (hoffset : offset < 4096) :
    (Fin.ofNat 4096 (address.toNat + offset) - fold address).val = offset := by
  simp only [fold, Fin.val_ofNat, Fin.val_sub]
  omega

theorem getElem?_read (memory : Memory) (address : Address) {count offset : Nat}
    (hoffset : offset < count) :
    (memory.read address count)[offset]? =
      some (memory.byte (Fin.ofNat 4096 (address.toNat + offset))) := by
  rw [read_eq, List.getElem?_map, List.getElem?_range hoffset]
  rfl

section

variable (memory : Memory) (address : Address) {values : List UInt8}
  (hlength : values.length ≤ 4096)

include hlength

theorem byte_write_inside {offset : Nat} (hoffset : offset < values.length) :
    some ((memory.write address values).byte (Fin.ofNat 4096 (address.toNat + offset))) =
      values[offset]? := by
  rw [byte_write _ _ hlength, distance_ofNat_add _ (Nat.lt_of_lt_of_le hoffset hlength),
    List.getElem?_eq_getElem hoffset]
  rfl

theorem byte_write_outside {place : Fin 4096}
    (hplace : ∀ offset < values.length, place ≠ Fin.ofNat 4096 (address.toNat + offset)) :
    (memory.write address values).byte place = memory.byte place := by
  have hbeyond : values.length ≤ (place - fold address).val :=
    Nat.le_of_not_lt fun hlt => hplace _ hlt (ofNat_add_distance address place).symm
  rw [byte_write _ _ hlength, List.getElem?_eq_none hbeyond]
  rfl

theorem read_write : (memory.write address values).read address values.length = values := by
  apply List.ext_getElem?
  intro offset
  by_cases hoffset : offset < values.length
  · rw [getElem?_read _ _ hoffset, memory.byte_write_inside address hlength hoffset]
  · rw [List.getElem?_eq_none (by simpa using hoffset), List.getElem?_eq_none (by omega)]

end

theorem write_read (memory : Memory) (address : Address) {count : Nat} (hcount : count ≤ 4096) :
    memory.write address (memory.read address count) = memory := by
  have hlength : (memory.read address count).length ≤ 4096 := by rwa [length_read]
  refine eq_of_byte_eq (fun place => ?_) (programLength_write _ _ _)
  rw [byte_write _ _ hlength]
  by_cases hinside : (place - fold address).val < count
  · rw [getElem?_read _ _ hinside, ofNat_add_distance]
    rfl
  · rw [List.getElem?_eq_none (by simpa using hinside)]
    rfl

end Memory

/-! A block is never as long as the memory, but one of more than sixteen registers names some of
them again. What is stored twice then is the same value, so that a store can always be loaded back,
while only a load of different registers can be stored back. -/

namespace Registers

theorem select_add (register other : UInt8) :
    select (register + other) = select register + select other := by
  apply Fin.ext
  simp only [select, UInt8.toNat_add, Fin.val_add]
  omega

theorem val_select {register : UInt8} (hregister : register < 16) :
    (select register).val = register.toNat :=
  Nat.mod_eq_of_lt (UInt8.lt_iff_toNat_lt.mp hregister)

theorem val_select_ofNat (offset : Nat) : (select (UInt8.ofNat offset)).val = offset % 16 := by
  simp only [select, UInt8.toNat_ofNat']
  omega

theorem get_ofNat_mod (registers : Registers) (offset : Nat) :
    registers.get (UInt8.ofNat (offset % 16)) = registers.get (UInt8.ofNat offset) := by
  have hselect : select (UInt8.ofNat (offset % 16)) = select (UInt8.ofNat offset) := by
    apply Fin.ext
    rw [val_select_ofNat, val_select_ofNat, Nat.mod_mod]
  exact congrArg registers.values.get hselect

/-- The registers that are reached get the values that they have in the source, and the others
keep theirs, as long as all values for one register are the same. -/
theorem get_fill (registers : Registers) (register : UInt8) {values : List UInt8}
    (source : Fin 16 → UInt8)
    (hvalues : ∀ offset value, values[offset]? = some value →
      value = source (select (register + UInt8.ofNat offset)))
    (other : UInt8) :
    (registers.fill register values).get other =
      if (select other - select register).val < values.length then source (select other)
      else registers.get other := by
  -- The registers are generalized too: a later value may go where the first one went.
  induction values generalizing registers register with
  | nil => rfl
  | cons value rest ih =>
      have hfirst : value = source (select register) := by
        simpa using hvalues 0 value rfl
      have hrest : ∀ offset later, rest[offset]? = some later →
          later = source (select (register + 1 + UInt8.ofNat offset)) := by
        intro offset later hlater
        have hnext : register + UInt8.ofNat (offset + 1) = register + 1 + UInt8.ofNat offset := by
          rw [UInt8.ofNat_add, UInt8.add_comm (UInt8.ofNat offset), UInt8.add_assoc]
          rfl
        rw [← hnext]
        exact hvalues (offset + 1) later hlater
      have hselect : select (register + 1) = select register + 1 := select_add register 1
      rw [fill_cons, ih _ _ hrest, get_set, hselect, List.length_cons]
      by_cases hother : select other = select register
      · rw [if_pos hother, hfirst, ← hother, ite_self, Fin.sub_self]
        exact (if_pos (Nat.succ_pos _)).symm
      · have hsuccessor : (select other - select register).val =
            (select other - (select register + 1)).val + 1 := by
          have hne : (select other).val ≠ (select register).val := fun heq => hother (Fin.ext heq)
          simp only [Fin.val_sub, Fin.val_add]
          omega
        simp only [if_neg hother, hsuccessor, Nat.add_lt_add_iff_right]

theorem distance_zero (register : UInt8) :
    (select register - select 0).val = (select register).val := by
  simp only [select, Fin.val_sub, UInt8.toNat_zero]
  omega

theorem getElem?_block (registers : Registers) {count offset : Nat} (hoffset : offset < count) :
    (registers.block count)[offset]? = some (registers.get (UInt8.ofNat offset)) := by
  rw [block, List.getElem?_map, List.getElem?_range hoffset]
  rfl

theorem get_fill_block (registers other : Registers) (count : Nat) (register : UInt8) :
    (registers.fill 0 (other.block count)).get register =
      if (select register).val < count then other.get register else registers.get register := by
  have hvalues : ∀ offset value, (other.block count)[offset]? = some value →
      value = other.values.get (select (0 + UInt8.ofNat offset)) := by
    intro offset value hvalue
    have hoffset : offset < count := by
      rw [← other.length_block count]
      exact (List.getElem?_eq_some_iff.mp hvalue).1
    rw [getElem?_block _ hoffset] at hvalue
    rw [← Option.some.inj hvalue, UInt8.zero_add]
    rfl
  simp only [registers.get_fill 0 other.values.get hvalues, length_block, distance_zero]
  rfl

section

variable (registers : Registers) {values : List UInt8} (hlength : values.length ≤ 16)

include hlength

theorem get_fill_zero (register : UInt8) :
    (registers.fill 0 values).get register =
      values[(select register).val]?.getD (registers.get register) := by
  have hvalues : ∀ offset value, values[offset]? = some value →
      value = values[(select (0 + UInt8.ofNat offset)).val]?.getD 0 := by
    intro offset value hvalue
    have hoffset : offset < values.length := (List.getElem?_eq_some_iff.mp hvalue).1
    have hselect : (select (0 + UInt8.ofNat offset)).val = offset := by
      rw [UInt8.zero_add, val_select_ofNat]
      exact Nat.mod_eq_of_lt (Nat.lt_of_lt_of_le hoffset hlength)
    rw [hselect, hvalue]
    rfl
  simp only [registers.get_fill 0 (fun slot => values[slot.val]?.getD 0) hvalues, distance_zero]
  split
  · rename_i hinside
    rw [List.getElem?_eq_getElem hinside]
    rfl
  · rename_i hbeyond
    rw [List.getElem?_eq_none (Nat.le_of_not_lt hbeyond)]
    rfl

theorem block_fill : (registers.fill 0 values).block values.length = values := by
  apply List.ext_getElem?
  intro offset
  by_cases hoffset : offset < values.length
  · have hselect : (select (UInt8.ofNat offset)).val = offset := by
      rw [val_select_ofNat]
      exact Nat.mod_eq_of_lt (Nat.lt_of_lt_of_le hoffset hlength)
    rw [getElem?_block _ hoffset, get_fill_zero _ hlength, hselect,
      List.getElem?_eq_getElem hoffset]
    rfl
  · rw [List.getElem?_eq_none (by simpa using hoffset), List.getElem?_eq_none (by omega)]

end

end Registers

namespace Machine

open Registers

section

variable (machine : Machine) (last : UInt8)

def indexBehind (machine : Machine) (last : UInt8) (advance : Bool) : Address :=
  if advance then machine.index + UInt16.ofNat (last.toNat + 1) else machine.index

def storedBlock (machine : Machine) (last : UInt8) : Memory :=
  machine.memory.write machine.index (machine.registers.block (last.toNat + 1))

def loadedBlock (machine : Machine) (last : UInt8) : Registers :=
  machine.registers.fill 0 (machine.memory.read machine.index (last.toNat + 1))

theorem execute_storeBlock (advance : Bool) (keys : KeyState) :
    machine.execute keys (.storeBlock last advance) =
      .next
        { machine with
          memory := machine.storedBlock last
          index := machine.indexBehind last advance } := rfl

theorem execute_loadBlock (advance : Bool) (keys : KeyState) :
    machine.execute keys (.loadBlock last advance) =
      .next
        { machine with
          registers := machine.loadedBlock last
          index := machine.indexBehind last advance } := rfl

theorem toNat_indexBehind (advance : Bool) :
    (machine.indexBehind last advance).toNat =
      if advance then (machine.index.toNat + last.toNat + 1) % UInt16.size
      else machine.index.toNat := by
  cases advance with
  | false => rfl
  | true =>
      simp only [indexBehind, if_true, UInt16.toNat_add, UInt16.toNat_ofNat', UInt16.size]
      omega

theorem length_block_le : (machine.registers.block (last.toNat + 1)).length ≤ 4096 := by
  have := last.toNat_lt
  rw [length_block]
  omega

theorem byte_storedBlock_inside {offset : Nat} (hoffset : offset ≤ last.toNat) :
    (machine.storedBlock last).byte (Fin.ofNat 4096 (machine.index.toNat + offset)) =
      machine.registers.get (UInt8.ofNat (offset % 16)) := by
  have hinside : offset < last.toNat + 1 := Nat.lt_succ_of_le hoffset
  have hbyte := machine.memory.byte_write_inside machine.index (machine.length_block_le last)
    (by rwa [length_block])
  rw [getElem?_block _ hinside] at hbyte
  rw [storedBlock, Option.some.inj hbyte, get_ofNat_mod]

theorem byte_storedBlock_outside {place : Fin 4096}
    (hplace : ∀ offset ≤ last.toNat, place ≠ Fin.ofNat 4096 (machine.index.toNat + offset)) :
    (machine.storedBlock last).byte place = machine.memory.byte place := by
  apply Memory.byte_write_outside _ _ (machine.length_block_le last)
  intro offset hoffset
  rw [length_block] at hoffset
  exact hplace offset (Nat.le_of_lt_succ hoffset)

/-- What is loaded back from a stored block is what was stored, also where the block names a
register more than once. -/
theorem get_loadedBlock_storedBlock (registers : Registers) {offset : Nat}
    (hoffset : offset ≤ last.toNat) :
    (loadedBlock { machine with memory := machine.storedBlock last, registers } last).get
        (UInt8.ofNat (offset % 16)) =
      machine.registers.get (UInt8.ofNat (offset % 16)) := by
  have hread : (machine.storedBlock last).read machine.index (last.toNat + 1) =
      machine.registers.block (last.toNat + 1) := by
    have hread := machine.memory.read_write machine.index (machine.length_block_le last)
    rwa [length_block] at hread
  have hselect : (select (UInt8.ofNat (offset % 16))).val < last.toNat + 1 := by
    rw [val_select_ofNat]
    omega
  simp only [loadedBlock, hread]
  rw [get_fill_block, if_pos hselect]

section

variable {last} (hlast : last < 16)

include hlast

theorem length_read_le :
    (machine.memory.read machine.index (last.toNat + 1)).length ≤ 16 := by
  rw [Memory.length_read]
  exact UInt8.lt_iff_toNat_lt.mp hlast

theorem get_loadedBlock_above {register : UInt8} (hregister : register < 16)
    (habove : last < register) :
    (machine.loadedBlock last).get register = machine.registers.get register := by
  have hselect : last.toNat + 1 ≤ (select register).val := by
    rw [val_select hregister]
    exact UInt8.lt_iff_toNat_lt.mp habove
  rw [loadedBlock, get_fill_zero _ (machine.length_read_le hlast),
    List.getElem?_eq_none (by rwa [Memory.length_read])]
  rfl

theorem storedBlock_loadedBlock :
    storedBlock { machine with registers := machine.loadedBlock last } last = machine.memory := by
  have hblock := machine.registers.block_fill (machine.length_read_le hlast)
  have hcount : last.toNat + 1 ≤ 4096 := by
    have := last.toNat_lt
    omega
  rw [Memory.length_read] at hblock
  simp only [storedBlock, loadedBlock, hblock]
  exact machine.memory.write_read machine.index hcount

end

end

/-- A store puts the named registers at the places from I on, and a load of the same block brings
them back, whatever has become of the registers. A load of up to sixteen registers leaves those
above the last one alone, and a store of the same block then changes nothing. Either moves I past
the block or leaves it, and touches nothing else. -/
theorem transfers_undo_each_other (machine : Machine) (keys later : KeyState) (last : UInt8)
    (advance again : Bool) :
    let stored := machine.execute keys (.storeBlock last advance)
    let loaded := machine.execute keys (.loadBlock last advance)
    let index :=
      if advance then (machine.index.toNat + last.toNat + 1) % UInt16.size
      else machine.index.toNat
    let place (offset : Nat) : Fin 4096 := Fin.ofNat 4096 (machine.index.toNat + offset)
    let register (offset : Nat) : UInt8 := UInt8.ofNat (offset % 16)
    (stored.result = .ok .next ∧ stored.machine.index.toNat = index ∧
        stored.machine =
          { machine with memory := stored.machine.memory, index := stored.machine.index } ∧
        stored.machine.memory.programLength = machine.memory.programLength ∧
        (∀ offset ≤ last.toNat, stored.machine.memory.byte (place offset) =
          machine.registers.get (register offset)) ∧
        ∀ other : Fin 4096, (∀ offset ≤ last.toNat, other ≠ place offset) →
          stored.machine.memory.byte other = machine.memory.byte other) ∧
      (loaded.result = .ok .next ∧ loaded.machine.index.toNat = index ∧
        loaded.machine =
          { machine with registers := loaded.machine.registers, index := loaded.machine.index } ∧
        ∀ other : UInt8, last < other → other < 16 →
          loaded.machine.registers.get other = machine.registers.get other) ∧
      (∀ registers : Registers,
        let back : Machine := { stored.machine with index := machine.index, registers }
        let reloaded := back.execute later (.loadBlock last again)
        reloaded.machine.memory = stored.machine.memory ∧
          ∀ offset ≤ last.toNat, reloaded.machine.registers.get (register offset) =
            machine.registers.get (register offset)) ∧
      (last < 16 →
        let back : Machine := { loaded.machine with index := machine.index }
        (back.execute later (.storeBlock last again)).machine.memory = machine.memory) := by
  intro stored loaded index place register
  have hindex : (machine.indexBehind last advance).toNat = index :=
    machine.toNat_indexBehind last advance
  refine ⟨⟨rfl, hindex, rfl, ?_, ?_, ?_⟩, ⟨rfl, hindex, rfl, ?_⟩, ?_, ?_⟩
  · exact Memory.programLength_write _ _ _
  · intro offset hoffset
    exact machine.byte_storedBlock_inside last hoffset
  · intro other hother
    exact machine.byte_storedBlock_outside last hother
  · intro other habove hother
    exact machine.get_loadedBlock_above (UInt8.lt_trans habove hother) hother habove
  · intro registers
    refine ⟨rfl, fun offset hoffset => ?_⟩
    exact machine.get_loadedBlock_storedBlock last registers hoffset
  · intro hlast
    exact machine.storedBlock_loadedBlock hlast

/-- Nineteen registers stored around the end of the memory and loaded back over others, and four
bytes loaded from there and stored again. -/
theorem transfers_undo_each_other_around_end :
    let machine : Machine :=
      { withSeed .chip 0 with
        memory := Memory.blank.write 17 [0x99]
        registers := (Registers.initial.set 2 0xAB).set 15 5
        index := 0xFFFE }
    let stored := (machine.execute .idle (.storeBlock 18 true)).machine
    let loaded := (machine.execute .idle (.loadBlock 3 false)).machine
    let reloaded := ({ stored with index := 0xFFFE, registers := .initial } : Machine).execute
      .idle (.loadBlock 18 false)
    (2 ≤ (18 : UInt8).toNat ∧ 18 ≤ (18 : UInt8).toNat ∧
      (∀ offset ≤ (18 : UInt8).toNat,
        (17 : Fin 4096) ≠ Fin.ofNat 4096 (machine.index.toNat + offset)) ∧
      (3 : UInt8) < 15 ∧ (15 : UInt8) < 16 ∧ (3 : UInt8) < 16) ∧
      stored.index = 0x0011 ∧ stored.memory.byte 0 = 0xAB ∧ stored.memory.byte 16 = 0xAB ∧
      stored.memory.byte 17 = 0x99 ∧ loaded.registers.get 15 = 5 ∧
      reloaded.machine.registers.get 2 = 0xAB ∧
      (({ loaded with index := 0xFFFE } : Machine).execute .idle
        (.storeBlock 3 true)).machine.memory = machine.memory := by
  intro machine
  have hplace : ∀ offset ≤ (18 : UInt8).toNat,
      (17 : Fin 4096) ≠ Fin.ofNat 4096 (machine.index.toNat + offset) := by decide
  have hthird : 0 = Fin.ofNat 4096 (machine.index.toNat + 2) := by decide
  have hlast : 16 = Fin.ofNat 4096 (machine.index.toNat + 18) := by decide
  obtain ⟨⟨_, hindex, _, _, hinside, houtside⟩, _, hreloaded, _⟩ :=
    transfers_undo_each_other machine .idle .idle 18 true false
  obtain ⟨_, ⟨_, _, _, habove⟩, _, hstored⟩ :=
    transfers_undo_each_other machine .idle .idle 3 false true
  intro stored loaded reloaded
  refine ⟨⟨by decide, by decide, hplace, by decide, by decide, by decide⟩,
    UInt16.toNat_inj.mp (hindex.trans (by decide)), ?_, ?_, ?_, ?_, ?_, ?_⟩
  · rw [hthird]
    exact (hinside 2 (by decide)).trans (by decide)
  · rw [hlast]
    exact (hinside 18 (by decide)).trans (by decide)
  · exact (houtside 17 hplace).trans (by decide)
  · exact (habove 15 (by decide) (by decide)).trans (by decide)
  · exact ((hreloaded .initial).2 2 (by decide)).trans (by decide)
  · exact hstored (by decide)

end Machine

end Chip8
