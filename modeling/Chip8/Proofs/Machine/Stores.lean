import Chip8.Machine.History
import Chip8.Proofs.Machine.Effects

namespace Chip8.Machine

/-- The bytes that the fetched word stores: the decimal digits of a register, or the registers from
V0 to the named one. -/
def storedBytes (machine : Machine) : List UInt8 :=
  let word := machine.fetch
  if word.family = 0xF ∧ word.nn = 0x33 then
    let value := machine.registers.get word.x
    [value / 100, value / 10 % 10, value % 10]
  else if word.family = 0xF ∧ word.nn = 0x55 then
    (List.range (word.x.toNat + 1)).map fun register =>
      machine.registers.get (UInt8.ofNat register)
  else
    []

def stores (machine : Machine) : Operation → List (Nat × UInt8)
  | .step _ =>
      machine.storedBytes.zipIdx.map fun (byte, offset) =>
        ((machine.index.toNat + offset) % 4096, byte)
  | _ => []

def storedAt? (machine : Machine) (place : Fin 4096) (operation : Operation) : Option UInt8 :=
  (machine.stores operation).lookup place.val

/-- The byte that the last operation to store at a place stored there, or else the byte that was
there before the run. -/
def latest (machine : Machine) (operations : List Operation) (place : Fin 4096) : UInt8 :=
  let stored? := (machine.history operations).reverse.findSome? fun (state, operation) =>
    state.storedAt? place operation
  stored?.getD (machine.memory.byte place)

private theorem lookup_consecutive (values : List UInt8) (start first : Nat) (place : Fin 4096) :
    ((values.zipIdx first).map fun (byte, offset) => ((start + offset) % 4096, byte)).lookup
        place.val =
      values[(place - Fin.ofNat 4096 (start + first)).val]? := by
  induction values generalizing first with
  | nil => rfl
  | cons value rest ih =>
      rw [List.zipIdx_cons, List.map_cons, List.lookup_cons]
      -- Any other place is nearer by one to the next written place than to this one.
      have hcases : place.val = (start + first) % 4096 ∧
            (place - Fin.ofNat 4096 (start + first)).val = 0 ∨
          place.val ≠ (start + first) % 4096 ∧
            (place - Fin.ofNat 4096 (start + first)).val =
              (place - Fin.ofNat 4096 (start + (first + 1))).val + 1 := by
        simp only [Fin.val_sub, Fin.val_ofNat]
        omega
      rcases hcases with ⟨hplace, hoffset⟩ | ⟨hplace, hoffset⟩
      · rw [hoffset, beq_iff_eq.mpr hplace]
        rfl
      · rw [hoffset, beq_eq_false_iff_ne.mpr hplace, ih]
        rfl

theorem stored_instruction (machine : Machine) :
    machine.stored machine.instruction = machine.storedBytes := by
  unfold storedBytes
  by_cases hdecimal : machine.fetch.family = 0xF ∧ machine.fetch.nn = 0x33
  · have hinstruction : machine.instruction = .storeDecimal machine.fetch.x :=
      Instruction.decode_eq_storeDecimal_iff.mpr ⟨hdecimal, rfl⟩
    rw [hinstruction]
    simp only [if_pos hdecimal]
    rfl
  · by_cases hblock : machine.fetch.family = 0xF ∧ machine.fetch.nn = 0x55
    · have hinstruction : machine.instruction =
          .storeBlock machine.fetch.x (Instruction.advancesIndex machine.architecture) :=
        Instruction.decode_eq_storeBlock_iff.mpr ⟨hblock, rfl, rfl⟩
      rw [hinstruction]
      simp only [if_neg hdecimal, if_pos hblock]
      rfl
    · simp only [if_neg hdecimal, if_neg hblock]
      cases hinstruction : machine.instruction with
      | storeDecimal x =>
          exact absurd (Instruction.decode_eq_storeDecimal_iff.mp hinstruction).1 hdecimal
      | storeBlock last advance =>
          exact absurd (Instruction.decode_eq_storeBlock_iff.mp hinstruction).1 hblock
      | _ => rfl

theorem length_storedBytes_le (machine : Machine) : machine.storedBytes.length ≤ 16 := by
  have hx : machine.fetch.x.toNat < 16 := by
    rw [Word.toNat_x]
    exact Nat.mod_lt _ (by decide)
  simp only [storedBytes]
  split
  · exact Nat.le_of_ble_eq_true rfl
  · split
    · rw [List.length_map, List.length_range]
      exact hx
    · exact Nat.zero_le _

theorem byte_apply (machine : Machine) {operation : Operation} (hoperation : ¬ operation.isLoad)
    (place : Fin 4096) :
    (machine.apply operation).memory.byte place =
      (machine.storedAt? place operation).getD (machine.memory.byte place) := by
  cases operation with
  | load program => exact absurd rfl hoperation
  | tick => rfl
  | step keys =>
      have hlength := machine.length_storedBytes_le
      rw [apply, memory_step, stored_instruction, Memory.byte_write _ _ (by omega), storedAt?,
        stores, lookup_consecutive]
      rfl

theorem programLength_apply (machine : Machine) {operation : Operation}
    (hoperation : ¬ operation.isLoad) :
    (machine.apply operation).memory.programLength = machine.memory.programLength := by
  cases operation with
  | load program => exact absurd rfl hoperation
  | tick => rfl
  | step keys => rw [apply, memory_step, Memory.programLength_write]

section Run

variable (machine : Machine) {operations : List Operation}

theorem byte_run (hoperations : ∀ operation ∈ operations, ¬ operation.isLoad)
    (place : Fin 4096) :
    (machine.run operations).memory.byte place = machine.latest operations place := by
  induction operations generalizing machine with
  | nil => rfl
  | cons operation rest ih =>
      obtain ⟨hoperation, hrest⟩ := List.forall_mem_cons.mp hoperations
      rw [run_cons, ih _ hrest]
      simp only [latest, history, List.reverse_cons, List.findSome?_append,
        List.findSome?_singleton, Option.getD_or, byte_apply _ hoperation]

theorem programLength_run (hoperations : ∀ operation ∈ operations, ¬ operation.isLoad) :
    (machine.run operations).memory.programLength = machine.memory.programLength := by
  induction operations generalizing machine with
  | nil => rfl
  | cons operation rest ih =>
      obtain ⟨hoperation, hrest⟩ := List.forall_mem_cons.mp hoperations
      rw [run_cons, ih _ hrest, programLength_apply _ hoperation]

end Run

theorem toNat_fetch (machine : Machine) :
    machine.fetch.toNat =
      256 * (machine.memory.byte (Fin.ofNat 4096 machine.counter.toNat)).toNat +
        (machine.memory.byte (Fin.ofNat 4096 (machine.counter.toNat + 1))).toNat := by
  have hnext : Memory.fold (machine.counter + 1) =
      Fin.ofNat 4096 (machine.counter.toNat + 1) := Memory.fold_add_ofNat machine.counter 1
  have hlow : machine.memory.get (machine.counter + 1) =
      machine.memory.byte (Fin.ofNat 4096 (machine.counter.toNat + 1)) := by
    rw [Memory.get_eq_byte, hnext]
  rw [← hlow]
  exact Word.toNat_ofBytes _ _

/-- A run leaves in memory what its last stores left there, and runs the words that are there at
the time. -/
theorem memory_holds_latest_stores (machine : Machine) {operations : List Operation}
    (hoperations : ∀ operation ∈ operations, ¬ operation.isLoad) :
    (∀ place : Fin 4096,
      (machine.run operations).memory.byte place = machine.latest operations place) ∧
      (machine.run operations).memory.programLength = machine.memory.programLength ∧
      ∀ (before after : List Operation) (keys : KeyState),
        operations = before ++ .step keys :: after →
        let position := (machine.run before).counter.toNat
        (machine.run before).fetch.toNat =
          256 * (machine.latest before (Fin.ofNat 4096 position)).toNat +
            (machine.latest before (Fin.ofNat 4096 (position + 1))).toNat := by
  refine ⟨machine.byte_run hoperations, machine.programLength_run hoperations, ?_⟩
  rintro before after keys rfl position
  have hbefore : ∀ operation ∈ before, ¬ operation.isLoad :=
    fun operation hmem => hoperations operation (List.mem_append_left _ hmem)
  rw [toNat_fetch, machine.byte_run hbefore, machine.byte_run hbefore]

/-- Digits stored around the end of the memory, over the word that stores them, which is run once
more. -/
theorem memory_holds_latest_stores_around_end :
    let machine : Machine :=
      { withSeed .cosmac 0 with
        memory := Memory.blank.write 0 [0xF0, 0x33, 0x10, 0x00]
        registers := Registers.initial.set 0 0xFE
        index := 0xFFFF
        counter := 0 }
    let before : List Operation := [.step .idle, .tick, .step .idle]
    (∀ operation ∈ before ++ [.step .idle], ¬ operation.isLoad) ∧
      (machine.run (before ++ [.step .idle])).memory.byte 4095 = 2 ∧
      (machine.run before).fetch = 0x0504 := by
  intro machine before
  have hoperations : ∀ operation ∈ before ++ [.step .idle], ¬ operation.isLoad := by
    simp [before, Operation.isLoad]
  obtain ⟨hbytes, _, hfetch⟩ := memory_holds_latest_stores machine hoperations
  have hlast : machine.latest (before ++ [.step .idle]) 4095 = 2 := by decide
  have hword : 256 * (machine.latest before 0).toNat + (machine.latest before 1).toNat =
      (0x0504 : Word).toNat := by decide
  have hcounter : (machine.run before).counter = 0 := by decide
  refine ⟨hoperations, (hbytes 4095).trans hlast, UInt16.toNat_inj.mp ?_⟩
  rw [hfetch before [] .idle rfl, hcounter]
  exact hword

end Chip8.Machine
