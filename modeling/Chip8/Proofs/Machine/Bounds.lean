import Chip8.Proofs.Machine.Course

namespace Chip8.Machine

/-! The bounds that a driven machine keeps. A driver loads programs, ticks the timers and takes a
step only while the counter is inside the program, so that the counter can leave it by one skip
at most, and a return address is always that of a word behind a call. -/

inductive Driven (architecture : Architecture) (random : RandomSource) : Machine → Prop where
  | start : Driven architecture random (initial architecture random)
  | load {machine : Machine} (hdriven : Driven architecture random machine)
      (program : List UInt8) : Driven architecture random (machine.load program).machine
  | tick {machine : Machine} (hdriven : Driven architecture random machine) :
      Driven architecture random machine.tick
  | step {machine : Machine} (hdriven : Driven architecture random machine)
      (hinside : machine.inProgram) (keys : KeyState) :
      Driven architecture random (machine.step keys).machine

structure Bounded (machine : Machine) : Prop where
  programLength_le : machine.memory.programLength ≤ 3584
  entry_bounds : ∀ entry ∈ machine.stack.entries, 0x202 ≤ entry.toNat ∧ entry.toNat ≤ 0x1000
  counter_le : machine.counter.toNat ≤ 0x1002

/-- The step reads two bytes of the program, where they are, and computes no address beyond
sixteen bits. -/
structure StepInBounds (machine : Machine) (keys : KeyState) : Prop where
  start_le : 0x200 ≤ machine.counter.toNat
  lt_end : machine.counter.toNat + 1 < 0x200 + machine.memory.programLength
  end_le : 0x200 + machine.memory.programLength ≤ 0x1000
  bytes : ∃ high low, machine.memory.bytes[machine.counter.toNat]? = some high ∧
    machine.memory.bytes[machine.counter.toNat + 1]? = some low ∧
    machine.fetch = Word.ofBytes high low
  next : (machine.step keys).result = .ok .next →
    (machine.step keys).machine.counter.toNat =
      machine.counter.toNat + if machine.skips keys machine.instruction then 4 else 2
  pushed : machine.fetch.family = 2 → (machine.step keys).result.isOk →
    ∃ entry : Address, (machine.step keys).machine.stack.entries =
      machine.stack.entries ++ [entry] ∧ entry.toNat = machine.counter.toNat + 2

theorem inProgram_iff {machine : Machine} :
    machine.inProgram ↔ 0x200 ≤ machine.counter.toNat ∧
      machine.counter.toNat + 1 < 0x200 + machine.memory.programLength := by
  simp only [inProgram, decide_eq_true_eq]
  rfl

private theorem toNat_counter_add {counter distance : Address}
    (hroom : counter.toNat + distance.toNat < 65536) :
    (counter + distance).toNat = counter.toNat + distance.toNat := by
  rw [UInt16.toNat_add]
  exact Nat.mod_eq_of_lt hroom

private theorem get_eq_some {memory : Memory} {address : Address}
    (hinside : address.toNat < 4096) :
    memory.bytes[address.toNat]? = some (memory.get address) := by
  have hfold : (Memory.fold address).val = address.toNat := Nat.mod_eq_of_lt hinside
  simp [Memory.get, hfold, hinside]

private theorem toNat_counter_skip {counter : Address} {condition : Bool}
    (hroom : counter.toNat < 0xFFF) :
    (counter + if condition then 4 else 2).toNat =
      counter.toNat + if condition then 4 else 2 := by
  cases condition with
  | false => exact toNat_counter_add (Nat.lt_of_lt_of_le (Nat.add_lt_add_right hroom 2) (by decide))
  | true => exact toNat_counter_add (Nat.lt_of_lt_of_le (Nat.add_lt_add_right hroom 4) (by decide))

namespace Bounded

variable {machine : Machine}

theorem initial (architecture : Architecture) (random : RandomSource) :
    (initial architecture random).Bounded where
  programLength_le := Nat.zero_le _
  entry_bounds := by
    intro entry hentry
    cases hentry
  counter_le := show Memory.programStart.toNat ≤ 0x1002 by decide

theorem load (hbounded : machine.Bounded) (program : List UInt8) :
    (machine.load program).machine.Bounded := by
  by_cases hfits : program.length ≤ Memory.programLimit
  · rw [load_of_fits hfits]
    exact ⟨hfits, hbounded.entry_bounds, hbounded.counter_le⟩
  · rw [load_of_not_fits hfits]
    exact hbounded

theorem tick (hbounded : machine.Bounded) : machine.tick.Bounded :=
  ⟨hbounded.programLength_le, hbounded.entry_bounds, hbounded.counter_le⟩

theorem counter_lt_of_inProgram (hbounded : machine.Bounded) (hinside : machine.inProgram) :
    machine.counter.toNat < 0xFFF := by
  have hlength := hbounded.programLength_le
  have hend := (inProgram_iff.mp hinside).2
  omega

theorem step (hbounded : machine.Bounded) (hinside : machine.inProgram) (keys : KeyState) :
    (machine.step keys).machine.Bounded := by
  have hstart := (inProgram_iff.mp hinside).1
  have hcounter := hbounded.counter_lt_of_inProgram hinside
  generalize hresult : (machine.step keys).result = result
  cases step_course hresult with
  | underflow _ _ hafter | overflow _ _ _ hafter | waited _ hafter =>
      rw [hafter]
      exact hbounded
  | returned target stack hinstruction hpop hafter =>
      have hentries := CallStack.entries_pop hpop
      have hbounds := hbounded.entry_bounds
      rw [hentries] at hbounds
      rw [hafter]
      refine ⟨hbounded.programLength_le, ?_, ?_⟩
      · intro entry hentry
        exact hbounds entry (List.mem_append_left _ hentry)
      · have htarget := (hbounds target (by simp)).2
        exact Nat.le_trans htarget (by decide)
  | called target stack hinstruction hpush hafter =>
      have htarget := (Instruction.decode_eq_call_iff.mp hinstruction).2
      rw [hafter]
      refine ⟨hbounded.programLength_le, ?_, ?_⟩
      · intro entry hentry
        rw [CallStack.entries_push hpush] at hentry
        rcases List.mem_append.mp hentry with hentry | hentry
        · exact hbounded.entry_bounds entry hentry
        · rw [List.mem_singleton.mp hentry, toNat_counter_add (by simp; omega)]
          simp
          omega
      · simp only [← htarget, Word.toNat_nnn]
        omega
  | jumped target hinstruction hafter =>
      have htarget : target.toNat ≤ 0xFFF := by
        rcases hinstruction with hinstruction | ⟨base, offset, hinstruction, rfl⟩
        · rw [← (Instruction.decode_eq_jump_iff.mp hinstruction).2, Word.toNat_nnn]
          omega
        · rw [UInt16.toNat_and]
          exact Nat.and_le_right
      rw [hafter]
      exact ⟨hbounded.programLength_le, hbounded.entry_bounds,
        Nat.le_trans htarget (by decide)⟩
  | passed _ hstack hprogram hnext =>
      refine ⟨?_, ?_, ?_⟩
      · rw [hprogram]
        exact hbounded.programLength_le
      · rw [hstack]
        exact hbounded.entry_bounds
      · rw [hnext, toNat_counter_skip hcounter]
        split <;> omega

theorem stepInBounds (hbounded : machine.Bounded) (hinside : machine.inProgram)
    (keys : KeyState) : machine.StepInBounds keys := by
  obtain ⟨hstart, hend⟩ := inProgram_iff.mp hinside
  have hlength := hbounded.programLength_le
  have hcounter := hbounded.counter_lt_of_inProgram hinside
  refine ⟨hstart, hend, by omega, ?_, ?_, ?_⟩
  · have hsuccessor : (machine.counter + 1).toNat = machine.counter.toNat + 1 :=
      toNat_counter_add (by simp; omega)
    refine ⟨machine.memory.get machine.counter, machine.memory.get (machine.counter + 1),
      ?_, ?_, rfl⟩
    · exact get_eq_some (by omega)
    · rw [← hsuccessor]
      exact get_eq_some (by omega)
  · intro hnext
    cases step_course hnext with
    | passed _ _ _ hadvance => rw [hadvance, toNat_counter_skip hcounter]
  · intro hfamily hsucceeds
    refine ⟨_, entries_step_of_call hfamily hsucceeds, toNat_counter_add (by simp; omega)⟩

end Bounded

theorem Driven.bounded {architecture : Architecture} {random : RandomSource}
    {machine : Machine} (hdriven : Driven architecture random machine) : machine.Bounded := by
  induction hdriven with
  | start => exact .initial architecture random
  | load _ program ih => exact ih.load program
  | tick _ ih => exact ih.tick
  | step _ hinside keys ih => exact ih.step hinside keys

/-- A driven machine stays in bounds, and so does every step that it takes. -/
theorem driven_machine_in_bounds {architecture : Architecture} {random : RandomSource}
    {machine : Machine} (hdriven : Driven architecture random machine) :
    machine.Bounded ∧ machine.stack.depth ≤ 16 ∧
      (machine.inProgram → ∀ keys, machine.StepInBounds keys) :=
  ⟨hdriven.bounded, machine.stack.depth_le, hdriven.bounded.stepInBounds⟩

/-- A program that calls its own second word. -/
theorem driven_machine_in_bounds_call :
    let machine := ((withSeed .cosmac 7).load [0x22, 0x02, 0x00, 0xEE]).machine
    Driven .cosmac (.ofSeed 7) machine ∧ machine.inProgram ∧ machine.StepInBounds .idle ∧
      (machine.step .idle).machine.Bounded := by
  intro machine
  have hdriven : Driven .cosmac (.ofSeed 7) machine := .load .start _
  have hinside : machine.inProgram := by decide
  exact ⟨hdriven, hinside, (driven_machine_in_bounds hdriven).2.2 hinside .idle,
    (driven_machine_in_bounds (hdriven.step hinside .idle)).1⟩

end Chip8.Machine
