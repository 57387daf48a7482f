import Chip8.Machine.History
import Chip8.Proofs.Machine.Transfers
import Mathlib.Data.List.Induction

namespace Chip8

def fitting (programs : List (List UInt8)) : List (List UInt8) :=
  programs.filter fun program => program.length ≤ Memory.programLimit

theorem fitting_append (first second : List (List UInt8)) :
    fitting (first ++ second) = fitting first ++ fitting second :=
  List.filter_append first second

theorem fitting_singleton (program : List UInt8) :
    fitting [program] = if program.length ≤ Memory.programLimit then [program] else [] := by
  simp [fitting, List.filter_cons]

theorem length_le_of_mem_fitting {programs : List (List UInt8)} {program : List UInt8}
    (hprogram : program ∈ fitting programs) : program.length ≤ Memory.programLimit :=
  of_decide_eq_true (List.mem_filter.mp hprogram).2

/-- The byte at an offset in the last of the programs that have one there. -/
def lastByte? (programs : List (List UInt8)) (offset : Nat) : Option UInt8 :=
  programs.reverse.findSome? fun program => program[offset]?

theorem lastByte?_append_singleton (programs : List (List UInt8)) (program : List UInt8)
    (offset : Nat) :
    lastByte? (programs ++ [program]) offset = program[offset]?.or (lastByte? programs offset) := by
  rw [lastByte?, List.reverse_append, List.findSome?_append, List.reverse_singleton,
    List.findSome?_singleton]
  rfl

theorem lastByte?_eq_none {programs : List (List UInt8)} {offset : Nat}
    (hbeyond : ∀ program ∈ programs, program.length ≤ offset) :
    lastByte? programs offset = none := by
  rw [lastByte?, List.findSome?_eq_none_iff]
  intro program hprogram
  exact List.getElem?_eq_none (hbeyond program (List.mem_reverse.mp hprogram))

namespace Memory

theorem byte_initial (place : Fin 4096) :
    initial.byte place =
      if fontStart.toNat ≤ place.val then
        Font.glyphs[place.val - fontStart.toNat]?.getD 0
      else
        0 := by
  have hblank : blank.byte place = 0 := Vector.getElem_replicate _
  have hstart : (fold fontStart).val = fontStart.toNat := rfl
  rw [initial, byte_write _ _ (by decide), hblank]
  split
  · rename_i hbehind
    rw [Fin.sub_val_of_le (show fold fontStart ≤ place from hbehind), hstart]
  · rename_i hbefore
    rw [List.getElem?_eq_none]
    · rfl
    · have hlength : Font.glyphs.length = 80 := rfl
      have hfont : fontStart.toNat = 80 := rfl
      simp only [Fin.val_sub]
      omega

theorem byte_initial_of_programStart_le {place : Fin 4096}
    (hplace : programStart.toNat ≤ place.val) : initial.byte place = 0 := by
  have hstart : programStart.toNat = 0x200 := rfl
  have hfont : fontStart.toNat = 0x50 := rfl
  have hlength : Font.glyphs.length = 80 := rfl
  rw [byte_initial, if_pos (by omega), List.getElem?_eq_none (by omega)]
  rfl

theorem programLimit_le_distance {place : Fin 4096} (hplace : place.val < programStart.toNat) :
    programLimit ≤ (place - fold programStart).val := by
  have hstart : programStart.toNat = 0x200 := rfl
  have hfold : (fold programStart).val = 0x200 := rfl
  have hlimit : programLimit = 3584 := rfl
  simp only [Fin.val_sub]
  omega

end Memory

namespace Machine

/-- The machine has accepted these programs, the last of them last, and nothing else has happened
to it. -/
structure LoadedWith (first : Machine) (programs : List (List UInt8)) (machine : Machine) :
    Prop where
  programLength_eq :
    machine.memory.programLength =
      (programs.getLast?.map List.length).getD first.memory.programLength
  byte_eq (place : Fin 4096) :
    machine.memory.byte place =
      (lastByte? programs (place - Memory.fold Memory.programStart).val).getD
        (first.memory.byte place)
  rest_eq : machine = { first with memory := machine.memory }

theorem result_load_eq_ok_iff {machine : Machine} {program : List UInt8} :
    (machine.load program).result = .ok program.length ↔
      program.length ≤ Memory.programLimit := by
  by_cases hfits : program.length ≤ Memory.programLimit
  · simp [load_of_fits hfits, hfits]
  · simp [load_of_not_fits hfits, hfits]

namespace LoadedWith

variable {first machine : Machine} {programs : List (List UInt8)}

theorem start (machine : Machine) : machine.LoadedWith [] machine :=
  ⟨rfl, fun _ => rfl, rfl⟩

theorem load (hloaded : first.LoadedWith programs machine) {program : List UInt8}
    (hfits : program.length ≤ Memory.programLimit) :
    first.LoadedWith (programs ++ [program]) (machine.load program).machine := by
  have hlength : program.length ≤ 4096 := Nat.le_trans hfits (by decide)
  rw [load_of_fits hfits]
  refine ⟨?_, fun place => ?_, ?_⟩
  · simp
  · rw [lastByte?_append_singleton, Option.getD_or, ← hloaded.byte_eq]
    exact machine.memory.byte_write Memory.programStart hlength place
  · rw [hloaded.rest_eq]

theorem run (machine : Machine) (programs : List (List UInt8)) :
    machine.LoadedWith (fitting programs) (machine.run (programs.map .load)) := by
  induction programs using List.reverseRecOn with
  | nil => exact start machine
  | append_singleton before program ih =>
      rw [List.map_append, List.map_singleton, run_append_singleton, fitting_append,
        fitting_singleton]
      split
      · rename_i hfits
        exact ih.load hfits
      · rename_i hlarge
        rw [apply, load_of_not_fits hlarge, List.append_nil]
        exact ih

end LoadedWith

/-- A program is loaded exactly if it fits, and otherwise nothing is. After any number of programs
on a fresh machine, the last one that fits is the one whose length is known, each place from the
first of a program on holds the byte of the last one that reaches it, and all else is as it was. -/
theorem last_fitting_byte_remains (architecture : Architecture) (random : RandomSource)
    (programs : List (List UInt8)) :
    let fresh := initial architecture random
    let machine := fresh.run (programs.map .load)
    (∀ (state : Machine) (program : List UInt8),
        ((state.load program).result = .ok program.length ↔ program.length ≤ 3584) ∧
          (3584 < program.length →
            (state.load program).result = .error (.romTooLarge program.length 3584) ∧
              (state.load program).machine = state)) ∧
      machine.memory.programLength = ((fitting programs).getLast?.map List.length).getD 0 ∧
      (∀ offset < 3584,
        machine.memory.byte (Fin.ofNat 4096 (0x200 + offset)) =
          (lastByte? (fitting programs) offset).getD 0) ∧
      (∀ place : Fin 4096, place.val < 0x200 →
        machine.memory.byte place =
          if 0x50 ≤ place.val then Font.glyphs[place.val - 0x50]?.getD 0 else 0) ∧
      machine = { fresh with memory := machine.memory } := by
  intro fresh machine
  have hloaded : fresh.LoadedWith (fitting programs) machine := .run fresh programs
  refine ⟨fun state program => ⟨result_load_eq_ok_iff, fun hlarge => ?_⟩,
    hloaded.programLength_eq, fun offset hoffset => ?_, fun place hplace => ?_, hloaded.rest_eq⟩
  · rw [load_of_not_fits (Nat.not_le.mpr hlarge)]
    exact ⟨rfl, rfl⟩
  · have hdistance : (Fin.ofNat 4096 (0x200 + offset) - Memory.fold Memory.programStart).val =
        offset :=
      Memory.distance_ofNat_add Memory.programStart (by omega)
    have hbehind : Memory.programStart.toNat ≤ (Fin.ofNat 4096 (0x200 + offset)).val := by
      rw [Fin.val_ofNat, Nat.mod_eq_of_lt (by omega)]
      exact Nat.le_add_right 0x200 offset
    rw [hloaded.byte_eq, hdistance]
    exact congrArg _ (Memory.byte_initial_of_programStart_le hbehind)
  · have hbeyond : ∀ program ∈ fitting programs,
        program.length ≤ (place - Memory.fold Memory.programStart).val := fun _ hprogram =>
      Nat.le_trans (length_le_of_mem_fitting hprogram) (Memory.programLimit_le_distance hplace)
    rw [hloaded.byte_eq, lastByte?_eq_none hbeyond]
    exact Memory.byte_initial place

/-- A program that covers only the start of an earlier one, with one in between that is a byte too
long. -/
theorem last_fitting_byte_remains_behind_shorter :
    let large : List UInt8 := List.replicate 3585 0xFF
    let machine := (withSeed .chip 7).run ([[0x11, 0x22, 0x33], large, [0x44]].map .load)
    3584 < large.length ∧
      (machine.load large).result = .error (.romTooLarge large.length 3584) ∧
      machine.memory.programLength = 1 ∧
      machine.memory.byte 0x200 = 0x44 ∧ machine.memory.byte 0x201 = 0x22 ∧
      machine.memory.byte 0x203 = 0 ∧ machine.memory.byte 0x50 = 0xF0 := by
  intro large machine
  have hlarge : 3584 < large.length := by
    rw [List.length_replicate]
    decide
  have hfitting : fitting [[0x11, 0x22, 0x33], large, [0x44]] = [[0x11, 0x22, 0x33], [0x44]] := by
    have hnotFits : ¬ large.length ≤ Memory.programLimit := Nat.not_le.mpr hlarge
    change fitting ([[0x11, 0x22, 0x33]] ++ [large] ++ [[0x44]]) = _
    rw [fitting_append, fitting_append, fitting_singleton, fitting_singleton, fitting_singleton,
      if_pos (by decide), if_neg hnotFits, if_pos (by decide)]
    rfl
  obtain ⟨hload, hlength, hbehind, hbefore, -⟩ :=
    last_fitting_byte_remains .chip (.ofSeed 7) [[0x11, 0x22, 0x33], large, [0x44]]
  rw [hfitting] at hlength hbehind
  exact ⟨hlarge, ((hload machine large).2 hlarge).1, hlength, hbehind 0 (by decide),
    hbehind 1 (by decide), hbehind 3 (by decide), hbefore 0x50 (by decide)⟩

end Machine

end Chip8
