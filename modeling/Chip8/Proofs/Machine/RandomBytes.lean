import Chip8.Machine.History
import Chip8.Proofs.Machine.Effects
import Mathlib.Data.List.Induction

namespace Chip8

namespace RandomSource

def seedByte (seed : UInt64) (index : Nat) : UInt8 :=
  byteAt (ofSeed seed).key index

def firstBytes (seed : UInt64) (count : Nat) : List UInt8 :=
  (List.range count).map (seedByte seed)

theorem firstBytes_prefix (seed : UInt64) {fewer more : Nat} (hle : fewer ≤ more) :
    firstBytes seed fewer <+: firstBytes seed more := by
  obtain ⟨rest, rfl⟩ := Nat.exists_eq_add_of_le hle
  rw [firstBytes, firstBytes, List.range_add, List.map_append]
  exact List.prefix_append _ _

end RandomSource

namespace Machine

def draws (machine : Machine) : Operation → Bool
  | .step _ => machine.fetch.family = 0xC
  | _ => false

def drawCount (machine : Machine) (operations : List Operation) : Nat :=
  (machine.history operations).countP fun (state, operation) => state.draws operation

/-- The bytes that a run draws, before any of them is masked. -/
def drawnBytes (machine : Machine) (operations : List Operation) : List UInt8 :=
  (machine.history operations).filterMap fun (state, operation) =>
    if state.draws operation then some state.random.draw.1 else none

def randomAfter (machine : Machine) : Instruction → RandomSource
  | .random _ _ => machine.random.draw.2
  | _ => machine.random

theorem random_execute (machine : Machine) (keys : KeyState) (instruction : Instruction) :
    (machine.execute keys instruction).machine.random = machine.randomAfter instruction := by
  cases instruction with
  | returnFromCall | jump | call | jumpWithOffset | awaitKey | skipEqualConstant
  | skipNotEqualConstant | skipEqual | skipNotEqual | skipHeld | skipNotHeld =>
      exact machine.kept_execute_of_controls keys random (fun _ _ _ => rfl) trivial
  | _ => rfl

theorem random_apply (machine : Machine) (operation : Operation) :
    (machine.apply operation).random =
      if machine.draws operation then machine.random.draw.2 else machine.random := by
  cases operation with
  | tick => rfl
  | load program => exact machine.kept_load program random fun _ => rfl
  | step keys =>
      have hafter : (machine.apply (.step keys)).random =
          machine.randomAfter machine.instruction :=
        (machine.kept_step keys random fun _ _ => rfl).trans
          (machine.random_execute keys machine.instruction)
      by_cases hdraws : machine.fetch.family = 0xC
      · have hinstruction : machine.instruction = .random machine.fetch.x machine.fetch.nn :=
          Instruction.decode_eq_random_iff.mpr ⟨hdraws, rfl, rfl⟩
        rw [hafter, hinstruction]
        exact (if_pos (decide_eq_true hdraws)).symm
      · rw [hafter]
        cases hinstruction : machine.instruction with
        | random x mask =>
            exact absurd (Instruction.decode_eq_random_iff.mp hinstruction).1 hdraws
        | _ => exact (if_neg (by simpa [draws] using hdraws)).symm

theorem drawCount_append_singleton (machine : Machine) (before : List Operation)
    (last : Operation) :
    machine.drawCount (before ++ [last]) =
      machine.drawCount before + if (machine.run before).draws last then 1 else 0 := by
  rw [drawCount, history_append, List.countP_append]
  exact congrArg _ List.countP_singleton

theorem random_run (machine : Machine) (operations : List Operation) :
    (machine.run operations).random =
      { machine.random with
        drawn := machine.random.drawn + machine.drawCount operations } := by
  induction operations using List.reverseRecOn with
  | nil => rfl
  | append_singleton before last ih =>
      rw [run_append_singleton, random_apply, ih, drawCount_append_singleton]
      split <;> rfl

theorem drawnBytes_eq (machine : Machine) (operations : List Operation) :
    machine.drawnBytes operations =
      (List.range (machine.drawCount operations)).map fun index =>
        RandomSource.byteAt machine.random.key (machine.random.drawn + index) := by
  induction operations using List.reverseRecOn with
  | nil => rfl
  | append_singleton before last ih =>
      rw [drawnBytes, filterMap_history_append_singleton, ← drawnBytes, ih,
        drawCount_append_singleton]
      by_cases hdraws : (machine.run before).draws last
      · simp only [hdraws, if_true, random_run, RandomSource.draw, List.range_succ,
          List.map_append]
        rfl
      · simp [hdraws]

theorem get_step_of_draws {machine : Machine} (keys : KeyState)
    (hdraws : machine.fetch.family = 0xC) :
    (machine.step keys).machine.registers.get machine.fetch.x =
      machine.random.draw.1 &&& machine.fetch.nn := by
  have hinstruction : machine.instruction = .random machine.fetch.x machine.fetch.nn :=
    Instruction.decode_eq_random_iff.mpr ⟨hdraws, rfl, rfl⟩
  have hafter := machine.kept_step keys registers fun _ _ => rfl
  rw [hafter, hinstruction]
  exact Registers.get_set_self _ _ _

theorem byteAt_withSeed (architecture : Architecture) (seed : UInt64) (index : Nat) :
    RandomSource.byteAt (withSeed architecture seed).random.key
        ((withSeed architecture seed).random.drawn + index) =
      RandomSource.seedByte seed index := by
  have hindex : (withSeed architecture seed).random.drawn + index = index := Nat.zero_add index
  rw [hindex]
  rfl

theorem drawnBytes_withSeed (architecture : Architecture) (seed : UInt64)
    (operations : List Operation) :
    (withSeed architecture seed).drawnBytes operations =
      RandomSource.firstBytes seed ((withSeed architecture seed).drawCount operations) := by
  rw [drawnBytes_eq]
  exact List.map_congr_left fun index _ => byteAt_withSeed architecture seed index

/-- From a seed, the word that is the next to draw leaves the next byte of the seed's stream under
its mask. A word of that family moves the source on by one byte, and nothing else moves it. So two
runs from the seed draw the same bytes in the same order, as far as both draw. -/
theorem draws_follow_the_stream (seed : UInt64) :
    (∀ (architecture : Architecture) (before : List Operation) (keys : KeyState),
      let fresh := withSeed architecture seed
      let machine := fresh.run before
      machine.fetch.family = 0xC →
        (machine.step keys).machine.registers.get machine.fetch.x =
          RandomSource.seedByte seed (fresh.drawCount before) &&& machine.fetch.nn) ∧
      (∀ (machine : Machine) (operation : Operation),
        (machine.apply operation).random =
          if machine.draws operation then
            { machine.random with drawn := machine.random.drawn + 1 }
          else
            machine.random) ∧
      (∀ (architecture : Architecture) (operations : List Operation),
        let fresh := withSeed architecture seed
        fresh.drawnBytes operations =
          RandomSource.firstBytes seed (fresh.drawCount operations)) ∧
      ∀ (first second : Architecture) (firstOperations secondOperations : List Operation),
        let firstBytes := (withSeed first seed).drawnBytes firstOperations
        let secondBytes := (withSeed second seed).drawnBytes secondOperations
        firstBytes <+: secondBytes ∨ secondBytes <+: firstBytes := by
  refine ⟨?_, random_apply, fun architecture => drawnBytes_withSeed architecture seed, ?_⟩
  · intro architecture before keys fresh machine hdraws
    rw [get_step_of_draws keys hdraws, random_run]
    exact congrArg (· &&& machine.fetch.nn) (byteAt_withSeed architecture seed _)
  · intro first second firstOperations secondOperations firstBytes secondBytes
    simp only [firstBytes, secondBytes, drawnBytes_withSeed]
    exact (Nat.le_total _ _).imp (RandomSource.firstBytes_prefix seed)
      (RandomSource.firstBytes_prefix seed)

/-- The second draw from a seed, after a first one under an empty mask. -/
theorem draws_follow_the_stream_second :
    let before : List Operation :=
      [.load [0xC0, 0x00, 0x00, 0xE0, 0xC1, 0x0F], .step .idle, .tick, .step .idle]
    let machine := (withSeed .cosmac 7).run before
    machine.fetch.family = 0xC ∧ (machine.step .idle).machine.registers.get 1 = 0x09 := by
  intro before machine
  have hword : machine.fetch = 0xC10F := by decide +kernel
  have hdraws : machine.fetch.family = 0xC := by rw [hword]; rfl
  have hregister : machine.fetch.x = 1 := by rw [hword]; rfl
  have hbyte : RandomSource.seedByte 7 ((withSeed .cosmac 7).drawCount before) &&&
      machine.fetch.nn = 0x09 := by
    rw [hword]
    decide +kernel
  have hget := (draws_follow_the_stream 7).1 .cosmac before .idle hdraws
  exact ⟨hdraws, hregister ▸ hget.trans hbyte⟩

end Machine

end Chip8
