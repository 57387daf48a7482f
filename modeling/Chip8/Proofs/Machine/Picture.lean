import Chip8.Machine.Execute
import Chip8.Machine.History
import Chip8.Proofs.FrameBuffer
import Chip8.Proofs.Machine.Effects
import Mathlib.Data.List.DropRight
import Mathlib.Data.List.Induction

namespace Chip8

structure Stamp where
  x : UInt8
  y : UInt8
  sprite : List UInt8
  deriving DecidableEq

def Stamp.hits (stamp : Stamp) (column row : Nat) : Nat :=
  FrameBuffer.hits stamp.x stamp.y stamp.sprite column row

inductive PictureEvent where
  | cleared
  | drawn (stamp : Stamp)
  deriving DecidableEq

namespace PictureEvent

def stamp? : PictureEvent → Option Stamp
  | .cleared => none
  | .drawn stamp => some stamp

/-- What has been drawn since the last of the events that cleared the picture. -/
def sinceClear (events : List PictureEvent) : List Stamp :=
  (events.rtakeWhile fun event => event ≠ .cleared).filterMap stamp?

@[simp] theorem sinceClear_nil : sinceClear [] = [] := rfl

@[simp] theorem sinceClear_append_cleared (events : List PictureEvent) :
    sinceClear (events ++ [.cleared]) = [] := by
  rw [sinceClear, List.rtakeWhile_concat_neg _ _ _ (by simp)]
  rfl

@[simp] theorem sinceClear_append_drawn (events : List PictureEvent) (stamp : Stamp) :
    sinceClear (events ++ [.drawn stamp]) = sinceClear events ++ [stamp] := by
  rw [sinceClear, List.rtakeWhile_concat_pos _ _ _ (by simp), List.filterMap_append]
  rfl

end PictureEvent

namespace Machine

open PictureEvent

def spriteRows (machine : Machine) (height : UInt8) : List UInt8 :=
  (List.range height.toNat).map fun row =>
    machine.memory.byte (Fin.ofNat 4096 (machine.index.toNat + row))

/-- What the fetched word would draw. Its last digit is the height of the sprite. -/
def stamp (machine : Machine) : Stamp where
  x := machine.registers.get machine.fetch.x
  y := machine.registers.get machine.fetch.y
  sprite := machine.spriteRows machine.fetch.n

def pictureEvent? (machine : Machine) : Operation → Option PictureEvent
  | .step _ =>
      if machine.fetch = 0x00E0 then some .cleared
      else if machine.fetch.family = 0xD then some (.drawn machine.stamp)
      else none
  | _ => none

def pictureEvents (machine : Machine) (operations : List Operation) : List PictureEvent :=
  (machine.history operations).filterMap fun (state, operation) => state.pictureEvent? operation

/-- How often a pixel has been hit since the last clear, where a pixel that was lit from the start
and never cleared counts as hit once more. -/
def toggles (machine : Machine) (operations : List Operation) (column row : Nat) : Nat :=
  let events := machine.pictureEvents operations
  ((sinceClear events).map fun stamp => stamp.hits column row).sum +
    if .cleared ∉ events ∧ machine.frameBuffer.pixel column row then 1 else 0

inductive PictureChange (machine : Machine) (operation : Operation) : Prop where
  | cleared (hevent : machine.pictureEvent? operation = some .cleared)
      (hafter : (machine.apply operation).frameBuffer = .blank)
  | drawn (stamp : Stamp) (hevent : machine.pictureEvent? operation = some (.drawn stamp))
      (hafter : (machine.apply operation).frameBuffer =
        (machine.frameBuffer.paint stamp.x stamp.y stamp.sprite).1)
  | kept (hevent : machine.pictureEvent? operation = none)
      (hafter : (machine.apply operation).frameBuffer = machine.frameBuffer)

private theorem pictureChange_step (machine : Machine) (keys : KeyState) :
    machine.PictureChange (.step keys) := by
  have hafter : (machine.apply (.step keys)).frameBuffer = machine.pictured machine.instruction :=
    machine.frameBuffer_step keys
  by_cases hclear : machine.fetch = 0x00E0
  · have hinstruction : machine.instruction = .clearScreen :=
      Instruction.decode_eq_clearScreen_iff.mpr hclear
    rw [hinstruction] at hafter
    exact .cleared (if_pos hclear) hafter
  · by_cases hdraw : machine.fetch.family = 0xD
    · have hinstruction : machine.instruction =
          .draw machine.fetch.x machine.fetch.y machine.fetch.n :=
        Instruction.decode_eq_draw_iff.mpr ⟨hdraw, rfl, rfl, rfl⟩
      rw [hinstruction, pictured, Memory.read_eq] at hafter
      refine .drawn machine.stamp ?_ hafter
      rw [pictureEvent?, if_neg hclear, if_pos hdraw]
    · refine .kept ?_ ?_
      · rw [pictureEvent?, if_neg hclear, if_neg hdraw]
      · rw [hafter]
        cases hinstruction : machine.instruction with
        | clearScreen =>
            exact absurd (Instruction.decode_eq_clearScreen_iff.mp hinstruction) hclear
        | draw x y height =>
            exact absurd (Instruction.decode_eq_draw_iff.mp hinstruction).1 hdraw
        | _ => rfl

theorem pictureChange (machine : Machine) (operation : Operation) :
    machine.PictureChange operation := by
  cases operation with
  | tick => exact .kept rfl rfl
  | load program => exact .kept rfl (machine.kept_load program frameBuffer fun _ => rfl)
  | step keys => exact machine.pictureChange_step keys

theorem pictureEvents_append_singleton (machine : Machine) (before : List Operation)
    (last : Operation) :
    machine.pictureEvents (before ++ [last]) =
      machine.pictureEvents before ++ ((machine.run before).pictureEvent? last).toList :=
  filterMap_history_append_singleton _ machine before last

theorem pixel_run (machine : Machine) (operations : List Operation) (column : Fin 64)
    (row : Fin 32) :
    (machine.run operations).frameBuffer.pixel column row =
      decide (Odd (machine.toggles operations column row)) := by
  induction operations using List.reverseRecOn with
  | nil =>
      cases hpixel : machine.frameBuffer.pixel column row <;>
        simp [toggles, pictureEvents, history, hpixel]
  | append_singleton before last ih =>
      rw [run_append_singleton]
      cases (machine.run before).pictureChange last with
      | cleared hevent hafter =>
          have htoggles : machine.toggles (before ++ [last]) column row = 0 := by
            simp [toggles, pictureEvents_append_singleton, hevent]
          rw [htoggles, hafter, FrameBuffer.pixel_blank]
          rfl
      | drawn stamp hevent hafter =>
          have htoggles : machine.toggles (before ++ [last]) column row =
              machine.toggles before column row + stamp.hits column row := by
            simp [toggles, pictureEvents_append_singleton, hevent, Nat.add_right_comm]
          rw [htoggles, hafter, FrameBuffer.pixel_paint, ih, FrameBuffer.decide_odd_add]
          rfl
      | kept hevent hafter =>
          have htoggles : machine.toggles (before ++ [last]) column row =
              machine.toggles before column row := by
            simp [toggles, pictureEvents_append_singleton, hevent]
          rw [htoggles, hafter, ih]

theorem frameBuffer_run_of_perm {first second : Machine}
    {firstOperations secondOperations : List Operation}
    (hfirst : .cleared ∈ first.pictureEvents firstOperations)
    (hsecond : .cleared ∈ second.pictureEvents secondOperations)
    (hdrawn : (sinceClear (first.pictureEvents firstOperations)).Perm
      (sinceClear (second.pictureEvents secondOperations))) :
    (first.run firstOperations).frameBuffer = (second.run secondOperations).frameBuffer := by
  apply FrameBuffer.eq_of_pixel_eq
  intro column row
  have htoggles : first.toggles firstOperations column row =
      second.toggles secondOperations column row := by
    have hsum := (hdrawn.map fun stamp => stamp.hits column row).sum_nat
    simp [toggles, hfirst, hsecond, hsum]
  rw [pixel_run, pixel_run, htoggles]

/-- A pixel is lit exactly when it has been hit an odd number of times since the last clear. So
the order of the draws in between does not matter, and nothing else changes the picture. -/
theorem picture_is_parity_of_draws :
    (∀ (machine : Machine) (operations : List Operation) (column : Fin 64) (row : Fin 32),
      (machine.run operations).frameBuffer.pixel column row = true ↔
        Odd (machine.toggles operations column row)) ∧
      (∀ (first second : Machine) (firstOperations secondOperations : List Operation),
        .cleared ∈ first.pictureEvents firstOperations →
        .cleared ∈ second.pictureEvents secondOperations →
        (sinceClear (first.pictureEvents firstOperations)).Perm
          (sinceClear (second.pictureEvents secondOperations)) →
        (first.run firstOperations).frameBuffer = (second.run secondOperations).frameBuffer) ∧
      ∀ (machine : Machine) (operation : Operation),
        machine.pictureEvent? operation = none →
        (machine.apply operation).frameBuffer = machine.frameBuffer := by
  refine ⟨?_, fun _ _ _ _ => frameBuffer_run_of_perm, ?_⟩
  · intro machine operations column row
    rw [pixel_run, decide_eq_true_iff]
  · intro machine operation hnone
    cases machine.pictureChange operation with
    | kept _ hafter => exact hafter
    | cleared hevent | drawn _ hevent => cases hnone.symm.trans hevent

/-- Two sprites that overlap around a corner of the picture, drawn in either order. -/
theorem picture_is_parity_of_draws_swapped :
    let machine (first second : UInt8) : Machine :=
      { withSeed .chip 0 with
        memory := Memory.blank.write 0 [0x00, 0xE0, first, 0x12, second, 0x12, 0xF0, 0x90]
        registers := ((Registers.initial.set 0 62).set 1 31).set 2 61
        counter := 0
        index := 6 }
    let steps : List Operation := List.replicate 3 (.step .idle)
    let events (first second : UInt8) := (machine first second).pictureEvents steps
    .cleared ∈ events 0xD0 0xD2 ∧ .cleared ∈ events 0xD2 0xD0 ∧
      (sinceClear (events 0xD0 0xD2)).Perm (sinceClear (events 0xD2 0xD0)) ∧
      ((machine 0xD0 0xD2).run steps).frameBuffer = ((machine 0xD2 0xD0).run steps).frameBuffer ∧
      ((machine 0xD0 0xD2).run steps).frameBuffer.pixel 1 31 = true := by
  intro machine steps events
  have hfirst : .cleared ∈ events 0xD0 0xD2 := by decide
  have hsecond : .cleared ∈ events 0xD2 0xD0 := by decide
  have hdrawn : (sinceClear (events 0xD0 0xD2)).Perm (sinceClear (events 0xD2 0xD0)) := by
    decide +kernel
  obtain ⟨hparity, hswap, _⟩ := picture_is_parity_of_draws
  refine ⟨hfirst, hsecond, hdrawn, hswap _ _ _ _ hfirst hsecond hdrawn, ?_⟩
  exact (hparity _ _ 1 31).mpr (by decide +kernel)

end Machine

namespace Machine

open FrameBuffer

section

variable (machine : Machine) (x y height : UInt8)

def painted : FrameBuffer × Bool :=
  machine.frameBuffer.paint (machine.registers.get x) (machine.registers.get y)
    (machine.spriteRows height)

def drawn : Machine :=
  { machine with
    frameBuffer := (machine.painted x y height).1
    registers := machine.registers.setFlag (machine.painted x y height).2 }

theorem execute_draw (keys : KeyState) :
    machine.execute keys (.draw x y height) = .next (machine.drawn x y height) := by
  simp only [drawn, painted, spriteRows, ← Memory.read_eq]
  rfl

theorem flag_drawn_eq_one_iff :
    (machine.drawn x y height).registers.flag = 1 ↔ (machine.painted x y height).2 = true := by
  rw [drawn, Registers.flag_setFlag]
  cases (machine.painted x y height).2 <;> decide

theorem flag_drawn_le_one : (machine.drawn x y height).registers.flag ≤ 1 := by
  rw [drawn, Registers.flag_setFlag]
  cases (machine.painted x y height).2 <;> decide

theorem length_spriteRows_le {height : UInt8} (hheight : height ≤ 32) :
    (machine.spriteRows height).length ≤ 32 := by
  rw [spriteRows, List.length_map, List.length_range]
  exact UInt8.le_iff_toNat_le.mp hheight

end

section Twice

variable (machine : Machine) {x y : UInt8} (height : UInt8)
  (hx : Registers.select x ≠ Registers.select Registers.flagRegister)
  (hy : Registers.select y ≠ Registers.select Registers.flagRegister)

include hx hy

theorem painted_drawn :
    (machine.drawn x y height).painted x y height =
      (machine.painted x y height).1.paint (machine.registers.get x) (machine.registers.get y)
        (machine.spriteRows height) := by
  simp only [drawn, painted, Registers.get_setFlag_of_ne _ _ hx,
    Registers.get_setFlag_of_ne _ _ hy]
  rfl

theorem drawn_drawn :
    (machine.drawn x y height).drawn x y height =
      { machine with
        registers :=
          machine.registers.setFlag ((machine.drawn x y height).painted x y height).2 } := by
  have hpicture : ((machine.drawn x y height).painted x y height).1 = machine.frameBuffer := by
    rw [machine.painted_drawn height hx hy]
    exact paint_paint _ _ _ _
  rw [drawn, hpicture]
  simp only [drawn, Registers.setFlag_setFlag]

end Twice

/-- Drawing a sprite no taller than the picture twice in a row, from coordinates that are not in
the flag register, leaves everything but the flag as it was. The first flag tells whether a set bit
met a lit pixel and the second whether one met an unlit pixel, so that a sprite with a set bit is
reported at least once, and the second time if nothing was lit under it. -/
theorem redrawing_restores (machine : Machine) (keys later : KeyState) {x y height : UInt8}
    (hx : x < 15) (hy : y < 15) (hheight : height ≤ 32) :
    let first := machine.execute keys (.draw x y height)
    let second := first.machine.execute later (.draw x y height)
    let sprite := machine.spriteRows height
    let meets := machine.frameBuffer.Meets (machine.registers.get x) (machine.registers.get y) sprite
    first.result = .ok .next ∧ second.result = .ok .next ∧
      second.machine = { machine with registers := second.machine.registers } ∧
      (∀ register : UInt8, register < 15 →
        second.machine.registers.get register = machine.registers.get register) ∧
      first.machine.registers.flag ≤ 1 ∧ second.machine.registers.flag ≤ 1 ∧
      (first.machine.registers.flag = 1 ↔ meets true) ∧
      (second.machine.registers.flag = 1 ↔ meets false) ∧
      (0 < bitCount sprite →
        (first.machine.registers.flag = 1 ∨ second.machine.registers.flag = 1) ∧
          (¬ meets true → second.machine.registers.flag = 1)) := by
  intro first second sprite meets
  have hxFlag := Registers.select_ne_flagRegister_of_lt hx
  have hyFlag := Registers.select_ne_flagRegister_of_lt hy
  have hshort : sprite.length ≤ 32 := machine.length_spriteRows_le hheight
  have hfirst : first = .next (machine.drawn x y height) := machine.execute_draw x y height keys
  have hsecond : second = .next ((machine.drawn x y height).drawn x y height) := by
    simp only [second, hfirst]
    exact execute_draw _ x y height later
  have hafter := machine.drawn_drawn height hxFlag hyFlag
  have hfirstFlag : first.machine.registers.flag = 1 ↔ meets true := by
    rw [hfirst]
    exact (machine.flag_drawn_eq_one_iff x y height).trans
      (collided_paint_iff_of_length_le _ hshort)
  have hsecondFlag : second.machine.registers.flag = 1 ↔ meets false := by
    rw [hsecond]
    refine (flag_drawn_eq_one_iff _ x y height).trans ?_
    rw [machine.painted_drawn height hxFlag hyFlag, collided_paint_iff_of_length_le _ hshort]
    exact meets_paint_iff _ hshort
  refine ⟨by rw [hfirst]; rfl, by rw [hsecond]; rfl, ?_, ?_, ?_, ?_, hfirstFlag, hsecondFlag, ?_⟩
  · rw [hsecond]
    simp only [Outcome.next, hafter]
  · intro register hregister
    rw [hsecond]
    simp only [Outcome.next, hafter]
    exact Registers.get_setFlag_of_ne _ _ (Registers.select_ne_flagRegister_of_lt hregister)
  · rw [hfirst]
    exact machine.flag_drawn_le_one x y height
  · rw [hsecond]
    exact flag_drawn_le_one _ x y height
  · intro hbits
    rw [hfirstFlag, hsecondFlag]
    obtain ⟨lit, hmeets⟩ := machine.frameBuffer.exists_meets (machine.registers.get x)
      (machine.registers.get y) hbits
    cases lit with
    | true => exact ⟨.inl hmeets, fun hunlit => absurd hmeets hunlit⟩
    | false => exact ⟨.inr hmeets, fun _ => hmeets⟩

/-- A sprite around a corner of the picture, over one lit pixel. -/
theorem redrawing_restores_around_corner :
    let picture := blank.toggle (place 6 0)
    let machine : Machine :=
      { withSeed .chip 0 with
        memory := Memory.blank.write 0 [0xC0, 0x81]
        registers := (Registers.initial.set 3 127).set 14 63
        index := 0x3000
        frameBuffer := picture }
    let first := machine.execute .idle (.draw 3 14 2)
    let second := first.machine.execute .idle (.draw 3 14 2)
    ((3 : UInt8) < 15 ∧ (14 : UInt8) < 15 ∧ (2 : UInt8) ≤ 32) ∧
      second.machine.frameBuffer = picture ∧
      first.machine.registers.flag = 1 ∧ second.machine.registers.flag = 1 := by
  intro picture machine
  have hx : (3 : UInt8) < 15 := by decide
  have hy : (14 : UInt8) < 15 := by decide
  have hheight : (2 : UInt8) ≤ 32 := by decide
  have hlit : picture.Meets (machine.registers.get 3) (machine.registers.get 14)
      (machine.spriteRows 2) true := ⟨6, 0, by decide, by decide⟩
  have hunlit : picture.Meets (machine.registers.get 3) (machine.registers.get 14)
      (machine.spriteRows 2) false := ⟨63, 0, by decide, by decide⟩
  obtain ⟨_, _, hrest, _, _, _, hfirst, hsecond, _⟩ :=
    redrawing_restores machine .idle .idle hx hy hheight
  exact ⟨⟨hx, hy, hheight⟩, congrArg frameBuffer hrest, hfirst.mpr hlit, hsecond.mpr hunlit⟩

end Machine

end Chip8
