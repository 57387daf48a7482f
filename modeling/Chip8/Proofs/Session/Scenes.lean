import Chip8.Host
import Chip8.Proofs.Session.Passes
import Chip8.Proofs.Sound

namespace Chip8

namespace FrameBuffer

private theorem flatMap_range_map {α : Type} (cell : Nat → Nat → α) {width : Nat}
    (hwidth : 0 < width) (height : Nat) :
    (List.range height).flatMap (fun row => (List.range width).map (cell row)) =
      (List.range (width * height)).map fun index => cell (index / width) (index % width) := by
  induction height with
  | zero => simp
  | succ height ih =>
      have hlast : ∀ column ∈ List.range width,
          cell height column =
            cell ((width * height + column) / width) ((width * height + column) % width) := by
        intro column hcolumn
        have hlt : column < width := List.mem_range.mp hcolumn
        rw [Nat.mul_add_div hwidth, Nat.mul_add_mod, Nat.div_eq_of_lt hlt, Nat.mod_eq_of_lt hlt,
          Nat.add_zero]
      rw [List.range_succ, List.flatMap_append, ih, Nat.mul_succ, List.range_add, List.map_append,
        List.map_map, List.flatMap_singleton]
      congr 1
      exact List.map_congr_left hlast

theorem flatten_rows (buffer : FrameBuffer) :
    buffer.rows.flatten =
      (List.range 2048).map fun index => buffer.pixel (index % 64) (index / 64) := by
  rw [rows, ← List.flatMap_def]
  exact flatMap_range_map (fun row column => buffer.pixel column row) (by decide) height

theorem getElem?_pixels (buffer : FrameBuffer) {index : Nat} (hindex : index < 2048) :
    buffer.pixels[index]? = some (buffer.pixel (index % 64) (index / 64)) := by
  have hplace : place (index % 64) (index / 64) = ⟨index, hindex⟩ := by
    apply Fin.ext
    simp only [place]
    omega
  rw [Vector.getElem?_eq_getElem hindex]
  simp only [pixel, hplace, Fin.getElem_fin]

end FrameBuffer

namespace Host.PixelBuffer

theorem getElem?_overwrite (pixels : PixelBuffer) (place : Nat) (values : List Bool)
    {index : Nat} (hindex : index < 2048) :
    (overwrite pixels place values)[index]? =
      if place ≤ index then
        (values[index - place]?.map fun lit => if lit then Colour.lit else Colour.unlit).or
          pixels[index]?
      else pixels[index]? := by
  induction values generalizing pixels place with
  | nil => simp [overwrite]
  | cons lit rest ih =>
      rw [overwrite, ih, Vector.getElem?_setIfInBounds]
      rcases Nat.lt_trichotomy index place with hbefore | rfl | hbehind
      · rw [if_neg (by omega), if_neg (by omega), if_neg (by omega)]
      · rw [if_neg (by omega), if_pos rfl, if_pos hindex, if_pos (Nat.le_refl _), Nat.sub_self]
        rfl
      · have hnext : index - place = index - (place + 1) + 1 := by omega
        rw [if_pos (by omega), if_neg (by omega), if_pos (by omega), hnext,
          List.getElem?_cons_succ]

theorem overwrite_rows (pixels : PixelBuffer) (buffer : FrameBuffer) :
    overwrite pixels 0 buffer.rows.flatten = ofFrameBuffer buffer := by
  apply Vector.ext
  intro index hindex
  apply Option.some.inj
  rw [← Vector.getElem?_eq_getElem hindex, ← Vector.getElem?_eq_getElem hindex,
    getElem?_overwrite _ _ _ hindex, if_pos (Nat.zero_le _), buffer.flatten_rows, Nat.sub_zero,
    List.getElem?_map, List.getElem?_range hindex, ofFrameBuffer, Vector.getElem?_map,
    buffer.getElem?_pixels hindex]
  rfl

theorem getElem?_ofFrameBuffer (buffer : FrameBuffer) (column : Fin 64) (row : Fin 32) :
    (ofFrameBuffer buffer)[64 * row.val + column.val]? =
      some (if buffer.pixel column row then Colour.lit else Colour.unlit) := by
  have hindex : 64 * row.val + column.val < 2048 := by omega
  have hcolumn : (64 * row.val + column.val) % 64 = column := by omega
  have hrow : (64 * row.val + column.val) / 64 = row := by omega
  rw [ofFrameBuffer, Vector.getElem?_map, buffer.getElem?_pixels hindex, hcolumn, hrow]
  rfl

end Host.PixelBuffer

/-- A frame as the machine lives through it: the instructions that are run in it, and the ticks that
have come due after them. -/
structure Scene where
  frame : Host.Frame
  burst : Machine.Burst
  ticks : Nat

namespace Scene

def fault? (scene : Scene) : Option Fault :=
  scene.burst.stop.fault?

def machine (scene : Scene) : Machine :=
  scene.burst.machine.ticks scene.ticks

def pixels (scene : Scene) : Host.PixelBuffer :=
  .ofFrameBuffer scene.burst.machine.frameBuffer

/-- No scene follows one that meets a fault or whose picture cannot be presented. -/
def isLast (scene : Scene) : Bool :=
  scene.fault?.isSome || scene.frame.failing

/-- What a machine does in a frame, given instructions of some number and a clock. -/
def ofFrame (speed : Nat) (machine : Machine) (clock : Clock) (frame : Host.Frame) : Scene where
  frame := frame
  burst := machine.burst frame.keys speed
  ticks := (clock.due frame.reading).1

/-- The scenes of the given frames, up to the first in which the window is being closed. -/
def ofFrames (speed : Nat) (machine : Machine) (clock : Clock) : List Host.Frame → List Scene
  | [] => []
  | frame :: rest =>
      if frame.keys.held .escape then
        []
      else
        let scene := ofFrame speed machine clock frame
        if scene.isLast then
          [scene]
        else
          scene :: ofFrames speed scene.machine (clock.due frame.reading).2 rest

end Scene

namespace Session

/-- A pass for a scene that meets a fault notes its instructions and the fault, and is over. -/
structure Pass.Halts (pass : Pass) (scene : Scene) (fault : Fault) : Prop where
  events_eq : pass.events =
    noted scene.burst.log ++ [.record (.halting scene.burst.machine.counter fault)]
  ticks_eq : pass.ticks = 0
  result_eq : pass.result = .error (.fault fault)

/-- A pass for any other scene notes its instructions and ticks, and then the tone is on exactly
while the sound timer runs. It was on or off before. -/
structure Pass.Performs (pass : Pass) (scene : Scene) (playing : Bool) : Prop where
  events_eq : pass.events =
    noted scene.burst.log ++ Sound.toggles playing scene.machine.soundActive
  ticks_eq : pass.ticks = scene.ticks
  result_ok : ∃ (session : Session) (sound : Sound), pass.result = .ok session ∧
    session.machine = scene.machine ∧ session.sound = some sound ∧
      sound.stream.running = scene.machine.soundActive

/-- A report of scenes, from a moment on at which the tone is on or off. -/
inductive Stages : Bool → List Scene → Report → Prop where
  | closed (playing : Bool) : Stages playing [] .closed
  | refused (playing : Bool) (title : String) (width height : Nat) (scale : Host.Scale)
      (failure : Failure) :
      Stages playing [] (.refused [.openWindow title width height scale] failure)
  | faulted (playing : Bool) {scene : Scene} {fault : Fault} (hfault : scene.fault? = some fault)
      {pass : Pass} (hpass : pass.Halts scene fault) :
      Stages playing [scene]
        { events := pass.events, passes := [pass], result := .error (.fault fault) }
  | failed (playing : Bool) {scene : Scene} (hfault : scene.fault? = none)
      (hfailing : scene.frame.failing = true) {pass : Pass} (hpass : pass.Performs scene playing) :
      Stages playing [scene]
        { events := pass.events ++ [.present scene.pixels]
          passes := [pass]
          result := .error (.fault (.window "Failed to Update")) }
  | continued (playing : Bool) {scene : Scene} (hfault : scene.fault? = none)
      (hfailing : scene.frame.failing = false) {pass : Pass} (hpass : pass.Performs scene playing)
      {scenes : List Scene} {report : Report}
      (hrest : Stages scene.machine.soundActive scenes report) :
      Stages playing (scene :: scenes)
        (report.after (pass.events ++ [.present scene.pixels]) [pass])

section Play

variable {session : Session} {speed : Nat} {frame : Host.Frame} {rest : List Host.Frame}

theorem play_of_escape (hescape : frame.keys.held .escape = true) :
    session.play speed (frame :: rest) = .closed := by
  simp [play, Screen.isRunning, Screen.keys, hescape]

theorem play_of_error (hescape : frame.keys.held .escape = false) {failure : Failure}
    (hresult : (session.pass speed frame).result = .error failure) :
    session.play speed (frame :: rest) =
      { events := (session.pass speed frame).events
        passes := [session.pass speed frame]
        result := .error failure } := by
  simp [play, Screen.isRunning, Screen.keys, hescape, hresult]

theorem play_of_ok (hescape : frame.keys.held .escape = false) {next : Session}
    (hresult : (session.pass speed frame).result = .ok next) :
    session.play speed (frame :: rest) =
      let pixels := Host.PixelBuffer.ofFrameBuffer next.machine.frameBuffer
      let events := (session.pass speed frame).events ++ [.present pixels]
      if frame.failing then
        { events
          passes := [session.pass speed frame]
          result := .error (.fault (.window "Failed to Update")) }
      else
        (({ next with pixels } : Session).play speed rest).after events
          [session.pass speed frame] := by
  cases hfailing : frame.failing <;>
    simp [play, Screen.isRunning, Screen.keys, Screen.render, Host.PixelBuffer.overwrite_rows,
      hescape, hresult, hfailing]

end Play

section Scene

variable {session : Session} {speed : Nat} {frame : Host.Frame}

theorem halts_pass {fault : Fault}
    (hfault : (Scene.ofFrame speed session.machine session.clock frame).fault? = some fault) :
    (session.pass speed frame).Halts
      (.ofFrame speed session.machine session.clock frame) fault := by
  rw [pass_of_fault hfault]
  exact ⟨rfl, rfl, rfl⟩

theorem exists_pass_eq {sound : Sound} (hsound : session.sound = some sound)
    (hobedient : sound.Obedient)
    (hfault : (Scene.ofFrame speed session.machine session.clock frame).fault? = none) :
    let scene := Scene.ofFrame speed session.machine session.clock frame
    ∃ tuned : Sound, tuned.Obedient ∧ tuned.playing = scene.machine.soundActive ∧
      session.pass speed frame =
        { events := noted scene.burst.log ++ Sound.toggles sound.playing scene.machine.soundActive
          ticks := scene.ticks
          result := .ok { session with
            machine := scene.machine
            sound := some tuned
            clock := (session.clock.due frame.reading).2 } } := by
  intro scene
  obtain ⟨tuned, hactive, htuned, hplaying⟩ := hobedient.setActive scene.machine.soundActive
  have hretuned : retuned session.sound ((session.machine.burst frame.keys speed).machine.ticks
      (session.clock.due frame.reading).1).soundActive =
        (some tuned, Sound.toggles sound.playing scene.machine.soundActive) := by
    rw [hsound, retuned]
    exact hactive ▸ rfl
  refine ⟨tuned, htuned, hplaying, ?_⟩
  rw [pass_of_no_fault hfault]
  simp only [hretuned]
  rfl

end Scene

theorem stages_play {session : Session} {sound : Sound} (hsound : session.sound = some sound)
    (hobedient : sound.Obedient) (speed : Nat) (frames : List Host.Frame) :
    Stages sound.playing (Scene.ofFrames speed session.machine session.clock frames)
      (session.play speed frames) := by
  induction frames generalizing session sound with
  | nil => exact .closed _
  | cons frame rest ih =>
      let scene := Scene.ofFrame speed session.machine session.clock frame
      cases hescape : frame.keys.held .escape with
      | true =>
          rw [play_of_escape hescape, Scene.ofFrames, if_pos hescape]
          exact .closed _
      | false =>
          rw [Scene.ofFrames, if_neg (by simp [hescape])]
          cases hfault : scene.fault? with
          | some fault =>
              have hlast : scene.isLast := by simp [Scene.isLast, hfault]
              have hhalts : (session.pass speed frame).Halts scene fault := halts_pass hfault
              rw [play_of_error hescape hhalts.result_eq, if_pos hlast]
              exact .faulted _ hfault hhalts
          | none =>
              obtain ⟨tuned, htuned, hplaying, hpass⟩ := exists_pass_eq hsound hobedient hfault
              have hperforms : (session.pass speed frame).Performs scene sound.playing := by
                rw [hpass]
                exact ⟨rfl, rfl, _, tuned, rfl, rfl, rfl, htuned.running_eq.trans hplaying⟩
              rw [play_of_ok hescape (congrArg Pass.result hpass)]
              cases hfailing : frame.failing with
              | true =>
                  have hlast : scene.isLast := by
                    simp [scene, Scene.isLast, Scene.ofFrame, hfailing]
                  rw [if_pos hlast]
                  exact .failed _ hfault hfailing hperforms
              | false =>
                  have hlast : ¬scene.isLast := by
                    rw [Scene.isLast, hfault]
                    simpa [scene, Scene.ofFrame] using hfailing
                  let later : Session :=
                    { machine := scene.machine
                      sound := some tuned
                      clock := (session.clock.due frame.reading).2
                      pixels := scene.pixels }
                  have hlater : later.sound = some tuned := rfl
                  have hrest := ih hlater htuned
                  rw [hplaying] at hrest
                  rw [if_neg hlast]
                  exact .continued _ hfault hfailing hperforms hrest

end Session

end Chip8
