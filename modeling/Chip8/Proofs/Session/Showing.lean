import Chip8.Proofs.Session.Scenes
import Mathlib.Data.List.Forall2

namespace Chip8

/-- A picture at the moment at which the window is handed it. -/
structure View where
  /-- What the machine noted since the picture before, or since its program was ready. -/
  records : List Machine.Record
  pixels : Host.PixelBuffer
  playing : Bool

/-- The window shows the machine as the instructions of a scene left it, while the tone is on
exactly if the sound timer is running after the ticks. -/
structure View.Shows (view : View) (scene : Scene) : Prop where
  records_eq : view.records = scene.burst.log
  pixels_eq : ∀ (column : Fin 64) (row : Fin 32),
    view.pixels[64 * row.val + column.val]? =
      some (if scene.burst.machine.frameBuffer.pixel column row then 0x007FFF else 0)
  playing_iff : view.playing = true ↔ scene.machine.sound.count ≠ 0

def Scene.view (scene : Scene) : View where
  records := scene.burst.log
  pixels := scene.pixels
  playing := scene.machine.soundActive

theorem Scene.shows_view (scene : Scene) : scene.view.Shows scene := by
  refine ⟨rfl, fun column row => ?_, bne_iff_ne⟩
  rw [Scene.view, Scene.pixels, Host.PixelBuffer.getElem?_ofFrameBuffer, Host.Colour.lit_eq,
    Host.Colour.unlit_eq]

/-- The views among some events, of a tone that does as it is told. A stream runs from the moment at
which it is built. -/
def views (records : List Machine.Record) (playing : Bool) : List Host.Event → List View
  | [] => []
  | .present pixels :: rest => { records, pixels, playing } :: views [] playing rest
  | .record (.machine entry) :: rest => views (records ++ [entry]) playing rest
  | .record (.ready _ _ _) :: rest => views [] playing rest
  | .buildStream _ _ _ :: rest | .play :: rest => views records true rest
  | .pause :: rest => views records false rest
  | _ :: rest => views records playing rest

namespace Session

section Views

variable (records : List Machine.Record) (playing : Bool) (rest : List Host.Event)

@[simp] theorem views_noted (log : List Machine.Record) :
    views records playing (noted log ++ rest) = views (records ++ log) playing rest := by
  induction log generalizing records with
  | nil => rw [List.append_nil]; rfl
  | cons entry log ih =>
      have hlog := ih (records ++ [entry])
      rw [List.append_assoc] at hlog
      exact hlog

@[simp] theorem views_toggles (active : Bool) :
    views records playing (Sound.toggles playing active ++ rest) = views records active rest := by
  cases playing <;> cases active <;> rfl

end Views

theorem Pass.Performs.views_eq {pass : Pass} {scene : Scene} {playing : Bool}
    (hperforms : pass.Performs scene playing) (rest : List Host.Event) :
    views [] playing (pass.events ++ [.present scene.pixels] ++ rest) =
      scene.view :: views [] scene.machine.soundActive rest := by
  simp only [hperforms.events_eq, List.append_assoc, views_noted, views_toggles]
  rfl

namespace Stages

variable {playing : Bool} {scenes : List Scene} {report : Report}

theorem views_eq (hstages : Stages playing scenes report) :
    views [] playing report.events = (scenes.filter (·.fault?.isNone)).map Scene.view := by
  induction hstages with
  | closed | refused => rfl
  | faulted playing hfault hpass =>
      rw [hpass.events_eq, views_noted]
      simp [hfault, views]
  | @failed playing scene hfault hfailing pass hpass =>
      have hviews := hpass.views_eq []
      rw [List.append_nil] at hviews
      rw [hviews, List.filter_cons_of_pos (by simp [hfault])]
      rfl
  | @continued playing scene hfault hfailing pass hpass scenes report hrest ih =>
      rw [List.filter_cons_of_pos (by simp [hfault]), List.map_cons, ← ih]
      exact hpass.views_eq report.events

theorem passes_perform (hstages : Stages playing scenes report) :
    List.Forall₂ (fun pass scene => scene.fault? = none → ∃ before, pass.Performs scene before)
      report.passes scenes := by
  induction hstages with
  | closed | refused => exact .nil
  | faulted playing hfault hpass => exact .cons (fun hnone => by simp [hfault] at hnone) .nil
  | failed playing hfault hfailing hpass => exact .cons (fun _ => ⟨playing, hpass⟩) .nil
  | continued playing hfault hfailing hpass hrest ih => exact .cons (fun _ => ⟨playing, hpass⟩) ih

/-- The part of a report from some scene on is a report of that scene and those behind it. -/
theorem split {earlier later : List Scene} (hstages : Stages playing (earlier ++ later) report)
    (hlater : later ≠ []) :
    ∃ (events : List Host.Event) (passes : List Pass) (tone : Bool) (last : Report),
      report = last.after events passes ∧ passes.length = earlier.length ∧
        Stages tone later last ∧
        views [] playing report.events = earlier.map Scene.view ++ views [] tone last.events := by
  induction earlier generalizing playing report with
  | nil => exact ⟨[], [], playing, report, rfl, rfl, hstages, rfl⟩
  | cons scene earlier ih =>
      have hrest : earlier ++ later ≠ [] := by simp [hlater]
      rw [List.cons_append] at hstages
      generalize hscenes : earlier ++ later = scenes at hstages hrest
      cases hstages with
      | faulted | failed => exact absurd rfl hrest
      | @continued _ _ _ _ pass hpass _ report hstages =>
          subst hscenes
          obtain ⟨events, passes, tone, last, rfl, hlength, hlast, hviews⟩ := ih hstages
          refine ⟨pass.events ++ [.present scene.pixels] ++ events, pass :: passes, tone, last, ?_,
            by simp [hlength], hlast, ?_⟩
          · simp [Report.after]
          · exact (hpass.views_eq _).trans (congrArg (scene.view :: ·) hviews)

theorem of_fault {earlier later : List Scene} {scene : Scene}
    (hstages : Stages playing (earlier ++ scene :: later) report) {fault : Fault}
    (hfault : scene.fault? = some fault) :
    later = [] ∧ report.result = .error (.fault fault) ∧
      (views [] playing report.events).length = earlier.length ∧
      ∃ (passes : List Pass) (pass : Pass), report.passes = passes ++ [pass] ∧
        passes.length = earlier.length ∧ pass.Halts scene fault ∧
        pass.events <:+ report.events := by
  obtain ⟨events, passes, tone, last, rfl, hlength, hlast, hviews⟩ :=
    hstages.split (List.cons_ne_nil scene later)
  cases hlast with
  | failed _ hnone => simp [hfault] at hnone
  | continued _ hnone => simp [hfault] at hnone
  | @faulted _ _ cause hcause pass hpass =>
      obtain rfl : cause = fault := Option.some.inj (hcause.symm.trans hfault)
      have hsilent : views [] tone pass.events = [] := by
        rw [hpass.events_eq, views_noted]
        rfl
      refine ⟨rfl, rfl, ?_, passes, pass, rfl, hlength, hpass, List.suffix_append _ _⟩
      rw [hviews, hsilent, List.append_nil, List.length_map]

theorem of_failing {earlier later : List Scene} {scene : Scene}
    (hstages : Stages playing (earlier ++ scene :: later) report) (hfault : scene.fault? = none)
    (hfailing : scene.frame.failing = true) :
    later = [] ∧ report.result = .error (.fault (.window "Failed to Update")) ∧
      ∃ (passes : List Pass) (pass : Pass), report.passes = passes ++ [pass] ∧
        passes.length = earlier.length ∧
        pass.events ++ [.present scene.pixels] <:+ report.events := by
  obtain ⟨events, passes, tone, last, rfl, hlength, hlast, -⟩ :=
    hstages.split (List.cons_ne_nil scene later)
  cases hlast with
  | faulted _ hsome => simp [hfault] at hsome
  | continued _ _ hpresented => simp [hfailing] at hpresented
  | @failed _ _ _ _ pass hpass =>
      exact ⟨rfl, rfl, passes, pass, rfl, hlength, List.suffix_append _ _⟩

end Stages

/-- The scenes of a run with a machine that holds its program. None begins before the window is
open. -/
def scenes (settings : Settings) (host : Host) (machine : Machine) : List Scene :=
  if host.refusesWindow then
    []
  else
    Scene.ofFrames settings.speed machine (.start settings.timerRate host.start) host.frames

section Run

variable {settings : Settings} {host : Host} {device : Host.AudioDevice}

theorem stages_start (hsound : settings.mute = false) (haudio : host.audio = some device)
    (hreliable : device.Reliable) (machine : Machine) :
    ∃ (opening : List Host.Event) (report : Report),
      start settings host machine = report.after opening ∧
        (∀ rest, views [] false (opening ++ rest) = views [] false rest) ∧
        Stages false (scenes settings host machine) report := by
  obtain ⟨sound, hopen, hobedient, hplaying⟩ := Sound.onDevice_of_reliable hreliable
  have hopening : openSound settings host =
      (some sound, [.buildStream device.format device.rate device.channels, .pause]) := by
    simp [openSound, Sound.openStream, hsound, haudio, hopen]
  unfold start Screen.openWindow scenes
  cases host.refusesWindow with
  | true => exact ⟨[], _, rfl, fun rest => rfl, .refused _ _ _ _ _ _⟩
  | false =>
      let session : Session :=
        { machine
          sound := some sound
          clock := .start settings.timerRate host.start
          pixels := .blank }
      have htuned : session.sound = some sound := rfl
      have hstages := stages_play htuned hobedient settings.speed host.frames
      rw [hplaying] at hstages
      rw [hopening]
      exact ⟨_, _, rfl, fun rest => rfl, hstages⟩

theorem stages_run {random : RandomSource} {program : List UInt8}
    (hprogram : host.program = .ok program) {count : Nat}
    (hloads : ((Machine.initial settings.architecture random).load program).result = .ok count)
    (hsound : settings.mute = false) (haudio : host.audio = some device)
    (hreliable : device.Reliable) :
    ∃ (opening : List Host.Event) (report : Report),
      run settings host random = report.after opening ∧
        (∀ rest, views [] false (opening ++ rest) = views [] false rest) ∧
        Stages false
          (scenes settings host
            ((Machine.initial settings.architecture random).load program).machine)
          report := by
  let loaded := (Machine.initial settings.architecture random).load program
  obtain ⟨opening, report, hstart, hviews, hstages⟩ :=
    stages_start hsound haudio hreliable loaded.machine
  have hrun : run settings host random = report.after
      (noted loaded.log ++ .record (.ready settings.rom count settings.architecture) ::
        opening) := by
    simp [run, hprogram, hloads, hstart, loaded, Report.after]
  refine ⟨_, report, hrun, fun rest => ?_, hstages⟩
  rw [List.append_assoc, views_noted]
  exact hviews rest

end Run

/-- A run with a tone that never fails presents one picture for each scene without a fault, and
plays the tone of the same scene with it. A scene with a fault, or with a picture that cannot be
presented, is the last one and decides how the run ends. -/
theorem scenes_are_shown_and_heard (settings : Settings) (host : Host) (random : RandomSource)
    {program : List UInt8} (hprogram : host.program = .ok program) {count : Nat}
    (hloads : ((Machine.initial settings.architecture random).load program).result = .ok count)
    (hsound : settings.mute = false) {device : Host.AudioDevice}
    (haudio : host.audio = some device) (hreliable : device.Reliable) :
    let machine := ((Machine.initial settings.architecture random).load program).machine
    let report := run settings host random
    let scenes := scenes settings host machine
    let shown := views [] false report.events
    List.Forall₂ View.Shows shown (scenes.filter (·.fault?.isNone)) ∧
      List.Forall₂
        (fun pass scene => scene.fault? = none → ∃ before, pass.Performs scene before)
        report.passes scenes ∧
      (∀ (earlier : List Scene) (scene : Scene) (later : List Scene) (fault : Fault),
        scenes = earlier ++ scene :: later → scene.fault? = some fault →
        later = [] ∧ report.result = .error (.fault fault) ∧ shown.length = earlier.length ∧
          ∃ (passes : List Pass) (pass : Pass), report.passes = passes ++ [pass] ∧
            passes.length = earlier.length ∧ pass.Halts scene fault ∧
            pass.events <:+ report.events) ∧
      ∀ (earlier : List Scene) (scene : Scene) (later : List Scene),
        scenes = earlier ++ scene :: later → scene.fault? = none → scene.frame.failing = true →
        later = [] ∧ report.result = .error (.fault (.window "Failed to Update")) ∧
          ∃ (passes : List Pass) (pass : Pass), report.passes = passes ++ [pass] ∧
            passes.length = earlier.length ∧
            pass.events ++ [.present scene.pixels] <:+ report.events := by
  intro machine report scenes shown
  obtain ⟨opening, last, hrun, hviews, hstages⟩ :=
    stages_run hprogram hloads hsound haudio hreliable
  change Stages false scenes last at hstages
  have hreport : report = last.after opening := hrun
  have hpasses : report.passes = last.passes := by rw [hreport]; rfl
  have hresult : report.result = last.result := by rw [hreport]; rfl
  have hevents : report.events = opening ++ last.events := by rw [hreport]; rfl
  have hend : last.events <:+ report.events := hevents ▸ List.suffix_append _ _
  have hshown : shown = views [] false last.events := by
    rw [← hviews, ← hevents]
  rw [hshown, hpasses, hresult]
  refine ⟨?_, hstages.passes_perform, ?_, ?_⟩
  · rw [hstages.views_eq, List.forall₂_map_left_iff, List.forall₂_same]
    exact fun scene _ => scene.shows_view
  · intro earlier scene later fault hscenes hfault
    rw [hscenes] at hstages
    obtain ⟨hlater, hfailed, hlength, passes, pass, hsplit, hcount, hhalts, hsuffix⟩ :=
      hstages.of_fault hfault
    exact ⟨hlater, hfailed, hlength, passes, pass, hsplit, hcount, hhalts, hsuffix.trans hend⟩
  · intro earlier scene later hscenes hfault hfailing
    rw [hscenes] at hstages
    obtain ⟨hlater, hfailed, passes, pass, hsplit, hcount, hsuffix⟩ :=
      hstages.of_failing hfault hfailing
    exact ⟨hlater, hfailed, passes, pass, hsplit, hcount, hsuffix.trans hend⟩

/-- A tone is set in the first frame, and the second one returns from no subroutine. The first
picture is presented with the tone, if it can be presented. -/
theorem scenes_are_shown_and_heard_once :
    let host (failing : Bool) : Host :=
      { program := .ok [0x60, 0x02, 0xF0, 0x18, 0x00, 0xEE]
        frames := [{ failing }, {}]
        audio := some { format := .f32, rate := 44100, channels := 2 } }
    let report (failing : Bool) : Report :=
      run { rom := "tone", speed := 2 } (host failing) (.ofSeed 0)
    ((report false).result = .error (.fault .stackUnderflow) ∧
        ∃ view, views [] false (report false).events = [view] ∧ view.playing = true) ∧
      (report true).result = .error (.fault (.window "Failed to Update")) := by
  intro host report
  let settings : Settings := { rom := "tone", speed := 2 }
  let machine :=
    ((Machine.initial .chip (.ofSeed 0)).load [0x60, 0x02, 0xF0, 0x18, 0x00, 0xEE]).machine
  have hreliable : Host.AudioDevice.Reliable { format := .f32, rate := 44100, channels := 2 } :=
    ⟨rfl, rfl, fun _ hnone => absurd hnone List.not_mem_nil,
      fun _ hnone => absurd hnone List.not_mem_nil⟩
  have hmain (failing : Bool) :=
    scenes_are_shown_and_heard settings (host failing) (.ofSeed 0) rfl rfl rfl rfl hreliable
  constructor
  · have hcourse : (scenes settings (host false) machine).map
        (fun scene => (scene.fault?, scene.machine.soundActive)) =
          [(none, true), (some .stackUnderflow, true)] := by decide +kernel
    obtain ⟨first, later, hscenes, hfirst, hlater⟩ := List.map_eq_cons_iff.mp hcourse
    obtain ⟨second, rfl, hsecond⟩ := List.map_eq_singleton_iff.mp hlater
    have hclear : first.fault? = none := congrArg Prod.fst hfirst
    have hfault : second.fault? = some .stackUnderflow := congrArg Prod.fst hsecond
    obtain ⟨hshown, -, hfaults, -⟩ := hmain false
    obtain ⟨-, hresult, -⟩ := hfaults [first] second [] .stackUnderflow hscenes hfault
    refine ⟨hresult, ?_⟩
    have hpresented :
        (scenes settings (host false) machine).filter (·.fault?.isNone) = [first] := by
      simp [hscenes, hclear, hfault]
    obtain ⟨view, rest, hview, hrest, hviews⟩ :=
      List.forall₂_cons_right_iff.mp (hpresented ▸ hshown)
    cases hrest
    exact ⟨view, hviews, hview.playing_iff.mpr (bne_iff_ne.mp (congrArg Prod.snd hfirst))⟩
  · have hcourse : (scenes settings (host true) machine).map
        (fun scene => (scene.fault?, scene.frame.failing)) = [(none, true)] := by decide +kernel
    obtain ⟨first, hscenes, hfirst⟩ := List.map_eq_singleton_iff.mp hcourse
    obtain ⟨-, -, -, hfailures⟩ := hmain true
    exact (hfailures [] first [] hscenes (congrArg Prod.fst hfirst)
      (congrArg Prod.snd hfirst)).2.1

end Session

end Chip8
