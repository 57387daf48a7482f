import Chip8.Proofs.Clock
import Chip8.Proofs.Machine.Burst
import Chip8.Proofs.Machine.Keys
import Chip8.Session
import Mathlib.Logic.Function.Iterate

namespace Chip8

theorem Machine.ticks_eq_iterate (machine : Machine) (count : Nat) :
    machine.ticks count = Machine.tick^[count] machine := by
  induction count generalizing machine with
  | zero => exact machine.ticks_zero
  | succ count ih => rw [ticks_succ, ih, Function.iterate_succ_apply]

def Host.Event.machineRecord? : Host.Event → Option Machine.Record
  | .record (.machine entry) => some entry
  | _ => none

namespace Session

def Pass.records (pass : Pass) : List Machine.Record :=
  pass.events.filterMap Host.Event.machineRecord?

theorem machineRecords_noted (log : List Machine.Record) :
    (noted log).filterMap Host.Event.machineRecord? = log := by
  rw [noted, List.filterMap_map]
  exact List.filterMap_some

theorem machineRecords_setActive (sound : Sound) (active : Bool) :
    (sound.setActive active).2.filterMap Host.Event.machineRecord? = [] := by
  unfold Sound.setActive
  split
  · rfl
  · cases active <;> dsimp only <;> split <;> rfl

theorem records_pass (session : Session) (speed : Nat) (frame : Host.Frame) :
    (session.pass speed frame).records = (session.machine.burst frame.keys speed).log := by
  unfold pass Pass.records
  dsimp only
  split
  · rw [List.filterMap_append, machineRecords_noted]
    exact List.append_nil _
  · split
    · rw [List.filterMap_append, machineRecords_noted, machineRecords_setActive, List.append_nil]
    · exact machineRecords_noted _

/-- The sound after a frame that leaves the sound timer running or not, and what was asked of it. -/
def retuned (sound : Option Sound) (active : Bool) : Option Sound × List Host.Event :=
  match sound with
  | some sound => ((sound.setActive active).1, (sound.setActive active).2)
  | none => (none, [])

section Pass

variable {session : Session} {speed : Nat} {frame : Host.Frame}

theorem pass_of_fault {fault : Fault}
    (hfault : (session.machine.burst frame.keys speed).stop.fault? = some fault) :
    session.pass speed frame =
      let burst := session.machine.burst frame.keys speed
      { events := noted burst.log ++ [.record (.halting burst.machine.counter fault)]
        ticks := 0
        result := .error (.fault fault) } := by
  cases hstop : (session.machine.burst frame.keys speed).stop with
  | fault cause =>
      obtain rfl : cause = fault := by simpa [hstop, Machine.Stop.fault?] using hfault
      simp only [pass, hstop]
  | limit | left | waiting => simp [hstop, Machine.Stop.fault?] at hfault

theorem pass_of_no_fault
    (hfault : (session.machine.burst frame.keys speed).stop.fault? = none) :
    session.pass speed frame =
      let burst := session.machine.burst frame.keys speed
      let due := session.clock.due frame.reading
      let machine := burst.machine.ticks due.1
      let retuned := retuned session.sound machine.soundActive
      { events := noted burst.log ++ retuned.2
        ticks := due.1
        result := .ok { session with machine, sound := retuned.1, clock := due.2 } } := by
  cases hstop : (session.machine.burst frame.keys speed).stop with
  | fault cause => simp [hstop, Machine.Stop.fault?] at hfault
  | limit | left | waiting =>
      cases hsound : session.sound with
      | none => simp [pass, hstop, hsound, retuned]
      | some sound => simp [pass, hstop, hsound, retuned]

/-- A pass that ends well has reported the ticks that the clock owed, and applied them to the
machine that its instructions left. -/
theorem completed_pass {next : Session} (hresult : (session.pass speed frame).result = .ok next) :
    (session.pass speed frame).ticks = (session.clock.due frame.reading).1 ∧
      next.clock = (session.clock.due frame.reading).2 ∧
      next.machine = (session.machine.burst frame.keys speed).machine.ticks
        (session.clock.due frame.reading).1 := by
  cases hfault : (session.machine.burst frame.keys speed).stop.fault? with
  | some fault =>
      rw [pass_of_fault hfault] at hresult
      cases hresult
  | none =>
      rw [pass_of_no_fault hfault] at hresult ⊢
      cases hresult
      exact ⟨rfl, rfl, rfl⟩

theorem exists_result_of_isOk {pass : Pass} (hok : pass.result.isOk) :
    ∃ next, pass.result = .ok next := by
  cases hresult : pass.result with
  | ok next => exact ⟨next, rfl⟩
  | error failure => simp [hresult, Except.isOk, Except.toBool] at hok

end Pass

/-- How a run goes on at a frame: it ends before the frame, with it, or goes on after it. -/
inductive PlayCourse (session : Session) (speed : Nat) (frame : Host.Frame)
    (rest : List Host.Frame) : List Pass → Prop where
  | closed : PlayCourse session speed frame rest []
  | ended : PlayCourse session speed frame rest [session.pass speed frame]
  | continued (next : Session) (pixels : Host.PixelBuffer)
      (hresult : (session.pass speed frame).result = .ok next) :
      PlayCourse session speed frame rest
        (session.pass speed frame :: (({ next with pixels } : Session).play speed rest).passes)

theorem playCourse (session : Session) (speed : Nat) (frame : Host.Frame)
    (rest : List Host.Frame) :
    PlayCourse session speed frame rest (session.play speed (frame :: rest)).passes := by
  unfold play
  dsimp only
  split
  · split
    · exact .ended
    · rename_i next hresult
      split
      · exact .ended
      · exact .continued next _ hresult
  · exact .closed

/-- The machine with which a frame begins if these are the frames before it and their passes. In
each of them it runs its instructions and then counts the ticks of the pass. -/
def machineBehind (speed : Nat) (machine : Machine) (played : List (Host.Frame × Pass)) :
    Machine :=
  played.foldl
    (fun machine entry =>
      Machine.tick^[entry.2.ticks] (machine.burst entry.1.keys speed).machine)
    machine

theorem machineBehind_cons (speed : Nat) (machine : Machine) (first : Host.Frame × Pass)
    (rest : List (Host.Frame × Pass)) :
    machineBehind speed machine (first :: rest) =
      machineBehind speed
        (Machine.tick^[first.2.ticks] (machine.burst first.1.keys speed).machine) rest :=
  rfl

theorem pass_of_zip_play {session : Session} {speed : Nat} {frames : List Host.Frame}
    {before later : List (Host.Frame × Pass)} {frame : Host.Frame} {pass : Pass}
    (hsplit : frames.zip (session.play speed frames).passes = before ++ (frame, pass) :: later) :
    ∃ current : Session, pass = current.pass speed frame ∧
      current.machine = machineBehind speed session.machine before := by
  induction frames generalizing session before with
  | nil => simp at hsplit
  | cons first rest ih =>
      generalize hpasses : (session.play speed (first :: rest)).passes = passes at hsplit
      have hcourse := hpasses ▸ session.playCourse speed first rest
      cases before with
      | nil =>
          cases hcourse with
          | closed => cases hsplit
          | ended | continued =>
              obtain ⟨rfl, rfl⟩ := Prod.mk.inj (List.cons.inj hsplit).1
              exact ⟨session, rfl, rfl⟩
      | cons head before =>
          cases hcourse with
          | closed => cases hsplit
          | ended => simp at hsplit
          | continued next pixels hresult =>
              obtain ⟨rfl, hrest⟩ := List.cons.inj hsplit
              obtain ⟨hticks, -, hmachine⟩ := completed_pass hresult
              obtain ⟨current, hpass, hcurrent⟩ := ih hrest
              refine ⟨current, hpass, ?_⟩
              rw [machineBehind_cons, hticks, ← Machine.ticks_eq_iterate, ← hmachine]
              exact hcurrent

theorem passes_start (settings : Settings) (host : Host) (machine : Machine) :
    (start settings host machine).passes = [] ∨
      ∃ session : Session, session.machine = machine ∧
        session.clock = .start settings.timerRate host.start ∧
        (start settings host machine).passes =
          (session.play settings.speed host.frames).passes := by
  unfold start Screen.openWindow
  cases host.refusesWindow with
  | true => exact .inl rfl
  | false => exact .inr ⟨_, rfl, rfl, rfl⟩

theorem passes_run (settings : Settings) (host : Host) (random : RandomSource) :
    (run settings host random).passes = [] ∨
      ∃ (program : List UInt8) (session : Session), host.program = .ok program ∧
        session.machine =
            ((Machine.initial settings.architecture random).load program).machine ∧
        session.clock = .start settings.timerRate host.start ∧
        (run settings host random).passes =
          (session.play settings.speed host.frames).passes := by
  unfold run
  cases hprogram : host.program with
  | error error => exact .inl rfl
  | ok program =>
      dsimp only
      split
      · exact .inl rfl
      · rcases passes_start settings host _ with hnone | ⟨session, hmachine, hclock, hpasses⟩
        · exact .inl hnone
        · exact .inr ⟨program, session, rfl, hmachine, hclock, hpasses⟩

/-- Every pass of a run is that of its frame, and begins with the machine that the passes before it
have made of the one that the program was loaded into. -/
theorem pass_of_zip_run {settings : Settings} {host : Host} {random : RandomSource}
    {before later : List (Host.Frame × Pass)} {frame : Host.Frame} {pass : Pass}
    (hsplit : host.frames.zip (run settings host random).passes =
      before ++ (frame, pass) :: later) :
    ∃ (program : List UInt8) (current : Session), host.program = .ok program ∧
      pass = current.pass settings.speed frame ∧
      current.machine =
        machineBehind settings.speed
          ((Machine.initial settings.architecture random).load program).machine before := by
  rcases passes_run settings host random with
    hnone | ⟨program, session, hprogram, hmachine, -, hpasses⟩
  · simp [hnone] at hsplit
  · rw [hpasses] at hsplit
    obtain ⟨current, hpass, hcurrent⟩ := pass_of_zip_play hsplit
    exact ⟨program, current, hprogram, hpass, hmachine ▸ hcurrent⟩

theorem pass_of_mem_run {settings : Settings} {host : Host} {random : RandomSource}
    {frame : Host.Frame} {pass : Pass}
    (hmem : (frame, pass) ∈ host.frames.zip (run settings host random).passes) :
    ∃ current : Session, pass = current.pass settings.speed frame := by
  obtain ⟨before, later, hsplit⟩ := List.append_of_mem hmem
  obtain ⟨_, current, -, hpass, -⟩ := pass_of_zip_run hsplit
  exact ⟨current, hpass⟩

/-- In a frame in which keys have been pressed, every word that waits captures the first of them
in the layout, and no other key is captured. In any other frame no word captures a key, and the
first one that waits is the last. -/
theorem pressed_key_answers_every_wait (settings : Settings) (host : Host)
    (random : RandomSource) :
    (∀ (frame : Host.Frame) (pass : Pass),
      (frame, pass) ∈ host.frames.zip (run settings host random).passes →
        Machine.WaitsAnswered frame.keys pass.records) ∧
      ∀ (machine : Machine) (keys : KeyState) (key x : UInt8),
        .captured key x ∈ (machine.step keys).log ↔ machine.Captures keys key x := by
  refine ⟨fun frame pass hpass => ?_, fun _ _ _ _ => Machine.captured_mem_log_step_iff⟩
  obtain ⟨session, rfl⟩ := pass_of_mem_run hpass
  rw [records_pass]
  exact session.machine.waitsAnswered_burst frame.keys settings.speed

/-- Three words that wait, in a frame in which two keys have been pressed. -/
theorem pressed_key_answers_every_wait_thrice :
    let keys : KeyState := .ofLists [] [.v, .q]
    let host : Host :=
      { program := .ok [0xF0, 0x0A, 0xF1, 0x0A, 0xF0, 0x0A], frames := [{ keys }] }
    let report := run { rom := "waits", mute := true } host (.ofSeed 0)
    ∃ pass, ({ keys }, pass) ∈ host.frames.zip report.passes ∧
      Machine.WaitsAnswered keys pass.records ∧
      Machine.capturedKeys pass.records = [4, 4, 4] := by
  intro keys host report
  have hcaptured : report.passes.map (fun pass => Machine.capturedKeys pass.records) =
      [[4, 4, 4]] := by decide +kernel
  obtain ⟨pass, hpasses, hkeys⟩ := List.map_eq_singleton_iff.mp hcaptured
  have hpass : ({ keys }, pass) ∈ host.frames.zip report.passes := by
    rw [hpasses]
    exact List.mem_singleton_self _
  exact ⟨pass, hpass, (pressed_key_answers_every_wait _ host _).1 _ pass hpass, hkeys⟩

/-- One press can be captured twice, by two words that wait in the same frame. -/
theorem pressed_key_is_captured_twice :
    let keys : KeyState := .ofLists [] [.q]
    let host : Host := { program := .ok [0xF0, 0x0A, 0xF1, 0x0A], frames := [{ keys }] }
    let report := run { rom := "waits", mute := true } host (.ofSeed 0)
    ¬ ∀ pass ∈ report.passes, ∀ key,
      (Machine.capturedKeys pass.records).count key ≤ 1 := by
  intro keys host report honce
  have hcaptured : report.passes.map (fun pass => Machine.capturedKeys pass.records) =
      [[4, 4]] := by decide +kernel
  have hcounts : ∀ captured ∈ report.passes.map fun pass => Machine.capturedKeys pass.records,
      captured.count 4 ≤ 1 :=
    List.forall_mem_map.mpr fun pass hpass => honce pass hpass 4
  rw [hcaptured] at hcounts
  exact absurd (hcounts _ (List.mem_singleton_self _)) (by decide)

theorem ticks_play {session : Session} {speed : Nat} {frames : List Host.Frame}
    {completed : List Pass} (hcompleted : completed <+: (session.play speed frames).passes)
    (hok : ∀ pass ∈ completed, pass.result.isOk) :
    completed.map Pass.ticks =
      (session.clock.poll ((frames.take completed.length).map Host.Frame.reading)).1 := by
  induction frames generalizing session completed with
  | nil =>
      obtain rfl : completed = [] := List.prefix_nil.mp hcompleted
      rfl
  | cons frame rest ih =>
      cases completed with
      | nil => rfl
      | cons first later =>
          have hlater : ∀ pass ∈ later, pass.result.isOk :=
            fun pass hpass => hok pass (List.mem_cons_of_mem _ hpass)
          generalize hpasses : (session.play speed (frame :: rest)).passes = passes at hcompleted
          have hcourse := hpasses ▸ session.playCourse speed frame rest
          cases hcourse with
          | closed => exact absurd (List.prefix_nil.mp hcompleted) (List.cons_ne_nil _ _)
          | ended =>
              obtain ⟨rfl, hnil⟩ := List.cons_prefix_cons.mp hcompleted
              obtain rfl : later = [] := List.prefix_nil.mp hnil
              obtain ⟨next, hresult⟩ := exists_result_of_isOk (hok _ List.mem_cons_self)
              obtain ⟨hticks, -, -⟩ := completed_pass hresult
              simp [hticks]
          | continued next pixels hresult =>
              obtain ⟨rfl, hrest⟩ := List.cons_prefix_cons.mp hcompleted
              obtain ⟨hticks, hclock, -⟩ := completed_pass hresult
              have htail := ih hrest hlater
              simp [hticks, htail, hclock]

theorem ticks_run {settings : Settings} {host : Host} {random : RandomSource}
    {completed : List Pass} (hcompleted : completed <+: (run settings host random).passes)
    (hok : ∀ pass ∈ completed, pass.result.isOk) :
    completed.map Pass.ticks =
      ((Clock.start settings.timerRate host.start).poll
        ((host.frames.take completed.length).map Host.Frame.reading)).1 := by
  rcases passes_run settings host random with
    hnone | ⟨_, session, -, -, hclock, hpasses⟩
  · rw [hnone] at hcompleted
    obtain rfl : completed = [] := List.prefix_nil.mp hcompleted
    rfl
  · rw [hpasses] at hcompleted
    rw [← hclock]
    exact ticks_play hcompleted hok

/-- In frames that meet no fault the ticks are those of the clock alone, and each of them counts
the timers down once, from frame to frame on the machine that the frame before has left. So they
come to the whole periods that have passed since the start. -/
theorem ticks_follow_the_clock (settings : Settings) (host : Host) (random : RandomSource) :
    (∀ (before later : List (Host.Frame × Pass)) (frame : Host.Frame) (pass : Pass),
      host.frames.zip (run settings host random).passes = before ++ (frame, pass) :: later →
      ∃ (program : List UInt8) (current : Session), host.program = .ok program ∧
        pass = current.pass settings.speed frame ∧
        current.machine =
          machineBehind settings.speed
            ((Machine.initial settings.architecture random).load program).machine before ∧
        ∀ next : Session, pass.result = .ok next →
          next.machine =
            Machine.tick^[pass.ticks]
              (current.machine.burst frame.keys settings.speed).machine) ∧
      ∀ completed : List Pass, completed <+: (run settings host random).passes →
        (∀ pass ∈ completed, pass.result.isOk) →
        completed.map Pass.ticks =
            ((Clock.start settings.timerRate host.start).poll
              ((host.frames.take completed.length).map Host.Frame.reading)).1 ∧
          ∀ last : Host.Frame, (host.frames.take completed.length).getLast? = some last →
            (host.start :: host.frames.map Host.Frame.reading).Pairwise (· ≤ ·) →
            let periods := (last.reading - host.start).toNat /
              (1000000000 / max 1 (min settings.timerRate 1000000))
            periods < UInt32.size → (completed.map Pass.ticks).sum = periods := by
  refine ⟨fun before later frame pass hsplit => ?_, fun completed hcompleted hok => ?_⟩
  · obtain ⟨program, current, hprogram, rfl, hmachine⟩ := pass_of_zip_run hsplit
    refine ⟨program, current, hprogram, rfl, hmachine, fun next hresult => ?_⟩
    obtain ⟨hticks, -, hnext⟩ := completed_pass hresult
    rw [hnext, hticks, Machine.ticks_eq_iterate]
  · have hticks := ticks_run hcompleted hok
    refine ⟨hticks, fun last hlast hsorted => ?_⟩
    intro periods hsmall
    have hreadings :
        ((host.frames.take completed.length).map Host.Frame.reading).Pairwise (· ≤ ·) :=
      (List.pairwise_cons.mp hsorted).2.sublist ((List.take_sublist _ _).map _)
    rw [hticks]
    refine Clock.sum_poll_start hreadings ?_ hsmall
    rw [List.getLast?_map, hlast]
    rfl

/-- A second of a program that jumps on the spot, in frames of uneven length. -/
theorem ticks_follow_the_clock_over_a_second :
    let host : Host :=
      { program := .ok [0x12, 0x00]
        frames :=
          [{ reading := 10000000 }, { reading := 17000000 }, { reading := 34000000 },
            { reading := 1000000000 }] }
    let report := run { rom := "loop", speed := 2, mute := true } host (.ofSeed 0)
    let loaded := ((Machine.initial .chip (.ofSeed 0)).load [0x12, 0x00]).machine
    (∃ (first second : Pass) (next current : Session),
      report.passes.take 2 = [first, second] ∧ second.result = .ok next ∧
        current.machine = machineBehind 2 loaded [({ reading := 10000000 }, first)] ∧
        next.machine = Machine.tick^[second.ticks] (current.machine.burst .idle 2).machine) ∧
      (report.passes.map Pass.ticks).sum = 60 := by
  intro host report loaded
  have hmain := ticks_follow_the_clock { rom := "loop", speed := 2, mute := true } host (.ofSeed 0)
  have hlength : report.passes.length = 4 := by decide +kernel
  have hok : ∀ pass ∈ report.passes, pass.result.isOk := by decide +kernel
  constructor
  · obtain ⟨first, rest, hfirst⟩ := List.exists_cons_of_length_eq_add_one hlength
    rw [hfirst] at hlength
    obtain ⟨second, third, fourth, hrest⟩ := List.length_eq_three.mp (Nat.succ.inj hlength)
    have hpasses : report.passes = [first, second, third, fourth] := hfirst.trans (hrest ▸ rfl)
    obtain ⟨next, hnext⟩ := exists_result_of_isOk (hok second (by simp [hpasses]))
    have hsplit : host.frames.zip report.passes =
        [({ reading := 10000000 }, first)] ++ ({ reading := 17000000 }, second) ::
          [({ reading := 34000000 }, third), ({ reading := 1000000000 }, fourth)] := by
      rw [hpasses]
      rfl
    obtain ⟨program, current, hprogram, -, hcurrent, hmachine⟩ := hmain.1 _ _ _ _ hsplit
    cases hprogram
    exact ⟨first, second, next, current, by rw [hpasses]; rfl, hnext, hcurrent, hmachine next hnext⟩
  · have hlast : (host.frames.take report.passes.length).getLast? =
        some { reading := 1000000000 } := by
      rw [hlength]
      rfl
    have hsum := (hmain.2 report.passes List.prefix_rfl hok).2 _ hlast (by decide) (by decide)
    exact hsum.trans (by decide)

end Session

end Chip8
