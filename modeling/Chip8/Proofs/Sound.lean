import Chip8.Sound
import Mathlib.Data.List.Chain

namespace Chip8

structure Host.AudioDevice.Reliable (device : Host.AudioDevice) : Prop where
  configures : device.configurationFailure = none
  builds : device.buildFailure = none
  plays : ∀ failure ∈ device.playFailures, failure = none
  pauses : ∀ failure ∈ device.pauseFailures, failure = none

namespace Host.Stream

structure Reliable (stream : Stream) : Prop where
  plays : ∀ failure ∈ stream.playFailures, failure = none
  pauses : ∀ failure ∈ stream.pauseFailures, failure = none

variable {stream : Stream}

theorem Reliable.play (hreliable : stream.Reliable) :
    ∃ next : Stream, stream.play = (.ok (), next) ∧ next.running = true ∧ next.Reliable := by
  obtain ⟨hplays, hpauses⟩ := hreliable
  unfold Stream.play
  cases hfailures : stream.playFailures with
  | nil =>
      rw [hfailures] at hplays
      exact ⟨_, rfl, rfl, hplays, hpauses⟩
  | cons failure rest =>
      rw [hfailures] at hplays
      obtain rfl : failure = none := hplays failure List.mem_cons_self
      exact ⟨_, rfl, rfl, fun later hlater => hplays later (List.mem_cons_of_mem _ hlater), hpauses⟩

theorem Reliable.pause (hreliable : stream.Reliable) :
    ∃ next : Stream, stream.pause = (.ok (), next) ∧ next.running = false ∧ next.Reliable := by
  obtain ⟨hplays, hpauses⟩ := hreliable
  unfold Stream.pause
  cases hfailures : stream.pauseFailures with
  | nil =>
      rw [hfailures] at hpauses
      exact ⟨_, rfl, rfl, hplays, hpauses⟩
  | cons failure rest =>
      rw [hfailures] at hpauses
      obtain rfl : failure = none := hpauses failure List.mem_cons_self
      exact ⟨_, rfl, rfl, hplays, fun later hlater => hpauses later (List.mem_cons_of_mem _ hlater)⟩

end Host.Stream

namespace Sound

/-- What was told to the stream is what it does, and so will be everything it is told later. -/
structure Obedient (sound : Sound) : Prop where
  reliable : sound.stream.Reliable
  running_eq : sound.stream.running = sound.playing

/-- What is asked of a stream that does one thing, or the other, and shall do either. -/
def toggles (playing active : Bool) : List Host.Event :=
  if active = playing then [] else [if active then .play else .pause]

theorem Obedient.setActive {sound : Sound} (hobedient : sound.Obedient) (active : Bool) :
    ∃ next : Sound, sound.setActive active = (next, toggles sound.playing active) ∧
      next.Obedient ∧ next.playing = active := by
  unfold Sound.setActive toggles
  by_cases hsame : active = sound.playing
  · rw [if_pos hsame, if_pos hsame]
    exact ⟨sound, rfl, hobedient, hsame.symm⟩
  · rw [if_neg hsame, if_neg hsame]
    cases active with
    | true =>
        obtain ⟨stream, hplay, hrunning, hreliable⟩ := hobedient.reliable.play
        exact ⟨{ stream, playing := true }, by simp [hplay], ⟨hreliable, hrunning⟩, rfl⟩
    | false =>
        obtain ⟨stream, hpause, hrunning, hreliable⟩ := hobedient.reliable.pause
        exact ⟨{ stream, playing := false }, by simp [hpause], ⟨hreliable, hrunning⟩, rfl⟩

theorem onDevice_of_reliable {device : Host.AudioDevice} (hreliable : device.Reliable) :
    ∃ sound : Sound,
      onDevice device =
          { result := .ok sound
            events := [.buildStream device.format device.rate device.channels, .pause] } ∧
        sound.Obedient ∧ sound.playing = false := by
  have hstream : (Host.Stream.onDevice device).Reliable := ⟨hreliable.plays, hreliable.pauses⟩
  obtain ⟨stream, hpause, hrunning, hnext⟩ := hstream.pause
  refine ⟨{ stream, playing := false }, ?_, ⟨hnext, hrunning⟩, rfl⟩
  simp only [onDevice, hreliable.configures, hreliable.builds, hpause]

end Sound

/-! A tone on a device that may fail at any call. What is remembered of the stream is what it does,
and not what was wished for, so that a wish that a failure has left open leads to another call. -/

def Host.Event.asked? : Host.Event → Option Bool
  | .play => some true
  | .pause => some false
  | _ => none

namespace Host.Stream

def toggle (stream : Stream) (active : Bool) : Except ToggleError Unit × Stream :=
  if active then stream.play else stream.pause

def failure? (stream : Stream) (active : Bool) : Option ToggleError :=
  match (stream.toggle active).1 with
  | .ok _ => none
  | .error error => some error

/-- The failures of the attempts to come, to start the stream or to stop it. -/
def script (stream : Stream) (active : Bool) : List (Option ToggleError) :=
  if active then stream.playFailures else stream.pauseFailures

inductive ToggleCourse (stream : Stream) (active : Bool) : Prop where
  | done (next : Stream) (htoggle : stream.toggle active = (.ok (), next))
      (hrunning : next.running = active)
  | failed (error : ToggleError) (next : Stream)
      (htoggle : stream.toggle active = (.error error, next))
      (hrunning : next.running = stream.running)

theorem toggleCourse (stream : Stream) (active : Bool) : stream.ToggleCourse active := by
  rcases stream with ⟨format, channels, generator, running, plays, pauses⟩
  cases active with
  | true =>
      rcases plays with _ | ⟨_ | error, rest⟩
      · exact .done _ rfl rfl
      · exact .done _ rfl rfl
      · exact .failed error _ rfl rfl
  | false =>
      rcases pauses with _ | ⟨_ | error, rest⟩
      · exact .done _ rfl rfl
      · exact .done _ rfl rfl
      · exact .failed error _ rfl rfl

theorem failure?_of_script {stream : Stream} {active : Bool} {failure : Option ToggleError}
    {rest : List (Option ToggleError)} (hscript : stream.script active = failure :: rest) :
    stream.failure? active = failure := by
  rcases stream with ⟨format, channels, generator, running, plays, pauses⟩
  cases active <;> obtain rfl : _ = failure :: rest := hscript <;> cases failure <;> rfl

theorem script_toggle (stream : Stream) (active wanted : Bool) :
    (stream.toggle active).2.script wanted =
      if wanted = active then (stream.script wanted).tail else stream.script wanted := by
  rcases stream with ⟨format, channels, generator, running, plays, pauses⟩
  cases active with
  | true => cases wanted <;> rcases plays with _ | ⟨_ | error, rest⟩ <;> rfl
  | false => cases wanted <;> rcases pauses with _ | ⟨_ | error, rest⟩ <;> rfl

end Host.Stream

namespace Sound

/-- A call to the stream, and how it failed. -/
structure Call where
  active : Bool
  failure : Option Host.ToggleError
  deriving DecidableEq, Repr

def Call.success? (call : Call) : Option Bool :=
  if call.failure.isNone then some call.active else none

/-- What the stream is asked when the tone shall sound, or shall not. -/
def asked (sound : Sound) (active : Bool) : List Bool :=
  (sound.setActive active).2.filterMap Host.Event.asked?

/-- The calls that wishes lead to, with what the stream answers to each when it is made. -/
def calls (sound : Sound) : List Bool → List Call
  | [] => []
  | active :: rest =>
      (sound.asked active).map (fun wanted => ⟨wanted, sound.stream.failure? wanted⟩) ++
        (sound.setActive active).1.calls rest

def request (active : Bool) : Host.Event :=
  if active then .play else .pause

inductive WishCourse (sound : Sound) (active : Bool) : Prop where
  | kept (hsame : active = sound.playing) (hset : sound.setActive active = (sound, []))
  | done (hdiffers : active ≠ sound.playing) (next : Host.Stream)
      (htoggle : sound.stream.toggle active = (.ok (), next)) (hrunning : next.running = active)
      (hset : sound.setActive active = ({ stream := next, playing := active }, [request active]))
  | failed (hdiffers : active ≠ sound.playing) (error : Host.ToggleError) (next : Host.Stream)
      (htoggle : sound.stream.toggle active = (.error error, next))
      (hrunning : next.running = sound.stream.running)
      (hset : sound.setActive active =
        ({ sound with stream := next }, [request active, .record (.stuck error)]))

theorem setActive_of_ne {sound : Sound} {active : Bool} (hdiffers : active ≠ sound.playing) :
    sound.setActive active =
      match sound.stream.toggle active with
      | (.ok (), next) => ({ stream := next, playing := active }, [request active])
      | (.error error, next) =>
          ({ sound with stream := next }, [request active, .record (.stuck error)]) :=
  if_neg hdiffers

theorem wishCourse (sound : Sound) (active : Bool) : sound.WishCourse active := by
  by_cases hsame : active = sound.playing
  · exact .kept hsame (if_pos hsame)
  · have hset := setActive_of_ne hsame
    cases sound.stream.toggleCourse active with
    | done next htoggle hrunning =>
        rw [htoggle] at hset
        exact .done hsame next htoggle hrunning hset
    | failed error next htoggle hrunning =>
        rw [htoggle] at hset
        exact .failed hsame error next htoggle hrunning hset

theorem asked_eq (sound : Sound) (active : Bool) :
    sound.asked active = if active = sound.playing then [] else [active] := by
  cases sound.wishCourse active with
  | kept hsame hset => rw [asked, hset, if_pos hsame, List.filterMap_nil]
  | done hdiffers _ _ _ hset | failed hdiffers _ _ _ _ hset =>
      rw [asked, hset, if_neg hdiffers]
      cases active <;> rfl

theorem calls_of_eq {sound : Sound} {active : Bool} (hsame : active = sound.playing)
    (rest : List Bool) : sound.calls (active :: rest) = sound.calls rest := by
  have hset : sound.setActive active = (sound, []) := if_pos hsame
  rw [calls, asked_eq, if_pos hsame, hset, List.map_nil, List.nil_append]

theorem calls_of_ne {sound : Sound} {active : Bool} (hdiffers : active ≠ sound.playing)
    (rest : List Bool) :
    sound.calls (active :: rest) =
      ⟨active, sound.stream.failure? active⟩ :: (sound.setActive active).1.calls rest := by
  rw [calls, asked_eq, if_neg hdiffers, List.map_singleton, List.singleton_append]

theorem playing_setActive_ne_iff {sound : Sound} {active : Bool} :
    (sound.setActive active).1.playing ≠ active ↔
      ∃ error, (sound.stream.toggle active).1 = .error error ∧
        (sound.setActive active).2 = [request active, .record (.stuck error)] := by
  cases sound.wishCourse active with
  | kept hsame hset => simp [hset, hsame.symm]
  | done _ next htoggle _ hset => simp [hset, htoggle]
  | failed hdiffers error next htoggle _ hset =>
      rw [hset, htoggle]
      exact ⟨fun _ => ⟨error, rfl, rfl⟩, fun _ => hdiffers.symm⟩

/-- What the calls have achieved, in order: the tone was started, or stopped. -/
def achieved (sound : Sound) (wishes : List Bool) : List Bool :=
  (sound.calls wishes).filterMap Call.success?

/-- What is remembered of a stream is what it does. -/
def Faithful (sound : Sound) : Prop :=
  sound.playing = sound.stream.running

theorem Faithful.setAll {sound : Sound} (hfaithful : sound.Faithful) (wishes : List Bool) :
    (sound.setAll wishes).1.Faithful ∧
      (sound.setAll wishes).1.playing = (sound.achieved wishes).getLast?.getD sound.playing ∧
      (sound.playing :: sound.achieved wishes).IsChain (· ≠ ·) := by
  induction wishes generalizing sound with
  | nil => exact ⟨hfaithful, rfl, .singleton _⟩
  | cons active rest ih =>
      change ((sound.setActive active).1.setAll rest).1.Faithful ∧
        ((sound.setActive active).1.setAll rest).1.playing = _ ∧ _
      cases sound.wishCourse active with
      | kept hsame hset =>
          rw [achieved, calls_of_eq hsame, hset]
          exact ih hfaithful
      | done hdiffers next htoggle hrunning hset =>
          have hanswer : sound.stream.failure? active = none := by
            rw [Host.Stream.failure?, htoggle]
          have hachieved : sound.achieved (active :: rest) =
              active :: Sound.achieved { stream := next, playing := active } rest := by
            rw [achieved, calls_of_ne hdiffers, hanswer, hset]
            rfl
          have hnext : Faithful { stream := next, playing := active } := hrunning.symm
          obtain ⟨hnow, hlast, hchain⟩ := ih hnext
          rw [hachieved, hset, List.getLast?_cons]
          exact ⟨hnow, hlast, .cons_cons hdiffers.symm hchain⟩
      | failed hdiffers error next htoggle hrunning hset =>
          have hanswer : sound.stream.failure? active = some error := by
            rw [Host.Stream.failure?, htoggle]
          have hachieved : sound.achieved (active :: rest) =
              Sound.achieved { sound with stream := next } rest := by
            rw [achieved, calls_of_ne hdiffers, hanswer, hset]
            rfl
          have hnext : Faithful { sound with stream := next } := hfaithful.trans hrunning.symm
          rw [hachieved, hset]
          exact ih hnext

theorem of_onDevice {device : Host.AudioDevice} {sound : Sound}
    (hopened : (onDevice device).result = .ok sound) : sound.Faithful ∧ sound.playing = false := by
  simp only [onDevice] at hopened
  split at hopened
  · cases hopened
  · cases hopened
  · cases (Host.Stream.onDevice device).toggleCourse false with
    | done next htoggle hrunning =>
        have hpause : (Host.Stream.onDevice device).pause = (.ok (), next) := htoggle
        rw [hpause] at hopened
        cases hopened
        exact ⟨hrunning.symm, rfl⟩
    | failed error next htoggle =>
        have hpause : (Host.Stream.onDevice device).pause = (.error error, next) := htoggle
        rw [hpause] at hopened
        cases hopened

theorem setActive_fst_of_ne {sound : Sound} {active : Bool} (hdiffers : active ≠ sound.playing) :
    (sound.setActive active).1 =
      { stream := (sound.stream.toggle active).2
        playing := if (sound.stream.failure? active).isNone then active else sound.playing } := by
  cases sound.wishCourse active with
  | kept hsame => exact absurd hsame hdiffers
  | done _ next htoggle _ hset => rw [hset, Host.Stream.failure?, htoggle]; rfl
  | failed _ error next htoggle _ hset => rw [hset, Host.Stream.failure?, htoggle]; rfl

/-- Streams can fail in any pattern: at each call as the next of the given answers says. -/
theorem exists_scripts (wishes : List Bool) {pattern : List (Option Host.ToggleError)}
    (hlong : wishes.length ≤ pattern.length) (playing : Bool) :
    ∃ scripts : Bool → List (Option Host.ToggleError), ∀ sound : Sound,
      sound.playing = playing → sound.stream.script = scripts →
        (sound.calls wishes).map Call.failure <+: pattern := by
  induction wishes generalizing pattern playing with
  | nil => exact ⟨fun _ => [], fun sound _ _ => List.nil_prefix⟩
  | cons active rest ih =>
      by_cases hsame : active = playing
      · obtain ⟨scripts, hscripts⟩ := ih (Nat.le_of_succ_le hlong) playing
        refine ⟨scripts, fun sound hplaying hscript => ?_⟩
        rw [calls_of_eq (hsame.trans hplaying.symm)]
        exact hscripts sound hplaying hscript
      · cases pattern with
        | nil => cases hlong
        | cons failure later =>
            obtain ⟨scripts, hscripts⟩ := ih (Nat.le_of_succ_le_succ hlong)
              (if failure.isNone then active else playing)
            refine ⟨fun wanted =>
              if wanted = active then failure :: scripts wanted else scripts wanted,
              fun sound hplaying hscript => ?_⟩
            have hhead : sound.stream.script active = failure :: scripts active := by
              rw [hscript]
              exact if_pos rfl
            have hanswer := Host.Stream.failure?_of_script hhead
            have hnext : (sound.stream.toggle active).2.script = scripts := by
              funext wanted
              rw [Host.Stream.script_toggle, hscript]
              by_cases hwanted : wanted = active <;> simp [hwanted]
            have hdiffers : active ≠ sound.playing := hplaying ▸ hsame
            rw [calls_of_ne hdiffers, setActive_fst_of_ne hdiffers, List.map_cons, hanswer,
              List.cons_prefix_cons, hplaying]
            exact ⟨rfl, hscripts _ rfl hnext⟩

/-- A new tone remembers of its stream what it does, which is what the last call achieved that
succeeded; it asks only for what the stream does not do, and a wish that fails is tried again. All
this holds however the calls fail, and they may fail in any pattern. -/
theorem tone_follows_last_success :
    (∀ (device : Host.AudioDevice) (sound : Sound), (onDevice device).result = .ok sound →
      ∀ wishes : List Bool,
        let now := (sound.setAll wishes).1
        now.playing = now.stream.running ∧
          now.playing = (sound.achieved wishes).getLast?.getD false ∧
          (false :: sound.achieved wishes).IsChain (· ≠ ·) ∧
          ∀ active : Bool,
            let next := (now.setActive active).1
            (now.asked active).length ≤ 1 ∧
              (∀ wanted ∈ now.asked active, wanted = active ∧ wanted ≠ now.stream.running) ∧
              (next.playing ≠ active ↔
                ∃ error, (now.stream.toggle active).1 = .error error ∧
                  (now.setActive active).2 = [request active, .record (.stuck error)]) ∧
              (next.playing ≠ active → next.asked active = [active])) ∧
      ∀ (wishes : List Bool) (pattern : List (Option Host.ToggleError)),
        wishes.length ≤ pattern.length →
        ∃ (device : Host.AudioDevice) (sound : Sound), (onDevice device).result = .ok sound ∧
          (sound.calls wishes).map Call.failure <+: pattern := by
  constructor
  · intro device sound hopened wishes now
    obtain ⟨hnew, hsilent⟩ := of_onDevice hopened
    obtain ⟨hfaithful, hlast, hchain⟩ := hnew.setAll wishes
    rw [hsilent] at hlast hchain
    refine ⟨hfaithful, hlast, hchain, ?_⟩
    intro active next
    refine ⟨?_, ?_, playing_setActive_ne_iff, ?_⟩
    · rw [asked_eq]
      split
      · exact Nat.zero_le 1
      · exact Nat.le_refl 1
    · intro wanted hwanted
      rw [asked_eq] at hwanted
      split at hwanted
      · cases hwanted
      · rename_i hdiffers
        rw [List.mem_singleton.mp hwanted]
        exact ⟨rfl, hfaithful ▸ hdiffers⟩
    · intro hopen
      rw [asked_eq, if_neg hopen.symm]
  · intro wishes pattern hlong
    obtain ⟨scripts, hscripts⟩ := exists_scripts wishes hlong false
    let device : Host.AudioDevice :=
      { format := .f32, rate := 1, channels := 1
        playFailures := scripts true, pauseFailures := none :: scripts false }
    let stream : Host.Stream := ((Host.Stream.onDevice device).toggle false).2
    have hscript : stream.script = scripts := by
      funext active
      cases active <;> rfl
    exact ⟨device, { stream, playing := false }, rfl, hscripts _ rfl hscript⟩

/-- A device that fails to start the tone at the first of two wishes, and then to stop it. -/
theorem tone_follows_last_success_after_failures :
    let device : Host.AudioDevice :=
      { format := .f32, rate := 48000, channels := 2
        playFailures := [some .unavailable], pauseFailures := [none, some .unavailable] }
    let sound : Sound :=
      { stream := ((Host.Stream.onDevice device).toggle false).2, playing := false }
    let now := (sound.setAll [true, true]).1
    (onDevice device).result = .ok sound ∧ sound.achieved [true, true] = [true] ∧
      now.playing = now.stream.running ∧ (now.setActive false).1.playing ≠ false ∧
      (now.setActive false).1.asked false = [false] ∧
      ∃ (broken : Host.AudioDevice) (tone : Sound), (onDevice broken).result = .ok tone ∧
        (tone.calls [true]).map Call.failure <+: [some .unavailable] := by
  intro device sound now
  have hopened : (onDevice device).result = .ok sound := rfl
  obtain ⟨hfaithful, -, -, hnext⟩ := tone_follows_last_success.1 device sound hopened [true, true]
  obtain ⟨-, -, hfails, hagain⟩ := hnext false
  have hopen : (now.setActive false).1.playing ≠ false := hfails.mpr ⟨.unavailable, rfl, rfl⟩
  exact ⟨hopened, rfl, hfaithful, hopen, hagain hopen,
    tone_follows_last_success.2 [true] [some .unavailable] (Nat.le_refl 1)⟩

end Sound

end Chip8
