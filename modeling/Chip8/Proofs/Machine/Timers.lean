import Chip8.Machine.History
import Chip8.Proofs.Machine.Effects
import Mathlib.Data.List.DropRight
import Mathlib.Data.List.Induction

namespace Chip8

inductive Countdown where
  | delay | sound

namespace Countdown

def timer (countdown : Countdown) (machine : Machine) : Timer :=
  match countdown with
  | .delay => machine.delay
  | .sound => machine.sound

def code : Countdown → UInt8
  | .delay => 0x15
  | .sound => 0x18

/-- The register from which an instruction sets the timer. -/
def source? : Countdown → Instruction → Option UInt8
  | .delay, .setDelay x => some x
  | .sound, .setSound x => some x
  | _, _ => none

theorem source?_decode_eq_some_iff {countdown : Countdown} {architecture : Architecture}
    {word : Word} {x : UInt8} :
    countdown.source? (.decode architecture word) = some x ↔
      (word.family = 0xF ∧ word.nn = countdown.code) ∧ word.x = x := by
  cases countdown with
  | delay =>
      have hsource : source? .delay (.decode architecture word) = some x ↔
          Instruction.decode architecture word = .setDelay x := by
        cases Instruction.decode architecture word <;> simp [source?]
      exact hsource.trans Instruction.decode_eq_setDelay_iff
  | sound =>
      have hsource : source? .sound (.decode architecture word) = some x ↔
          Instruction.decode architecture word = .setSound x := by
        cases Instruction.decode architecture word <;> simp [source?]
      exact hsource.trans Instruction.decode_eq_setSound_iff

end Countdown

inductive TimerEvent where
  | set (value : UInt8)
  | ticked
  deriving DecidableEq

namespace TimerEvent

def value? : TimerEvent → Option UInt8
  | .set value => some value
  | .ticked => none

/-- The value that was last set, or else the first one, less the ticks since. -/
def remaining (first : UInt8) (events : List TimerEvent) : Nat :=
  ((events.reverse.findSome? value?).getD first).toNat -
    (events.rtakeWhile fun event => event = .ticked).length

variable (first : UInt8) (events : List TimerEvent)

@[simp] theorem remaining_nil : remaining first [] = first.toNat := rfl

@[simp] theorem remaining_append_set (value : UInt8) :
    remaining first (events ++ [.set value]) = value.toNat := by
  simp [remaining, List.findSome?_cons, value?]

@[simp] theorem remaining_append_ticked :
    remaining first (events ++ [.ticked]) = remaining first events - 1 := by
  simp [remaining, List.findSome?_cons, value?]
  omega

end TimerEvent

namespace Machine

open TimerEvent

def timerEvent? (machine : Machine) (countdown : Countdown) : Operation → Option TimerEvent
  | .step _ =>
      if machine.fetch.family = 0xF ∧ machine.fetch.nn = countdown.code then
        some (.set (machine.registers.get machine.fetch.x))
      else
        none
  | .tick => some .ticked
  | .load _ => none

def timerEvents (machine : Machine) (countdown : Countdown) (operations : List Operation) :
    List TimerEvent :=
  (machine.history operations).filterMap fun (state, operation) =>
    state.timerEvent? countdown operation

theorem timer_execute (machine : Machine) (keys : KeyState) (countdown : Countdown)
    (instruction : Instruction) :
    countdown.timer (machine.execute keys instruction).machine =
      ((countdown.source? instruction).map fun x => ⟨machine.registers.get x⟩).getD
        (countdown.timer machine) := by
  cases instruction with
  | returnFromCall | jump | call | jumpWithOffset | awaitKey | skipEqualConstant
  | skipNotEqualConstant | skipEqual | skipNotEqual | skipHeld | skipNotHeld =>
      cases countdown with
      | delay => exact machine.kept_execute_of_controls keys delay (fun _ _ _ => rfl) trivial
      | sound => exact machine.kept_execute_of_controls keys sound (fun _ _ _ => rfl) trivial
  | _ => cases countdown <;> rfl

inductive TimerChange (machine : Machine) (countdown : Countdown) (operation : Operation) :
    Prop where
  | set (value : UInt8) (hevent : machine.timerEvent? countdown operation = some (.set value))
      (hafter : countdown.timer (machine.apply operation) = ⟨value⟩)
  | ticked (hevent : machine.timerEvent? countdown operation = some .ticked)
      (hafter : countdown.timer (machine.apply operation) = (countdown.timer machine).tick)
  | kept (hevent : machine.timerEvent? countdown operation = none)
      (hafter : countdown.timer (machine.apply operation) = countdown.timer machine)

theorem timerChange (machine : Machine) (countdown : Countdown) (operation : Operation) :
    machine.TimerChange countdown operation := by
  cases operation with
  | tick => cases countdown <;> exact .ticked rfl rfl
  | load program =>
      refine .kept rfl (machine.kept_load program countdown.timer ?_)
      cases countdown <;> exact fun _ => rfl
  | step keys =>
      have hafter : countdown.timer (machine.apply (.step keys)) =
          ((countdown.source? machine.instruction).map fun x => ⟨machine.registers.get x⟩).getD
            (countdown.timer machine) := by
        rw [← machine.timer_execute keys]
        exact machine.kept_step keys countdown.timer (by cases countdown <;> exact fun _ _ => rfl)
      by_cases hsets : machine.fetch.family = 0xF ∧ machine.fetch.nn = countdown.code
      · have hsource : countdown.source? machine.instruction = some machine.fetch.x :=
          Countdown.source?_decode_eq_some_iff.mpr ⟨hsets, rfl⟩
        rw [hsource] at hafter
        exact .set _ (if_pos hsets) hafter
      · have hsource : countdown.source? machine.instruction = none :=
          Option.eq_none_iff_forall_ne_some.mpr fun x hx =>
            hsets (Countdown.source?_decode_eq_some_iff.mp hx).1
        rw [hsource] at hafter
        exact .kept (if_neg hsets) hafter

theorem count_run (machine : Machine) (countdown : Countdown) (operations : List Operation) :
    (countdown.timer (machine.run operations)).count.toNat =
      remaining (countdown.timer machine).count (machine.timerEvents countdown operations) := by
  -- From the last operation backwards, since what counts is what follows the last setting.
  induction operations using List.reverseRecOn with
  | nil => rfl
  | append_singleton before last ih =>
      rw [run_append_singleton, timerEvents, filterMap_history_append_singleton,
        ← timerEvents]
      cases (machine.run before).timerChange countdown last with
      | set value hevent hafter => simp [hevent, hafter]
      | ticked hevent hafter => simp [hevent, hafter, ih]
      | kept hevent hafter => simp [hevent, hafter, ih]

theorem machine_step_of_readDelay {machine : Machine} (keys : KeyState)
    (hword : machine.fetch.family = 0xF ∧ machine.fetch.nn = 0x07) :
    (machine.step keys).machine =
      (machine.setRegister machine.fetch.x machine.delay.count).advance := by
  have hinstruction : machine.instruction = .readDelay machine.fetch.x :=
    Instruction.decode_eq_readDelay_iff.mpr ⟨hword, rfl⟩
  have hnext : (machine.step keys).result = .ok .next := by
    rw [result_step, hinstruction]
    rfl
  rw [machine_step_of_next hnext, hinstruction]
  rfl

/-- Each timer of a machine holds the value that was last put into it, less the ticks since and
never less than zero. The delay is read as it stands, the tone sounds while any of the other timer
is left, and no other operation changes either. -/
theorem timers_hold_what_is_left (architecture : Architecture) (random : RandomSource)
    (operations : List Operation) :
    let fresh := initial architecture random
    let machine := fresh.run operations
    let left (countdown : Countdown) : Nat :=
      remaining 0 (fresh.timerEvents countdown operations)
    (∀ countdown : Countdown, (countdown.timer machine).count.toNat = left countdown) ∧
      (machine.fetch.family = 0xF ∧ machine.fetch.nn = 0x07 → ∀ keys,
        (machine.step keys).machine =
          (machine.setRegister machine.fetch.x (UInt8.ofNat (left .delay))).advance) ∧
      (machine.soundActive ↔ 0 < left .sound) ∧
      ∀ (state : Machine) (countdown : Countdown) (operation : Operation),
        state.timerEvent? countdown operation = none →
          countdown.timer (state.apply operation) = countdown.timer state := by
  intro fresh machine left
  have hcount (countdown : Countdown) :
      (countdown.timer machine).count.toNat = left countdown := by
    rw [count_run]
    cases countdown <;> rfl
  refine ⟨hcount, ?_, ?_, ?_⟩
  · intro hword keys
    have hdelay : UInt8.ofNat (left .delay) = machine.delay.count := by
      rw [← hcount .delay]
      exact UInt8.ofNat_toNat
    rw [machine_step_of_readDelay keys hword, hdelay]
  · rw [← hcount .sound]
    exact machine.sound.active_iff
  · intro state countdown operation hnone
    cases state.timerChange countdown operation with
    | kept _ hafter => exact hafter
    | set value hevent | ticked hevent => cases hnone.symm.trans hevent

/-- A delay of three that is read two ticks later, after a tone of one has ended. -/
theorem timers_hold_what_is_left_ticked :
    let operations : List Operation :=
      [.load [0x60, 0x03, 0xF0, 0x15, 0x60, 0x01, 0xF0, 0x18, 0xF1, 0x07],
        .step .idle, .step .idle, .tick, .step .idle, .step .idle, .tick]
    let machine := (initial .chip (.ofSeed 0)).run operations
    (machine.fetch.family = 0xF ∧ machine.fetch.nn = 0x07) ∧
      (machine.step .idle).machine = (machine.setRegister 1 1).advance ∧
      ¬ machine.soundActive := by
  intro operations machine
  have hfetch : machine.fetch = 0xF107 := by decide +kernel
  have hword : machine.fetch.family = 0xF ∧ machine.fetch.nn = 0x07 := by rw [hfetch]; decide
  have hregister : machine.fetch.x = 1 := by rw [hfetch]; rfl
  have hleft : UInt8.ofNat
      (remaining 0 ((initial .chip (.ofSeed 0)).timerEvents .delay operations)) = 1 := by
    decide +kernel
  have hended : ¬ 0 < remaining 0 ((initial .chip (.ofSeed 0)).timerEvents .sound operations) := by
    decide +kernel
  obtain ⟨_, hread, htone, _⟩ :=
    timers_hold_what_is_left .chip (.ofSeed 0) operations
  refine ⟨hword, ?_, fun hactive => hended (htone.mp hactive)⟩
  rw [hread hword .idle, hleft, hregister]

end Machine

/-- The word reads the delay, or sets it or the tone. -/
def Word.UsesTimers (word : Word) : Prop :=
  word.family = 0xF ∧ (word.nn = 0x07 ∨ word.nn = 0x15 ∨ word.nn = 0x18)

instance (word : Word) : Decidable word.UsesTimers :=
  inferInstanceAs (Decidable (_ ∧ _))

theorem Instruction.usesTimers_of_decode {architecture : Architecture} {word : Word}
    (huses : (decode architecture word).UsesTimers) : word.UsesTimers := by
  cases hinstruction : decode architecture word with
  | readDelay x =>
      obtain ⟨⟨hfamily, hcode⟩, _⟩ := decode_eq_readDelay_iff.mp hinstruction
      exact ⟨hfamily, .inl hcode⟩
  | setDelay x =>
      obtain ⟨⟨hfamily, hcode⟩, _⟩ := decode_eq_setDelay_iff.mp hinstruction
      exact ⟨hfamily, .inr (.inl hcode)⟩
  | setSound x =>
      obtain ⟨⟨hfamily, hcode⟩, _⟩ := decode_eq_setSound_iff.mp hinstruction
      exact ⟨hfamily, .inr (.inr hcode)⟩
  | _ =>
      rw [hinstruction] at huses
      exact huses.elim

namespace Machine

theorem load_ticks (machine : Machine) (program : List UInt8) (count : Nat) :
    ((machine.ticks count).load program).machine =
      (machine.load program).machine.ticks count := by
  simp only [load, ticks]
  cases machine.memory.load program <;> rfl

theorem step_ticks {machine : Machine} (hword : ¬ machine.fetch.UsesTimers) (keys : KeyState)
    (count : Nat) :
    ((machine.ticks count).step keys).result = (machine.step keys).result ∧
      ((machine.ticks count).step keys).machine = (machine.step keys).machine.ticks count := by
  have hinstruction : (machine.ticks count).instruction = machine.instruction := rfl
  have hfree : ¬ machine.instruction.UsesTimers := fun huses =>
    hword (Instruction.usesTimers_of_decode huses)
  obtain ⟨haside, hmachine⟩ := machine.execute_withAside keys machine.architecture
    (machine.delay.ticks count) (machine.sound.ticks count) hfree
  have hresult : ((machine.ticks count).execute keys machine.instruction).result =
      (machine.execute keys machine.instruction).result := haside
  have hafter : ((machine.ticks count).execute keys machine.instruction).machine =
      (machine.execute keys machine.instruction).machine.ticks count := by
    refine hmachine.trans ?_
    rw [machine.machine_execute_eq_withAside keys hfree]
    rfl
  simp only [step, hinstruction, hresult, hafter, true_and]
  split <;> rfl

theorem word?_ticks (machine : Machine) (operation : Operation) (count : Nat) :
    (machine.ticks count).word? operation = machine.word? operation := by
  cases operation <;> rfl

theorem apply_ticks {machine : Machine} {operation : Operation} (htick : ¬ operation.isTick)
    (hword : ∀ word ∈ (machine.word? operation).toList, ¬ word.UsesTimers) (count : Nat) :
    (machine.ticks count).stepResult? operation = machine.stepResult? operation ∧
      (machine.ticks count).apply operation = (machine.apply operation).ticks count := by
  cases operation with
  | tick => exact absurd rfl htick
  | load program => exact ⟨rfl, machine.load_ticks program count⟩
  | step keys =>
      obtain ⟨hresult, hmachine⟩ := step_ticks (hword _ List.mem_cons_self) keys count
      exact ⟨congrArg some hresult, hmachine⟩

def withoutTicks (operations : List Operation) : List Operation :=
  operations.filter fun operation => !operation.isTick

theorem withoutTicks_cons {operation : Operation} (htick : ¬ operation.isTick)
    (rest : List Operation) :
    withoutTicks (operation :: rest) = operation :: withoutTicks rest :=
  List.filter_cons_of_pos (by simpa using htick)

section Run

variable {machine : Machine} {operations : List Operation}

theorem words_ticks (count : Nat)
    (hwords : ∀ word ∈ (machine.ticks count).words operations, ¬ word.UsesTimers) :
    (machine.ticks count).words operations = machine.words (withoutTicks operations) := by
  induction operations generalizing machine count with
  | nil => rfl
  | cons operation rest ih =>
      obtain ⟨hword, hrest⟩ := List.forall_mem_append.mp hwords
      by_cases htick : operation.isTick
      · cases operation with
        | tick =>
            rw [apply, tick_ticks] at hrest
            rw [words, apply, tick_ticks]
            exact ih (count + 1) hrest
        | _ => cases htick
      · rw [word?_ticks] at hword
        have happly := (apply_ticks htick hword count).2
        rw [happly] at hrest
        rw [withoutTicks_cons htick, words, words, word?_ticks, happly, ih count hrest]

theorem run_ticks (count : Nat)
    (hwords : ∀ word ∈ machine.words (withoutTicks operations), ¬ word.UsesTimers) :
    (machine.ticks count).results operations = machine.results (withoutTicks operations) ∧
      (machine.ticks count).run operations =
        (machine.run (withoutTicks operations)).ticks
          (count + operations.countP Operation.isTick) := by
  induction operations generalizing machine count with
  | nil => exact ⟨rfl, rfl⟩
  | cons operation rest ih =>
      by_cases htick : operation.isTick
      · cases operation with
        | tick =>
            obtain ⟨hresults, hrun⟩ := ih (count + 1) hwords
            rw [← tick_ticks] at hresults hrun
            refine ⟨hresults, hrun.trans ?_⟩
            rw [List.countP_cons_of_pos rfl, Nat.add_right_comm, Nat.add_assoc]
            rfl
        | _ => cases htick
      · rw [withoutTicks_cons htick] at hwords ⊢
        obtain ⟨hword, hrest⟩ := List.forall_mem_append.mp hwords
        obtain ⟨hresult, happly⟩ := apply_ticks htick hword count
        obtain ⟨hresults, hrun⟩ := ih count hrest
        rw [List.countP_cons_of_neg htick, run_cons, run_cons, happly]
        refine ⟨?_, hrun⟩
        rw [results, results, hresult, happly, hresults]

end Run

/-- Two runs that do not use the timers answer alike and end alike, if they differ only in where
their ticks stand. -/
theorem ticks_may_stand_anywhere (machine : Machine) {first second : List Operation}
    (hwords : ∀ word ∈ machine.words first, ¬ word.UsesTimers)
    (hothers : withoutTicks first = withoutTicks second)
    (hticks : first.countP Operation.isTick = second.countP Operation.isTick) :
    machine.results first = machine.results second ∧ machine.run first = machine.run second := by
  have hfirst : ∀ word ∈ machine.words (withoutTicks first), ¬ word.UsesTimers := by
    rw [← ticks_zero machine] at hwords
    rwa [words_ticks 0 hwords] at hwords
  have hsecond : ∀ word ∈ machine.words (withoutTicks second), ¬ word.UsesTimers :=
    hothers ▸ hfirst
  obtain ⟨hfirstResults, hfirstRun⟩ := run_ticks 0 hfirst
  obtain ⟨hsecondResults, hsecondRun⟩ := run_ticks 0 hsecond
  rw [ticks_zero] at hfirstResults hfirstRun hsecondResults hsecondRun
  rw [hfirstResults, hsecondResults, hfirstRun, hsecondRun, hothers, hticks]
  exact ⟨rfl, rfl⟩

/-- A draw from the random source, a wait for a key and a fault, with ticks before and after. -/
theorem ticks_may_stand_anywhere_fault :
    let machine : Machine :=
      { withSeed .chip 7 with
        memory := Memory.blank.write 0 [0xC0, 0xFF, 0xF1, 0x0A, 0x00, 0xEE]
        counter := 0
        sound := ⟨2⟩ }
    let pressed : KeyState := .ofLists [] [.q]
    let first : List Operation :=
      [.tick, .step .idle, .step .idle, .tick, .step pressed, .step .idle]
    let second : List Operation :=
      [.step .idle, .step .idle, .step pressed, .tick, .step .idle, .tick]
    (∀ word ∈ machine.words first, ¬ word.UsesTimers) ∧
      withoutTicks first = withoutTicks second ∧
      machine.results second =
        [.ok .next, .ok .reissue, .ok .next, .error .stackUnderflow] ∧
      machine.run first = machine.run second := by
  intro machine pressed first second
  have hwords : ∀ word ∈ machine.words first, ¬ word.UsesTimers :=
    List.forall_iff_forall_mem.mp (by decide)
  have hanswers : machine.results first =
      [.ok .next, .ok .reissue, .ok .next, .error .stackUnderflow] := by decide
  have hothers : withoutTicks first = withoutTicks second := rfl
  obtain ⟨hresults, hrun⟩ := ticks_may_stand_anywhere machine hwords hothers rfl
  exact ⟨hwords, hothers, hresults ▸ hanswers, hrun⟩

end Machine

end Chip8
