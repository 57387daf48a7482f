import Chip8.Machine.Burst
import Chip8.Machine.History
import Chip8.Proofs.Machine.Course
import Chip8.Proofs.Machine.Timers

namespace Chip8

def Word.AwaitsKey (word : Word) : Prop :=
  word.family = 0xF ∧ word.nn = 0x0A

instance (word : Word) : Decidable word.AwaitsKey :=
  inferInstanceAs (Decidable (_ ∧ _))

namespace KeyState

/-- The entry's host key has gone down, and none of those that stand before it in the layout. -/
def FirstPressed (keys : KeyState) (entry : UInt8 × HostKey) : Prop :=
  ∃ before after, Keypad.layout = before ++ entry :: after ∧ keys.pressed entry.2 = true ∧
    ∀ earlier ∈ before, keys.pressed earlier.2 = false

end KeyState

namespace Keypad

variable {keys : KeyState}

theorem find?_layout_eq_some_iff {entry : UInt8 × HostKey} :
    (layout.find? fun entry => keys.pressed entry.2) = some entry ↔ keys.FirstPressed entry := by
  rw [List.find?_eq_some_iff_append]
  constructor
  · rintro ⟨hpressed, before, after, hlayout, hbefore⟩
    exact ⟨before, after, hlayout, hpressed, by simpa using hbefore⟩
  · rintro ⟨before, after, hlayout, hpressed, hbefore⟩
    exact ⟨hpressed, before, after, hlayout, by simpa using hbefore⟩

theorem firstPressed?_eq_none_iff :
    firstPressed? keys = none ↔ ∀ entry ∈ layout, keys.pressed entry.2 = false := by
  simp [firstPressed?, List.find?_eq_none]

theorem firstPressed?_of_firstPressed {entry : UInt8 × HostKey} (hfirst : keys.FirstPressed entry) :
    firstPressed? keys = some entry.1 := by
  rw [firstPressed?, find?_layout_eq_some_iff.mpr hfirst, Option.map_some]

end Keypad

namespace Machine

/-- The step completes a word that waits, and leaves the key in the register that it names. -/
structure Captures (machine : Machine) (keys : KeyState) (key x : UInt8) : Prop where
  awaits : machine.fetch.AwaitsKey
  register_eq : machine.fetch.x = x
  result_eq : (machine.step keys).result = .ok .next
  machine_eq : (machine.step keys).machine = (machine.setRegister x key).advance

namespace Record

def capturedKey? : Record → Option UInt8
  | .captured key _ => some key
  | _ => none

/-- A word is about to be executed that waits for a key, whether or not one has been pressed. -/
def isWait : Record → Bool
  | .executing _ word _ => word.AwaitsKey
  | _ => false

end Record

def capturedKeys (log : List Record) : List UInt8 :=
  log.filterMap Record.capturedKey?

def waitCount (log : List Record) : Nat :=
  log.countP Record.isWait

@[simp] theorem capturedKeys_append (first rest : List Record) :
    capturedKeys (first ++ rest) = capturedKeys first ++ capturedKeys rest :=
  List.filterMap_append

@[simp] theorem waitCount_append (first rest : List Record) :
    waitCount (first ++ rest) = waitCount first + waitCount rest :=
  List.countP_append

theorem waitCount_executing (machine : Machine) (log : List Record) :
    waitCount (.executing machine.counter machine.fetch machine.instruction :: log) =
      waitCount log + if machine.fetch.AwaitsKey then 1 else 0 := by
  simp [waitCount, List.countP_cons, Record.isWait]

/-- What a log shows of the words that wait: each of them has captured the first pressed key, and
if none has been pressed, the first of them is the last. -/
structure WaitsAnswered (keys : KeyState) (log : List Record) : Prop where
  captured_eq : ∀ entry, keys.FirstPressed entry →
    capturedKeys log = List.replicate (waitCount log) entry.1
  of_none_pressed : (∀ entry ∈ Keypad.layout, keys.pressed entry.2 = false) →
    capturedKeys log = [] ∧ waitCount log ≤ 1

theorem waitsAnswered_of_no_wait {keys : KeyState} {log : List Record}
    (hkeys : capturedKeys log = []) (hcount : waitCount log = 0) : WaitsAnswered keys log where
  captured_eq entry _ := by rw [hkeys, hcount, List.replicate_zero]
  of_none_pressed _ := ⟨hkeys, hcount ▸ Nat.zero_le 1⟩

section Step

variable {machine : Machine} {keys : KeyState}

theorem instruction_of_awaits (hawaits : machine.fetch.AwaitsKey) :
    machine.instruction = .awaitKey machine.fetch.x :=
  Instruction.decode_eq_awaitKey_iff.mpr ⟨hawaits, rfl⟩

theorem step_of_pressed (hawaits : machine.fetch.AwaitsKey) {key : UInt8}
    (hpressed : Keypad.firstPressed? keys = some key) :
    machine.step keys =
      { machine := (machine.setRegister machine.fetch.x key).advance
        result := .ok .next
        log := [.executing machine.counter machine.fetch machine.instruction,
          .captured key machine.fetch.x] } := by
  simp only [step, instruction_of_awaits hawaits, execute, hpressed]
  rfl

theorem step_of_not_pressed (hawaits : machine.fetch.AwaitsKey)
    (hpressed : Keypad.firstPressed? keys = none) :
    machine.step keys =
      { machine
        result := .ok .reissue
        log := [.executing machine.counter machine.fetch machine.instruction] } := by
  simp only [step, instruction_of_awaits hawaits, execute, hpressed]
  rfl

theorem log_execute_of_ne_awaitKey (machine : Machine) (keys : KeyState)
    {instruction : Instruction} (hother : ∀ x, instruction ≠ .awaitKey x) :
    capturedKeys (machine.execute keys instruction).log = [] ∧
      waitCount (machine.execute keys instruction).log = 0 := by
  cases instruction with
  | awaitKey x => exact absurd rfl (hother x)
  | returnFromCall =>
      simp only [execute]
      cases machine.stack.pop <;> exact ⟨rfl, rfl⟩
  | call target =>
      simp only [execute]
      cases machine.stack.push (machine.counter + 2) <;> exact ⟨rfl, rfl⟩
  | _ => exact ⟨rfl, rfl⟩

theorem log_step_of_not_awaits (hawaits : ¬ machine.fetch.AwaitsKey) :
    capturedKeys (machine.step keys).log = [] ∧ waitCount (machine.step keys).log = 0 := by
  have hother : ∀ x, machine.instruction ≠ .awaitKey x := fun x hinstruction =>
    hawaits (Instruction.decode_eq_awaitKey_iff.mp hinstruction).1
  obtain ⟨hkeys, hcount⟩ := machine.log_execute_of_ne_awaitKey keys hother
  refine ⟨hkeys, (waitCount_executing machine _).trans ?_⟩
  rw [hcount, if_neg hawaits]

theorem captures_iff {key x : UInt8} :
    machine.Captures keys key x ↔
      (machine.fetch.AwaitsKey ∧ machine.fetch.x = x) ∧
        Keypad.firstPressed? keys = some key := by
  constructor
  · rintro ⟨hawaits, rfl, hresult, hmachine⟩
    refine ⟨⟨hawaits, rfl⟩, ?_⟩
    cases hpressed : Keypad.firstPressed? keys with
    | none => simp [step_of_not_pressed hawaits hpressed] at hresult
    | some pressed =>
        rw [step_of_pressed hawaits hpressed] at hmachine
        have hget := congrArg (fun after => after.registers.get machine.fetch.x) hmachine
        simpa [advance, setRegister, Registers.get_set] using hget
  · rintro ⟨⟨hawaits, rfl⟩, hpressed⟩
    have hstep := step_of_pressed hawaits hpressed
    exact ⟨hawaits, rfl, congrArg Outcome.result hstep, congrArg Outcome.machine hstep⟩

theorem captured_mem_log_step_iff {key x : UInt8} :
    .captured key x ∈ (machine.step keys).log ↔ machine.Captures keys key x := by
  rw [captures_iff]
  by_cases hawaits : machine.fetch.AwaitsKey
  · cases hpressed : Keypad.firstPressed? keys with
    | none => simp [step_of_not_pressed hawaits hpressed]
    | some pressed => simp [step_of_pressed hawaits hpressed, hawaits, eq_comm, and_comm]
  · refine ⟨fun hmem => ?_, fun hcaptures => absurd hcaptures.1.1 hawaits⟩
    have hkey : key ∈ capturedKeys (machine.step keys).log :=
      List.mem_filterMap.mpr ⟨_, hmem, rfl⟩
    rw [(log_step_of_not_awaits hawaits).1] at hkey
    exact absurd hkey List.not_mem_nil

theorem waitsAnswered_step : WaitsAnswered keys (machine.step keys).log := by
  by_cases hawaits : machine.fetch.AwaitsKey
  · refine ⟨fun entry hfirst => ?_, fun hnone => ?_⟩
    · rw [step_of_pressed hawaits (Keypad.firstPressed?_of_firstPressed hfirst),
        waitCount_executing, if_pos hawaits]
      rfl
    · rw [step_of_not_pressed hawaits (Keypad.firstPressed?_eq_none_iff.mpr hnone)]
      exact ⟨rfl, List.countP_le_length⟩
  · obtain ⟨hkeys, hcount⟩ := log_step_of_not_awaits hawaits
    exact waitsAnswered_of_no_wait hkeys hcount

end Step

theorem waitCount_step_of_ne_reissue {machine : Machine} {keys : KeyState}
    (hnone : ∀ entry ∈ Keypad.layout, keys.pressed entry.2 = false)
    (hresult : (machine.step keys).result ≠ .ok .reissue) :
    waitCount (machine.step keys).log = 0 := by
  refine (log_step_of_not_awaits fun hawaits => hresult ?_).2
  rw [step_of_not_pressed hawaits (Keypad.firstPressed?_eq_none_iff.mpr hnone)]

theorem WaitsAnswered.append {keys : KeyState} {first rest : List Record}
    (hfirst : WaitsAnswered keys first) (hrest : WaitsAnswered keys rest)
    (hgoesOn : (∀ entry ∈ Keypad.layout, keys.pressed entry.2 = false) → waitCount first = 0) :
    WaitsAnswered keys (first ++ rest) where
  captured_eq entry hentry := by
    rw [capturedKeys_append, waitCount_append, hfirst.captured_eq entry hentry,
      hrest.captured_eq entry hentry, List.replicate_append_replicate]
  of_none_pressed hnone := by
    obtain ⟨hkeys, -⟩ := hfirst.of_none_pressed hnone
    obtain ⟨hlater, hcount⟩ := hrest.of_none_pressed hnone
    rw [capturedKeys_append, waitCount_append, hkeys, hlater, hgoesOn hnone, Nat.zero_add]
    exact ⟨rfl, hcount⟩

theorem waitsAnswered_burst (machine : Machine) (keys : KeyState) (slots : Nat) :
    WaitsAnswered keys (machine.burst keys slots).log := by
  fun_induction burst machine keys slots with
  | case1 machine => exact waitsAnswered_of_no_wait rfl rfl
  | case2 machine slots hinside outcome fault hresult => exact waitsAnswered_step
  | case3 machine slots hinside outcome hresult => exact waitsAnswered_step
  | case4 machine slots hinside outcome advance hother hresult rest ih =>
      refine waitsAnswered_step.append ih fun hnone => ?_
      refine waitCount_step_of_ne_reissue hnone fun hreissue => ?_
      exact hother (Except.ok.inj (hresult.symm.trans hreissue))
  | case5 machine slots hinside => exact waitsAnswered_of_no_wait rfl rfl

end Machine

def Word.TestsKey (word : Word) : Prop :=
  word.family = 0xE ∧ (word.nn = 0x9E ∨ word.nn = 0xA1)

instance (word : Word) : Decidable word.TestsKey :=
  inferInstanceAs (Decidable (_ ∧ _))

namespace KeyState

structure AgreeOnKeypad (keys other : KeyState) : Prop where
  held_eq : ∀ entry ∈ Keypad.layout, keys.held entry.2 = other.held entry.2
  pressed_eq : ∀ entry ∈ Keypad.layout, keys.pressed entry.2 = other.pressed entry.2

def Holds (keys : KeyState) (virtualKey : UInt8) : Prop :=
  ∃ entry ∈ Keypad.layout, entry.1 = virtualKey ∧ keys.held entry.2 = true

instance (keys : KeyState) (virtualKey : UInt8) : Decidable (keys.Holds virtualKey) :=
  inferInstanceAs (Decidable (∃ entry ∈ Keypad.layout, _))

def AgreeOnHeld (keys other : KeyState) (virtualKey : UInt8) : Prop :=
  ∀ entry ∈ Keypad.layout, entry.1 = virtualKey → keys.held entry.2 = other.held entry.2

end KeyState

namespace Keypad

variable {keys other : KeyState} {virtualKey : UInt8}

theorem mem_layout_of_hostKey? {key : HostKey} (hkey : hostKey? virtualKey = some key) :
    (virtualKey, key) ∈ layout := by
  obtain ⟨entry, hfind, rfl⟩ := Option.map_eq_some_iff.mp hkey
  obtain rfl : entry.1 = virtualKey := by simpa using List.find?_some hfind
  exact List.mem_of_find?_eq_some hfind

theorem isHeld_iff : isHeld keys virtualKey = true ↔ keys.Holds virtualKey := by
  have hlayout : ∀ entry ∈ layout, hostKey? entry.1 = some entry.2 :=
    List.forall_iff_forall_mem.mp (by decide)
  constructor
  · intro hheld
    unfold isHeld at hheld
    cases hkey : hostKey? virtualKey with
    | none => simp [hkey] at hheld
    | some key => exact ⟨_, mem_layout_of_hostKey? hkey, rfl, by simpa [hkey] using hheld⟩
  · rintro ⟨entry, hentry, rfl, hheld⟩
    rw [isHeld, hlayout entry hentry]
    exact hheld

theorem isHeld_congr (hagree : keys.AgreeOnHeld other virtualKey) :
    isHeld keys virtualKey = isHeld other virtualKey := by
  unfold isHeld
  cases hkey : hostKey? virtualKey with
  | none => rfl
  | some key => exact hagree _ (mem_layout_of_hostKey? hkey) rfl

theorem isHeld_of_le (hlarge : 16 ≤ virtualKey.toNat) : isHeld keys virtualKey = false := by
  have hlayout : ∀ entry ∈ layout, entry.1.toNat < 16 :=
    List.forall_iff_forall_mem.mp (by decide)
  have hnone : hostKey? virtualKey = none := by
    rw [Option.eq_none_iff_forall_ne_some]
    intro key hkey
    exact Nat.not_lt.mpr hlarge (hlayout _ (mem_layout_of_hostKey? hkey))
  rw [isHeld, hnone]

theorem firstPressed?_congr
    (hagree : ∀ entry, keys.FirstPressed entry ↔ other.FirstPressed entry) :
    firstPressed? keys = firstPressed? other := by
  unfold firstPressed?
  congr 1
  apply Option.ext
  intro entry
  rw [find?_layout_eq_some_iff, find?_layout_eq_some_iff]
  exact hagree entry

end Keypad

namespace KeyState.AgreeOnKeypad

variable {keys other : KeyState}

theorem symm (hagree : keys.AgreeOnKeypad other) : other.AgreeOnKeypad keys where
  held_eq entry hentry := (hagree.held_eq entry hentry).symm
  pressed_eq entry hentry := (hagree.pressed_eq entry hentry).symm

theorem firstPressed (hagree : keys.AgreeOnKeypad other) {entry : UInt8 × HostKey}
    (hfirst : keys.FirstPressed entry) : other.FirstPressed entry := by
  obtain ⟨before, after, hlayout, hpressed, hbefore⟩ := hfirst
  refine ⟨before, after, hlayout, ?_, fun earlier hearlier => ?_⟩
  · rw [← hagree.pressed_eq entry (by simp [hlayout]), hpressed]
  · rw [← hagree.pressed_eq earlier (by simp [hlayout, hearlier]), hbefore earlier hearlier]

theorem firstPressed_iff (hagree : keys.AgreeOnKeypad other) (entry : UInt8 × HostKey) :
    keys.FirstPressed entry ↔ other.FirstPressed entry :=
  ⟨hagree.firstPressed, hagree.symm.firstPressed⟩

end KeyState.AgreeOnKeypad

namespace Machine

section Step

variable {machine : Machine} {keys other : KeyState}

/-- The virtual key that the fetched word asks about, if it tests one. -/
def testedKey (machine : Machine) : UInt8 :=
  machine.registers.get machine.fetch.x

theorem execute_congr {instruction : Instruction}
    (hheld : ∀ x, instruction = .skipHeld x ∨ instruction = .skipNotHeld x →
      Keypad.isHeld keys (machine.registers.get x) = Keypad.isHeld other (machine.registers.get x))
    (hpressed : ∀ x, instruction = .awaitKey x →
      Keypad.firstPressed? keys = Keypad.firstPressed? other) :
    machine.execute keys instruction = machine.execute other instruction := by
  cases instruction with
  | skipHeld x => simp only [execute, hheld x (.inl rfl)]
  | skipNotHeld x => simp only [execute, hheld x (.inr rfl)]
  | awaitKey x => simp only [execute, hpressed x rfl]
  | _ => rfl

theorem step_congr
    (hheld : machine.fetch.TestsKey →
      Keypad.isHeld keys machine.testedKey = Keypad.isHeld other machine.testedKey)
    (hpressed : machine.fetch.AwaitsKey →
      Keypad.firstPressed? keys = Keypad.firstPressed? other) :
    machine.step keys = machine.step other := by
  have hexecute : machine.execute keys machine.instruction =
      machine.execute other machine.instruction := by
    apply execute_congr
    · rintro x (hinstruction | hinstruction)
      · obtain ⟨hfamily, hnn, rfl⟩ := Instruction.decode_eq_skipHeld_iff.mp hinstruction
        exact hheld ⟨hfamily, .inl hnn⟩
      · obtain ⟨hfamily, hnn, rfl⟩ := Instruction.decode_eq_skipNotHeld_iff.mp hinstruction
        exact hheld ⟨hfamily, .inr hnn⟩
    · intro x hinstruction
      exact hpressed (Instruction.decode_eq_awaitKey_iff.mp hinstruction).1
  simp only [step, hexecute]

theorem step_congr_of_agree (hagree : keys.AgreeOnKeypad other) :
    machine.step keys = machine.step other :=
  step_congr
    (fun _ => Keypad.isHeld_congr fun entry hentry _ => hagree.held_eq entry hentry)
    (fun _ => Keypad.firstPressed?_congr hagree.firstPressed_iff)

theorem step_of_skipIf {condition : Bool}
    (hexecute : machine.execute keys machine.instruction = machine.skipIf condition) :
    (machine.step keys).result = .ok .next ∧
      (machine.step keys).machine =
        { machine with counter := machine.counter + if condition then 4 else 2 } := by
  simp only [step, hexecute, skipIf, Outcome.next, advance]
  cases condition with
  | false => simp
  | true =>
      have htwice : machine.counter + 2 + 2 = machine.counter + 4 := UInt16.add_assoc _ _ _
      simp [htwice]

theorem step_of_testsKey (htests : machine.fetch.TestsKey) :
    (machine.step keys).result = .ok .next ∧
      (machine.step keys).machine =
        { machine with
          counter := machine.counter +
            if Keypad.isHeld keys machine.testedKey = decide (machine.fetch.nn = 0x9E) then 4
            else 2 } := by
  obtain ⟨hfamily, hnn | hnn⟩ := htests
  · have hinstruction : machine.instruction = .skipHeld machine.fetch.x :=
      Instruction.decode_eq_skipHeld_iff.mpr ⟨hfamily, hnn, rfl⟩
    have hexecute : machine.execute keys machine.instruction =
        machine.skipIf (Keypad.isHeld keys machine.testedKey) := by
      rw [hinstruction]
      rfl
    simpa [hnn] using step_of_skipIf hexecute
  · have hinstruction : machine.instruction = .skipNotHeld machine.fetch.x :=
      Instruction.decode_eq_skipNotHeld_iff.mpr ⟨hfamily, hnn, rfl⟩
    have hexecute : machine.execute keys machine.instruction =
        machine.skipIf (!Keypad.isHeld keys machine.testedKey) := by
      rw [hinstruction]
      rfl
    simpa [hnn] using step_of_skipIf hexecute

end Step

/-- The same operations, but for keys that may differ outside the keypad. -/
inductive Operation.AgreeOnKeypad : Operation → Operation → Prop where
  | load (program : List UInt8) : AgreeOnKeypad (.load program) (.load program)
  | step {keys other : KeyState} (hagree : keys.AgreeOnKeypad other) :
      AgreeOnKeypad (.step keys) (.step other)
  | tick : AgreeOnKeypad .tick .tick

theorem apply_of_agree (machine : Machine) {first second : Operation}
    (hagree : first.AgreeOnKeypad second) :
    machine.stepResult? first = machine.stepResult? second ∧
      machine.apply first = machine.apply second := by
  cases hagree with
  | load | tick => exact ⟨rfl, rfl⟩
  | step hagree => simp only [stepResult?, apply, step_congr_of_agree hagree, and_self]

theorem run_of_agree (machine : Machine) {first second : List Operation}
    (hagree : List.Forall₂ Operation.AgreeOnKeypad first second) :
    machine.results first = machine.results second ∧ machine.run first = machine.run second := by
  induction hagree generalizing machine with
  | nil => exact ⟨rfl, rfl⟩
  | cons hhead _ ih =>
      obtain ⟨hresult, happly⟩ := machine.apply_of_agree hhead
      simp only [results, run_cons, hresult, happly, ih, and_self]

/-- A run is the same under keys that differ only outside the keypad. A single step looks at the
keys only to test one or to wait for one: it then depends on whether the tested key is held, which
no number from sixteen on ever is, or on which key of the layout was the first to be pressed. -/
theorem only_keypad_is_seen (machine : Machine) :
    (∀ first second : List Operation, List.Forall₂ Operation.AgreeOnKeypad first second →
      machine.results first = machine.results second ∧
        machine.run first = machine.run second) ∧
      ∀ keys other : KeyState,
        (¬ machine.fetch.TestsKey → ¬ machine.fetch.AwaitsKey →
          machine.step keys = machine.step other) ∧
        (machine.fetch.TestsKey →
          (keys.AgreeOnHeld other machine.testedKey → machine.step keys = machine.step other) ∧
          (16 ≤ machine.testedKey.toNat →
            (machine.step keys).result = .ok .next ∧
              (machine.step keys).machine =
                { machine with
                  counter :=
                    machine.counter + if machine.fetch.nn = 0xA1 then 4 else 2 })) ∧
        (machine.fetch.AwaitsKey →
          (∀ entry, keys.FirstPressed entry ↔ other.FirstPressed entry) →
          machine.step keys = machine.step other) := by
  refine ⟨fun _ _ => machine.run_of_agree, fun keys other => ⟨?_, fun htests => ⟨?_, ?_⟩, ?_⟩⟩
  · intro htests hawaits
    exact step_congr (fun h => absurd h htests) (fun h => absurd h hawaits)
  · intro hheld
    have hawaits : ¬ machine.fetch.AwaitsKey := fun hawaits => by
      cases htests.1.symm.trans hawaits.1
    exact step_congr (fun _ => Keypad.isHeld_congr hheld) (fun h => absurd h hawaits)
  · intro hlarge
    have hskips : (Keypad.isHeld keys machine.testedKey = decide (machine.fetch.nn = 0x9E)) ↔
        machine.fetch.nn = 0xA1 := by
      rw [Keypad.isHeld_of_le hlarge]
      rcases htests.2 with hnn | hnn <;> simp [hnn]
    have hstep := @step_of_testsKey machine keys htests
    simpa only [hskips] using hstep
  · intro hawaits hpressed
    have htests : ¬ machine.fetch.TestsKey := fun htests => by
      cases htests.1.symm.trans hawaits.1
    exact step_congr (fun h => absurd h htests) (fun _ => Keypad.firstPressed?_congr hpressed)

/-- Two states of the keys that agree on the keypad, and others that agree with them on no more
than one word looks at. -/
theorem only_keypad_is_seen_beside_others :
    let machine (high low : UInt8) : Machine :=
      { withSeed .chip 0 with
        memory := Memory.blank.write 0 [high, low, 0xE1, 0x9E]
        registers := Registers.initial.set 2 0x10
        counter := 0 }
    let keys : KeyState := .ofLists [.x, .escape] [.v, .q]
    let other : KeyState := .ofLists [.other "Space", .x] [.v, .escape, .q]
    let operations (keys : KeyState) : List Operation := [.step keys, .tick, .step keys]
    (machine 0xF1 0x0A).run (operations keys) = (machine 0xF1 0x0A).run (operations other) ∧
      (machine 0xD0 0x15).step keys = (machine 0xD0 0x15).step .idle ∧
      (machine 0xE0 0x9E).step keys = (machine 0xE0 0x9E).step (.ofLists [.x, .q] []) ∧
      ((machine 0xE2 0xA1).step keys).machine.counter = 4 ∧
      (machine 0xF1 0x0A).step keys = (machine 0xF1 0x0A).step (.ofLists [] [.q]) := by
  intro machine keys other operations
  have hkeypad : keys.AgreeOnKeypad other :=
    ⟨List.forall_iff_forall_mem.mp (by decide), List.forall_iff_forall_mem.mp (by decide)⟩
  have hoperations : List.Forall₂ Operation.AgreeOnKeypad (operations keys) (operations other) :=
    .cons (.step hkeypad) (.cons .tick (.cons (.step hkeypad) .nil))
  have hheld : keys.AgreeOnHeld (.ofLists [.x, .q] []) (machine 0xE0 0x9E).testedKey :=
    List.forall_iff_forall_mem.mp (by decide)
  have hfirst : ∀ entry, keys.FirstPressed entry ↔
      (KeyState.ofLists [] [.q]).FirstPressed entry := by
    have hsame : (Keypad.layout.find? fun entry => keys.pressed entry.2) =
        Keypad.layout.find? fun entry => (KeyState.ofLists [] [.q]).pressed entry.2 := by
      decide
    intro entry
    rw [← Keypad.find?_layout_eq_some_iff, ← Keypad.find?_layout_eq_some_iff, hsame]
  refine ⟨((only_keypad_is_seen _).1 _ _ hoperations).2, ?_, ?_, ?_, ?_⟩
  · exact ((only_keypad_is_seen _).2 _ _).1 (by decide) (by decide)
  · exact (((only_keypad_is_seen _).2 _ _).2.1 (by decide)).1 hheld
  · have hstep := (((only_keypad_is_seen (machine 0xE2 0xA1)).2 keys other).2.1
      (by decide)).2 (by decide)
    rw [hstep.2]
    decide
  · exact ((only_keypad_is_seen _).2 _ _).2.2 (by decide) hfirst

end Machine

theorem Keypad.exists_firstPressed {keys : KeyState}
    (hpressed : ∃ entry ∈ layout, keys.pressed entry.2 = true) :
    ∃ entry, keys.FirstPressed entry ∧ firstPressed? keys = some entry.1 := by
  cases hfind : layout.find? fun entry => keys.pressed entry.2 with
  | none =>
      obtain ⟨entry, hentry, hdown⟩ := hpressed
      exact absurd hdown (List.find?_eq_none.mp hfind entry hentry)
  | some entry =>
      have hfirst : keys.FirstPressed entry := find?_layout_eq_some_iff.mp hfind
      exact ⟨entry, hfirst, firstPressed?_of_firstPressed hfirst⟩

namespace Machine

/-- A tick, or a step while no key of the layout goes down. -/
inductive Operation.Idles : Operation → Prop where
  | step {keys : KeyState} (hnone : ∀ entry ∈ Keypad.layout, keys.pressed entry.2 = false) :
      Idles (.step keys)
  | tick : Idles .tick

theorem run_filter_isTick (machine : Machine) (operations : List Operation) :
    machine.run (operations.filter Operation.isTick) =
      machine.ticks (operations.countP Operation.isTick) := by
  induction operations generalizing machine with
  | nil => exact machine.ticks_zero.symm
  | cons operation rest ih =>
      cases operation with
      | tick =>
          rw [List.countP_cons_of_pos rfl, ticks_succ, ← ih]
          rfl
      | load | step => exact ih machine

section

variable {machine : Machine} (hawaits : machine.fetch.AwaitsKey)

include hawaits

theorem not_usesTimers_of_awaits : ¬ machine.fetch.UsesTimers := by
  rintro ⟨-, hcode | hcode | hcode⟩ <;> cases hawaits.2.symm.trans hcode

theorem run_of_idles {operations : List Operation}
    (hidle : ∀ operation ∈ operations, operation.Idles) :
    (∀ result ∈ machine.results operations, result = .ok .reissue) ∧
      (∀ state ∈ machine.states operations, ∃ count, state = machine.ticks count) ∧
      machine.run operations = machine.ticks (operations.countP Operation.isTick) := by
  refine run_of_unmoved (·.fetch.AwaitsKey) hawaits id ?_ ?_
  · intro operation hoperation
    cases hidle operation hoperation <;> exact Bool.false_ne_true
  · intro state hstate keys hkeys
    cases hidle _ hkeys with
    | step hnone =>
        rw [step_of_not_pressed hstate (Keypad.firstPressed?_eq_none_iff.mpr hnone)]
        exact ⟨rfl, rfl⟩

/-- The steps before another one may be left out, and their ticks put off until after it. -/
theorem run_step_of_idles {operations : List Operation}
    (hidle : ∀ operation ∈ operations, operation.Idles) (keys : KeyState) :
    machine.run (operations ++ [.step keys]) =
      machine.run (.step keys :: operations.filter Operation.isTick) := by
  obtain ⟨-, -, hrun⟩ := run_of_idles hawaits hidle
  rw [run_append_singleton, hrun, run_cons, run_filter_isTick]
  exact (step_ticks (not_usesTimers_of_awaits hawaits) keys _).2

end

/-- As long as a machine waits for a key, every step answers that the word is to be run again, and
but for the ticks there might have been none. The first pressed key ends the wait, with the same
outcome as if it had been pressed at once and the ticks had come later. -/
theorem waiting_leaves_no_trace {machine : Machine} (hawaits : machine.fetch.AwaitsKey)
    {operations : List Operation} (hidle : ∀ operation ∈ operations, operation.Idles) :
    let waited := machine.run operations
    let ticks := operations.filter Operation.isTick
    (∀ result ∈ machine.results operations, result = .ok .reissue) ∧
      (∀ state ∈ machine.states operations,
        state = { machine with delay := state.delay, sound := state.sound }) ∧
      waited = machine.run ticks ∧
      ∀ keys : KeyState, (∃ entry ∈ Keypad.layout, keys.pressed entry.2 = true) →
        ∃ entry, keys.FirstPressed entry ∧
          (waited.step keys).result = .ok .next ∧
          (waited.step keys).machine =
            { waited with
              counter := waited.counter + 2
              registers := waited.registers.set machine.fetch.x entry.1 } ∧
          machine.run (operations ++ [.step keys]) = machine.run (.step keys :: ticks) := by
  intro waited ticks
  obtain ⟨hresults, hstates, hrun⟩ := run_of_idles hawaits hidle
  have hwaited : waited = machine.ticks (operations.countP Operation.isTick) := hrun
  refine ⟨hresults, ?_, ?_, ?_⟩
  · intro state hstate
    obtain ⟨count, rfl⟩ := hstates state hstate
    rfl
  · rw [hwaited, run_filter_isTick]
  · intro keys hpressed
    obtain ⟨entry, hfirst, hkey⟩ := Keypad.exists_firstPressed hpressed
    have hfetch : waited.fetch = machine.fetch := by
      rw [hwaited]
      rfl
    have hstep := step_of_pressed (hfetch ▸ hawaits) hkey
    rw [hfetch] at hstep
    exact ⟨entry, hfirst, congrArg Outcome.result hstep, congrArg Outcome.machine hstep,
      run_step_of_idles hawaits hidle keys⟩

/-- With a key held all the time and another one going down beside it, and the delay running out
meanwhile. The one that stands first in the layout is the one that counts. -/
theorem waiting_leaves_no_trace_held :
    let machine : Machine :=
      { withSeed .chip 7 with
        memory := Memory.blank.write 0 [0xF5, 0x0A]
        counter := 0
        delay := ⟨1⟩
        sound := ⟨9⟩ }
    let idle : KeyState := .ofLists [.v] [.escape]
    let pressed : KeyState := .ofLists [.v, .x] [.v, .x]
    let operations : List Operation := [.step idle, .tick, .step .idle, .tick, .step idle]
    let after := machine.run (operations ++ [.step pressed])
    (machine.fetch.AwaitsKey ∧ ∀ operation ∈ operations, operation.Idles) ∧
      machine.results operations = [.ok .reissue, .ok .reissue, .ok .reissue] ∧
      after = machine.run [.step pressed, .tick, .tick] ∧
      after.registers.get 5 = 0x0 ∧ after.counter = 2 ∧ after.sound.count = 7 := by
  intro machine idle pressed operations after
  have hawaits : machine.fetch.AwaitsKey := by decide
  have hidle : ∀ operation ∈ operations, operation.Idles := by
    have hstep : Operation.Idles (.step idle) := .step (List.forall_iff_forall_mem.mp (by decide))
    have hbare : Operation.Idles (.step .idle) := .step fun _ _ => rfl
    exact List.forall_iff_forall_mem.mp ⟨hstep, .tick, hbare, .tick, hstep⟩
  obtain ⟨-, -, -, hpressed⟩ := waiting_leaves_no_trace hawaits hidle
  obtain ⟨_, -, -, -, hrun⟩ := hpressed pressed ⟨(0xF, .v), by decide, by decide⟩
  have hafter : after = machine.run [.step pressed, .tick, .tick] := hrun
  refine ⟨⟨hawaits, hidle⟩, by decide, hafter, ?_⟩
  rw [hafter]
  decide

end Machine

end Chip8
