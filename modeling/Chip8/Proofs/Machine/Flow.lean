import Chip8.Proofs.Instruction
import Chip8.Proofs.Machine.Keys

namespace Chip8

namespace Word

inductive Redirects (word : Word) : Prop where
  | returnFromCall (hword : word = 0x00EE)
  | jump (hfamily : word.family = 0x1)
  | call (hfamily : word.family = 0x2)
  | jumpWithOffset (hfamily : word.family = 0xB)

/-- The word skips the following instruction if a test succeeds. -/
inductive Tests (word : Word) : Prop where
  | equalConstant (hfamily : word.family = 0x3)
  | notEqualConstant (hfamily : word.family = 0x4)
  | equal (hfamily : word.family = 0x5 ∧ word.n = 0)
  | notEqual (hfamily : word.family = 0x9 ∧ word.n = 0)
  | key (htests : word.TestsKey)

/-- The words test the same operands, one for what the other rules out. -/
inductive Opposed (first second : Word) : Prop where
  | constants (hfirst : first.family = 0x3) (hsecond : second.family = 0x4)
      (hx : first.x = second.x) (hnn : first.nn = second.nn)
  | registers (hfirst : first.family = 0x5 ∧ first.n = 0)
      (hsecond : second.family = 0x9 ∧ second.n = 0)
      (hx : first.x = second.x) (hy : first.y = second.y)
  | keys (hfirst : first.family = 0xE ∧ first.nn = 0x9E)
      (hsecond : second.family = 0xE ∧ second.nn = 0xA1) (hx : first.x = second.x)

theorem ne_of_family {first second : Word} (hfamily : first.family ≠ second.family) :
    first ≠ second :=
  mt (congrArg family) hfamily

theorem Opposed.tests {first second : Word} (hopposed : first.Opposed second) :
    first.Tests ∧ second.Tests := by
  cases hopposed with
  | constants hfirst hsecond => exact ⟨.equalConstant hfirst, .notEqualConstant hsecond⟩
  | registers hfirst hsecond => exact ⟨.equal hfirst, .notEqual hsecond⟩
  | keys hfirst hsecond =>
      exact ⟨.key ⟨hfirst.1, .inl hfirst.2⟩, .key ⟨hsecond.1, .inr hsecond.2⟩⟩

end Word

namespace Instruction

variable {architecture : Architecture} {word : Word}

theorem redirects_decode_iff : (decode architecture word).Redirects ↔ word.Redirects := by
  constructor
  · intro hredirects
    cases hdecode : decode architecture word with
    | returnFromCall => exact .returnFromCall (decode_eq_returnFromCall_iff.mp hdecode)
    | jump target => exact .jump (decode_eq_jump_iff.mp hdecode).1
    | call target => exact .call (decode_eq_call_iff.mp hdecode).1
    | jumpWithOffset target offset =>
        exact .jumpWithOffset (decode_eq_jumpWithOffset_iff.mp hdecode).1
    | _ =>
        rw [hdecode] at hredirects
        exact hredirects.elim
  · intro hredirects
    cases hredirects with
    | returnFromCall hword =>
        rw [decode_eq_returnFromCall_iff.mpr hword]
        trivial
    | jump hfamily =>
        rw [decode_eq_jump_iff.mpr ⟨hfamily, rfl⟩]
        trivial
    | call hfamily =>
        rw [decode_eq_call_iff.mpr ⟨hfamily, rfl⟩]
        trivial
    | jumpWithOffset hfamily =>
        rw [decode_eq_jumpWithOffset_iff.mpr ⟨hfamily, rfl, rfl⟩]
        trivial

end Instruction

namespace Machine

/-- The fetched word waits for a key, and no key of the keypad has just been pressed. -/
def Waits (machine : Machine) (keys : KeyState) : Prop :=
  machine.fetch.AwaitsKey ∧ ∀ entry ∈ Keypad.layout, keys.pressed entry.2 = false

def TestHolds (machine : Machine) (keys : KeyState) (word : Word) : Prop :=
  let vx := machine.registers.get word.x
  let vy := machine.registers.get word.y
  word.family = 0x3 ∧ vx = word.nn ∨
    word.family = 0x4 ∧ vx ≠ word.nn ∨
    (word.family = 0x5 ∧ word.n = 0) ∧ vx = vy ∨
    (word.family = 0x9 ∧ word.n = 0) ∧ vx ≠ vy ∨
    (word.family = 0xE ∧ word.nn = 0x9E) ∧ keys.Holds vx ∨
    (word.family = 0xE ∧ word.nn = 0xA1) ∧ ¬ keys.Holds vx

instance (machine : Machine) (keys : KeyState) : Decidable (machine.Waits keys) :=
  inferInstanceAs (Decidable (_ ∧ _))

instance (machine : Machine) (keys : KeyState) (word : Word) :
    Decidable (machine.TestHolds keys word) :=
  inferInstanceAs (Decidable (_ ∨ _))

/-- Where the counter is after the fetched word, unless that faults. -/
def nextCounter? (machine : Machine) (keys : KeyState) : Option Address :=
  let word := machine.fetch
  let offset := if machine.architecture = .cosmac then 0 else word.x
  if word = 0x00EE then
    machine.stack.entries.getLast?
  else if word.family = 0x1 ∨ word.family = 0x2 then
    some word.nnn
  else if word.family = 0xB then
    some ((word.nnn + (machine.registers.get offset).toUInt16) % 0x1000)
  else if machine.Waits keys then
    some machine.counter
  else
    some (machine.counter + if machine.TestHolds keys word then 4 else 2)

variable {machine : Machine} {keys : KeyState} {word : Word}

theorem executeWord_of_tests (htests : word.Tests) :
    machine.executeWord keys word = machine.skipIf (machine.TestHolds keys word) := by
  unfold executeWord
  cases htests with
  | equalConstant hfamily =>
      rw [Instruction.decode_eq_skipEqualConstant_iff.mpr ⟨hfamily, rfl, rfl⟩]
      simp [execute, TestHolds, hfamily, beq_eq_decide]
  | notEqualConstant hfamily =>
      rw [Instruction.decode_eq_skipNotEqualConstant_iff.mpr ⟨hfamily, rfl, rfl⟩]
      simp [execute, TestHolds, hfamily, bne, beq_eq_decide]
  | equal hfamily =>
      rw [Instruction.decode_eq_skipEqual_iff.mpr ⟨hfamily, rfl, rfl⟩]
      simp [execute, TestHolds, hfamily, beq_eq_decide]
  | notEqual hfamily =>
      rw [Instruction.decode_eq_skipNotEqual_iff.mpr ⟨hfamily, rfl, rfl⟩]
      simp [execute, TestHolds, hfamily, bne, beq_eq_decide]
  | key htests =>
      obtain ⟨hfamily, hnn | hnn⟩ := htests
      · rw [Instruction.decode_eq_skipHeld_iff.mpr ⟨hfamily, hnn, rfl⟩]
        simp [execute, TestHolds, hfamily, hnn, ← Keypad.isHeld_iff]
      · rw [Instruction.decode_eq_skipNotHeld_iff.mpr ⟨hfamily, hnn, rfl⟩]
        simp [execute, TestHolds, hfamily, hnn, ← Keypad.isHeld_iff]

theorem tests_of_holds (hholds : machine.TestHolds keys word) : word.Tests := by
  rcases hholds with ⟨hfamily, _⟩ | ⟨hfamily, _⟩ | ⟨hfamily, _⟩ | ⟨hfamily, _⟩ |
    ⟨⟨hfamily, hnn⟩, _⟩ | ⟨⟨hfamily, hnn⟩, _⟩
  · exact .equalConstant hfamily
  · exact .notEqualConstant hfamily
  · exact .equal hfamily
  · exact .notEqual hfamily
  · exact .key ⟨hfamily, .inl hnn⟩
  · exact .key ⟨hfamily, .inr hnn⟩

theorem skips_decode_of_not_tests (hother : ¬ word.Tests) :
    machine.skips keys (.decode machine.architecture word) = false := by
  cases hdecode : Instruction.decode machine.architecture word with
  | skipEqualConstant x value =>
      have hfamily := (Instruction.decode_eq_skipEqualConstant_iff.mp hdecode).1
      exact absurd (.equalConstant hfamily) hother
  | skipNotEqualConstant x value =>
      have hfamily := (Instruction.decode_eq_skipNotEqualConstant_iff.mp hdecode).1
      exact absurd (.notEqualConstant hfamily) hother
  | skipEqual x y =>
      exact absurd (.equal (Instruction.decode_eq_skipEqual_iff.mp hdecode).1) hother
  | skipNotEqual x y =>
      exact absurd (.notEqual (Instruction.decode_eq_skipNotEqual_iff.mp hdecode).1) hother
  | skipHeld x =>
      obtain ⟨hfamily, hnn, _⟩ := Instruction.decode_eq_skipHeld_iff.mp hdecode
      exact absurd (.key ⟨hfamily, .inl hnn⟩) hother
  | skipNotHeld x =>
      obtain ⟨hfamily, hnn, _⟩ := Instruction.decode_eq_skipNotHeld_iff.mp hdecode
      exact absurd (.key ⟨hfamily, .inr hnn⟩) hother
  | _ => rfl

theorem step_of_tests (htests : machine.fetch.Tests) :
    (machine.step keys).result = .ok .next ∧
      (machine.step keys).machine =
        { machine with
          counter := machine.counter + if machine.TestHolds keys machine.fetch then 4 else 2 } := by
  have hexecute : machine.execute keys machine.instruction =
      machine.skipIf (machine.TestHolds keys machine.fetch) :=
    executeWord_of_tests htests
  simpa using step_of_skipIf hexecute

theorem step_of_not_listed (hunknown : ¬ Instruction.Listed machine.fetch) :
    (machine.step keys).result = .ok .next ∧
      (machine.step keys).machine = machine.advance := by
  have hinstruction : machine.instruction = .unknown machine.fetch :=
    Instruction.decode_eq_unknown_iff.mpr ⟨hunknown, rfl⟩
  simp only [step, hinstruction, execute]
  exact ⟨rfl, rfl⟩

theorem waits_instruction_iff : waits keys machine.instruction = true ↔ machine.Waits keys := by
  constructor
  · intro hwaits
    cases hinstruction : machine.instruction with
    | awaitKey x =>
        rw [hinstruction, waits, Option.isNone_iff_eq_none] at hwaits
        exact ⟨(Instruction.decode_eq_awaitKey_iff.mp hinstruction).1,
          Keypad.firstPressed?_eq_none_iff.mp hwaits⟩
    | _ =>
        rw [hinstruction] at hwaits
        cases hwaits
  · rintro ⟨hawaits, hpressed⟩
    rw [instruction_of_awaits hawaits, waits, Keypad.firstPressed?_eq_none_iff.mpr hpressed]
    rfl

theorem redirects_instruction_iff :
    machine.instruction.Redirects ↔ machine.fetch.Redirects :=
  Instruction.redirects_decode_iff

theorem not_redirects_of_waits (hwaits : machine.Waits keys) : ¬ machine.fetch.Redirects := by
  obtain ⟨⟨hfamily, _⟩, _⟩ := hwaits
  intro hredirects
  cases hredirects with
  | returnFromCall hword => exact Word.ne_of_family (by rw [hfamily]; decide) hword
  | jump hother | call hother | jumpWithOffset hother => cases hfamily.symm.trans hother

theorem result_step_eq_reissue_iff :
    (machine.step keys).result = .ok .reissue ↔ machine.Waits keys := by
  constructor
  · intro hresult
    cases step_course hresult with
    | waited hwaits => exact waits_instruction_iff.mp hwaits
  · rintro ⟨hawaits, hpressed⟩
    rw [step_of_not_pressed hawaits (Keypad.firstPressed?_eq_none_iff.mpr hpressed)]

theorem result_step_eq_redirected_iff :
    (machine.step keys).result = .ok .redirected ↔
      (machine.step keys).result.isOk = true ∧ machine.fetch.Redirects := by
  constructor
  · intro hresult
    refine ⟨hresult ▸ rfl, redirects_instruction_iff.mp ?_⟩
    cases step_course hresult with
    | returned target stack hinstruction =>
        rw [hinstruction]
        trivial
    | called target stack hinstruction =>
        rw [hinstruction]
        trivial
    | jumped target hinstruction =>
        rcases hinstruction with hinstruction | ⟨base, offset, hinstruction, _⟩ <;>
          rw [hinstruction] <;> trivial
  · rintro ⟨hsucceeds, hredirects⟩
    generalize hresult : (machine.step keys).result = result at hsucceeds ⊢
    cases step_course hresult with
    | underflow | overflow => cases hsucceeds
    | returned | called | jumped => rfl
    | waited hwaits =>
        exact absurd hredirects (not_redirects_of_waits (waits_instruction_iff.mp hwaits))
    | passed hstays => exact absurd (redirects_instruction_iff.mpr hredirects) hstays

theorem nextCounter?_of_not_redirects (hstays : ¬ machine.fetch.Redirects) :
    machine.nextCounter? keys =
      if machine.Waits keys then some machine.counter
      else some (machine.counter + if machine.TestHolds keys machine.fetch then 4 else 2) := by
  have hreturn : machine.fetch ≠ 0x00EE := fun hword => hstays (.returnFromCall hword)
  have hcall : ¬ (machine.fetch.family = 0x1 ∨ machine.fetch.family = 0x2) :=
    fun hfamily => hstays (hfamily.elim .jump .call)
  have hoffset : machine.fetch.family ≠ 0xB := fun hfamily => hstays (.jumpWithOffset hfamily)
  simp only [nextCounter?, hreturn, hcall, hoffset, if_false]

theorem nextCounter?_of_address
    (hfamily : machine.fetch.family = 0x1 ∨ machine.fetch.family = 0x2) :
    machine.nextCounter? keys = some machine.fetch.nnn := by
  have hword : machine.fetch ≠ 0x00EE :=
    Word.ne_of_family (by rcases hfamily with hfamily | hfamily <;> rw [hfamily] <;> decide)
  simp only [nextCounter?, hword, hfamily, if_true, if_false]

theorem nextCounter?_of_offset (hfamily : machine.fetch.family = 0xB) :
    machine.nextCounter? keys =
      some ((machine.fetch.nnn + (machine.registers.get
        (Instruction.offsetRegister machine.architecture machine.fetch)).toUInt16) &&& 0x0FFF) := by
  have hword : machine.fetch ≠ 0x00EE := Word.ne_of_family (by rw [hfamily]; decide)
  have hoffset : Instruction.offsetRegister machine.architecture machine.fetch =
      if machine.architecture = .cosmac then 0 else machine.fetch.x := by
    cases machine.architecture <;> rfl
  have hmask (address : Address) : address &&& 0x0FFF = address % 0x1000 :=
    UInt16.toNat_inj.mp (Nat.and_two_pow_sub_one_eq_mod address.toNat 12)
  simp [nextCounter?, hword, hfamily, hoffset, hmask]

theorem nextCounter?_of_succeeds (hsucceeds : (machine.step keys).result.isOk = true) :
    machine.nextCounter? keys = some (machine.step keys).machine.counter := by
  generalize hresult : (machine.step keys).result = result at hsucceeds
  cases step_course hresult with
  | underflow | overflow => cases hsucceeds
  | returned target stack hinstruction hpop hafter =>
      have hword : machine.fetch = 0x00EE :=
        Instruction.decode_eq_returnFromCall_iff.mp hinstruction
      simp [nextCounter?, hword, hafter, CallStack.entries_pop hpop]
  | called target stack hinstruction hpush hafter =>
      obtain ⟨hfamily, rfl⟩ := Instruction.decode_eq_call_iff.mp hinstruction
      rw [nextCounter?_of_address (.inr hfamily), hafter]
  | jumped target hinstruction hafter =>
      rcases hinstruction with hinstruction | ⟨base, offset, hinstruction, rfl⟩
      · obtain ⟨hfamily, rfl⟩ := Instruction.decode_eq_jump_iff.mp hinstruction
        rw [nextCounter?_of_address (.inl hfamily), hafter]
      · obtain ⟨hfamily, rfl, rfl⟩ := Instruction.decode_eq_jumpWithOffset_iff.mp hinstruction
        rw [nextCounter?_of_offset hfamily, hafter]
  | waited hwaits hafter =>
      rw [waits_instruction_iff] at hwaits
      rw [nextCounter?_of_not_redirects (not_redirects_of_waits hwaits), if_pos hwaits, hafter]
  | passed hstays _ _ hcounter =>
      rw [redirects_instruction_iff] at hstays
      have hwaits : ¬ machine.Waits keys := fun hwaits => by
        cases hresult.symm.trans (result_step_eq_reissue_iff.mpr hwaits)
      rw [nextCounter?_of_not_redirects hstays, if_neg hwaits]
      -- Only a test moves the counter itself; any other word leaves that to the advance.
      by_cases htests : machine.fetch.Tests
      · rw [(step_of_tests htests).2]
      · have hskips : machine.skips keys machine.instruction = false :=
          skips_decode_of_not_tests htests
        rw [hcounter, hskips, if_neg (mt tests_of_holds htests)]
        rfl

theorem testHolds_iff_not_of_opposed {first second : Word} (hopposed : first.Opposed second) :
    machine.TestHolds keys first ↔ ¬ machine.TestHolds keys second := by
  cases hopposed with
  | constants hfirst hsecond hx hnn => simp [TestHolds, hfirst, hsecond, hx, hnn]
  | registers hfirst hsecond hx hy => simp [TestHolds, hfirst, hsecond, hx, hy]
  | keys hfirst hsecond hx => simp [TestHolds, hfirst, hsecond, hx]

theorem exactly_one_skips {first second : Word} (hopposed : first.Opposed second) :
    machine.executeWord keys first = .next machine.advance ∧
        machine.executeWord keys second = .next machine ∨
      machine.executeWord keys first = .next machine ∧
        machine.executeWord keys second = .next machine.advance := by
  have hexactly : machine.TestHolds keys first ↔ ¬ machine.TestHolds keys second :=
    testHolds_iff_not_of_opposed hopposed
  rw [executeWord_of_tests hopposed.tests.1, executeWord_of_tests hopposed.tests.2]
  by_cases hholds : machine.TestHolds keys second
  · right
    simp [skipIf, hholds, hexactly]
  · left
    simp [skipIf, hholds, hexactly]

/-- The counter after a step that succeeds is the one that the fetched word tells. A step waits
exactly for the words that do, and redirects exactly for returns, jumps and calls that succeed;
tests and unknown words change nothing but the counter; and of two opposed words one skips. -/
theorem counter_follows_words (machine : Machine) (keys : KeyState) :
    ((machine.step keys).result.isOk = true →
        machine.nextCounter? keys = some (machine.step keys).machine.counter) ∧
      ((machine.step keys).result = .ok .reissue ↔ machine.Waits keys) ∧
      ((machine.step keys).result = .ok .redirected ↔
        (machine.step keys).result.isOk = true ∧ machine.fetch.Redirects) ∧
      (machine.fetch.Tests →
        (machine.step keys).result = .ok .next ∧
          (machine.step keys).machine =
            { machine with
              counter :=
                machine.counter + if machine.TestHolds keys machine.fetch then 4 else 2 }) ∧
      (¬ Instruction.Listed machine.fetch →
        (machine.step keys).result = .ok .next ∧
          (machine.step keys).machine = { machine with counter := machine.counter + 2 }) ∧
      ∀ first second : Word, first.Opposed second →
        machine.executeWord keys first = .next machine.advance ∧
            machine.executeWord keys second = .next machine ∨
          machine.executeWord keys first = .next machine ∧
            machine.executeWord keys second = .next machine.advance :=
  ⟨nextCounter?_of_succeeds, result_step_eq_reissue_iff, result_step_eq_redirected_iff,
    step_of_tests, step_of_not_listed, fun _ _ => exactly_one_skips⟩

/-- A test that succeeds, a jump, a wait, a test that fails and an unknown word, each as the only
word of its program, and two opposed words. -/
theorem counter_follows_words_one_by_one :
    let machine (counter : Address) (high low : UInt8) : Machine :=
      { withSeed .chip 0 with
        memory := Memory.blank.write counter [high, low]
        registers := Registers.initial.set 2 7
        counter }
    ((machine 0xF000 0x32 0x07).step .idle).machine.counter = 0xF004 ∧
      ((machine 0 0xB2 0xFF).step .idle).result = .ok .redirected ∧
      ((machine 0 0xB2 0xFF).step .idle).machine.counter = 0x306 ∧
      ((machine 0 0xF1 0x0A).step .idle).result = .ok .reissue ∧
      ((machine 0 0x42 0x07).step .idle).machine = (machine 0 0x42 0x07).advance ∧
      ((machine 0 0x52 0x31).step .idle).machine = (machine 0 0x52 0x31).advance ∧
      (machine 0 0x00 0x00).executeWord .idle 0x9230 = .next (machine 0 0x00 0x00).advance := by
  intro machine
  refine ⟨?_, ?_, ?_, ?_, ?_, ?_, ?_⟩
  · have hcounter := (counter_follows_words (machine 0xF000 0x32 0x07) .idle).1 (by decide)
    exact Option.some.inj (hcounter.symm.trans (by decide))
  · exact (counter_follows_words _ _).2.2.1.mpr ⟨by decide, .jumpWithOffset (by decide)⟩
  · have hcounter := (counter_follows_words (machine 0 0xB2 0xFF) .idle).1 (by decide)
    exact Option.some.inj (hcounter.symm.trans (by decide))
  · exact (counter_follows_words _ _).2.1.mpr (by decide)
  · have htest := (counter_follows_words (machine 0 0x42 0x07) .idle).2.2.2.1
      (.notEqualConstant (by decide))
    have hfails : ¬ (machine 0 0x42 0x07).TestHolds .idle (machine 0 0x42 0x07).fetch := by
      decide
    rw [htest.2, if_neg hfails]
    rfl
  · exact ((counter_follows_words (machine 0 0x52 0x31) _).2.2.2.2.1 (by decide)).2
  · have hopposed : Word.Opposed 0x5230 0x9230 :=
      .registers (by decide) (by decide) (by decide) (by decide)
    have hexactly := (counter_follows_words (machine 0 0x00 0x00) .idle).2.2.2.2.2 _ _ hopposed
    rcases hexactly with ⟨hfirst, _⟩ | ⟨_, hsecond⟩
    · exact absurd (congrArg (fun outcome => outcome.machine.counter) hfirst) (by decide)
    · exact hsecond

end Machine

end Chip8
