namespace Chip8

structure Timer where
  count : UInt8 := 0
  deriving DecidableEq, Repr

namespace Timer

def tick (timer : Timer) : Timer where
  count := if timer.count = 0 then 0 else timer.count - 1

def active (timer : Timer) : Bool :=
  timer.count != 0

def ticks (timer : Timer) (count : Nat) : Timer where
  count := UInt8.ofNat (timer.count.toNat - count)

theorem active_iff (timer : Timer) : timer.active ↔ 0 < timer.count.toNat := by
  have hzero : timer.count = 0 ↔ timer.count.toNat = 0 := UInt8.toNat_inj.symm
  rw [active, bne_iff_ne, ne_eq, hzero]
  exact Nat.pos_iff_ne_zero.symm

@[simp] theorem toNat_count_tick (timer : Timer) :
    timer.tick.count.toNat = timer.count.toNat - 1 := by
  simp only [tick]
  split
  · rename_i h
    simp [h]
  · rename_i h
    rw [UInt8.toNat_sub_of_le]
    · rfl
    · rw [UInt8.le_iff_toNat_le]
      have : timer.count.toNat ≠ 0 := fun hzero => h (UInt8.toNat_inj.mp hzero)
      change 1 ≤ timer.count.toNat
      omega

@[simp] theorem toNat_count_ticks (timer : Timer) (count : Nat) :
    (timer.ticks count).count.toNat = timer.count.toNat - count := by
  have := timer.count.toNat_lt
  simp only [ticks, UInt8.toNat_ofNat']
  omega

theorem eq_of_toNat_count_eq {first second : Timer}
    (h : first.count.toNat = second.count.toNat) : first = second := by
  cases first
  cases second
  exact congrArg Timer.mk (UInt8.toNat_inj.mp h)

@[simp] theorem ticks_zero (timer : Timer) : timer.ticks 0 = timer :=
  eq_of_toNat_count_eq (by simp)

theorem ticks_succ (timer : Timer) (count : Nat) :
    timer.ticks (count + 1) = timer.tick.ticks count :=
  eq_of_toNat_count_eq (by simp; omega)

theorem tick_ticks (timer : Timer) (count : Nat) :
    (timer.ticks count).tick = timer.ticks (count + 1) :=
  eq_of_toNat_count_eq (by simp; omega)

end Timer

/-! A clock that owes ticks at a fixed rate. It is asked now and then how many have come due, and
carries the remainder of a period forward. Times are in nanoseconds. -/

structure Clock where
  period : Nat
  period_pos : 0 < period
  last : Int
  deriving DecidableEq, Repr

namespace Clock

def second : Nat := 1000000000

def highestRate : Nat := 1000000

/-- The whole nanoseconds between ticks, for a rate brought into one to a million a second. -/
def periodOfRate (rate : Nat) : Nat :=
  second / max 1 (min rate highestRate)

theorem periodOfRate_pos (rate : Nat) : 0 < periodOfRate rate := by
  have hle : max 1 (min rate highestRate) ≤ 1000000 := by
    have : highestRate = 1000000 := rfl
    omega
  exact Nat.div_pos (Nat.le_trans hle (by decide)) (by omega)

def start (rate : Nat) (now : Int) : Clock where
  period := periodOfRate rate
  period_pos := periodOfRate_pos rate
  last := now

/-- The ticks that have come due, counted in thirty-two bits. A time before the last report counts
as no time, and only the reported ticks move the clock on. -/
def due (clock : Clock) (now : Int) : Nat × Clock :=
  let ticks := (now - clock.last).toNat / clock.period % UInt32.size
  (ticks, { clock with last := clock.last + clock.period * ticks })

def poll (clock : Clock) : List Int → List Nat × Clock
  | [] => ([], clock)
  | now :: rest =>
      let (ticks, clock) := clock.due now
      let (answers, clock) := clock.poll rest
      (ticks :: answers, clock)

@[simp] theorem poll_nil (clock : Clock) : clock.poll [] = ([], clock) := rfl

@[simp] theorem poll_cons (clock : Clock) (now : Int) (rest : List Int) :
    clock.poll (now :: rest) =
      ((clock.due now).1 :: ((clock.due now).2.poll rest).1,
        ((clock.due now).2.poll rest).2) := rfl

end Clock

end Chip8
