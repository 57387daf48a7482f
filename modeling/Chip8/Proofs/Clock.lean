import Chip8.Timer
import Mathlib.Algebra.GroupWithZero.Nat
import Mathlib.Algebra.Order.BigOperators.Group.List
import Mathlib.Algebra.Order.Floor.Div
import Mathlib.Algebra.Order.Group.Nat
import Mathlib.Algebra.Order.Monoid.Canonical.Basic
import Mathlib.Data.List.MinMax
import Mathlib.Order.Nat
import Mathlib.Tactic.Ring

namespace Chip8

namespace Clock

def Reported (clock : Clock) (start : Int) (total : Nat) : Prop :=
  clock.last = start + clock.period * total

def periods (clock : Clock) (start now : Int) : Nat :=
  (now - start).toNat / clock.period

theorem reported_start (rate : Nat) (start : Int) : (Clock.start rate start).Reported start 0 := by
  simp [Reported, Clock.start]

@[simp] theorem period_due (clock : Clock) (now : Int) :
    (clock.due now).2.period = clock.period := rfl

@[simp] theorem period_poll (clock : Clock) (polls : List Int) :
    (clock.poll polls).2.period = clock.period := by
  induction polls generalizing clock with
  | nil => rfl
  | cons now rest ih => exact ih (clock.due now).2

theorem take_poll (clock : Clock) (polls : List Int) (count : Nat) :
    (clock.poll polls).1.take count = (clock.poll (polls.take count)).1 := by
  induction polls generalizing clock count with
  | nil => simp
  | cons now rest ih =>
      cases count with
      | zero => rfl
      | succ count => simp [ih]

namespace Reported

variable {clock : Clock} {start : Int} {total : Nat}

theorem periods_last (hreported : clock.Reported start total) (now : Int) :
    (now - clock.last).toNat / clock.period = clock.periods start now - total := by
  have helapsed : (now - clock.last).toNat = (now - start).toNat - clock.period * total := by
    rw [hreported]
    omega
  rw [helapsed, Nat.sub_mul_div, periods]

theorem ticks_due (hreported : clock.Reported start total) (now : Int) :
    (clock.due now).1 = (clock.periods start now - total) % UInt32.size :=
  congrArg (· % UInt32.size) (hreported.periods_last now)

theorem due (hreported : clock.Reported start total) (now : Int) :
    (clock.due now).2.Reported start (total + (clock.due now).1) := by
  have hlast : (clock.due now).2.last = clock.last + clock.period * (clock.due now).1 := rfl
  rw [Reported, hlast, hreported, period_due]
  push_cast
  rw [Int.mul_add, Int.add_assoc]

theorem poll (hreported : clock.Reported start total) (polls : List Int) :
    (clock.poll polls).2.Reported start (total + (clock.poll polls).1.sum) := by
  induction polls generalizing clock total with
  | nil => exact hreported
  | cons now rest ih =>
      rw [poll_cons, List.sum_cons, ← Nat.add_assoc]
      exact ih (hreported.due now)

theorem total_due (hreported : clock.Reported start total) {now : Int}
    (hsmall : clock.periods start now < UInt32.size) :
    total + (clock.due now).1 = max total (clock.periods start now) := by
  rw [hreported.ticks_due, Nat.mod_eq_of_lt (Nat.lt_of_le_of_lt (Nat.sub_le _ _) hsmall)]
  omega

theorem sum_poll (hreported : clock.Reported start total) {polls : List Int}
    (hsmall : ∀ now ∈ polls, clock.periods start now < UInt32.size) :
    total + (clock.poll polls).1.sum =
      max total ((polls.map (clock.periods start)).foldr max 0) := by
  induction polls generalizing clock total with
  | nil => exact (Nat.max_zero total).symm
  | cons now rest ih =>
      have hrest : ∀ later ∈ rest, (clock.due now).2.periods start later < UInt32.size :=
        fun later hlater => hsmall later (List.mem_cons_of_mem _ hlater)
      rw [poll_cons, List.sum_cons, ← Nat.add_assoc, ih (hreported.due now) hrest,
        hreported.total_due (hsmall now List.mem_cons_self), Nat.max_assoc]
      rfl

end Reported

theorem periods_mono (clock : Clock) (start : Int) {now later : Int} (hle : now ≤ later) :
    clock.periods start now ≤ clock.periods start later :=
  Nat.div_le_div_right (by omega)

theorem sum_poll_start {rate : Nat} {start last : Int} {polls : List Int}
    (hsorted : polls.Pairwise (· ≤ ·)) (hlast : polls.getLast? = some last)
    (hsmall : (Clock.start rate start).periods start last < UInt32.size) :
    ((Clock.start rate start).poll polls).1.sum = (Clock.start rate start).periods start last := by
  let clock := Clock.start rate start
  have hle : ∀ now ∈ polls, clock.periods start now ≤ clock.periods start last := by
    intro now hnow
    obtain ⟨before, rfl⟩ := List.getLast?_eq_some_iff.mp hlast
    rcases List.mem_append.mp hnow with hbefore | hlast
    · exact clock.periods_mono start
        ((List.pairwise_append.mp hsorted).2.2 now hbefore last List.mem_cons_self)
    · rw [List.mem_singleton.mp hlast]
  have hsum := (reported_start rate start).sum_poll fun now hnow =>
    Nat.lt_of_le_of_lt (hle now hnow) hsmall
  rw [Nat.zero_add, Nat.zero_max] at hsum
  rw [hsum]
  apply Nat.le_antisymm
  · exact List.max_le_of_forall_le _ _ (List.forall_mem_map.mpr hle)
  · exact List.le_max_of_le (List.mem_map_of_mem (List.mem_of_getLast? hlast)) (Nat.le_refl _)

/-- How far the latest poll gets past the start; not at all if every poll comes before it. -/
def reach (start : Int) (polls : List Int) : Nat :=
  (polls.map fun now => (now - start).toNat).foldr max 0

section

variable (clock : Clock) (start : Int)

theorem foldr_periods (polls : List Int) :
    (polls.map (clock.periods start)).foldr max 0 = reach start polls / clock.period := by
  have hmono : Monotone (· / clock.period) := fun _ _ hle => Nat.div_le_div_right hle
  induction polls with
  | nil => exact (Nat.zero_div clock.period).symm
  | cons now rest ih =>
      rw [List.map_cons, List.foldr_cons, ih]
      exact hmono.map_max.symm

theorem periods_le_reach {polls : List Int} {now : Int} (hnow : now ∈ polls) :
    clock.periods start now ≤ reach start polls / clock.period := by
  rw [← foldr_periods]
  exact List.le_max_of_le (List.mem_map_of_mem hnow) (Nat.le_refl _)

end

theorem sum_poll_eq_reach {rate : Nat} {start : Int} {polls : List Int}
    (hsmall : ∀ now ∈ polls, (Clock.start rate start).periods start now < UInt32.size) :
    ((Clock.start rate start).poll polls).1.sum = reach start polls / periodOfRate rate := by
  have hsum := (reported_start rate start).sum_poll hsmall
  rw [Nat.zero_add, Nat.zero_max, foldr_periods] at hsum
  exact hsum

/-- As long as no more ticks have come due than fit in the counter, the first polls report together
the whole periods up to the latest of them, and the clock stands at the end of the last of these
periods. So schedules that reach equally far report the same total. -/
theorem total_follows_latest_poll (rate : Nat) (start : Int) (polls : List Int) :
    let clock := Clock.start rate start
    let period := 1000000000 / max 1 (min rate 1000000)
    reach start polls / period < UInt32.size →
      (∀ count : Nat,
        let ticks := reach start (polls.take count) / period
        ((clock.poll polls).1.take count).sum = ticks ∧
          (clock.poll (polls.take count)).2.last = start + period * ticks) ∧
        ∀ others : List Int, reach start others = reach start polls →
          (clock.poll others).1.sum = (clock.poll polls).1.sum := by
  intro clock period hreach
  have hsmall : ∀ schedule : List Int, reach start schedule = reach start polls →
      ∀ now ∈ schedule, clock.periods start now < UInt32.size :=
    fun schedule heq now hnow =>
      Nat.lt_of_le_of_lt (clock.periods_le_reach start hnow) (heq ▸ hreach)
  refine ⟨fun count => ?_, fun others hothers => ?_⟩
  · have hsum : (clock.poll (polls.take count)).1.sum = reach start (polls.take count) / period :=
      sum_poll_eq_reach fun now hnow => hsmall polls rfl now (List.mem_of_mem_take hnow)
    have hlast := (reported_start rate start).poll (polls.take count)
    rw [Nat.zero_add, Reported, period_poll, hsum] at hlast
    exact ⟨by rw [take_poll, hsum], hlast⟩
  · rw [sum_poll_eq_reach (hsmall others hothers), sum_poll_eq_reach (hsmall polls rfl), hothers]

/-- Sixty ticks a second, polled before the start, twice at one time, and back and forth. -/
theorem total_follows_latest_poll_back_and_forth :
    let clock := Clock.start 60 500
    let polls := [0, 34000500, 17000500, 33999999, 34000500, 1000000500]
    reach 500 polls / 16666666 < UInt32.size ∧
      ((clock.poll polls).1.take 5).sum = 2 ∧
      (clock.poll (polls.take 5)).2.last = 33333832 ∧
      reach 500 [1000000500] = reach 500 polls ∧
      (clock.poll [1000000500]).1.sum = (clock.poll polls).1.sum := by
  intro clock polls
  have hsmall : reach 500 polls / 16666666 < UInt32.size := by decide
  have hothers : reach 500 [1000000500] = reach 500 polls := by decide
  obtain ⟨htaken, hsame⟩ := total_follows_latest_poll 60 500 polls hsmall
  obtain ⟨hsum, hlast⟩ := htaken 5
  exact ⟨hsmall, hsum.trans (by decide), hlast.trans (by decide), hothers, hsame _ hothers⟩

/-- The ticks of a clock that keeps to its rate exactly. -/
def exactTicks (rate elapsed : Nat) : Nat :=
  elapsed * rate / second

/-- The nanoseconds that whole periods leave over of a second. With one period for each tick of a
second, this is also by how much each is too short, where the rate divides the nanosecond. -/
def shortfall (rate : Nat) : Nat :=
  second % rate

/-- How many more ticks have come than on an exact clock. -/
def ticksAhead (rate elapsed : Nat) : Nat :=
  (elapsed / (second / rate) * shortfall rate - elapsed % (second / rate) * rate) ⌈/⌉ second

/-- Polls that do not go back, the last of them so many nanoseconds after the start, with no more
periods until then than fit in the counter. -/
structure PolledUntil (rate : Nat) (start : Int) (elapsed : Nat) (polls : List Int) : Prop where
  sorted : polls.Pairwise (· ≤ ·)
  last_eq : polls.getLast? = some (start + elapsed)
  periods_lt : elapsed / (second / rate) < UInt32.size

theorem elapsed_mul_rate_add (rate elapsed : Nat) :
    elapsed * rate + elapsed / (second / rate) * shortfall rate =
      second * (elapsed / (second / rate)) + elapsed % (second / rate) * rate := by
  have helapsed := Nat.div_add_mod elapsed (second / rate)
  have hsecond := Nat.div_add_mod second rate
  generalize second / rate = period at *
  generalize elapsed / period = ticks at *
  generalize elapsed % period = rest at *
  calc
    elapsed * rate + ticks * shortfall rate =
        (period * ticks + rest) * rate + ticks * shortfall rate := by rw [helapsed]
    _ = (rate * period + shortfall rate) * ticks + rest * rate := by ring
    _ = second * ticks + rest * rate := by rw [shortfall, hsecond]

theorem ticksAhead_eq_zero_iff {rate elapsed : Nat} :
    ticksAhead rate elapsed = 0 ↔
      elapsed / (second / rate) * shortfall rate ≤ elapsed % (second / rate) * rate := by
  rw [ticksAhead, Nat.ceilDiv_eq_add_pred_div]
  simp only [second]
  omega

section

variable {rate : Nat} (hlow : 1 ≤ rate) (hhigh : rate ≤ highestRate)

include hlow hhigh

theorem periodOfRate_eq : periodOfRate rate = second / rate := by
  rw [periodOfRate, Nat.min_eq_left hhigh, Nat.max_eq_right hlow]

theorem div_rate_pos : 0 < second / rate :=
  periodOfRate_eq hlow hhigh ▸ periodOfRate_pos rate

theorem rest_mul_rate_lt (elapsed : Nat) : elapsed % (second / rate) * rate < second := by
  have hrest : elapsed % (second / rate) < second / rate :=
    Nat.mod_lt _ (div_rate_pos hlow hhigh)
  calc
    elapsed % (second / rate) * rate < second / rate * rate :=
      Nat.mul_lt_mul_of_pos_right hrest hlow
    _ ≤ second := Nat.div_mul_le_self second rate

theorem div_eq_exactTicks_add (elapsed : Nat) :
    elapsed / (second / rate) = exactTicks rate elapsed + ticksAhead rate elapsed := by
  have hbalance := elapsed_mul_rate_add rate elapsed
  have hrest := rest_mul_rate_lt hlow hhigh elapsed
  rw [exactTicks, ticksAhead, Nat.ceilDiv_eq_add_pred_div]
  generalize elapsed / (second / rate) = ticks at *
  simp only [second] at *
  omega

variable {start : Int} {elapsed : Nat} {polls : List Int}

theorem PolledUntil.sum_eq (hpolled : PolledUntil rate start elapsed polls) :
    ((Clock.start rate start).poll polls).1.sum = elapsed / (second / rate) := by
  have hperiods : (Clock.start rate start).periods start (start + elapsed) =
      elapsed / (second / rate) := by
    rw [periods, add_sub_cancel_left, Int.toNat_natCast, ← periodOfRate_eq hlow hhigh]
    rfl
  rw [← hperiods]
  exact sum_poll_start hpolled.sorted hpolled.last_eq (hperiods ▸ hpolled.periods_lt)

end

/-- Whatever the schedule of its polls, a clock has reported as many ticks as an exact one, and
those that it is ahead. It agrees with the exact clock as long as the time since its latest tick
makes up for what all its periods together are too short by. So it always agrees only at a rate
that divides the second; at any other one its very first tick comes early. -/
theorem rounded_period_runs_ahead {rate : Nat} (hlow : 1 ≤ rate) (hhigh : rate ≤ highestRate) :
    (∀ (start : Int) (elapsed : Nat) (polls : List Int), PolledUntil rate start elapsed polls →
      let total := ((Clock.start rate start).poll polls).1.sum
      total = exactTicks rate elapsed + ticksAhead rate elapsed ∧
        (total = exactTicks rate elapsed ↔
          total * shortfall rate ≤ elapsed % (second / rate) * rate)) ∧
      ((∀ (start : Int) (elapsed : Nat) (polls : List Int), PolledUntil rate start elapsed polls →
        ((Clock.start rate start).poll polls).1.sum = exactTicks rate elapsed) ↔
          rate ∣ second) := by
  have hperiod := div_rate_pos hlow hhigh
  have hahead {start : Int} {elapsed : Nat} {polls : List Int}
      (hpolled : PolledUntil rate start elapsed polls) :
      ((Clock.start rate start).poll polls).1.sum =
        exactTicks rate elapsed + ticksAhead rate elapsed :=
    (hpolled.sum_eq hlow hhigh).trans (div_eq_exactTicks_add hlow hhigh elapsed)
  refine ⟨fun start elapsed polls hpolled => ⟨hahead hpolled, ?_⟩, ?_, ?_⟩
  · rw [hahead hpolled, Nat.add_eq_left, ticksAhead_eq_zero_iff,
      ← div_eq_exactTicks_add hlow hhigh]
  · intro hexact
    have hfirst : PolledUntil rate 0 (second / rate) [↑(second / rate)] := by
      refine ⟨List.pairwise_singleton _ _, ?_, ?_⟩
      · rw [Int.zero_add]
        rfl
      · rw [Nat.div_self hperiod]
        decide
    have hnone := hexact 0 (second / rate) _ hfirst
    rw [hahead hfirst, Nat.add_eq_left, ticksAhead_eq_zero_iff, Nat.div_self hperiod,
      Nat.mod_self, Nat.one_mul, Nat.zero_mul] at hnone
    exact Nat.dvd_of_mod_eq_zero (Nat.le_zero.mp hnone)
  · intro hdvd start elapsed polls hpolled
    have hnone : ticksAhead rate elapsed = 0 := by
      rw [ticksAhead_eq_zero_iff, shortfall, Nat.mod_eq_zero_of_dvd hdvd, Nat.mul_zero]
      exact Nat.zero_le _
    rw [hahead hpolled, hnone, Nat.add_zero]

/-- Sixty ticks a second agree after one second, where the time since the latest tick just makes
up for all the others, but not always. -/
theorem rounded_period_runs_ahead_but_for_rest :
    let polls := [-5, 16666661, 500000000, 999999995]
    PolledUntil 60 (-5) 1000000000 polls ∧
      ((Clock.start 60 (-5)).poll polls).1.sum = 60 ∧
      ¬ ∀ (start : Int) (elapsed : Nat) (polls : List Int), PolledUntil 60 start elapsed polls →
        ((Clock.start 60 start).poll polls).1.sum = exactTicks 60 elapsed := by
  intro polls
  have hpolled : PolledUntil 60 (-5) 1000000000 polls := ⟨by decide, by decide, by decide⟩
  obtain ⟨hrun, halways⟩ := @rounded_period_runs_ahead 60 (by decide) (by decide)
  refine ⟨hpolled, ?_, fun hexact => absurd (halways.mp hexact) (by decide)⟩
  exact (hrun _ _ _ hpolled).1.trans (by decide)

/-- A clock of sixty ticks a second has reported two too many when 1000000 seconds have passed. -/
theorem sixty_a_second_gains_two_ticks :
    let polls := [1000000000000000]
    (1 ≤ 60 ∧ 60 ≤ highestRate ∧ PolledUntil 60 0 1000000000000000 polls) ∧
      ((Clock.start 60 0).poll polls).1.sum = 60000002 ∧
      exactTicks 60 1000000000000000 = 60000000 := by
  intro polls
  exact ⟨⟨by decide, by decide, by decide, by decide, by decide⟩, by decide, by decide⟩

/-! A clock whose polls may be so far apart that the ticks between them do not fit in the counter.
Each poll answers for the periods since the poll before it, less the whole turns of the counter.
These turns stay lost: they count as time at every later poll, and are cut off again. -/

/-- The periods from each poll to the next, from the periods that have passed at each. -/
def gaps (passed : Nat) : List Nat → List Nat
  | [] => []
  | now :: rest => (now - passed) :: gaps now rest

theorem sum_take_gaps {passed : Nat} {counts : List Nat}
    (hchain : (passed :: counts).IsChain (· ≤ ·)) {index now : Nat}
    (hnow : counts[index]? = some now) :
    passed + ((gaps passed counts).take (index + 1)).sum = now := by
  induction counts generalizing passed index with
  | nil => cases hnow
  | cons first rest ih =>
      obtain ⟨hle, hrest⟩ := List.isChain_cons_cons.mp hchain
      rw [gaps, List.take_succ_cons, List.sum_cons, ← Nat.add_assoc, Nat.add_sub_cancel' hle]
      cases index with
      | zero =>
          obtain rfl : first = now := Option.some.inj hnow
          rfl
      | succ index => exact ih hrest hnow

theorem sum_eq_mod_add_div (counts : List Nat) (modulus : Nat) :
    counts.sum = (counts.map (· % modulus)).sum + modulus * (counts.map (· / modulus)).sum := by
  induction counts with
  | nil => rfl
  | cons count rest ih =>
      have := Nat.mod_add_div count modulus
      simp only [List.map_cons, List.sum_cons, Nat.mul_add]
      omega

theorem sum_take_succ_lt {counts : List Nat} {bound : Nat} (hbound : 0 < bound)
    (hcounts : ∀ count ∈ counts, count < bound) (index : Nat) :
    (counts.take (index + 1)).sum < (counts.take index).sum + bound := by
  rw [List.take_add_one, List.sum_append]
  cases hnext : counts[index]? with
  | none => simpa using hbound
  | some count => simpa using hcounts count (List.mem_of_getElem? hnext)

/-- What has been reported is what had passed by some time, but for whole turns of the counter. -/
structure Trails (clock : Clock) (start : Int) (total passed : Nat) : Prop where
  reported : clock.Reported start total
  le : total ≤ passed
  mod_eq : total % UInt32.size = passed % UInt32.size

namespace Trails

variable {clock : Clock} {start : Int} {total passed : Nat}

theorem ticks_due (htrails : clock.Trails start total passed) {now : Int}
    (hle : passed ≤ clock.periods start now) :
    (clock.due now).1 = (clock.periods start now - passed) % UInt32.size := by
  obtain ⟨hreported, htotal, hmod⟩ := htrails
  rw [hreported.ticks_due now]
  simp only [UInt32.size] at *
  omega

theorem due (htrails : clock.Trails start total passed) {now : Int}
    (hle : passed ≤ clock.periods start now) :
    (clock.due now).2.Trails start (total + (clock.due now).1) (clock.periods start now) := by
  have hticks := htrails.ticks_due hle
  obtain ⟨hreported, htotal, hmod⟩ := htrails
  refine ⟨hreported.due now, ?_, ?_⟩
  · have := Nat.mod_le (clock.periods start now - passed) UInt32.size
    omega
  · simp only [UInt32.size] at *
    omega

theorem poll_eq_gaps (htrails : clock.Trails start total passed) {polls : List Int}
    (hchain : (passed :: polls.map (clock.periods start)).IsChain (· ≤ ·)) :
    (clock.poll polls).1 =
      (gaps passed (polls.map (clock.periods start))).map (· % UInt32.size) := by
  induction polls generalizing clock total passed with
  | nil => rfl
  | cons now rest ih =>
      obtain ⟨hle, hrest⟩ := List.isChain_cons_cons.mp hchain
      rw [poll_cons, ih (htrails.due hle) hrest, htrails.ticks_due hle]
      rfl

end Trails

/-- The turns of the counter that the first polls have cut off. -/
def turnsLost (clock : Clock) (start : Int) (polls : List Int) (count : Nat) : Nat :=
  (((gaps 0 (polls.map (clock.periods start))).take count).map (· / UInt32.size)).sum

theorem turnsLost_mono (clock : Clock) (start : Int) (polls : List Int) {fewer more : Nat}
    (hle : fewer ≤ more) :
    clock.turnsLost start polls fewer ≤ clock.turnsLost start polls more := by
  simp only [turnsLost, List.map_take]
  exact List.monotone_sum_take _ hle

theorem isChain_periods (clock : Clock) (start : Int) {polls : List Int}
    (hsorted : polls.Pairwise (· ≤ ·)) :
    (0 :: polls.map (clock.periods start)).IsChain (· ≤ ·) := by
  have hperiods : (polls.map (clock.periods start)).Pairwise (· ≤ ·) :=
    hsorted.map _ fun _ _ => clock.periods_mono start
  exact (List.pairwise_cons.mpr ⟨fun _ _ => Nat.zero_le _, hperiods⟩).isChain

section Sorted

variable {clock : Clock} {start : Int} (hstart : clock.Reported start 0) {polls : List Int}
  (hsorted : polls.Pairwise (· ≤ ·))

include hstart hsorted

theorem poll_eq_gaps :
    (clock.poll polls).1 = (gaps 0 (polls.map (clock.periods start))).map (· % UInt32.size) :=
  Trails.poll_eq_gaps ⟨hstart, Nat.le_refl 0, rfl⟩ (clock.isChain_periods start hsorted)

variable {index : Nat} {now : Int} (hnow : polls[index]? = some now)

include hnow

theorem periods_eq_total_add :
    clock.periods start now =
      ((clock.poll polls).1.take (index + 1)).sum +
        UInt32.size * clock.turnsLost start polls (index + 1) := by
  have hperiods : (polls.map (clock.periods start))[index]? = some (clock.periods start now) := by
    rw [List.getElem?_map, hnow]
    rfl
  have hsum := sum_take_gaps (clock.isChain_periods start hsorted) hperiods
  rw [Nat.zero_add, sum_eq_mod_add_div _ UInt32.size] at hsum
  rw [poll_eq_gaps hstart hsorted, ← List.map_take, turnsLost, ← hsum]

theorem pending_div_size :
    (now - (clock.poll (polls.take index)).2.last).toNat / clock.period / UInt32.size =
      clock.turnsLost start polls (index + 1) := by
  have hreported := hstart.poll (polls.take index)
  have hpending := hreported.periods_last now
  rw [period_poll, periods, period_poll, ← take_poll, Nat.zero_add] at hpending
  have hanswers : ∀ ticks ∈ (clock.poll polls).1, ticks < UInt32.size := by
    rw [poll_eq_gaps hstart hsorted]
    exact List.forall_mem_map.mpr fun _ _ => Nat.mod_lt _ (by decide)
  have hnext := sum_take_succ_lt (by decide) hanswers index
  have hmono :
      ((clock.poll polls).1.take index).sum ≤ ((clock.poll polls).1.take (index + 1)).sum :=
    List.monotone_sum_take _ (Nat.le_succ index)
  have hperiods := periods_eq_total_add hstart hsorted hnow
  -- The total before the poll lies less than a turn behind the total after it, so the quotient is
  -- the number of turns that are missing from the latter.
  rw [hpending]
  simp only [periods, UInt32.size] at *
  omega

theorem total_eq_periods_iff :
    ((clock.poll polls).1.take (index + 1)).sum = clock.periods start now ↔
      ∀ earlier ≤ index, ∀ seen, polls[earlier]? = some seen →
        (seen - (clock.poll (polls.take earlier)).2.last).toNat / clock.period < UInt32.size := by
  have hperiods := periods_eq_total_add hstart hsorted hnow
  have hsize : 0 < UInt32.size := by decide
  constructor
  · intro htotal earlier hearlier seen hseen
    have hmono := clock.turnsLost_mono start polls (Nat.add_le_add_right hearlier 1)
    rw [← Nat.div_eq_zero_iff_lt hsize, pending_div_size hstart hsorted hseen]
    simp only [UInt32.size] at *
    omega
  · intro hsmall
    have hzero := (Nat.div_eq_zero_iff_lt hsize).mpr (hsmall index (Nat.le_refl index) now hnow)
    rw [pending_div_size hstart hsorted hnow] at hzero
    rw [hperiods, hzero]
    rfl

end Sorted

/-- Polled at times that do not go back, a clock reports after each of them what has come due, but
for whole turns of the counter, and has lost something exactly if a poll had more pending than fits
in the counter. What is lost is never made up for. The clock stands at the end of a period that it
has counted, and each poll answers for the periods since the one before. -/
theorem truncation_loses_whole_turns (rate : Nat) (start : Int) {polls : List Int}
    (hsorted : polls.Pairwise (· ≤ ·)) :
    let clock := Clock.start rate start
    let period := 1000000000 / max 1 (min rate 1000000)
    let elapsed (now : Int) : Nat := (now - start).toNat / period
    let total (count : Nat) : Nat := ((clock.poll polls).1.take count).sum
    let last (count : Nat) : Int := (clock.poll (polls.take count)).2.last
    (∀ (index : Nat) (now : Int), polls[index]? = some now →
      total (index + 1) % UInt32.size = elapsed now % UInt32.size ∧
        total (index + 1) ≤ elapsed now ∧
        (start ≤ now → last (index + 1) ≤ now) ∧
        last index ≤ last (index + 1) ∧
        last (index + 1) = start + period * total (index + 1) ∧
        (total (index + 1) = elapsed now ↔
          ∀ earlier ≤ index, ∀ seen, polls[earlier]? = some seen →
            (seen - last earlier).toNat / period < UInt32.size) ∧
        ∀ earlier ≤ index, ∀ seen, polls[earlier]? = some seen →
          elapsed seen - total (earlier + 1) ≤ elapsed now - total (index + 1)) ∧
      (clock.poll polls).1 = (gaps 0 (polls.map elapsed)).map (· % UInt32.size) := by
  intro clock period elapsed total last
  have hstart : clock.Reported start 0 := reported_start rate start
  have hlast (count : Nat) : last count = start + period * total count := by
    have hreported := hstart.poll (polls.take count)
    rw [Nat.zero_add, ← take_poll, Reported, period_poll] at hreported
    exact hreported
  refine ⟨fun index now hnow => ?_, poll_eq_gaps hstart hsorted⟩
  have hperiods : elapsed now = total (index + 1) +
      UInt32.size * clock.turnsLost start polls (index + 1) :=
    periods_eq_total_add hstart hsorted hnow
  have hle : total (index + 1) ≤ elapsed now := hperiods ▸ Nat.le_add_right _ _
  refine ⟨?_, hle, ?_, ?_, hlast (index + 1), total_eq_periods_iff hstart hsorted hnow, ?_⟩
  · rw [hperiods, Nat.add_mul_mod_self_left]
  · intro hpast
    have hcounted : period * total (index + 1) ≤ (now - start).toNat :=
      Nat.le_trans (Nat.mul_le_mul_left period hle) (Nat.mul_div_le _ _)
    rw [hlast]
    omega
  · have hmono : total index ≤ total (index + 1) :=
      List.monotone_sum_take _ (Nat.le_succ index)
    have hcounted : period * total index ≤ period * total (index + 1) :=
      Nat.mul_le_mul_left period hmono
    rw [hlast, hlast]
    omega
  · intro earlier hearlier seen hseen
    have hseenPeriods : elapsed seen = total (earlier + 1) +
        UInt32.size * clock.turnsLost start polls (earlier + 1) :=
      periods_eq_total_add hstart hsorted hseen
    have hmono := clock.turnsLost_mono start polls (Nat.add_le_add_right hearlier 1)
    rw [hperiods, hseenPeriods, Nat.add_sub_cancel_left, Nat.add_sub_cancel_left]
    exact Nat.mul_le_mul_left _ hmono

/-- A million ticks a second, polled before the start, after two ticks, after two turns of the
counter and three ticks more, and once again. -/
theorem truncation_loses_whole_turns_twice :
    let clock := Clock.start 5000000 100
    let polls := [-50, 2100, 8589934597800, 8589934598800]
    (polls.Pairwise (· ≤ ·) ∧ polls[2]? = some 8589934597800 ∧
      polls[3]? = some 8589934598800 ∧ (100 : Int) ≤ 8589934598800) ∧
      (clock.poll polls).1 = [0, 2, 3, 1] ∧
      ((clock.poll polls).1.take 4).sum % UInt32.size = 8589934598 % UInt32.size ∧
      (clock.poll (polls.take 4)).2.last ≤ 8589934598800 ∧
      (clock.poll (polls.take 4)).2.last = 6100 ∧
      8589934597 - ((clock.poll polls).1.take 3).sum ≤
        8589934598 - ((clock.poll polls).1.take 4).sum := by
  intro clock polls
  have hsorted : polls.Pairwise (· ≤ ·) := by decide
  have hthird : polls[2]? = some 8589934597800 := rfl
  have hfourth : polls[3]? = some 8589934598800 := rfl
  have hpast : (100 : Int) ≤ 8589934598800 := by decide
  obtain ⟨hpolls, hanswers⟩ := truncation_loses_whole_turns 5000000 100 hsorted
  obtain ⟨hmod, _, hbehind, _, hlast, _, hlost⟩ := hpolls 3 8589934598800 hfourth
  exact ⟨⟨hsorted, hthird, hfourth, hpast⟩, hanswers.trans (by decide), hmod.trans (by decide),
    hbehind hpast, hlast.trans (by decide), hlost 2 (by decide) 8589934597800 hthird⟩

end Clock

end Chip8
