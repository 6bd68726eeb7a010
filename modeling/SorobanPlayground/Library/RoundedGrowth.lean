import Mathlib.Algebra.Order.BigOperators.Group.List
import Mathlib.Tactic.Linarith
import Mathlib.Tactic.LinearCombination
import Mathlib.Tactic.Ring

/-! # Growth in whole units

A balance grows by a rate over a duration, rounded down to whole units. Growing it
over several durations in turn reinvests what was earned, but drops a fraction of a
unit each time. The fractions dropped less the yield on what was reinvested are the
*shortfall* of the durations (`RoundedGrowth.shortfall`): growing in turn leaves no
less than growing once over all of them exactly when the shortfall is below one unit
(`RoundedGrowth.grow_sum_le_growAll_iff`).

A saturating balance never exceeds a cap, and earns no more than the cap at once. As
long as balances that reach the cap earn enough, saturation changes nothing about
the comparison (`RoundedGrowth.cappedGrow_sum_le_iff`).
-/

namespace RoundedGrowth

open List Int

variable (rate scale : Int)

/-- A balance after a duration. -/
def grow (balance duration : Int) : Int := balance + balance * rate * duration / scale

/-- A balance after several durations in turn. -/
def growAll (balance : Int) (durations : List Int) : Int :=
  durations.foldl (grow rate scale) balance

/-- The fractions that growing a balance in turn drops, less the yield on what it has
earned beyond a principal, in parts of a unit. -/
def shortfall (principal : Int) (balance : Int) : List Int → Int
  | [] => 0
  | duration :: durations =>
      balance * rate * duration % scale - (balance - principal) * rate * duration +
        shortfall principal (grow rate scale balance duration) durations

/-- The durations between consecutive times. -/
def durationsFrom (start : Nat) : List Nat → List Int
  | [] => []
  | time :: times => ((time - start : Nat) : Int) :: durationsFrom time times

theorem durationsFrom_nonneg (start : Nat) (times : List Nat) :
    ∀ duration ∈ durationsFrom start times, 0 ≤ duration := by
  induction times generalizing start with
  | nil => nofun
  | cons time _ ih => exact forall_mem_cons.mpr ⟨natCast_nonneg _, ih time⟩

theorem sum_durationsFrom {start : Nat} {times : List Nat} {now : Nat}
    (ordered : (start :: (times ++ [now])).Pairwise (· ≤ ·)) :
    (durationsFrom start (times ++ [now])).sum = (now - start : Nat) := by
  induction times generalizing start with
  | nil => simp [durationsFrom]
  | cons time times ih =>
    obtain ⟨first, rest⟩ := pairwise_cons.mp ordered
    have started : start ≤ time := first time mem_cons_self
    have before : time ≤ now := by
      apply (pairwise_cons.mp rest).1
      exact mem_append_right times (mem_singleton_self now)
    rw [cons_append, durationsFrom, sum_cons, ih rest]
    omega

variable {rate scale}

@[simp] theorem growAll_nil (balance : Int) : growAll rate scale balance [] = balance := rfl

@[simp] theorem growAll_cons (balance duration : Int) (durations : List Int) :
    growAll rate scale balance (duration :: durations) =
      growAll rate scale (grow rate scale balance duration) durations := rfl

/-- The shortfall is what growing in turn loses against the exact yield of the principal. -/
theorem scale_mul_growAll (rate scale principal balance : Int) (durations : List Int) :
    scale * (growAll rate scale balance durations - balance) =
      principal * rate * durations.sum - shortfall rate scale principal balance durations := by
  induction durations generalizing balance with
  | nil => simp [shortfall]
  | cons duration _ ih =>
    have rest := ih (grow rate scale balance duration)
    have division := mul_ediv_add_emod (balance * rate * duration) scale
    have grown : grow rate scale balance duration =
        balance + balance * rate * duration / scale := rfl
    rw [growAll_cons, shortfall, sum_cons]
    linear_combination rest + division + scale * grown

/-- Growing in turn leaves no less than growing once exactly when the shortfall is below
one unit. -/
theorem grow_sum_le_growAll_iff (rate : Int) (pos : 0 < scale) (balance : Int)
    (durations : List Int) :
    grow rate scale balance durations.sum ≤ growAll rate scale balance durations ↔
      shortfall rate scale balance balance durations < scale := by
  have exact := scale_mul_growAll rate scale balance balance durations
  set earned := growAll rate scale balance durations - balance with earnedIs
  have turn : growAll rate scale balance durations = balance + earned := by omega
  rw [turn, grow, add_le_add_iff_left, ← lt_add_one_iff, Int.ediv_lt_iff_lt_mul pos]
  constructor
  · intro below
    linarith [add_mul earned 1 scale, mul_comm scale earned]
  · intro below
    linarith [add_mul earned 1 scale, mul_comm scale earned]

/-- Two durations: either the fractions dropped do not make a unit, or the yield on what the
first one earned makes up for it. -/
theorem shortfall_pair_lt_iff (rateNonneg : 0 ≤ rate) (pos : 0 < scale) {balance : Int}
    (nonneg : 0 ≤ balance) {first second : Int} (firstNonneg : 0 ≤ first)
    (secondNonneg : 0 ≤ second) :
    shortfall rate scale balance balance [first, second] < scale ↔
      balance * rate * first % scale + balance * rate * second % scale < scale ∨
        scale ≤ balance * rate * second % scale +
          balance * rate * first / scale * rate * second := by
  set extra := balance * rate * first / scale * rate * second with extraIs
  have extraNonneg : 0 ≤ extra := by positivity
  have expanded : shortfall rate scale balance balance [first, second] =
      balance * rate * first % scale + (balance * rate * second + extra) % scale - extra := by
    have product : (balance + balance * rate * first / scale) * rate * second =
        balance * rate * second + extra := by
      ring
    simp only [shortfall, grow, product, add_sub_cancel_left, sub_self, zero_mul, sub_zero,
      add_zero]
    ring
  have later := emod_nonneg (balance * rate * second) pos.ne'
  have firstBelow := emod_lt_of_pos (balance * rate * first) pos
  have secondBelow := emod_lt_of_pos (balance * rate * second) pos
  have folded : (balance * rate * second + extra) % scale =
      (balance * rate * second % scale + extra) % scale :=
    (emod_add_emod _ _ _).symm
  set carried := balance * rate * second % scale + extra
  by_cases carries : scale ≤ carried
  · have division := mul_ediv_add_emod carried scale
    have one : 1 ≤ carried / scale := (Int.le_ediv_iff_mul_le pos).mpr (by omega)
    have unit := le_mul_of_one_le_right pos.le one
    omega
  · have whole : carried % scale = carried := emod_eq_of_lt (by omega) (by omega)
    omega

variable {principal : Int}

/-- How many durations pass. -/
def passing (durations : List Int) : Int := (durations.filter (0 < ·)).length

variable {duration : Int}

theorem passing_cons_of_pos (durations : List Int) (later : 0 < duration) :
    passing (duration :: durations) = passing durations + 1 := by
  simp [passing, later]

theorem passing_cons_of_eq_zero (durations : List Int) :
    passing (0 :: durations) = passing durations := by
  simp [passing]

/-- A principal that earns a number of whole units at each step reinvests enough to bound
the shortfall: of each duration after `count` others that took `elapsed`. -/
theorem shortfall_le (rateOne : 1 ≤ rate) (pos : 0 < scale) (principalNonneg : 0 ≤ principal)
    {durations : List Int} (nonneg : ∀ duration ∈ durations, 0 ≤ duration)
    {balance : Int} (count elapsed : Int) (counted : 0 ≤ count) (within : count ≤ elapsed)
    (earned : principal + principal * rate / scale * elapsed ≤ balance) :
    2 * shortfall rate scale principal balance durations +
        principal * rate / scale * ((count + passing durations - 1) * (elapsed + durations.sum)) ≤
      2 * passing durations * (scale - 1) + principal * rate / scale * ((count - 1) * elapsed) := by
  set whole := principal * rate / scale with wholeIs
  have wholeNonneg : 0 ≤ whole := ediv_nonneg (by positivity) pos.le
  induction durations generalizing balance count elapsed with
  | nil => simp [shortfall, passing]
  | cons duration durations ih =>
    obtain ⟨durationNonneg, others⟩ := forall_mem_cons.mp nonneg
    rcases durationNonneg.eq_or_lt with rfl | later
    · have rest := ih others count elapsed counted within earned
      simpa [shortfall, grow, passing_cons_of_eq_zero] using rest
    · have fraction := emod_lt_of_pos (balance * rate * duration) pos
      have reinvested : whole * elapsed * duration ≤ (balance - principal) * rate * duration := by
        have elapsedNonneg : 0 ≤ whole * elapsed := mul_nonneg wholeNonneg (by omega)
        apply mul_le_mul_of_nonneg_right _ durationNonneg
        nlinarith
      have grown : principal + whole * (elapsed + duration) ≤ grow rate scale balance duration := by
        have least : whole * duration ≤ balance * rate * duration / scale := by
          rw [Int.le_ediv_iff_mul_le pos]
          have exact : whole * scale ≤ principal * rate := Int.ediv_mul_le _ pos.ne'
          have larger : principal ≤ balance := by
            have elapsedNonneg : 0 ≤ whole * elapsed := mul_nonneg wholeNonneg (by omega)
            omega
          have scaled : principal * rate ≤ balance * rate :=
            mul_le_mul_of_nonneg_right larger (by omega)
          calc whole * duration * scale = whole * scale * duration := by ring
            _ ≤ balance * rate * duration :=
              mul_le_mul_of_nonneg_right (exact.trans scaled) durationNonneg
        unfold grow
        linarith [mul_add whole elapsed duration]
      have rest := ih others (count + 1) (elapsed + duration) (by omega) (by omega) grown
      -- the yield on what earlier durations earned pays for the growth of the bound
      have pays : count * duration + elapsed ≤ 2 * (elapsed * duration) := by nlinarith
      have paid := mul_le_mul_of_nonneg_left pays wholeNonneg
      rw [passing_cons_of_pos durations later, sum_cons, shortfall]
      linarith [mul_assoc whole elapsed duration]

variable {durations : List Int}

/-- Some duration passes when they last at all. -/
theorem passing_pos (lasts : 0 < durations.sum) : 1 ≤ passing durations := by
  by_contra none
  have empty : (durations.filter (0 < ·)).length = 0 := by
    unfold passing at none
    omega
  have still : ∀ duration ∈ durations, duration ≤ 0 := by
    intro duration mem
    by_contra later
    have passed : duration ∈ durations.filter (0 < ·) :=
      mem_filter.mpr ⟨mem, decide_eq_true (not_le.mp later)⟩
    rw [length_eq_zero_iff.mp empty] at passed
    cases passed
  have bound := sum_le_card_nsmul durations 0 still
  rw [smul_zero] at bound
  omega

/-- A principal that earns four units and more in all, in whole units at each step, drops less
than one unit more than it earns on what is reinvested. -/
theorem shortfall_lt_of_fast (rateOne : 1 ≤ rate) (pos : 0 < scale)
    (principalNonneg : 0 ≤ principal) (nonneg : ∀ duration ∈ durations, 0 ≤ duration)
    (fast : 4 * scale ≤ principal * rate / scale * durations.sum) :
    shortfall rate scale principal principal durations < scale := by
  have bound := shortfall_le rateOne pos principalNonneg nonneg 0 0 le_rfl le_rfl
    (by simp : principal + principal * rate / scale * 0 ≤ principal)
  have wholeNonneg : 0 ≤ principal * rate / scale :=
    ediv_nonneg (by positivity) pos.le
  have lasts : 0 < durations.sum := by
    by_contra ended
    have nothing := mul_nonpos_of_nonneg_of_nonpos wholeNonneg (not_lt.mp ended)
    omega
  have some := passing_pos lasts
  nlinarith

variable (rate scale) (cap : Int)

/-- A balance after a duration, when neither the product nor the balance exceeds a cap. -/
def cappedGrow (balance duration : Int) : Int :=
  min cap (balance + min cap (balance * rate * duration) / scale)

/-- A capped balance after several durations in turn. -/
def cappedGrowAll (balance : Int) (durations : List Int) : Int :=
  durations.foldl (cappedGrow rate scale cap) balance

variable {rate scale cap} {balance : Int}

@[simp] theorem cappedGrowAll_nil (balance : Int) :
    cappedGrowAll rate scale cap balance [] = balance := rfl

@[simp] theorem cappedGrowAll_cons (balance duration : Int) (durations : List Int) :
    cappedGrowAll rate scale cap balance (duration :: durations) =
      cappedGrowAll rate scale cap (cappedGrow rate scale cap balance duration) durations := rfl

theorem le_grow (rateNonneg : 0 ≤ rate) (pos : 0 < scale) (nonneg : 0 ≤ balance)
    (durationNonneg : 0 ≤ duration) : balance ≤ grow rate scale balance duration := by
  have earned : 0 ≤ balance * rate * duration / scale :=
    ediv_nonneg (by positivity) pos.le
  unfold grow
  omega

theorem le_growAll (rateNonneg : 0 ≤ rate) (pos : 0 < scale) (nonneg : 0 ≤ balance)
    (durationsNonneg : ∀ duration ∈ durations, 0 ≤ duration) :
    balance ≤ growAll rate scale balance durations := by
  induction durations generalizing balance with
  | nil => exact le_rfl
  | cons _ _ ih =>
    obtain ⟨first, others⟩ := forall_mem_cons.mp durationsNonneg
    have grown := le_grow rateNonneg pos nonneg first
    exact grown.trans (ih (nonneg.trans grown) others)

theorem le_cappedGrow (rateNonneg : 0 ≤ rate) (pos : 0 < scale) (nonneg : 0 ≤ balance)
    (below : balance ≤ cap) (durationNonneg : 0 ≤ duration) :
    balance ≤ cappedGrow rate scale cap balance duration := by
  have earned : 0 ≤ min cap (balance * rate * duration) / scale :=
    ediv_nonneg (le_min (nonneg.trans below) (by positivity)) pos.le
  exact le_min below (by omega)

theorem cappedGrow_le (balance duration : Int) : cappedGrow rate scale cap balance duration ≤ cap :=
  min_le_left _ _

theorem le_cappedGrowAll (rateNonneg : 0 ≤ rate) (pos : 0 < scale) (nonneg : 0 ≤ balance)
    (below : balance ≤ cap) (durationsNonneg : ∀ duration ∈ durations, 0 ≤ duration) :
    balance ≤ cappedGrowAll rate scale cap balance durations := by
  induction durations generalizing balance with
  | nil => exact le_rfl
  | cons _ _ ih =>
    obtain ⟨first, others⟩ := forall_mem_cons.mp durationsNonneg
    have grown := le_cappedGrow rateNonneg pos nonneg below first
    exact grown.trans (ih (nonneg.trans grown) (cappedGrow_le _ _) others)

/-- Growing in turn either never saturates, or leaves what a saturated product does. -/
theorem cappedGrowAll_cases (rateNonneg : 0 ≤ rate) (pos : 0 < scale)
    (nonneg : 0 ≤ balance) (below : balance ≤ cap) {durations : List Int}
    (durationsNonneg : ∀ duration ∈ durations, 0 ≤ duration) :
    cappedGrowAll rate scale cap balance durations = growAll rate scale balance durations ∨
      min cap (balance + cap / scale) ≤ cappedGrowAll rate scale cap balance durations ∧
        (balance + cap / scale ≤ growAll rate scale balance durations ∨
          cap < growAll rate scale balance durations) := by
  induction durations generalizing balance with
  | nil => exact .inl rfl
  | cons duration _ ih =>
    obtain ⟨first, others⟩ := forall_mem_cons.mp durationsNonneg
    have grown := le_grow rateNonneg pos nonneg first
    have later := le_growAll rateNonneg pos (nonneg.trans grown) others
    have cappedGrown := le_cappedGrow rateNonneg pos nonneg below first
    have cappedLater := le_cappedGrowAll rateNonneg pos (nonneg.trans cappedGrown)
      (cappedGrow_le balance duration) others
    rw [cappedGrowAll_cons, growAll_cons]
    by_cases product : cap < balance * rate * duration
    · -- the product saturates, whatever follows
      refine .inr ⟨?_, .inl ?_⟩
      · refine le_trans ?_ cappedLater
        rw [cappedGrow, min_eq_left product.le]
      · refine le_trans ?_ later
        have more := Int.ediv_le_ediv pos product.le
        unfold grow
        omega
    · by_cases sum : cap < grow rate scale balance duration
      · -- the balance saturates
        have saturated : cappedGrow rate scale cap balance duration = cap := by
          rw [cappedGrow, min_eq_right (not_lt.mp product)]
          exact min_eq_left sum.le
        rw [saturated] at cappedLater ⊢
        exact .inr ⟨(min_le_left _ _).trans cappedLater, .inr (sum.trans_le later)⟩
      · have same : cappedGrow rate scale cap balance duration =
            grow rate scale balance duration := by
          rw [cappedGrow, min_eq_right (not_lt.mp product)]
          exact min_eq_right (not_lt.mp sum)
        rw [same]
        rcases ih (nonneg.trans grown) (not_lt.mp sum) others with equal | ⟨floor, rest⟩
        · exact .inl equal
        · refine .inr ⟨(min_le_min le_rfl (by omega)).trans floor, rest.imp_left ?_⟩
          exact (by omega : balance + cap / scale ≤ _).trans

/-- Durations of one unit of time in all are a single one. -/
theorem growAll_of_sum_le_one (durationsNonneg : ∀ duration ∈ durations, 0 ≤ duration)
    (short : durations.sum ≤ 1) :
    growAll rate scale balance durations = grow rate scale balance durations.sum := by
  have idle (other : Int) : grow rate scale other 0 = other := by simp [grow]
  induction durations generalizing balance with
  | nil => exact (idle balance).symm
  | cons duration durations ih =>
    obtain ⟨_, others⟩ := forall_mem_cons.mp durationsNonneg
    have rest : 0 ≤ durations.sum := sum_nonneg others
    rw [sum_cons] at short ⊢
    rw [growAll_cons, ih others (by omega)]
    by_cases still : durations.sum = 0
    · rw [still, add_zero, idle]
    · have none : duration = 0 := by omega
      rw [none, idle, zero_add]

/-- Saturation changes nothing about when growing in turn leaves no less than growing once,
when balances that reach the cap earn enough. -/
theorem cappedGrow_sum_le_iff (rateNonneg : 0 ≤ rate) (fine : 2 ≤ scale)
    (nonneg : 0 ≤ balance) (below : balance ≤ cap) {durations : List Int}
    (durationsNonneg : ∀ duration ∈ durations, 0 ≤ duration)
    (enough : cap < balance * rate * durations.sum →
      4 * scale ≤ balance * rate / scale * durations.sum) :
    cappedGrow rate scale cap balance durations.sum ≤
        cappedGrowAll rate scale cap balance durations ↔
      shortfall rate scale balance balance durations < scale := by
  have pos : 0 < scale := by omega
  have once := grow_sum_le_growAll_iff rate pos balance durations
  have cases := cappedGrowAll_cases rateNonneg pos nonneg below durationsNonneg
  by_cases product : cap < balance * rate * durations.sum
  · -- the product saturates: both sides hold
    have rateOne : 1 ≤ rate := by
      by_contra none
      have zero : rate = 0 := by omega
      rw [zero] at product
      omega
    have fast := shortfall_lt_of_fast rateOne pos nonneg durationsNonneg (enough product)
    refine iff_of_true ?_ fast
    have more := Int.ediv_le_ediv pos product.le
    rw [cappedGrow, min_eq_left product.le]
    rcases cases with same | ⟨floor, -⟩
    · rw [same]
      refine (min_le_right _ _).trans (le_trans ?_ (once.mpr fast))
      unfold grow
      omega
    · exact floor
  · rw [cappedGrow, min_eq_right (not_lt.mp product)]
    change min cap (grow rate scale balance durations.sum) ≤ _ ↔ _
    have less := Int.ediv_le_ediv pos (not_lt.mp product)
    by_cases sum : cap < grow rate scale balance durations.sum
    · -- the balance saturates, so that only one unit of time passes
      have short : durations.sum ≤ 1 := by
        by_contra long
        have rateOne : 1 ≤ rate := by
          by_contra none
          have zero : rate = 0 := by omega
          rw [grow, zero, mul_zero, zero_mul, zero_ediv, add_zero] at sum
          omega
        have rated : balance ≤ balance * rate := le_mul_of_one_le_right nonneg rateOne
        have twice : 2 * balance ≤ balance * rate * durations.sum :=
          calc 2 * balance ≤ balance * rate * 2 := by omega
            _ ≤ balance * rate * durations.sum :=
              mul_le_mul_of_nonneg_left (by omega) (nonneg.trans rated)
        have yield : 2 * (balance * rate * durations.sum / scale) ≤
            balance * rate * durations.sum := by
          have whole := Int.ediv_mul_le (balance * rate * durations.sum) pos.ne'
          nlinarith
        unfold grow at sum
        omega
      have turn : growAll rate scale balance durations = grow rate scale balance durations.sum :=
        growAll_of_sum_le_one durationsNonneg short
      refine iff_of_true ?_ (once.mp turn.ge)
      rcases cases with same | ⟨floor, -⟩
      · rw [same, turn]
        exact min_le_right _ _
      · unfold grow
        omega
    · rw [min_eq_right (not_lt.mp sum), ← once]
      rcases cases with same | ⟨floor, rest⟩
      · rw [same]
      · refine iff_of_true (le_trans (le_min (not_lt.mp sum) ?_) floor) ?_
        · unfold grow
          omega
        · rcases rest with more | more
          · unfold grow
            omega
          · exact (not_lt.mp sum).trans more.le

end RoundedGrowth
