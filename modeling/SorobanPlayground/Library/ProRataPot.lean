import Mathlib.Tactic.Linarith

/-! # A pot shared pro rata

A pot is divided among its shares. A number of shares is worth its part of the pot,
rounded down; the last shares are worth all that is left. Burning shares for their
worth never lowers what a share is worth (`ProRataPot.undiluted_burn`), compared
without division, so that nobody loses by the order in which others burn theirs
(`ProRataPot.worth_mono`).
-/

/-- A pot and the number of its shares. -/
structure ProRataPot where
  amount : Int
  shares : Int

namespace ProRataPot

variable {pot later last : ProRataPot} {count : Int}

/-- What a number of shares is worth. -/
def worth (pot : ProRataPot) (count : Int) : Int :=
  if count = pot.shares then pot.amount else count * pot.amount / pot.shares

/-- The pot after a number of shares has been paid its worth. -/
def burn (pot : ProRataPot) (count : Int) : ProRataPot where
  amount := pot.amount - pot.worth count
  shares := pot.shares - count

/-- A share of the later pot is worth no less. -/
def Undiluted (pot later : ProRataPot) : Prop :=
  pot.amount * later.shares ≤ later.amount * pot.shares

theorem Undiluted.refl (pot : ProRataPot) : pot.Undiluted pot := le_rfl

theorem Undiluted.trans (shares : 0 < later.shares) (start : 0 ≤ pot.shares)
    (finish : 0 ≤ last.shares) (first : pot.Undiluted later) (second : later.Undiluted last) :
    pot.Undiluted last := by
  have scaledFirst := mul_le_mul_of_nonneg_right first finish
  have scaledSecond := mul_le_mul_of_nonneg_right second start
  refine le_of_mul_le_mul_right ?_ shares
  calc pot.amount * last.shares * later.shares
      = pot.amount * later.shares * last.shares := mul_right_comm _ _ _
    _ ≤ later.amount * pot.shares * last.shares := scaledFirst
    _ = later.amount * last.shares * pot.shares := mul_right_comm _ _ _
    _ ≤ last.amount * later.shares * pot.shares := scaledSecond
    _ = last.amount * pot.shares * later.shares := mul_right_comm _ _ _

/-- A number of shares is worth no more than its exact part. -/
theorem worth_mul_le (shares : 0 < pot.shares) (count : Int) :
    pot.worth count * pot.shares ≤ count * pot.amount := by
  unfold worth
  split
  · next all => rw [all, mul_comm]
  · exact Int.ediv_mul_le _ shares.ne'

/-- Less than all shares are worth less than the pot. -/
theorem worth_lt (amount : 0 < pot.amount) (shares : 0 < pot.shares) (part : count < pot.shares) :
    pot.worth count < pot.amount := by
  have below := (worth_mul_le shares count).trans_lt
    ((mul_lt_mul_of_pos_right part amount).trans_eq (mul_comm _ _))
  exact lt_of_mul_lt_mul_right below shares.le

theorem worth_le (amount : 0 < pot.amount) (shares : 0 < pot.shares) (part : count ≤ pot.shares) :
    pot.worth count ≤ pot.amount := by
  rcases part.eq_or_lt with all | less
  · exact (if_pos all).le
  · exact (worth_lt amount shares less).le

/-- Burning shares for their worth does not dilute the rest. -/
theorem undiluted_burn (shares : 0 < pot.shares) (count : Int) :
    pot.Undiluted (pot.burn count) := by
  have rounded := worth_mul_le shares count
  change pot.amount * (pot.shares - count) ≤ (pot.amount - pot.worth count) * pot.shares
  linarith [mul_comm count pot.amount]

/-- A number of shares is worth no less in a pot that is not diluted. -/
theorem worth_mono (undiluted : pot.Undiluted later) (shares : 0 < pot.shares)
    (laterShares : 0 < later.shares) (countNonneg : 0 ≤ count) :
    pot.worth count ≤ later.worth count := by
  have scaled : pot.worth count * later.shares * pot.shares ≤
      count * later.amount * pot.shares := by
    have rounded := mul_le_mul_of_nonneg_right (worth_mul_le shares count) laterShares.le
    have better := mul_le_mul_of_nonneg_left undiluted countNonneg
    linarith [mul_right_comm (pot.worth count) later.shares pot.shares,
      mul_assoc count pot.amount later.shares, mul_assoc count later.amount pot.shares]
  have exact := le_of_mul_le_mul_right scaled shares
  by_cases all : count = later.shares
  · rw [all, mul_comm later.shares] at exact
    rw [all]
    rw [show later.worth later.shares = later.amount from if_pos rfl]
    exact le_of_mul_le_mul_right exact laterShares
  · rw [show later.worth count = count * later.amount / later.shares from if_neg all]
    rwa [Int.le_ediv_iff_mul_le laterShares]

end ProRataPot
