import SorobanPlayground.LoanSyndication.Contract

/-! # What the lenders are entitled to

The reduced quotients of the contract are the exact quotients rounded down. By them a
tranche is due its principal with the yield, a settlement allocates to the senior
tranche first, and a position takes the part of its principal.
-/

namespace SorobanPlayground.LoanSyndication

variable {Address : Type} {left right denominator value : Int}

theorem gcd_eq (leftNonneg : 0 ≤ left) (rightNonneg : 0 ≤ right) :
    gcd left right = Int.gcd left right :=
  Euclid.rounds_eq_gcd leftNonneg rightNonneg le_rfl

theorem mulDivFloor_eq_ok (eq : mulDivFloor left right denominator = .ok value) :
    value = left * right / denominator := by
  simp only [mulDivFloor, call_ok, arith_ok, not_or, not_lt, not_le] at eq
  obtain ⟨⟨leftNonneg, rightNonneg, pos⟩, -, -, -, -, -, -, -, -, -, -, -, rfl⟩ := eq
  rw [gcd_eq leftNonneg pos.le, gcd_eq rightNonneg (Euclid.rest_pos left pos).le]
  exact Euclid.reduced_quotient leftNonneg rightNonneg pos

/-- A principal with its yield for the whole term. -/
def due (principal : Int) (yieldBps : Nat) : Int :=
  principal + principal * yieldBps / bpsDenominator

theorem trancheDue_eq_ok {principal value : Int} {yieldBps : Nat}
    (eq : trancheDue principal yieldBps = .ok value) : value = due principal yieldBps := by
  simp only [trancheDue, bind_eq_ok, arith_ok] at eq
  obtain ⟨_, eq, -, rfl⟩ := eq
  rw [mulDivFloor_eq_ok eq]
  rfl

theorem due_nonneg {principal : Int} (nonneg : 0 ≤ principal) (yieldBps : Nat) :
    0 ≤ due principal yieldBps := by
  have interest : 0 ≤ principal * yieldBps / bpsDenominator :=
    Int.ediv_nonneg (mul_nonneg nonneg (Int.natCast_nonneg yieldBps)) (by decide)
  exact add_nonneg nonneg interest

variable (loan : Loan Address)

def Loan.funded (tranche : Tranche) : Int := (trancheFunding loan tranche).1

def Loan.target (tranche : Tranche) : Int := (trancheFunding loan tranche).2

def Loan.seniorDue : Int := due loan.seniorTarget loan.seniorYieldBps

def Loan.juniorDue : Int := due loan.juniorTarget loan.juniorYieldBps

/-- What the senior lenders leave of the repayments. -/
def Loan.excess : Int := max (loan.repaid - loan.seniorDue) 0

/-- What a settlement gives to a tranche. -/
def Loan.allocation : Tranche → Int
  | .senior => min loan.repaid loan.seniorDue
  | .junior => min loan.excess loan.juniorDue

/-- A position's part of the allocation of its tranche. -/
def Loan.share (position : TranchePosition Address) : Int :=
  loan.allocation position.tranche * position.principal / loan.funded position.tranche

variable {loan}

theorem residualOf_eq_ok {repaid seniorDue residual : Int}
    (eq : residualOf repaid seniorDue = .ok residual) : residual = max (repaid - seniorDue) 0 := by
  unfold residualOf at eq
  split at eq
  · next more =>
    obtain ⟨-, rfl⟩ := checkedSub_eq_ok.mp eq
    exact (max_eq_left (sub_nonneg.mpr more.le)).symm
  · next less =>
    cases eq
    exact (max_eq_right (sub_nonpos.mpr (not_lt.mp less))).symm

theorem trancheAllocation_eq_ok {tranche : Tranche} {value : Int}
    (eq : trancheAllocation loan tranche = .ok value) : value = loan.allocation tranche := by
  obtain ⟨seniorDue, seniorComputed, eq⟩ := bind_eq_ok.mp eq
  obtain rfl : seniorDue = loan.seniorDue := trancheDue_eq_ok seniorComputed
  cases tranche with
  | senior => exact (pure_eq_ok.mp eq).symm
  | junior =>
    simp only [call_ok] at eq
    obtain ⟨residual, residualComputed, juniorDue, juniorComputed, rfl⟩ := eq
    obtain rfl : residual = loan.excess := residualOf_eq_ok residualComputed
    obtain rfl : juniorDue = loan.juniorDue := trancheDue_eq_ok juniorComputed
    rfl

theorem positionClaim_eq_ok {position : TranchePosition Address} {amount : Int}
    (eq : positionClaim loan position = .ok amount) (pos : 0 < amount) :
    amount = loan.share position - position.claimed := by
  unfold positionClaim at eq
  split_ifs at eq
  · cases eq
    exact absurd pos (lt_irrefl 0)
  · cases eq
    exact absurd pos (lt_irrefl 0)
  · simp only [bind_eq_ok, arith_ok] at eq
    obtain ⟨_, allocated, _, entitled, -, rfl⟩ := eq
    rw [mulDivFloor_eq_ok entitled, trancheAllocation_eq_ok allocated]
    rfl

theorem Loan.allocation_nonneg (repaid : 0 ≤ loan.repaid) (senior : 0 ≤ loan.seniorTarget)
    (junior : 0 ≤ loan.juniorTarget) (tranche : Tranche) : 0 ≤ loan.allocation tranche := by
  cases tranche with
  | senior => exact le_min repaid (due_nonneg senior _)
  | junior => exact le_min (le_max_right _ _) (due_nonneg junior _)

theorem Loan.allocation_le : loan.allocation .senior + loan.allocation .junior ≤ loan.repaid := by
  have junior : loan.allocation .junior ≤ loan.excess := min_le_left _ _
  have split : min loan.repaid loan.seniorDue + max (loan.repaid - loan.seniorDue) 0 =
      loan.repaid := by omega
  exact (add_le_add_right junior _).trans split.le

end SorobanPlayground.LoanSyndication
