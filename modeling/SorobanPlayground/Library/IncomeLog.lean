import Mathlib.Algebra.BigOperators.Ring.Finset
import Mathlib.Algebra.Order.BigOperators.Group.Finset
import Mathlib.Tactic.Linarith
import Mathlib.Tactic.Ring

/-! # Income shared among holders

Income is deposited for the holders of a fixed number of shares, and they claim it. A
log of deposits and claims, newest first, says what a holder has earned, which is its
part of every deposit by the shares that it held then, and what it was paid. If nobody
is paid more than it earned, nothing is paid that was not deposited
(`IncomeLog.totalPaid_le_deposited`).
-/

/-- A deposit, with the shares that everybody held, or a claim. -/
inductive IncomeLog.Entry (Holder : Type*) where
  | deposit (amount : Int) (shares : Holder → Int)
  | claim (holder : Holder) (amount : Int)

/-- Deposits and claims, newest first. -/
abbrev IncomeLog (Holder : Type*) := List (IncomeLog.Entry Holder)

namespace IncomeLog

variable {Holder : Type*}

/-- The parts of the deposits that a holder's shares have earned, times the number of all
shares. -/
def earned (holder : Holder) : IncomeLog Holder → Int
  | [] => 0
  | .deposit amount shares :: log => amount * shares holder + earned holder log
  | .claim _ _ :: log => earned holder log

def deposited : IncomeLog Holder → Int
  | [] => 0
  | .deposit amount _ :: log => amount + deposited log
  | .claim _ _ :: log => deposited log

def totalPaid : IncomeLog Holder → Int
  | [] => 0
  | .deposit _ _ :: log => totalPaid log
  | .claim _ amount :: log => amount + totalPaid log

/-- What a holder was paid. -/
def paid [DecidableEq Holder] (holder : Holder) : IncomeLog Holder → Int
  | [] => 0
  | .deposit _ _ :: log => paid holder log
  | .claim other amount :: log => (if other = holder then amount else 0) + paid holder log

/-- The holder has claimed since the last deposit. -/
def ClaimedSince (holder : Holder) : IncomeLog Holder → Prop
  | [] => False
  | .deposit _ _ :: _ => False
  | .claim other _ :: log => other = holder ∨ ClaimedSince holder log

/-- Nobody was paid twice between two deposits. -/
def OncePerDeposit : IncomeLog Holder → Prop
  | [] => True
  | .deposit _ _ :: log => OncePerDeposit log
  | .claim holder _ :: log => ¬ ClaimedSince holder log ∧ OncePerDeposit log

/-- No deposit and no number of shares is negative, and at every deposit all holders together held
no more shares than there are. -/
def Shared (total : Int) : IncomeLog Holder → Prop
  | [] => True
  | .deposit amount shares :: log =>
      0 ≤ amount ∧ (∀ holder, 0 ≤ shares holder) ∧
        (∀ holders : Finset Holder, ∑ holder ∈ holders, shares holder ≤ total) ∧ Shared total log
  | .claim _ _ :: log => Shared total log

/-- Nobody was paid more than its part of the deposits. -/
def Within [DecidableEq Holder] (total : Int) (log : IncomeLog Holder) : Prop :=
  ∀ holder, paid holder log * total ≤ earned holder log

variable {total : Int} {log : IncomeLog Holder}

/-- All holders together earn no more than the deposits. -/
theorem sum_earned_le (shared : log.Shared total) (holders : Finset Holder) :
    ∑ holder ∈ holders, earned holder log ≤ deposited log * total := by
  induction log with
  | nil => simp [earned, deposited]
  | cons entry _ ih =>
    cases entry with
    | deposit amount shares =>
      obtain ⟨nonneg, -, within, rest⟩ := shared
      have part : amount * ∑ holder ∈ holders, shares holder ≤ amount * total :=
        mul_le_mul_of_nonneg_left (within holders) nonneg
      have others := ih rest
      simp only [earned, deposited, Finset.sum_add_distrib, ← Finset.mul_sum, add_mul]
      exact add_le_add part others
    | claim => exact ih shared

/-- Payments add up over the holders that have claimed. -/
theorem totalPaid_eq_sum [DecidableEq Holder] {holders : Finset Holder}
    (all : ∀ holder amount, .claim holder amount ∈ log → holder ∈ holders) :
    totalPaid log = ∑ holder ∈ holders, paid holder log := by
  induction log with
  | nil => simp [totalPaid, paid]
  | cons entry _ ih =>
    have rest := ih fun holder amount mem => all holder amount (List.mem_cons_of_mem _ mem)
    cases entry with
    | deposit => exact rest
    | claim other amount =>
      have listed : other ∈ holders := all other amount List.mem_cons_self
      simp only [totalPaid, paid, Finset.sum_add_distrib, Finset.sum_ite_eq, listed, ↓reduceIte,
        rest]

theorem exists_claimants (log : IncomeLog Holder) :
    ∃ holders : Finset Holder, ∀ holder amount, .claim holder amount ∈ log → holder ∈ holders := by
  classical
  induction log with
  | nil => exact ⟨∅, nofun⟩
  | cons entry _ ih =>
    obtain ⟨holders, all⟩ := ih
    cases entry with
    | deposit =>
      refine ⟨holders, fun holder amount mem => ?_⟩
      rcases List.mem_cons.mp mem with equal | mem
      · cases equal
      · exact all holder amount mem
    | claim other =>
      refine ⟨insert other holders, fun holder amount mem => ?_⟩
      rcases List.mem_cons.mp mem with equal | mem
      · cases equal
        exact Finset.mem_insert_self _ _
      · exact Finset.mem_insert_of_mem (all holder amount mem)

/-- Nothing is paid that was not deposited. -/
theorem totalPaid_le_deposited [DecidableEq Holder] (pos : 0 < total) (shared : log.Shared total)
    (within : log.Within total) : totalPaid log ≤ deposited log := by
  obtain ⟨holders, all⟩ := exists_claimants log
  refine le_of_mul_le_mul_right ?_ pos
  calc totalPaid log * total
      = ∑ holder ∈ holders, paid holder log * total := by
        rw [totalPaid_eq_sum all, Finset.sum_mul]
    _ ≤ ∑ holder ∈ holders, earned holder log := Finset.sum_le_sum fun holder _ => within holder
    _ ≤ deposited log * total := sum_earned_le shared holders

end IncomeLog
