import Mathlib.Tactic.Linarith
import SorobanPlayground.Host.Outcome

/-! # Machine integers of the contracts

Signed 128-bit values are integers with an explicit range, unsigned 32- and
64-bit values are natural numbers with an explicit bound. Each checked operation
names the failure it raises: an error of the contract for `checked_add(..)
.ok_or(..)?`, a trap for the plain operators, which are compiled with
`overflow-checks = true`. Rust's `/` and `%` truncate toward zero.
-/

namespace SorobanPlayground

/-- The largest `i128`. -/
def i128Max : Int := 170141183460469231731687303715884105727

/-- The smallest `i128`. -/
def i128Min : Int := -170141183460469231731687303715884105728

/-- The largest `u32`. -/
def u32Max : Nat := 4294967295

/-- The largest `u64`. -/
def u64Max : Nat := 18446744073709551615

/-- The largest `u128`. -/
def u128Max : Nat := 340282366920938463463374607431768211455

/-- Being representable as an `i128`. -/
def InI128 (value : Int) : Prop := i128Min ≤ value ∧ value ≤ i128Max

instance (value : Int) : Decidable (InI128 value) :=
  inferInstanceAs (Decidable (i128Min ≤ value ∧ value ≤ i128Max))

variable {ε : Type}

/-- A value computed in `i128`, or the failure when it overflows. -/
def inI128 (failure : Failure ε) (value : Int) : Outcome ε Int :=
  if InI128 value then .ok value else .error failure

/-- `left + right` in `i128`. -/
def checkedAdd (failure : Failure ε) (left right : Int) : Outcome ε Int :=
  inI128 failure (left + right)

/-- `left - right` in `i128`. -/
def checkedSub (failure : Failure ε) (left right : Int) : Outcome ε Int :=
  inI128 failure (left - right)

/-- `left * right` in `i128`. -/
def checkedMul (failure : Failure ε) (left right : Int) : Outcome ε Int :=
  inI128 failure (left * right)

/-- `left / right` in `i128`, truncating toward zero; fails on a zero divisor. -/
def checkedDiv (failure : Failure ε) (left right : Int) : Outcome ε Int :=
  if right = 0 then .error failure else inI128 failure (left.tdiv right)

/-- `left.checked_div(right)` as the option that the source handles itself. -/
def optionDiv (left right : Int) : Option Int :=
  if right ≠ 0 ∧ InI128 (left.tdiv right) then some (left.tdiv right) else none

/-- A value computed in an unsigned type with the given maximum. -/
def inUnsigned (maximum : Nat) (failure : Failure ε) (value : Nat) : Outcome ε Nat :=
  if value ≤ maximum then .ok value else .error failure

/-- `left - right` in an unsigned type. -/
def checkedSubUnsigned (failure : Failure ε) (left right : Nat) : Outcome ε Nat :=
  if right ≤ left then .ok (left - right) else .error failure

/-- The closest `i128` to a value, as the saturating operations return it. -/
def saturateI128 (value : Int) : Int := max i128Min (min i128Max value)

/-- The largest `i64`. -/
def i64Max : Int := 9223372036854775807

/-- The smallest `i64`. -/
def i64Min : Int := -9223372036854775808

/-- Being representable as an `i64`. -/
def InI64 (value : Int) : Prop := i64Min ≤ value ∧ value ≤ i64Max

instance (value : Int) : Decidable (InI64 value) :=
  inferInstanceAs (Decidable (i64Min ≤ value ∧ value ≤ i64Max))

/-- A value computed in `i64`, or the failure when it overflows. -/
def inI64 (failure : Failure ε) (value : Int) : Outcome ε Int :=
  if InI64 value then .ok value else .error failure

/-- The closest `i64` to a value, as the saturating operations return it. -/
def saturateI64 (value : Int) : Int := max i64Min (min i64Max value)

/-- `value as i64` of an `i128`: the low 64 bits, signed. -/
def castI64 (value : Int) : Int := value.bmod 18446744073709551616

/-- `value as u32` of an `i128`: the low 32 bits. -/
def castU32 (value : Int) : Nat := (value % 4294967296).toNat

/-- `value as u128` of an `i128`: the low 128 bits. -/
def castU128 (value : Int) : Nat := (value % 340282366920938463463374607431768211456).toNat

variable {failure : Failure ε} {left right value result : Int}

@[simp] theorem inI128_eq_ok :
    inI128 failure value = .ok result ↔ InI128 value ∧ value = result := by
  unfold inI128
  split <;> simp [*]

@[simp] theorem checkedAdd_eq_ok :
    checkedAdd failure left right = .ok result ↔ InI128 (left + right) ∧ left + right = result :=
  inI128_eq_ok

@[simp] theorem checkedSub_eq_ok :
    checkedSub failure left right = .ok result ↔ InI128 (left - right) ∧ left - right = result :=
  inI128_eq_ok

@[simp] theorem checkedMul_eq_ok :
    checkedMul failure left right = .ok result ↔ InI128 (left * right) ∧ left * right = result :=
  inI128_eq_ok

@[simp] theorem checkedDiv_eq_ok :
    checkedDiv failure left right = .ok result ↔
      right ≠ 0 ∧ InI128 (left.tdiv right) ∧ left.tdiv right = result := by
  unfold checkedDiv
  split <;> simp [*]

@[simp] theorem inI64_eq_ok : inI64 failure value = .ok result ↔ InI64 value ∧ value = result := by
  unfold inI64
  split <;> simp [*]

@[simp] theorem inUnsigned_eq_ok {maximum value result : Nat} :
    inUnsigned maximum failure value = .ok result ↔ value ≤ maximum ∧ value = result := by
  unfold inUnsigned
  split <;> simp [*]

@[simp] theorem checkedSubUnsigned_eq_ok {left right result : Nat} :
    checkedSubUnsigned failure left right = .ok result ↔ right ≤ left ∧ left - right = result := by
  unfold checkedSubUnsigned
  split <;> simp [*]

/-- A computation in range yields its value, with which a sequence goes on. -/
theorem arith_ok :
    (∀ {ε : Type} {failure : Failure ε} {left right result : Int},
      checkedAdd failure left right = .ok result ↔ InI128 (left + right) ∧ left + right = result) ∧
    (∀ {ε : Type} {failure : Failure ε} {left right result : Int},
      checkedSub failure left right = .ok result ↔ InI128 (left - right) ∧ left - right = result) ∧
    (∀ {ε : Type} {failure : Failure ε} {left right result : Int},
      checkedMul failure left right = .ok result ↔ InI128 (left * right) ∧ left * right = result) ∧
    (∀ {ε : Type} {failure : Failure ε} {left right result : Int},
      checkedDiv failure left right = .ok result ↔
        right ≠ 0 ∧ InI128 (left.tdiv right) ∧ left.tdiv right = result) ∧
    (∀ {ε : Type} {failure : Failure ε} {maximum value result : Nat},
      inUnsigned maximum failure value = .ok result ↔ value ≤ maximum ∧ value = result) ∧
    (∀ {α : Type} {fits : Prop} {computed : α} {holds : α → Prop},
      (∃ value, (fits ∧ computed = value) ∧ holds value) ↔ fits ∧ holds computed) ∧
    ∀ {α : Type} {nonzero fits : Prop} {computed : α} {holds : α → Prop},
      (∃ value, (nonzero ∧ fits ∧ computed = value) ∧ holds value) ↔
        nonzero ∧ fits ∧ holds computed := by
  refine ⟨checkedAdd_eq_ok, checkedSub_eq_ok, checkedMul_eq_ok, checkedDiv_eq_ok, inUnsigned_eq_ok,
    ?_, ?_⟩ <;> grind

variable {reason : Failure ε}

theorem inI128_eq_error :
    inI128 failure value = .error reason ↔ ¬ InI128 value ∧ reason = failure := by
  unfold inI128
  split <;> simp [*, eq_comm]

theorem checkedAdd_eq_error :
    checkedAdd failure left right = .error reason ↔ ¬ InI128 (left + right) ∧ reason = failure :=
  inI128_eq_error

theorem checkedSub_eq_error :
    checkedSub failure left right = .error reason ↔ ¬ InI128 (left - right) ∧ reason = failure :=
  inI128_eq_error

theorem checkedMul_eq_error :
    checkedMul failure left right = .error reason ↔ ¬ InI128 (left * right) ∧ reason = failure :=
  inI128_eq_error

theorem checkedDiv_eq_error :
    checkedDiv failure left right = .error reason ↔
      (right = 0 ∨ ¬ InI128 (left.tdiv right)) ∧ reason = failure := by
  unfold checkedDiv
  split
  · next zero => simp [zero, eq_comm]
  · next nonzero => rw [inI128_eq_error, or_iff_right nonzero]

theorem inUnsigned_eq_error {maximum value : Nat} :
    inUnsigned maximum failure value = .error reason ↔ maximum < value ∧ reason = failure := by
  unfold inUnsigned
  split
  · next within => simp [Nat.not_lt.mpr within]
  · next beyond => simp [Nat.lt_of_not_le beyond, eq_comm]

theorem checkedSubUnsigned_eq_error {left right : Nat} :
    checkedSubUnsigned failure left right = .error reason ↔ left < right ∧ reason = failure := by
  unfold checkedSubUnsigned
  split
  · next within => simp [Nat.not_lt.mpr within]
  · next beyond => simp [Nat.lt_of_not_le beyond, eq_comm]

variable {bad : Failure ε → Prop}

section

variable (isBad : bad failure)

include isBad

theorem computes_inI128 (value : Int) :
    Computes bad (inI128 failure value) (InI128 value) value where
  result fits := inI128_eq_ok.mpr ⟨fits, rfl⟩
  fails beyond := ⟨failure, inI128_eq_error.mpr ⟨beyond, rfl⟩, isBad⟩

theorem computes_checkedAdd (left right : Int) :
    Computes bad (checkedAdd failure left right) (InI128 (left + right)) (left + right) :=
  computes_inI128 isBad _

theorem computes_checkedSub (left right : Int) :
    Computes bad (checkedSub failure left right) (InI128 (left - right)) (left - right) :=
  computes_inI128 isBad _

theorem computes_checkedMul (left right : Int) :
    Computes bad (checkedMul failure left right) (InI128 (left * right)) (left * right) :=
  computes_inI128 isBad _

theorem computes_inI64 (value : Int) : Computes bad (inI64 failure value) (InI64 value) value where
  result fits := inI64_eq_ok.mpr ⟨fits, rfl⟩
  fails beyond := ⟨failure, if_neg beyond, isBad⟩

theorem computes_checkedDiv (left : Int) {right : Int} (nonzero : right ≠ 0) :
    Computes bad (checkedDiv failure left right) (InI128 (left.tdiv right)) (left.tdiv right) where
  result fits := checkedDiv_eq_ok.mpr ⟨nonzero, fits, rfl⟩
  fails beyond := ⟨failure, checkedDiv_eq_error.mpr ⟨.inr beyond, rfl⟩, isBad⟩

end

theorem i128Max_nonneg : 0 ≤ i128Max := by decide

theorem inI128_of_le {bound : Int} (nonneg : 0 ≤ value) (bounded : value ≤ bound)
    (fits : InI128 bound) : InI128 value :=
  ⟨le_trans (by decide) nonneg, bounded.trans fits.2⟩

theorem saturateI128_of_mem (representable : InI128 value) : saturateI128 value = value := by
  unfold saturateI128
  rw [min_eq_right representable.2, max_eq_right representable.1]

theorem saturateI128_nonneg (nonneg : 0 ≤ value) : 0 ≤ saturateI128 value :=
  le_max_of_le_right (le_min (by decide) nonneg)

theorem saturateI128_le (nonneg : 0 ≤ value) : saturateI128 value ≤ value :=
  max_le (le_trans (by decide) nonneg) (min_le_right _ _)

theorem saturateI128_mono {less more : Int} (ordered : less ≤ more) :
    saturateI128 less ≤ saturateI128 more :=
  max_le_max le_rfl (min_le_min le_rfl ordered)

theorem saturateI128_mem (value : Int) : InI128 (saturateI128 value) := by
  refine ⟨le_max_left _ _, max_le ?_ (min_le_left _ _)⟩
  decide

theorem inI128_tdiv {divisor : Int} (fits : InI128 value) (pos : 0 < divisor) :
    InI128 (value.tdiv divisor) := by
  have lowest : i128Min ≤ 0 := by decide
  have largest := i128Max_nonneg
  obtain ⟨_, _⟩ := fits
  rcases le_total 0 value with nonneg | nonpositive
  · have quotient := Int.tdiv_nonneg nonneg pos.le
    have smaller := Int.tdiv_le_self divisor nonneg
    exact ⟨by omega, by omega⟩
  · have negated : 0 ≤ -value := Int.neg_nonneg_of_nonpos nonpositive
    have quotient := Int.tdiv_nonneg negated pos.le
    have smaller := Int.tdiv_le_self divisor negated
    rw [Int.neg_tdiv] at quotient smaller
    exact ⟨by omega, by omega⟩

end SorobanPlayground
