import SorobanPlayground.Library.RedeemableClaims
import SorobanPlayground.StakingDerivatives.Contract

/-! # The backing of the derivative tokens

The stake should cover what the derivative tokens are worth at the published rate.
Staking and unstaking round in the pool's favour, and a report of rewards adds them
to the stake before it sets the rate. An accrual raises the rate and adds nothing:
the tokens stay backed exactly as long as the pool has a surplus that covers each
accrual.
-/

namespace SorobanPlayground.StakingDerivatives

open RedeemableClaims.Pool State

open RedeemableClaims (worth minted)

variable {Address : Type} {contract : Address} (state : State Address)

/-- The stake against the derivative tokens, at the published rate. -/
def State.pool : RedeemableClaims.Pool :=
  { stake := state.totalStaked, claims := state.totalLst, rate := state.exchangeRate }

/-- The stake owed to all derivative tokens at the published rate is there. -/
def Backed : Prop :=
  (state.totalLst * state.exchangeRate).tdiv ratePrecision ≤ state.totalStaked

def State.accruedRate (now : Nat) : Int :=
  if now ≤ state.lastAccrualTs then state.exchangeRate
  else state.exchangeRate +
    (state.exchangeRate * state.rewardRateBps * (now - state.lastAccrualTs : Nat)).tdiv
      (10000 * secondsPerYear)

def State.accruedPool (now : Nat) : RedeemableClaims.Pool :=
  { state.pool with rate := state.accruedRate now }

/-- What the division of a call leaves in the pool. -/
def roundedAway (now : Nat) : Operation Address → Int
  | .stake _ amount => amount * ratePrecision % state.accruedRate now
  | .unstake _ lstAmount => lstAmount * state.accruedRate now % ratePrecision
  | _ => 0

def Operation.Accrues : Operation Address → Prop
  | .stake .. | .unstake .. | .setRewardRate .. | .accrue => True
  | _ => False

/-- The calls that report rewards. -/
def Operation.Reports : Operation Address → Prop
  | .reportValidatorRewards .. => True
  | _ => False

/-- An accrual raises the worth of the tokens by no more than the surplus of the pool and what the
call leaves in it, less than one unit apart. -/
def AccrualCovered (call : Env Address contract × Operation Address) : Prop :=
  call.2.Accrues →
    state.totalLst * state.accruedRate call.1.timestamp - state.totalStaked * ratePrecision <
      ratePrecision + roundedAway state call.1.timestamp call.2

variable [DecidableEq Address]

/-- An unstake takes its whole underlying amount out of the stake. -/
def Unclamped (state : State Address) (call : Env Address contract × Operation Address) : Prop :=
  ∀ staker lstAmount result next, call.2 = .unstake staker lstAmount →
    unstake call.1 staker lstAmount state = .ok (result, next) →
    next.totalStaked = state.totalStaked - result.1

structure Books (state : State Address) : Prop where
  rate : ratePrecision ≤ state.exchangeRate
  reward : 0 ≤ state.rewardRateBps
  stake : 0 ≤ state.totalStaked
  balances : ∀ staker balance, state.lstBalance.get staker = some balance → 0 ≤ balance
  supply : state.totalLst = state.lstBalance.total fun _ balance => balance
  unopened : state.admin = none → state.exchangeRate = ratePrecision

/-- A holder's balance and the supply move together. -/
structure Supplied (state : State Address) (staker : Address) (change : Int)
    (next : State Address) : Prop where
  balances : next.lstBalance = state.lstBalance.set staker (state.getLstBalance staker + change)
  enough : 0 ≤ state.getLstBalance staker + change
  supply : next.totalLst = state.totalLst + change

structure Unstaked (state : State Address) (now : Nat) (staker : Address) (lstAmount : Int)
    (next : State Address) : Prop where
  positive : 0 < lstAmount
  rate : next.exchangeRate = state.accruedRate now
  stake : next.totalStaked =
    max (state.totalStaked - worth ratePrecision (state.accruedRate now) lstAmount) 0
  supplied : Supplied state staker (-lstAmount) next

/-- What a successful call leaves of the pool and the tokens. -/
inductive Effect (state : State Address) (call : Env Address contract × Operation Address)
    (next : State Address) : Prop
  | quiet (calm : ¬ call.2.Accrues) (unreported : ¬ call.2.Reports) (pool : next.pool = state.pool)
      (balances : next.lstBalance = state.lstBalance)
  | accrued (accrues : call.2.Accrues) (exact : roundedAway state call.1.timestamp call.2 = 0)
      (pool : next.pool = state.accruedPool call.1.timestamp)
      (balances : next.lstBalance = state.lstBalance)
  | staked (staker : Address) (amount : Int) (operation : call.2 = .stake staker amount)
      (positive : 0 < amount)
      (pool : next.pool = (state.accruedPool call.1.timestamp).mint ratePrecision amount)
      (supplied : Supplied state staker
        (minted ratePrecision (state.accruedRate call.1.timestamp) amount) next)
  | unstaked (staker : Address) (lstAmount : Int)
      (operation : call.2 = .unstake staker lstAmount)
      (unstaked : Unstaked state call.1.timestamp staker lstAmount next)
  | rewarded (admin validator : Address) (amount : Int)
      (operation : call.2 = .reportValidatorRewards admin validator amount) (positive : 0 < amount)
      (stake : next.totalStaked = state.totalStaked + amount)
      (supply : next.totalLst = state.totalLst)
      (rate : next.exchangeRate = if state.totalLst = 0 then state.exchangeRate
        else max (((state.totalStaked + amount) * ratePrecision).tdiv state.totalLst) ratePrecision)
      (balances : next.lstBalance = state.lstBalance)

/-- A successful call leaves an initialized contract with a reward rate in range. -/
structure Running (next : State Address) : Prop where
  opened : next.admin.isSome = true
  reward : 0 ≤ next.rewardRateBps

variable {state next : State Address} {env : Env Address contract}

section

omit [DecidableEq Address]

theorem accrueRewards_next (ran : accrueRewards state env = .ok next) :
    ∃ lastAccrualTs, next = { state with
      exchangeRate := state.accruedRate env.timestamp
      lastAccrualTs } := by
  unfold accrueRewards accruedRate at *
  dsimp only at ran
  split at ran
  · next late =>
    cases ran
    exact ⟨state.lastAccrualTs, by rw [if_pos late]⟩
  · next later =>
    simp only [call_ok, arith_ok] at ran
    obtain ⟨-, -, -, rfl⟩ := ran
    exact ⟨env.timestamp, by rw [if_neg later]⟩

theorem rate_le_accruedRate (rate : 0 ≤ state.exchangeRate) (reward : 0 ≤ state.rewardRateBps)
    (now : Nat) : state.exchangeRate ≤ state.accruedRate now := by
  unfold accruedRate
  split
  · exact le_rfl
  · apply le_add_of_nonneg_right
    apply Int.tdiv_nonneg
    · exact mul_nonneg (mul_nonneg rate reward) (Int.natCast_nonneg _)
    · decide

end

theorem Books.accruedRate_pos (books : Books state) (now : Nat) : 0 < state.accruedRate now := by
  have rate : (0 : Int) < ratePrecision := by decide
  have atLeast := books.rate
  exact (rate.trans_le atLeast).trans_le (rate_le_accruedRate (by omega) books.reward now)

omit [DecidableEq Address] in
theorem ensureActive_opened {result : Unit} (active : ensureActive state = .ok result) :
    state.admin.isSome = true := by
  simp only [ensureActive, ensureInitialized, call_ok] at active
  exact active.1

theorem requireAdmin_opened {caller : Address} {result : Unit}
    (checked : requireAdmin state caller = .ok result) : state.admin.isSome = true := by
  simp only [requireAdmin, call_ok] at checked
  obtain ⟨admin, got, -⟩ := checked
  exact Option.isSome_iff_exists.mpr ⟨admin, got⟩

variable {staker : Address}

section

variable (books : Books state)
include books

theorem Books.balance_nonneg (staker : Address) : 0 ≤ state.getLstBalance staker := by
  unfold getLstBalance
  cases got : state.lstBalance.get staker with
  | none => exact le_rfl
  | some balance => exact books.balances staker balance got

theorem Books.totalLst_nonneg : 0 ≤ state.totalLst := by
  rw [books.supply]
  exact total_nonneg books.balances

theorem stake_effect {amount : Int} {result : Int}
    (ran : stake env staker amount state = .ok (result, next)) :
    0 < amount ∧ result = minted ratePrecision (state.accruedRate env.timestamp) amount ∧
    next.exchangeRate = state.accruedRate env.timestamp ∧ Running next ∧
    Effect state (env, .stake staker amount) next := by
  simp only [stake, call_ok, arith_ok] at ran
  obtain ⟨_, active, -, pos, _, accrued, -, -, -, -, -, -, -, rfl, rfl⟩ := ran
  obtain ⟨_, rfl⟩ := accrueRewards_next accrued
  have scaledNonneg : 0 ≤ amount * ratePrecision :=
    mul_nonneg (not_le.mp pos).le (by decide)
  have quotient : (amount * ratePrecision).tdiv (state.accruedRate env.timestamp) =
      minted ratePrecision (state.accruedRate env.timestamp) amount :=
    Int.tdiv_eq_ediv_of_nonneg scaledNonneg
  have mintedNonneg : 0 ≤ minted ratePrecision (state.accruedRate env.timestamp) amount :=
    Int.ediv_nonneg scaledNonneg (books.accruedRate_pos _).le
  rw [quotient]
  refine ⟨not_le.mp pos, rfl, rfl, ⟨ensureActive_opened active, books.reward⟩,
    .staked staker amount rfl (not_le.mp pos) rfl ⟨rfl, ?_, rfl⟩⟩
  exact add_nonneg (books.balance_nonneg staker) mintedNonneg

theorem unstake_effect {lstAmount : Int} {result : Int × Nat}
    (ran : unstake env staker lstAmount state = .ok (result, next)) :
    result.1 = worth ratePrecision (state.accruedRate env.timestamp) lstAmount ∧ Running next ∧
    Unstaked state env.timestamp staker lstAmount next := by
  simp only [unstake, call_ok, arith_ok] at ran
  obtain ⟨_, active, -, pos, _, _, accrued, -, -, -, -, -, -, -, rfl, rfl⟩ := ran
  obtain ⟨_, rfl⟩ := accrueRewards_next accrued
  have scaledNonneg : 0 ≤ lstAmount * state.accruedRate env.timestamp :=
    mul_nonneg (not_le.mp pos).le (books.accruedRate_pos _).le
  have quotient : (lstAmount * state.accruedRate env.timestamp).tdiv ratePrecision =
      worth ratePrecision (state.accruedRate env.timestamp) lstAmount :=
    Int.tdiv_eq_ediv_of_nonneg scaledNonneg
  rw [quotient]
  refine ⟨rfl, ⟨ensureActive_opened active, books.reward⟩, not_le.mp pos, rfl, rfl, ?_, ?_, ?_⟩
  · exact congrArg (state.lstBalance.set staker) (Int.sub_eq_add_neg)
  · omega
  · exact Int.sub_eq_add_neg

theorem dispatch_effect {call : Env Address contract × Operation Address}
    (ran : dispatch state call = .ok next) : Running next ∧ Effect state call next := by
  obtain ⟨_, op⟩ := call
  cases op with
  | initializeStaking =>
    simp only [dispatch, initializeStaking, call_ok] at ran
    obtain ⟨fresh, -, inRange, -, rfl⟩ := ran
    have none := Option.isNone_iff_eq_none.mp (Option.isSome_eq_false_iff.mp fresh)
    refine ⟨⟨rfl, (not_le.mp (not_or.mp inRange).1).le⟩, .quiet id id ?_ rfl⟩
    unfold pool
    rw [books.unopened none]
  | stake =>
    obtain ⟨⟨result, after⟩, staked, rfl⟩ := map_eq_ok.mp ran
    exact (stake_effect books staked).2.2.2
  | unstake staker lstAmount =>
    obtain ⟨⟨result, after⟩, unstaked, rfl⟩ := map_eq_ok.mp ran
    obtain ⟨-, running, effect⟩ := unstake_effect books unstaked
    exact ⟨running, .unstaked staker lstAmount rfl effect⟩
  | claimUnbonded =>
    obtain ⟨⟨result, after⟩, claimed, rfl⟩ := map_eq_ok.mp ran
    simp only [claimUnbonded, call_ok, arith_ok] at claimed
    obtain ⟨_, active, -, _, -, -, -, -, -, rfl⟩ := claimed
    exact ⟨⟨ensureActive_opened active, books.reward⟩, .quiet id id rfl rfl⟩
  | delegateToValidator =>
    simp only [dispatch, delegateToValidator, call_ok, arith_ok] at ran
    obtain ⟨_, active, -, _, -, -, -, rfl⟩ := ran
    exact ⟨⟨ensureActive_opened active, books.reward⟩, .quiet id id rfl rfl⟩
  | reportValidatorRewards admin validator rewardAmount =>
    simp only [dispatch, reportValidatorRewards, call_ok, arith_ok] at ran
    obtain ⟨_, active, -, _, -, pos, -, -, recomputed⟩ := ran
    have opened := ensureActive_opened active
    unfold recomputeRateFromPool at recomputed
    split at recomputed
    · next none =>
      cases recomputed
      exact ⟨⟨opened, books.reward⟩, .rewarded admin validator rewardAmount rfl
        (not_le.mp pos) rfl rfl (if_pos none).symm rfl⟩
    · next some =>
      simp only [call_ok, arith_ok] at recomputed
      obtain ⟨-, -, -, rfl⟩ := recomputed
      exact ⟨⟨opened, books.reward⟩, .rewarded admin validator rewardAmount rfl
        (not_le.mp pos) rfl rfl (if_neg some).symm rfl⟩
  | setRewardRate =>
    simp only [dispatch, setRewardRate, call_ok] at ran
    obtain ⟨-, _, checked, inRange, middle, accrued, rfl⟩ := ran
    obtain ⟨lastAccrualTs, rfl⟩ := accrueRewards_next accrued
    exact ⟨⟨requireAdmin_opened checked, (not_le.mp (not_or.mp inRange).1).le⟩,
      .accrued trivial rfl rfl rfl⟩
  | setPaused =>
    simp only [dispatch, setPaused, call_ok] at ran
    obtain ⟨-, _, checked, rfl⟩ := ran
    exact ⟨⟨requireAdmin_opened checked, books.reward⟩, .quiet id id rfl rfl⟩
  | accrue =>
    obtain ⟨⟨_, _⟩, accrued, rfl⟩ := map_eq_ok.mp ran
    simp only [accrue, ensureInitialized, call_ok] at accrued
    obtain ⟨opened, _, raised, -, rfl⟩ := accrued
    obtain ⟨_, rfl⟩ := accrueRewards_next raised
    exact ⟨⟨opened, books.reward⟩, .accrued trivial rfl rfl rfl⟩

end

variable {call : Env Address contract × Operation Address}

theorem Supplied.books {change : Int} (books : Books state)
    (supplied : Supplied state staker change next) :
    (∀ holder balance, next.lstBalance.get holder = some balance → 0 ≤ balance) ∧
      next.totalLst = next.lstBalance.total fun _ balance => balance := by
  constructor
  · rw [supplied.balances]
    exact forall_set books.balances supplied.enough
  · rw [supplied.supply, supplied.balances, books.supply,
      total_set_getD _ (fun _ balance => balance) staker _ 0 rfl]
    unfold getLstBalance
    ring

theorem books_effect (books : Books state) (running : Running next)
    (effect : Effect state call next) : Books next := by
  have opened : next.admin = none → next.exchangeRate = ratePrecision := by
    intro none
    have some := running.opened
    rw [none] at some
    cases some
  have raised := rate_le_accruedRate
    ((show (0 : Int) ≤ ratePrecision by decide).trans books.rate) books.reward call.1.timestamp
  have atLeast := books.rate.trans raised
  cases effect with
  | quiet _ _ pool balances =>
    obtain ⟨stake, supply, rate⟩ := RedeemableClaims.Pool.mk.inj pool
    refine ⟨rate ▸ books.rate, running.reward, stake ▸ books.stake, ?_, ?_, opened⟩
    · rw [balances]
      exact books.balances
    · rw [balances, supply]
      exact books.supply
  | accrued _ exact pool balances =>
    obtain ⟨stake, supply, rate⟩ := RedeemableClaims.Pool.mk.inj pool
    refine ⟨rate ▸ atLeast, running.reward, stake ▸ books.stake, ?_, ?_, opened⟩
    · rw [balances]
      exact books.balances
    · rw [balances, supply]
      exact books.supply
  | staked _ _ _ pos pool supplied =>
    obtain ⟨stake, -, rate⟩ := RedeemableClaims.Pool.mk.inj pool
    obtain ⟨balances, supply⟩ := supplied.books books
    exact ⟨rate ▸ atLeast, running.reward, stake ▸ add_nonneg books.stake pos.le, balances,
      supply, opened⟩
  | unstaked _ _ _ unstaked =>
    obtain ⟨balances, supply⟩ := unstaked.supplied.books books
    have stake : 0 ≤ next.totalStaked := by
      rw [unstaked.stake]
      exact le_max_right _ _
    exact ⟨unstaked.rate ▸ atLeast, running.reward, stake, balances, supply, opened⟩
  | rewarded _ _ _ _ pos stake supply rate balances =>
    refine ⟨?_, running.reward, stake ▸ add_nonneg books.stake pos.le, ?_, ?_, opened⟩
    · rw [rate]
      split
      · exact books.rate
      · exact le_max_right _ _
    · rw [balances]
      exact books.balances
    · rw [balances, supply]
      exact books.supply

theorem books_step (state : State Address) (call : Env Address contract × Operation Address)
    (next : State Address) (books : Books state)
    (ran : (machine contract).exec state call = .ok next) : Books next := by
  obtain ⟨running, effect⟩ := dispatch_effect books ran
  exact books_effect books running effect

theorem books_empty : Books ({} : State Address) where
  rate := le_rfl
  reward := show (0 : Int) ≤ 500 by decide
  stake := le_rfl
  balances := nofun
  supply := rfl
  unopened _ := rfl

/-- In every run the supply is the sum of the balances, none of them negative, and the rate never
falls below one. -/
theorem supply_is_balance_sum (calls : List (Env Address contract × Operation Address)) :
    (machine contract).Always (fun state =>
      state.totalLst = state.lstBalance.total (fun _ balance => balance) ∧
        (∀ staker, 0 ≤ state.getLstBalance staker) ∧ ratePrecision ≤ state.exchangeRate)
      {} calls := by
  have always : (machine contract).Always Books {} calls :=
    always_invariant books_step books_empty calls
  exact always.mono fun _ books => ⟨books.supply, books.balance_nonneg, books.rate⟩

theorem backed_iff (books : Books state) :
    Backed state ↔ state.pool.shortfall ratePrecision < ratePrecision := by
  have rateNonneg : (0 : Int) ≤ state.exchangeRate :=
    (show (0 : Int) ≤ ratePrecision by decide).trans books.rate
  rw [← covered_iff (by decide)]
  unfold Backed
  rw [Int.tdiv_eq_ediv_of_nonneg (mul_nonneg books.totalLst_nonneg rateNonneg)]
  rfl

theorem covered_rewarded {pool : RedeemableClaims.Pool} {amount : Int}
    (claimsNonneg : 0 ≤ pool.claims) (atLeastOne : ratePrecision ≤ pool.rate)
    (pos : 0 < amount) (covered : pool.Covered ratePrecision) :
    RedeemableClaims.Pool.Covered ratePrecision
      { stake := pool.stake + amount, claims := pool.claims
        rate := if pool.claims = 0 then pool.rate
          else max (((pool.stake + amount) * ratePrecision).tdiv pool.claims) ratePrecision } := by
  have scalePositive : (0 : Int) < ratePrecision := by decide
  have stakeNonneg := stake_nonneg scalePositive.le claimsNonneg
    (scalePositive.le.trans atLeastOne) covered
  split
  · next none =>
    rw [covered_iff scalePositive]
    unfold RedeemableClaims.Pool.shortfall
    rw [none, zero_mul]
    linarith [mul_nonneg (stakeNonneg.trans (le_add_of_nonneg_right pos.le)) scalePositive.le]
  · next some =>
    have claimsPositive := lt_of_le_of_ne claimsNonneg (Ne.symm some)
    have whole := claims_le_stake scalePositive claimsNonneg atLeastOne
      covered
    have floor : ratePrecision ≤ ((pool.stake + amount) * ratePrecision).tdiv pool.claims := by
      rw [Int.tdiv_eq_ediv_of_nonneg (mul_nonneg (by linarith) scalePositive.le),
        Int.le_ediv_iff_mul_le claimsPositive, mul_comm]
      exact mul_le_mul_of_nonneg_right (by linarith) scalePositive.le
    rw [max_eq_left floor]
    refine covered_of_rate_le scalePositive claimsPositive ?_
    rw [Int.tdiv_eq_ediv_of_nonneg (mul_nonneg (by linarith) scalePositive.le)]

theorem unclamped_iff (books : Books state) {env : Env Address contract}
    {lstAmount : Int} (ran : dispatch state (env, .unstake staker lstAmount) = .ok next) :
    Unclamped state (env, .unstake staker lstAmount) ↔
      next.totalStaked =
        state.totalStaked - worth ratePrecision (state.accruedRate env.timestamp) lstAmount := by
  obtain ⟨⟨result, after⟩, unstaked, rfl⟩ := map_eq_ok.mp ran
  obtain ⟨paid, -⟩ := unstake_effect books unstaked
  rw [← paid]
  constructor
  · intro unclamped
    exact unclamped staker lstAmount result after rfl unstaked
  · rintro whole _ _ _ _ ⟨⟩ again
    obtain ⟨rfl, rfl⟩ := Prod.mk.inj (Except.ok.inj (unstaked.symm.trans again))
    exact whole

theorem backed_step_iff (books : Books state) (backed : Backed state)
    (unclamped : Unclamped state call) (ran : dispatch state call = .ok next) :
    Backed next ↔ AccrualCovered state call := by
  obtain ⟨running, effect⟩ := dispatch_effect books ran
  have booksNext := books_effect books running effect
  rw [backed_iff booksNext]
  have shortBefore := (backed_iff books).mp backed
  cases effect with
  | quiet calm _ pool =>
    rw [pool]
    exact iff_of_true shortBefore fun accrues => absurd accrues calm
  | accrued accrues exact pool =>
    unfold AccrualCovered
    rw [pool, exact, add_zero, forall_prop_of_true accrues]
    exact Iff.rfl
  | staked staker amount op _ pool =>
    obtain ⟨env, _⟩ := call
    obtain rfl : _ = Operation.stake staker amount := op
    rw [pool, shortfall_mint]
    constructor
    · intro short _
      exact sub_lt_iff_lt_add.mp short
    · intro covered
      exact sub_lt_iff_lt_add.mpr (covered trivial)
  | unstaked staker lstAmount op unstaked =>
    obtain ⟨env, _⟩ := call
    obtain rfl : _ = Operation.unstake staker lstAmount := op
    have whole := (unclamped_iff books ran).mp unclamped
    have pool : next.pool = (state.accruedPool env.timestamp).redeem ratePrecision lstAmount := by
      unfold pool
      rw [whole, unstaked.rate, unstaked.supplied.supply, ← Int.sub_eq_add_neg]
      rfl
    rw [pool, shortfall_redeem]
    constructor
    · intro short _
      exact sub_lt_iff_lt_add.mp short
    · intro covered
      exact sub_lt_iff_lt_add.mpr (covered trivial)
  | rewarded _ _ _ op pos stake supply rate =>
    have calm : AccrualCovered state call := by
      intro accrues
      rw [op] at accrues
      exact accrues.elim
    refine iff_of_true ?_ calm
    rw [← covered_iff (by decide)] at shortBefore ⊢
    unfold pool
    rw [stake, supply, rate]
    exact covered_rewarded books.totalLst_nonneg books.rate pos shortBefore

theorem unclamped_of_covered (books : Books state) (covered : AccrualCovered state call)
    (ran : dispatch state call = .ok next) : Unclamped state call := by
  obtain ⟨env, _⟩ := call
  rintro staker lstAmount _ after rfl unstaked
  have dispatched : dispatch state (env, .unstake staker lstAmount) = .ok after :=
    map_eq_ok.mpr ⟨_, unstaked, rfl⟩
  obtain ⟨paid, -, effect⟩ := unstake_effect books unstaked
  have booksNext : Books after := books_step state (env, .unstake staker lstAmount) after books
    dispatched
  have claims : 0 ≤ state.totalLst - lstAmount := by
    rw [Int.sub_eq_add_neg, ← effect.supplied.supply]
    exact booksNext.totalLst_nonneg
  have whole : ((state.accruedPool env.timestamp).redeem ratePrecision lstAmount).Covered
      ratePrecision := by
    rw [covered_iff (by decide), shortfall_redeem]
    exact sub_lt_iff_lt_add.mpr (covered trivial)
  have left := stake_nonneg (by decide) claims
    (books.accruedRate_pos env.timestamp).le whole
  rw [effect.stake, paid]
  exact max_eq_left left

/-- The tokens stay backed and no unstake is clamped exactly as long as every accrual is covered. -/
theorem always_backed_iff_accruals_covered
    (calls : List (Env Address contract × Operation Address)) :
    ((machine contract).Always Backed {} calls ∧ (machine contract).Meets Unclamped {} calls) ↔
      (machine contract).Meets AccrualCovered {} calls := by
  have initially : Backed ({} : State Address) := le_rfl
  have exact : (machine contract).Meets Unclamped {} calls →
      ((machine contract).Always Backed {} calls ↔
        (machine contract).Meets AccrualCovered {} calls) := by
    intro unclamped
    refine always_iff_meets_of_meets books_step ?_ books_empty initially unclamped
    intro state call next books backed unclamped ran
    exact backed_step_iff books backed unclamped ran
  constructor
  · rintro ⟨always, unclamped⟩
    exact (exact unclamped).mp always
  · intro covered
    have unclamped : (machine contract).Meets Unclamped {} calls := by
      refine meets_of_invariant ?_ ?_ books_empty covered
      · intro state call next books _ ran
        exact books_step state call next books ran
      · intro state call next books covered ran
        exact unclamped_of_covered books covered ran
    exact ⟨(exact unclamped).mpr covered, unclamped⟩

/-! One staker's tokens after a year. -/

def signedAt (timestamp : Nat) : Env Nat 0 :=
  { timestamp, auths := [1, 2], contract_silent := zero_notMem_two_signers }

def yearOfAccrual : List (Env Nat 0 × Operation Nat) :=
  [(signedAt 0, .initializeStaking 1 500 604800),
    (signedAt 0, .stake 2 1000000),
    (signedAt 31557600, .accrue)]

/-- The tokens are worth 1,050,000 against a stake of 1,000,000, and redeeming them all is
clamped. -/
theorem accrual_uncovers_tokens :
    ¬ Backed ((machine 0).run {} yearOfAccrual) ∧
      ¬ Unclamped ((machine 0).run {} yearOfAccrual) (signedAt 31557600, .unstake 2 1000000) := by
  constructor
  · unfold Backed
    decide
  · intro unclamped
    have whole := unclamped 2 1000000 (1050000, 32162400) _ rfl rfl
    exact absurd whole (by decide)

end SorobanPlayground.StakingDerivatives
