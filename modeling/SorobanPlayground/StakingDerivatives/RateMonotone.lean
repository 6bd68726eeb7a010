import SorobanPlayground.Library.RoundedGrowth
import SorobanPlayground.StakingDerivatives.Backing

/-! # The direction of the exchange rate

The rate is meant only to rise, so that a stake redeemed later loses no more than the
rounding of its two divisions. An accrual raises it. A report of rewards sets it to
what the pool affords, which lowers it exactly when earlier accruals have raised it
past the pool and the rewards do not make up for them.
-/

namespace SorobanPlayground.StakingDerivatives

open RedeemableClaims (worth minted)

variable {Address : Type} [DecidableEq Address] {contract : Address}

/-- A call does not lower the exchange rate. -/
def RateKept (state : State Address) (call : Env Address contract × Operation Address) : Prop :=
  ∀ next, dispatch state call = .ok next → state.exchangeRate ≤ next.exchangeRate

/-- The tokens received for a stake, redeemed at any later time, return the stake but for less than
the price of one token, which the stake rounds by, and one unit, which the unstake rounds by. -/
def StakesReturned (calls : List (Env Address contract × Operation Address)) : Prop :=
  ∀ before stakeEnv staker amount middle unstakeEnv lstMinted after result staked next,
    calls = before ++ (stakeEnv, .stake staker amount) ::
      (middle ++ (unstakeEnv, .unstake staker lstMinted) :: after) →
    stake stakeEnv staker amount ((machine contract).run {} before) = .ok (lstMinted, staked) →
    unstake unstakeEnv staker lstMinted ((machine contract).run staked middle) =
      .ok (result, next) →
    amount * ratePrecision < (result.1 + 1) * ratePrecision + staked.exchangeRate

/-- A report finds the rate at its floor, or the tokens worth no more than the stake and the
rewards. -/
def ReportCovered (state : State Address) (call : Env Address contract × Operation Address) :
    Prop :=
  ∀ admin validator rewardAmount, call.2 = .reportValidatorRewards admin validator rewardAmount →
    state.exchangeRate = ratePrecision ∨
      state.totalLst * state.exchangeRate ≤ (state.totalStaked + rewardAmount) * ratePrecision

variable {state next : State Address} {call : Env Address contract × Operation Address}

section

omit [DecidableEq Address]

theorem rate_le_afforded_iff {stake claims rate : Int} (stakeNonneg : 0 ≤ stake)
    (claimsNonneg : 0 ≤ claims) (atLeastOne : ratePrecision ≤ rate) :
    (rate ≤ if claims = 0 then rate
      else max ((stake * ratePrecision).tdiv claims) ratePrecision) ↔
      rate = ratePrecision ∨ claims * rate ≤ stake * ratePrecision := by
  have scaledNonneg : 0 ≤ stake * ratePrecision := mul_nonneg stakeNonneg (by decide)
  split
  · next none =>
    refine iff_of_true le_rfl (.inr ?_)
    rwa [none, zero_mul]
  · next some =>
    have claimsPositive := lt_of_le_of_ne claimsNonneg (Ne.symm some)
    rw [le_max_iff, Int.tdiv_eq_ediv_of_nonneg scaledNonneg, Int.le_ediv_iff_mul_le
      claimsPositive, mul_comm rate claims, or_comm]
    exact or_congr_left ⟨fun atMost => le_antisymm atMost atLeastOne, le_of_eq⟩

theorem reportCovered_of_unreported (unreported : ¬ call.2.Reports) : ReportCovered state call := by
  intro admin validator rewardAmount reported
  rw [reported] at unreported
  exact absurd trivial unreported

end

theorem rate_kept_iff (books : Books state) (ran : dispatch state call = .ok next) :
    RateKept state call ↔ ReportCovered state call := by
  have kept : RateKept state call ↔ state.exchangeRate ≤ next.exchangeRate := by
    constructor
    · intro kept
      exact kept next ran
    · intro atLeast other again
      obtain rfl := Except.ok.inj (ran.symm.trans again)
      exact atLeast
  have raised := rate_le_accruedRate
    ((show (0 : Int) ≤ ratePrecision by decide).trans books.rate) books.reward call.1.timestamp
  rw [kept]
  obtain ⟨-, effect⟩ := dispatch_effect books ran
  cases effect with
  | quiet _ unreported pool =>
    have same : next.exchangeRate = state.exchangeRate := congrArg RedeemableClaims.Pool.rate pool
    exact iff_of_true same.ge (reportCovered_of_unreported unreported)
  | accrued accrues exact pool =>
    have rate : next.exchangeRate = state.accruedRate call.1.timestamp :=
      congrArg RedeemableClaims.Pool.rate pool
    refine iff_of_true (rate ▸ raised) (reportCovered_of_unreported ?_)
    rcases call with ⟨_, _ | _⟩ <;> first | exact id | exact accrues.elim
  | staked _ _ op _ pool =>
    have rate : next.exchangeRate = state.accruedRate call.1.timestamp :=
      congrArg RedeemableClaims.Pool.rate pool
    refine iff_of_true (rate ▸ raised) (reportCovered_of_unreported ?_)
    rw [op]
    exact id
  | unstaked _ _ op unstaked =>
    refine iff_of_true (unstaked.rate ▸ raised) (reportCovered_of_unreported ?_)
    rw [op]
    exact id
  | rewarded admin validator amount op pos _ _ rate =>
    rw [rate, rate_le_afforded_iff (add_nonneg books.stake pos.le) books.totalLst_nonneg
      books.rate]
    constructor
    · rintro covered _ _ _ reported
      obtain ⟨-, -, rfl⟩ := Operation.reportValidatorRewards.inj (op.symm.trans reported)
      exact covered
    · intro covered
      exact covered admin validator amount op

variable {calls : List (Env Address contract × Operation Address)}

theorem rate_le_run (kept : (machine contract).Meets RateKept state calls) :
    state.exchangeRate ≤ ((machine contract).run state calls).exchangeRate := by
  have always : (machine contract).Always
      (fun later => state.exchangeRate ≤ later.exchangeRate) state calls := by
    refine always_of_meets ?_ le_rfl kept
    intro middle call next risen kept ran
    exact risen.trans (kept next ran)
  exact always.final

theorem stakesReturned_of_rateKept (kept : (machine contract).Meets RateKept {} calls) :
    StakesReturned calls := by
  intro before stakeEnv staker amount middle unstakeEnv lstMinted after result staked next split
    stakes unstakes
  rw [split] at kept
  have start : Books ((machine contract).run {} before) :=
    run_invariant books_step books_empty before
  obtain ⟨amountPositive, minting, rate, running, effect⟩ := stake_effect start stakes
  have booksStaked := books_effect start running effect
  have dispatched : (machine contract).exec ((machine contract).run {} before)
      (stakeEnv, .stake staker amount) = .ok staked := map_eq_ok.mpr ⟨_, stakes, rfl⟩
  have risen : staked.exchangeRate ≤ ((machine contract).run staked middle).exchangeRate := by
    have later := kept.of_append.2.2
    rw [(machine contract).apply_of_ok dispatched] at later
    exact rate_le_run later.of_append.1
  have booksLater : Books ((machine contract).run staked middle) :=
    run_invariant books_step booksStaked middle
  obtain ⟨paid, -⟩ := unstake_effect booksLater unstakes
  have accrued := rate_le_accruedRate
    ((show (0 : Int) ≤ ratePrecision by decide).trans booksLater.rate) booksLater.reward
    unstakeEnv.timestamp
  have pos := start.accruedRate_pos stakeEnv.timestamp
  rw [paid, minting, ← rate]
  rw [← rate] at pos
  exact RedeemableClaims.round_trip (by decide) pos (risen.trans accrued) amountPositive.le

/-- The rate is never lowered, and stakes are returned up to rounding, exactly in the runs whose
reports all find the tokens covered. -/
theorem rate_monotone_iff_reports_covered
    (calls : List (Env Address contract × Operation Address)) :
    ((machine contract).Meets RateKept {} calls ∧ StakesReturned calls) ↔
      (machine contract).Meets ReportCovered {} calls := by
  have exact : (machine contract).Meets RateKept {} calls ↔
      (machine contract).Meets ReportCovered {} calls := by
    refine CallMachine.meets_congr books_step ?_ books_empty calls
    intro state call next books ran
    exact rate_kept_iff books ran
  rw [← exact]
  exact and_iff_left_of_imp stakesReturned_of_rateKept

/-! After a year of accrual on a stake of 1,000,000, a second stake is made at the rate of
1,050,000, and a report of one unit sets the rate from the pool. -/

/-- The rate falls to 1,025,000, and the tokens of the stake of 1,050,000 return 1,025,000. -/
theorem report_lowers_rate :
    ¬ RateKept ((machine 0).run {} (yearOfAccrual ++ [(signedAt 31557600, .stake 2 1050000)]))
        (signedAt 31557600, .reportValidatorRewards 1 3 1) ∧
      ¬ StakesReturned (yearOfAccrual ++ (signedAt 31557600, .stake 2 1050000) ::
        ([(signedAt 31557600, .reportValidatorRewards 1 3 1)] ++
          (signedAt 31557600, .unstake 2 1000000) :: [])) := by
  constructor
  · intro kept
    exact absurd (kept _ rfl) (by decide)
  · intro returned
    have whole := returned yearOfAccrual (signedAt 31557600) 2 1050000 _ (signedAt 31557600)
      1000000 [] (1025000, 32162400) _ _ rfl rfl rfl
    exact absurd whole (by decide)

/-! Each accrual rounds its increment down and restarts the clock, so an accrual between two
times can cost the later rate a unit. -/

section

open RoundedGrowth List

/-- The parts of a unit in which an increment of the rate is computed. -/
def accrualScale : Int := 10000 * secondsPerYear

/-- The calls that anyone may make and that accrue. -/
def Operation.Permissionless : Operation Address → Prop
  | .accrue | .stake .. | .unstake .. => True
  | _ => False

/-- A call brings the rate up to date and restarts the clock. -/
structure Restarted (state : State Address) (now : Nat) (next : State Address) : Prop where
  rate : next.exchangeRate = grow state.rewardRateBps accrualScale state.exchangeRate
    (now - state.lastAccrualTs : Nat)
  reward : next.rewardRateBps = state.rewardRateBps
  clock : next.lastAccrualTs = now

variable {env : Env Address contract}

omit [DecidableEq Address] in
theorem accrueRewards_restarts (rate : 0 ≤ state.exchangeRate) (reward : 0 ≤ state.rewardRateBps)
    (later : state.lastAccrualTs ≤ env.timestamp) (ran : accrueRewards state env = .ok next) :
    Restarted state env.timestamp next := by
  simp only [accrueRewards] at ran
  split at ran
  · next late =>
    cases ran
    obtain same := le_antisymm later late
    refine ⟨?_, rfl, same⟩
    rw [grow, same, Nat.sub_self, Nat.cast_zero, mul_zero, Int.zero_ediv, add_zero]
  · simp only [call_ok, arith_ok] at ran
    obtain ⟨-, -, -, rfl⟩ := ran
    refine ⟨?_, rfl, rfl⟩
    have nonneg := mul_nonneg (mul_nonneg rate reward)
      (Int.natCast_nonneg (env.timestamp - state.lastAccrualTs))
    exact congrArg (state.exchangeRate + ·) (Int.tdiv_eq_ediv_of_nonneg nonneg)

theorem dispatch_restarts (books : Books state) (permissionless : call.2.Permissionless)
    (later : state.lastAccrualTs ≤ call.1.timestamp) (ran : dispatch state call = .ok next) :
    Restarted state call.1.timestamp next := by
  have rate : 0 ≤ state.exchangeRate := le_trans (by decide) books.rate
  have restarts {middle : State Address} (accrued : accrueRewards state call.1 = .ok middle) :=
    accrueRewards_restarts rate books.reward later accrued
  obtain ⟨_, op⟩ := call
  cases op with
  | accrue =>
    obtain ⟨⟨_, _⟩, accrued, rfl⟩ := map_eq_ok.mp ran
    simp only [accrue, ensureInitialized, call_ok] at accrued
    obtain ⟨-, _, accrued, -, rfl⟩ := accrued
    exact restarts accrued
  | stake =>
    obtain ⟨⟨_, _⟩, staked, rfl⟩ := map_eq_ok.mp ran
    simp only [stake, call_ok, arith_ok] at staked
    obtain ⟨_, -, -, -, _, accrued, _, -, _, -, -, _, -, _, -, _, -, -, rfl⟩ := staked
    obtain ⟨rate, reward, clock⟩ := restarts accrued
    exact ⟨rate, reward, clock⟩
  | unstake =>
    obtain ⟨⟨_, _⟩, unstaked, rfl⟩ := map_eq_ok.mp ran
    simp only [unstake, call_ok, arith_ok] at unstaked
    obtain ⟨_, -, -, -, -, _, accrued, _, -, _, -, _, -, _, -, _, -, _, -, _, -, -, rfl⟩ := unstaked
    obtain ⟨rate, reward, clock⟩ := restarts accrued
    exact ⟨rate, reward, clock⟩
  | _ => exact permissionless.elim

theorem run_grows (books : Books state) (permissionless : ∀ call ∈ calls, call.2.Permissionless)
    (ordered : (state.lastAccrualTs :: calls.map (·.1.timestamp)).Pairwise (· ≤ ·))
    (ran : calls.foldlM dispatch state = .ok next) :
    next.exchangeRate = growAll state.rewardRateBps accrualScale state.exchangeRate
      (durationsFrom state.lastAccrualTs (calls.map (·.1.timestamp))) := by
  induction calls generalizing state with
  | nil =>
    cases ran
    rfl
  | cons call calls ih =>
    obtain ⟨middle, first, rest⟩ := bind_eq_ok.mp ran
    obtain ⟨now, others⟩ := forall_mem_cons.mp permissionless
    obtain ⟨early, sorted⟩ := pairwise_cons.mp ordered
    have restarted := dispatch_restarts books now (early _ mem_cons_self) first
    obtain ⟨running, effect⟩ := dispatch_effect books first
    have rate := ih (books_effect books running effect) others (restarted.clock ▸ sorted) rest
    rwa [restarted.reward, restarted.rate, restarted.clock] at rate

/-- In every reachable state, whatever calls of anyone accrue before a later time, they leave the
rate accrued then no lower than without them exactly when the fractions of a unit that the
accruals drop, less the yield on what they add, stay below one unit. For a single call this is so
exactly when the two fractions do not make a unit, or the yield on what the call added makes up
for it. -/
theorem extra_accruals_harmless_iff (reachable : (machine contract).Reachable {} state)
    (permissionless : ∀ call ∈ calls, call.2.Permissionless)
    (ordered : (state.lastAccrualTs :: (calls.map (·.1.timestamp) ++ [env.timestamp])).Pairwise
      (· ≤ ·))
    {direct inTurn : State Address} (once : dispatch state (env, .accrue) = .ok direct)
    (ran : (calls ++ [(env, Operation.accrue)]).foldlM dispatch state = .ok inTurn) :
    let rate := state.exchangeRate
    let yearly := rate * state.rewardRateBps
    (direct.exchangeRate ≤ inTurn.exchangeRate ↔
      shortfall state.rewardRateBps accrualScale rate rate
        (durationsFrom state.lastAccrualTs (calls.map (·.1.timestamp) ++ [env.timestamp])) <
        accrualScale) ∧
    ∀ time, calls.map (·.1.timestamp) = [time] →
      let first : Int := (time - state.lastAccrualTs : Nat)
      let second : Int := (env.timestamp - time : Nat)
      (direct.exchangeRate ≤ inTurn.exchangeRate ↔
        yearly * first % accrualScale + yearly * second % accrualScale < accrualScale ∨
          accrualScale ≤ yearly * second % accrualScale +
            yearly * first / accrualScale * state.rewardRateBps * second) := by
  intro rate yearly
  have books : Books state := by
    obtain ⟨earlier, rfl⟩ := reachable
    exact run_invariant books_step books_empty earlier
  have scale : 0 < accrualScale := by decide
  have early : state.lastAccrualTs ≤ env.timestamp :=
    rel_of_pairwise_cons ordered (mem_append_right _ mem_cons_self)
  have anyone : (env, (.accrue : Operation Address)).2.Permissionless := trivial
  have atOnce : Restarted state env.timestamp direct := dispatch_restarts books anyone early once
  have all : ∀ call ∈ calls ++ [(env, Operation.accrue)], call.2.Permissionless := by
    intro call mem
    rcases mem_append.mp mem with earlier | last
    · exact permissionless call earlier
    · obtain rfl := mem_singleton.mp last
      trivial
  have turns := run_grows books all (by rwa [map_append]) ran
  have exact : direct.exchangeRate ≤ inTurn.exchangeRate ↔
      shortfall state.rewardRateBps accrualScale rate rate
        (durationsFrom state.lastAccrualTs (calls.map (·.1.timestamp) ++ [env.timestamp])) <
        accrualScale := by
    rw [atOnce.rate, turns, map_append, map_cons, map_nil,
      ← grow_sum_le_growAll_iff _ scale, sum_durationsFrom ordered]
  refine ⟨exact, fun time single => ?_⟩
  rw [exact, single]
  exact shortfall_pair_lt_iff books.reward scale (le_trans (by decide) books.rate)
    (Int.natCast_nonneg _) (Int.natCast_nonneg _)

theorem extra_accruals_harmless_iff_first_second :
    let state := (machine 0).run {} [(signedAt 0, .initializeStaking 1 500 604800)]
    ((machine 0).run state [(signedAt 2, .accrue)]).exchangeRate ≤
        ((machine 0).run state [(signedAt 1, .accrue), (signedAt 2, .accrue)]).exchangeRate ↔
      shortfall 500 accrualScale ratePrecision ratePrecision [1, 1] < accrualScale := by
  have permissionless : ∀ call ∈ [(signedAt 1, (Operation.accrue : Operation Nat))],
      call.2.Permissionless := by
    simp [Operation.Permissionless]
  have once : dispatch ((machine 0).run {} [(signedAt 0, .initializeStaking 1 500 604800)])
      (signedAt 2, .accrue) = .ok _ := rfl
  exact (extra_accruals_harmless_iff
    ⟨[(signedAt 0, .initializeStaking 1 500 604800)], rfl⟩ permissionless (by decide) once rfl).1

/-- The rate rises by a unit after 632 seconds, and with another accrual one second before that
it does not. -/
theorem extra_accrual_drops_a_unit :
    let state := (machine 0).run {} [(signedAt 0, .initializeStaking 1 500 604800)]
    ((machine 0).run state [(signedAt 632, .accrue)]).exchangeRate = 1000001 ∧
      ((machine 0).run state
        [(signedAt 631, .accrue), (signedAt 632, .accrue)]).exchangeRate = 1000000 := by
  decide

end

end SorobanPlayground.StakingDerivatives
