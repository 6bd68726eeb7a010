import SorobanPlayground.Library.RoundedGrowth
import SorobanPlayground.YieldFarming.Tvl

/-! # What permissionless compounding does to a balance

Anyone may compound a user's positions at any time. Each call rounds the reward down
to whole units and restarts the clock, so that it drops the fraction of a unit that had
accrued, and in return what it adds earns from then on.
-/

namespace SorobanPlayground.YieldFarming

open RoundedGrowth List

variable {Address : Type} [DecidableEq Address] {contract : Address}

/-- The parts of a unit in which a reward is computed: basis points over a year. -/
def rewardScale : Int := bpsDenom * secondsPerYear

theorem saturateI128_of_nonneg {value : Int} (nonneg : 0 ≤ value) :
    saturateI128 value = min i128Max value := by
  have lowest : i128Min ≤ min i128Max value :=
    le_min (by decide) (le_trans (by decide) nonneg)
  exact max_eq_right lowest

theorem accruedReward_eq {balance : Int} (nonneg : 0 ≤ balance) (apyBps elapsed : Nat) :
    accruedReward balance apyBps elapsed =
      min i128Max (balance * apyBps * elapsed) / rewardScale := by
  have yearly : 0 ≤ balance * apyBps := by positivity
  have highest : 0 ≤ i128Max := by decide
  unfold accruedReward
  rw [saturateI128_of_nonneg yearly, saturateI128_of_nonneg (by positivity)]
  have saturated : min i128Max (min i128Max (balance * apyBps) * elapsed) =
      min i128Max (balance * apyBps * elapsed) := by
    rcases le_total (balance * apyBps) i128Max with within | beyond
    · rw [min_eq_right within]
    · rw [min_eq_left beyond]
      rcases Nat.eq_zero_or_pos elapsed with rfl | later
      · simp
      · have long : (1 : Int) ≤ elapsed := by exact_mod_cast later
        rw [min_eq_left (le_mul_of_one_le_right highest long), min_eq_left (beyond.trans
          (le_mul_of_one_le_right yearly long))]
  rw [saturated]
  exact Int.tdiv_eq_ediv_of_nonneg (le_min highest (by positivity))

variable {position : Position} {strategy : Strategy}

theorem compoundPosition_grows (nonneg : 0 ≤ position.compoundedBalance)
    (bound : position.compoundedBalance ≤ i128Max) (strategy : Strategy) (now : Nat) :
    (compoundPosition position strategy now).compoundedBalance =
      cappedGrow strategy.apyBps rewardScale i128Max position.compoundedBalance
        (now - position.lastUpdateTs : Nat) := by
  have highest : 0 ≤ i128Max := by decide
  unfold compoundPosition cappedGrow
  by_cases idle : now - position.lastUpdateTs = 0 ∨ strategy.apyBps = 0 ∨
      position.compoundedBalance = 0
  · have nothing : position.compoundedBalance * strategy.apyBps *
        ((now - position.lastUpdateTs : Nat) : Int) = 0 := by
      rcases idle with zero | zero | zero <;> simp [zero]
    rw [if_pos idle, nothing, min_eq_right highest, Int.zero_ediv, add_zero, min_eq_right bound]
  · have earned : 0 ≤ accruedReward position.compoundedBalance strategy.apyBps
        (now - position.lastUpdateTs) := accruedReward_nonneg _ _ nonneg
    rw [if_neg idle, saturateI128_of_nonneg (by positivity), accruedReward_eq nonneg]

theorem compoundPosition_congr {other : Strategy} (same : other.apyBps = strategy.apyBps)
    (position : Position) (now : Nat) :
    compoundPosition position other now = compoundPosition position strategy now := by
  unfold compoundPosition
  rw [same]

/-- A position brought up to date at several times. -/
def compoundedAt (strategy : Strategy) (position : Position) (times : List Nat) : Position :=
  times.foldl (fun held now => compoundPosition held strategy now) position

theorem compoundedAt_of_idle (idle : strategy.apyBps = 0 ∨ position.compoundedBalance = 0)
    (times : List Nat) : compoundedAt strategy position times = position := by
  have still (now : Nat) : compoundPosition position strategy now = position := by
    exact if_pos (.inr idle)
  induction times with
  | nil => rfl
  | cons => rwa [compoundedAt, foldl_cons, still]

theorem compoundedAt_grows (nonneg : 0 ≤ position.compoundedBalance)
    (bound : position.compoundedBalance ≤ i128Max) {times : List Nat}
    (ordered : (position.lastUpdateTs :: times).Pairwise (· ≤ ·)) :
    (compoundedAt strategy position times).compoundedBalance =
      cappedGrowAll strategy.apyBps rewardScale i128Max position.compoundedBalance
        (durationsFrom position.lastUpdateTs times) := by
  by_cases idle : strategy.apyBps = 0 ∨ position.compoundedBalance = 0
  · have still (duration : Int) : cappedGrow strategy.apyBps rewardScale i128Max
        position.compoundedBalance duration = position.compoundedBalance := by
      have highest : 0 ≤ i128Max := by decide
      have nothing : position.compoundedBalance * strategy.apyBps * duration = 0 := by
        rcases idle with zero | zero <;> simp [zero]
      rw [cappedGrow, nothing, min_eq_right highest, Int.zero_ediv, add_zero, min_eq_right bound]
    rw [compoundedAt_of_idle idle]
    generalize durationsFrom position.lastUpdateTs times = durations
    induction durations with
    | nil => rfl
    | cons => rwa [cappedGrowAll_cons, still]
  · obtain ⟨earning, _⟩ := not_or.mp idle
    induction times generalizing position with
    | nil => rfl
    | cons time _ ih =>
      obtain ⟨first, _⟩ := pairwise_cons.mp ordered
      have started : position.lastUpdateTs ≤ time := first time mem_cons_self
      have grown := compoundPosition_grows nonneg bound strategy time
      have more := le_cappedGrow (Int.natCast_nonneg strategy.apyBps)
        (by decide : 0 < rewardScale) nonneg bound
        (Int.natCast_nonneg (time - position.lastUpdateTs))
      have capped : cappedGrow strategy.apyBps rewardScale i128Max position.compoundedBalance
          (time - position.lastUpdateTs : Nat) ≤ i128Max := cappedGrow_le _ _
      have restarted : (compoundPosition position strategy time).lastUpdateTs = time := by
        simp only [compoundPosition]
        split
        · next still =>
          rcases still with _ | zero
          · omega
          · exact (idle zero).elim
        · rfl
      rw [← grown] at more capped
      rw [durationsFrom, cappedGrowAll_cons, ← grown]
      have funded' : ¬ (compoundPosition position strategy time).compoundedBalance = 0 := by
        omega
      have later := ih (nonneg.trans more) capped (by rwa [restarted])
        (not_or.mpr ⟨earning, funded'⟩) funded'
      rwa [restarted] at later

/-- The calls that anyone may make for a user. -/
def Operation.Compounds : Operation Address → Prop
  | .compound _ _ => True
  | .compoundAll _ => True
  | _ => False

/-- A call compounds a user's position in a strategy. -/
def Operation.Touches (operation : Operation Address) (id : Nat) (user : Address) : Prop :=
  match operation with
  | .compound holder strategyId => holder = user ∧ strategyId = id
  | .compoundAll holder => holder = user
  | _ => False

instance (operation : Operation Address) (id : Nat) (user : Address) :
    Decidable (operation.Touches id user) := by
  unfold Operation.Touches
  split <;> infer_instance

/-- A position and the yield of its strategy. -/
structure Holds (state : State Address) (id : Nat) (user : Address) (position : Position)
    (apyBps : Nat) : Prop where
  held : state.positions.get (id, user) = some position
  yields : ∃ strategy, state.strategies.get id = some strategy ∧ strategy.apyBps = apyBps

variable {env : Env Address contract} {user holder : Address} {id strategyId : Nat}
  {state next : State Address}

theorem Holds.write {got updated : Strategy} {previous wrote : Position}
    (holds : Holds state id user position strategy.apyBps)
    (found : state.strategies.get strategyId = some got)
    (held : state.positions.get (strategyId, holder) = some previous)
    (same : updated.apyBps = got.apyBps) (now : Nat)
    (compounded : wrote = compoundPosition previous got now) :
    Holds ((state.setPosition strategyId holder wrote).setStrategy strategyId updated) id user
      (if holder = user ∧ strategyId = id then compoundPosition position strategy now else position)
      strategy.apyBps := by
  obtain ⟨owned, yielding, listed, apy⟩ := holds
  refine ⟨?_, ?_⟩
  · change (state.positions.set (strategyId, holder) wrote).get (id, user) = _
    by_cases target : holder = user ∧ strategyId = id
    · obtain ⟨rfl, rfl⟩ := target
      cases owned.symm.trans held
      cases listed.symm.trans found
      rw [if_pos ⟨rfl, rfl⟩, get_set_self, compounded, compoundPosition_congr apy]
    · have other : (id, user) ≠ (strategyId, holder) := by
        rintro equal
        cases equal
        exact target ⟨rfl, rfl⟩
      rw [if_neg target, get_set_of_ne _ _ other, owned]
  · by_cases target : id = strategyId
    · subst target
      cases listed.symm.trans found
      exact ⟨updated, get_set_self _ _ _, same.trans apy⟩
    · exact ⟨yielding, (get_set_of_ne _ _ target).trans listed, apy⟩

theorem compoundLoop_holds {ids : List Nat} (apart : ids.Nodup)
    {progress final : CompoundProgress Address}
    (holds : Holds progress.state id user position strategy.apyBps)
    (looped : ids.foldlM (compoundNext env holder) progress = .ok final) :
    Holds final.state id user
      (if holder = user ∧ id ∈ ids then compoundPosition position strategy env.timestamp
        else position) strategy.apyBps := by
  induction ids generalizing progress position with
  | nil =>
    cases looped
    simpa using holds
  | cons head _ ih =>
    obtain ⟨middle, first, rest⟩ := bind_eq_ok.mp looped
    obtain ⟨gone, apart⟩ := nodup_cons.mp apart
    have step : Holds middle.state id user
        (if holder = user ∧ head = id then compoundPosition position strategy env.timestamp
          else position) strategy.apyBps := by
      unfold compoundNext at first
      split at first
      · simp only [State.getStrategy, State.getPosition, call_ok, arith_ok] at first
        obtain ⟨_, found, _, held, _, -, _, -, rfl⟩ := first
        refine holds.write found held ?_ env.timestamp rfl
        rfl
      · next lacks =>
        cases first
        have other : ¬ (holder = user ∧ head = id) := by
          rintro ⟨rfl, rfl⟩
          exact lacks (has_eq_true.mpr ⟨position, holds.held⟩)
        rwa [if_neg other]
    have later := ih apart step rest
    by_cases own : holder = user
    · by_cases here : head = id
      · subst here
        simpa [own, gone] using later
      · have others : id ≠ head := fun same => here same.symm
        simpa [own, here, others] using later
    · simpa [own] using later

/-- A successful keeper call brings a position up to date when it touches it, and leaves it
alone otherwise. -/
theorem dispatch_holds {call : Env Address contract × Operation Address} (books : Books state)
    (keeper : call.2.Compounds) (holds : Holds state id user position strategy.apyBps)
    (ran : dispatch state call = .ok next) :
    Holds next id user
      (if call.2.Touches id user then compoundPosition position strategy call.1.timestamp
        else position) strategy.apyBps := by
  obtain ⟨env, op⟩ := call
  cases op with
  | compound holder strategyId =>
    obtain ⟨⟨_, left⟩, compounded, rfl⟩ := map_eq_ok.mp ran
    simp only [compound, assertInitialized, State.getStrategy, State.getPosition,
      call_ok] at compounded
    obtain ⟨-, got, found, _, held, -, rfl⟩ := compounded
    have wrote (updated : Strategy) (same : updated.apyBps = got.apyBps) :=
      holds.write found held same env.timestamp rfl
    by_cases own : holder = user ∧ strategyId = id
    · rw [if_pos own] at wrote
      rw [if_pos (show Operation.Touches (.compound holder strategyId) id user from own)]
      exact wrote _ rfl
    · rw [if_neg own] at wrote
      rw [if_neg (show ¬ Operation.Touches (.compound holder strategyId) id user from own)]
      exact wrote _ rfl
  | compoundAll holder =>
    obtain ⟨⟨_, _⟩, compounded, rfl⟩ := map_eq_ok.mp ran
    simp only [compoundAll, assertInitialized, call_ok] at compounded
    obtain ⟨-, _, looped, -, -, rfl⟩ := compounded
    obtain ⟨yielding, listed, -⟩ := holds.yields
    have inside := (books.counted id yielding listed).1
    have looped := compoundLoop_holds state.strategyIds_nodup holds looped
    by_cases own : holder = user
    · rw [if_pos ⟨own, inside⟩] at looped
      rwa [if_pos (show Operation.Touches (.compoundAll holder) id user from own)]
    · rw [if_neg (fun both : _ ∧ _ => own both.1)] at looped
      rwa [if_neg (show ¬ Operation.Touches (.compoundAll holder) id user from own)]
  | _ => exact keeper.elim

/-- The times at which successful calls touch a position. -/
def touchTimes (id : Nat) (user : Address) (state : State Address) :
    List (Env Address contract × Operation Address) → List Nat
  | [] => []
  | call :: calls =>
      match dispatch state call with
      | .ok next =>
          if call.2.Touches id user then call.1.timestamp :: touchTimes id user next calls
          else touchTimes id user next calls
      | .error _ => touchTimes id user state calls

theorem touchTimes_sublist (id : Nat) (user : Address) (state : State Address)
    (calls : List (Env Address contract × Operation Address)) :
    (touchTimes id user state calls).Sublist (calls.map fun call => call.1.timestamp) := by
  induction calls generalizing state with
  | nil => exact List.Sublist.slnil
  | cons _ _ ih =>
    rw [touchTimes, map_cons]
    split
    · split
      · exact (ih _).cons_cons _
      · exact (ih _).cons _
    · exact (ih _).cons _

theorem run_holds {calls : List (Env Address contract × Operation Address)} (books : Books state)
    (keepers : ∀ call ∈ calls, call.2.Compounds)
    (holds : Holds state id user position strategy.apyBps) :
    Holds ((machine contract).run state calls) id user
      (compoundedAt strategy position (touchTimes id user state calls)) strategy.apyBps := by
  induction calls generalizing state position with
  | nil => exact holds
  | cons call _ ih =>
    obtain ⟨keeper, others⟩ := forall_mem_cons.mp keepers
    rw [run_cons, touchTimes]
    cases ran : dispatch state call with
    | ok =>
      have step := dispatch_holds books keeper holds ran
      have rest := ih (dispatch_drifts books ran).books others step
      rw [(machine contract).apply_of_ok ran]
      by_cases touched : call.2.Touches id user
      · simpa [touched, compoundedAt] using rest
      · simpa [touched] using rest
    | error failure =>
      have same : (machine contract).apply state call = state := by
        have failed : (machine contract).exec state call = .error failure := ran
        rw [CallMachine.apply, failed]
      rw [same]
      exact ih books others holds

/-- What a user's position in a strategy has grown to. -/
def State.balanceAt (state : State Address) (id : Nat) (user : Address) (now : Nat) : Int :=
  match state.strategies.get id, state.positions.get (id, user) with
  | some strategy, some position => (compoundPosition position strategy now).compoundedBalance
  | _, _ => 0

variable {user : Address} {id : Nat} {state : State Address}

theorem Holds.balanceAt (holds : Holds state id user position strategy.apyBps) (now : Nat) :
    state.balanceAt id user now = (compoundPosition position strategy now).compoundedBalance := by
  obtain ⟨held, _, listed, same⟩ := holds
  unfold State.balanceAt
  rw [held, listed]
  exact congrArg Position.compoundedBalance (compoundPosition_congr same position now)

theorem reachable_books {state : State Address}
    (reachable : (machine contract).Reachable {} state) : Books state := by
  obtain ⟨calls, rfl⟩ := reachable
  apply run_invariant _ books_empty calls
  intro state call next books ran
  have drifting : Drifting _ (RebalancesSettled state call) state next :=
    dispatch_drifts books ran
  exact drifting.books

/-- In every run, and read at any time, a position has not fallen below its principal. -/
theorem principal_covered (calls : List (Env Address contract × Operation Address)) (id : Nat)
    (user : Address) (now : Nat) :
    (((machine contract).run {} calls).positions.get (id, user)).elim 0 Position.deposited ≤
      ((machine contract).run {} calls).balanceAt id user now := by
  have books : Books ((machine contract).run {} calls) := reachable_books ⟨calls, rfl⟩
  unfold State.balanceAt
  cases held : ((machine contract).run {} calls).positions.get (id, user) with
  | none => split <;> trivial
  | some position =>
    obtain ⟨strategy, listed⟩ := books.listed (id, user) position held
    have covered := (compoundPosition_sound strategy now (books.sound _ _ held)).deposited_le
    rw [compoundPosition_deposited] at covered
    rwa [listed]

theorem saturated_earns {balance : Int} {apyBps elapsed : Nat} (representable : elapsed ≤ u64Max)
    (saturated : i128Max < balance * apyBps * elapsed) :
    4 * rewardScale ≤ balance * apyBps / rewardScale * elapsed := by
  have pos : 0 < rewardScale := by decide
  have division := Int.lt_ediv_add_one_mul_self (balance * apyBps) pos
  set whole := balance * apyBps / rewardScale
  have later : (0 : Int) ≤ elapsed := Int.natCast_nonneg elapsed
  have exact : balance * apyBps * elapsed ≤ (whole + 1) * rewardScale * elapsed :=
    mul_le_mul_of_nonneg_right division.le later
  have expanded : (whole + 1) * rewardScale * elapsed =
      rewardScale * (whole * elapsed) + rewardScale * elapsed := by ring
  unfold rewardScale bpsDenom secondsPerYear i128Max u64Max at *
  omega

/-- In every reachable state, whatever keepers call in whatever order until a later time, they leave
a balance no lower than it had been without them exactly when the fractions of a unit that their
calls drop, less the yield on what they reinvest, stay below one unit. After a single call this is
so exactly when the two fractions do not make a unit, or the yield on what the call added makes
up for it. -/
theorem compounding_harmless_iff {state : State Address}
    (reachable : (machine contract).Reachable {} state) {user : Address} {id : Nat}
    {position : Position} {strategy : Strategy}
    (held : state.positions.get (id, user) = some position)
    (listed : state.strategies.get id = some strategy)
    {calls : List (Env Address contract × Operation Address)}
    (keepers : ∀ call ∈ calls, call.2.Compounds) {now : Nat} (representable : now ≤ u64Max)
    (ordered : (position.lastUpdateTs ::
      (calls.map (fun call => call.1.timestamp) ++ [now])).Pairwise (· ≤ ·)) :
    let balance := position.compoundedBalance
    let yearly := balance * strategy.apyBps
    let unharmed :=
      state.balanceAt id user now ≤ ((machine contract).run state calls).balanceAt id user now
    (unharmed ↔ shortfall strategy.apyBps rewardScale balance balance
      (durationsFrom position.lastUpdateTs (touchTimes id user state calls ++ [now])) <
        rewardScale) ∧
    ∀ time, touchTimes id user state calls = [time] →
      let first : Int := (time - position.lastUpdateTs : Nat)
      let second : Int := (now - time : Nat)
      (unharmed ↔ yearly * first % rewardScale + yearly * second % rewardScale < rewardScale ∨
        rewardScale ≤ yearly * second % rewardScale +
          yearly * first / rewardScale * strategy.apyBps * second) := by
  intro balance yearly unharmed
  have books := reachable_books reachable
  have sound := books.sound _ position held
  have nonneg : 0 ≤ position.compoundedBalance :=
    sound.deposited_nonneg.trans sound.deposited_le
  have holds : Holds state id user position strategy.apyBps := ⟨held, strategy, listed, rfl⟩
  have final := run_holds books keepers holds
  set times := touchTimes id user state calls
  have touched : (position.lastUpdateTs :: (times ++ [now])).Pairwise (· ≤ ·) := by
    refine ordered.sublist (List.Sublist.cons_cons _ (List.Sublist.append ?_ (List.Sublist.refl _)))
    exact touchTimes_sublist id user state calls
  have once : state.balanceAt id user now =
      cappedGrow strategy.apyBps rewardScale i128Max balance
        (durationsFrom position.lastUpdateTs (times ++ [now])).sum := by
    rw [holds.balanceAt, sum_durationsFrom touched]
    exact compoundPosition_grows nonneg sound.bounded strategy now
  have inTurn : ((machine contract).run state calls).balanceAt id user now =
      cappedGrowAll strategy.apyBps rewardScale i128Max balance
        (durationsFrom position.lastUpdateTs (times ++ [now])) := by
    have compounded : compoundPosition (compoundedAt strategy position times) strategy now =
        compoundedAt strategy position (times ++ [now]) := by
      rw [compoundedAt, compoundedAt, foldl_append, foldl_cons, foldl_nil]
    rw [final.balanceAt, compounded]
    exact compoundedAt_grows nonneg sound.bounded touched
  have harmless : unharmed ↔ shortfall strategy.apyBps rewardScale balance balance
      (durationsFrom position.lastUpdateTs (times ++ [now])) < rewardScale := by
    change state.balanceAt id user now ≤ _ ↔ _
    rw [once, inTurn]
    apply cappedGrow_sum_le_iff (Int.natCast_nonneg _) (by decide) nonneg sound.bounded
      (durationsFrom_nonneg _ _)
    rw [sum_durationsFrom touched]
    apply saturated_earns
    omega
  refine ⟨harmless, fun time single => ?_⟩
  rw [harmless, single]
  exact shortfall_pair_lt_iff (Int.natCast_nonneg _) (by decide) nonneg
    (Int.natCast_nonneg _) (Int.natCast_nonneg _)

/-- User `2` deposits `1000` at ten percent, which earns a unit every `315360` seconds. -/
def thousandDeposited : List (Env Nat 0 × Operation Nat) :=
  [(signedAt 0, .initializeVault 1), (signedAt 0, .addStrategy 1 "lending" 1000),
    (signedAt 0, .deposit 2 1 1000)]

/-- A keeper compounds just before the first unit is earned: at the time of the second one the
balance is `1001`, and without the call it would have been `1002`. -/
theorem compounding_loses_a_unit :
    let state := (machine 0).run {} thousandDeposited
    state.balanceAt 1 2 630720 = 1002 ∧
      ((machine 0).run state [(signedAt 315359, .compound 2 1)]).balanceAt 1 2 630720 = 1001 := by
  decide

theorem compounding_harmless_iff_at_first_unit :
    let state := (machine 0).run {} thousandDeposited
    state.balanceAt 1 2 630720 ≤
        ((machine 0).run state [(signedAt 315360, .compound 2 1)]).balanceAt 1 2 630720 ↔
      shortfall 1000 rewardScale 1000 1000 [315360, 315360] < rewardScale := by
  have held : ((machine 0).run {} thousandDeposited).positions.get (1, 2) =
      some { deposited := 1000, compoundedBalance := 1000, lastUpdateTs := 0 } := rfl
  have listed : ((machine 0).run {} thousandDeposited).strategies.get 1 =
      some { name := "lending", apyBps := 1000, totalDeposited := 1000, isActive := true,
             pendingRewards := 0, lastCompoundTs := 0 } := rfl
  have keepers : ∀ call ∈ [(signedAt 315360, Operation.compound 2 1)], call.2.Compounds := by
    simp [Operation.Compounds]
  exact (compounding_harmless_iff ⟨thousandDeposited, rfl⟩ held listed keepers (by decide)
    (by decide)).1

/-- The reward of a balance before it is cut down to whole units, in parts of a unit. -/
def accruedParts (balance : Int) (apyBps elapsed : Nat) : Int := balance * apyBps * elapsed

/-- What a settlement counts for the time before a change: the parts that it counts, less those that
it would count had the position been brought up to date at the change. -/
def partsBefore (position : Position) (apyBps changed now : Nat) : Int :=
  accruedParts position.compoundedBalance apyBps (now - position.lastUpdateTs) -
    accruedParts position.compoundedBalance apyBps (now - max changed position.lastUpdateTs)

theorem partsBefore_eq {changed now : Nat} (later : changed ≤ now) (position : Position)
    (apyBps : Nat) :
    partsBefore position apyBps changed now =
      accruedParts position.compoundedBalance apyBps (changed - position.lastUpdateTs) := by
  have split : ((now - position.lastUpdateTs : Nat) : Int) =
      (changed - position.lastUpdateTs : Nat) +
        (now - max changed position.lastUpdateTs : Nat) := by
    omega
  unfold partsBefore accruedParts
  rw [split, mul_add, add_sub_cancel_right]

/-- Whole units of the parts that a settlement counts before and after a change are credited. -/
theorem compoundPosition_credits (nonneg : 0 ≤ position.compoundedBalance)
    (bound : position.compoundedBalance ≤ i128Max) (strategy : Strategy) (changed now : Nat) :
    (compoundPosition position strategy now).compoundedBalance =
      min i128Max (position.compoundedBalance +
        min i128Max (partsBefore position strategy.apyBps changed now +
          accruedParts position.compoundedBalance strategy.apyBps
            (now - max changed position.lastUpdateTs)) / rewardScale) := by
  rw [compoundPosition_grows nonneg bound, partsBefore, sub_add_cancel]
  rfl

/-- A change of a strategy's yield leaves what a position had earned before it as if the position
had been compounded just before exactly when the position was empty or up to date then, or the
yield in force at its next settlement is again the one before the change. A settlement credits
the whole units of what it counts before and after the change. -/
theorem yield_change_spares_past_iff {state next : State Address}
    (reachable : (machine contract).Reachable {} state) {env : Env Address contract}
    {admin : Address} {id newApyBps : Nat}
    (updated : dispatch state (env, .updateStrategyApy admin id newApyBps) = .ok next)
    {user : Address} {position : Position} {strategy current : Strategy}
    (held : state.positions.get (id, user) = some position)
    (listed : state.strategies.get id = some strategy)
    {calls : List (Env Address contract × Operation Address)}
    (unsettled : ((machine contract).run next calls).positions.get (id, user) = some position)
    (inForce : ((machine contract).run next calls).strategies.get id = some current)
    {now : Nat} (later : env.timestamp ≤ now) :
    (calls = [] → current.apyBps = newApyBps) ∧
    (partsBefore position current.apyBps env.timestamp now =
        partsBefore position strategy.apyBps env.timestamp env.timestamp ↔
      position.compoundedBalance = 0 ∨ env.timestamp ≤ position.lastUpdateTs ∨
        current.apyBps = strategy.apyBps) ∧
    ((machine contract).run next calls).balanceAt id user now =
      min i128Max (position.compoundedBalance +
        min i128Max (partsBefore position current.apyBps env.timestamp now +
          accruedParts position.compoundedBalance current.apyBps
            (now - max env.timestamp position.lastUpdateTs)) / rewardScale) ∧
    state.balanceAt id user env.timestamp =
      min i128Max (position.compoundedBalance +
        min i128Max (partsBefore position strategy.apyBps env.timestamp env.timestamp) /
          rewardScale) := by
  have sound := (reachable_books reachable).sound _ position held
  have nonneg : 0 ≤ position.compoundedBalance :=
    sound.deposited_nonneg.trans sound.deposited_le
  have before : Holds state id user position strategy.apyBps := ⟨held, strategy, listed, rfl⟩
  have after : Holds ((machine contract).run next calls) id user position current.apyBps :=
    ⟨unsettled, current, inForce, rfl⟩
  refine ⟨fun none => ?_, ?_, ?_, ?_⟩
  · subst none
    simp only [dispatch, updateStrategyApy, State.getStrategy, call_ok] at updated
    obtain ⟨-, -, -, _, -, rfl⟩ := updated
    obtain rfl := Option.some.inj ((get_set_self _ _ _).symm.trans inForce)
    rfl
  · rw [partsBefore_eq later, partsBefore_eq le_rfl]
    unfold accruedParts
    rw [mul_eq_mul_right_iff, mul_eq_mul_left_iff, Nat.cast_inj, Nat.cast_eq_zero,
      Nat.sub_eq_zero_iff_le]
    tauto
  · rw [after.balanceAt]
    exact compoundPosition_credits nonneg sound.bounded current env.timestamp now
  · rw [before.balanceAt, compoundPosition_credits nonneg sound.bounded strategy env.timestamp]
    have none : env.timestamp - max env.timestamp position.lastUpdateTs = 0 := by omega
    rw [none, accruedParts, Nat.cast_zero, mul_zero, add_zero]

theorem yield_change_spares_past_iff_after_year :
    let position : Position := { deposited := 1000, compoundedBalance := 1000, lastUpdateTs := 0 }
    partsBefore position 2000 31536000 31536001 = partsBefore position 1000 31536000 31536000 ↔
      position.compoundedBalance = 0 ∨ 31536000 ≤ position.lastUpdateTs ∨ 2000 = 1000 := by
  let raised : Strategy :=
    { name := "lending", apyBps := 2000, totalDeposited := 1000, isActive := true,
      pendingRewards := 0, lastCompoundTs := 0 }
  let state := (machine 0).run {} thousandDeposited
  let next := state.setStrategy 1 raised
  have held : state.positions.get (1, 2) =
      some { deposited := 1000, compoundedBalance := 1000, lastUpdateTs := 0 } := rfl
  have listed : state.strategies.get 1 = some { raised with apyBps := 1000 } := rfl
  have updated : dispatch state (signedAt 31536000, .updateStrategyApy 1 1 2000) = .ok next := rfl
  have unsettled : ((machine 0).run next []).positions.get (1, 2) =
      some { deposited := 1000, compoundedBalance := 1000, lastUpdateTs := 0 } := rfl
  have inForce : ((machine 0).run next []).strategies.get 1 = some raised := rfl
  have later : (signedAt 31536000).timestamp ≤ 31536001 := by decide
  exact (yield_change_spares_past_iff ⟨thousandDeposited, rfl⟩ updated held listed unsettled
    inForce later).2.1

/-- After a year at ten percent the yield is doubled. A second later the position is credited `200`
for the year, and had it been compounded just before the change, `100`. -/
theorem raised_yield_doubles_the_past :
    let state := (machine 0).run {} thousandDeposited
    let raise := (signedAt 31536000, .updateStrategyApy 1 1 2000)
    let settle := (signedAt 31536001, .compound 2 1)
    ((machine 0).run state [raise, settle]).balanceAt 1 2 31536001 = 1200 ∧
      ((machine 0).run state [(signedAt 31536000, .compound 2 1), raise, settle]).balanceAt
        1 2 31536001 = 1100 := by
  decide

end SorobanPlayground.YieldFarming
