import SorobanPlayground.Library.GroupedTotals
import SorobanPlayground.YieldOptimizer.Contract

/-! # The principal of the strategies

Each strategy's running total is meant to be the principal of its positions. A
withdrawal takes the amount from the position's principal and from the total,
each as far as it goes; a withdrawal of rewards therefore takes other users'
principal out of the total. A move to another strategy adds to a total that
saturates.
-/

namespace SorobanPlayground.YieldOptimizer

open State

variable {Address : Type} [DecidableEq Address] {contract : Address}

/-- A position's balance covers its principal and is representable. -/
structure Position.Sound (position : Position) : Prop where
  deposited_nonneg : 0 ≤ position.deposited
  deposited_le : position.deposited ≤ position.compoundedBalance
  representable : position.compoundedBalance ≤ i128Max

/-- The principal of all positions in a strategy. -/
def State.principalSum (state : State Address) (id : Nat) : Int :=
  state.positions.groupTotal (fun key _ => key.1) Position.deposited id

/-- The principal of a user in a strategy. -/
def State.principal (state : State Address) (id : Nat) (user : Address) : Int :=
  (state.positions.get (id, user)).elim 0 Position.deposited

/-- Each strategy's running total is the principal of its positions. -/
def TotalsExact (state : State Address) : Prop :=
  ∀ id strategy, state.strategies.get id = some strategy →
    strategy.totalDeposited = state.principalSum id

/-- What every reachable state satisfies, exact totals or not. -/
structure Books (state : State Address) : Prop where
  sound : ∀ key position, state.positions.get key = some position → position.Sound
  listed : ∀ key position, state.positions.get key = some position →
    ∃ strategy, state.strategies.get key.1 = some strategy
  counted : ∀ id strategy, state.strategies.get id = some strategy → id ≤ state.strategyCount
  bounded : ∀ id strategy, state.strategies.get id = some strategy →
    0 ≤ strategy.totalDeposited ∧ strategy.totalDeposited ≤ i128Max
  unopened : state.admin = none → state.strategyCount = 0

theorem books_empty : Books ({} : State Address) := by
  constructor
  · intro key position got
    cases got
  · intro key position got
    cases got
  · intro id strategy got
    cases got
  · intro id strategy got
    cases got
  · intro _
    rfl

variable {state : State Address} {id : Nat} {user : Address}

theorem State.principal_of_get {position : Position}
    (got : state.positions.get (id, user) = some position) :
    state.principal id user = position.deposited := by
  unfold principal
  rw [got]
  rfl

section Principal

variable (books : Books state)
include books

theorem Books.principal_nonneg (id : Nat) (user : Address) : 0 ≤ state.principal id user := by
  unfold principal
  cases got : state.positions.get (id, user) with
  | none => exact le_rfl
  | some position => exact (books.sound _ position got).deposited_nonneg

theorem Books.principal_le (exact : TotalsExact state) {id : Nat} (user : Address)
    {strategy : Strategy} (listed : state.strategies.get id = some strategy) :
    state.principal id user ≤ strategy.totalDeposited := by
  cases got : state.positions.get (id, user) with
  | none =>
    unfold principal
    rw [got]
    exact (books.bounded id strategy listed).1
  | some =>
    rw [principal_of_get got, exact id strategy listed]
    have nonneg : ∀ key held, state.positions.get key = some held → 0 ≤ held.deposited :=
      fun key held found => (books.sound key held found).deposited_nonneg
    exact FiniteMap.weight_le_groupTotal
      (fun key value found _ => nonneg key value found) got rfl

end Principal

/-- A call keeps the books, and keeps exact totals exact under a condition only. -/
structure Keeping (condition : Prop) (state next : State Address) : Prop where
  books : Books next
  exact_iff : TotalsExact state → (TotalsExact next ↔ condition)

variable {condition : Prop} {next : State Address}

theorem Keeping.congr {other : Prop} (keeping : Keeping condition state next)
    (same : TotalsExact state → (condition ↔ other)) : Keeping other state next where
  books := keeping.books
  exact_iff exact := (keeping.exact_iff exact).trans (same exact)

theorem Keeping.trans {middle : State Address} (first : Keeping True state middle)
    (second : Keeping condition middle next) : Keeping condition state next where
  books := second.books
  exact_iff exact := second.exact_iff ((first.exact_iff exact).mpr trivial)

theorem keeping_of_same (books : Books state) (strategies : next.strategies = state.strategies)
    (positions : next.positions = state.positions)
    (count : next.strategyCount = state.strategyCount)
    (opened : next.admin = none → state.admin = none) : Keeping True state next where
  books := by
    constructor
    · rw [positions]
      exact books.sound
    · rw [positions, strategies]
      exact books.listed
    · rw [strategies, count]
      exact books.counted
    · rw [strategies]
      exact books.bounded
    · rw [count]
      exact fun none => books.unopened (opened none)
  exact_iff exact := by
    refine iff_true_intro ?_
    unfold TotalsExact principalSum
    rw [strategies, positions]
    exact exact

/-- Replace one strategy's record and write or remove one of its positions. -/
def State.settle (state : State Address) (id : Nat) (user : Address) (updated : Strategy)
    (position : Option Position) : State Address :=
  { state with
    strategies := state.strategies.set id updated
    positions := state.positions.put (id, user) position }

variable {updated : Strategy}

theorem settle_principal_of_ne {other : Nat} {position : Option Position} (ne : other ≠ id) :
    (state.settle id user updated position).principal other user = state.principal other user := by
  have others : (other, user) ≠ (id, user) := fun same => ne (congrArg Prod.fst same)
  unfold principal settle
  rw [FiniteMap.get_put_of_ne _ _ others]

theorem keeping_settle {state : State Address} (books : Books state) {id : Nat} (user : Address)
    {strategy : Strategy} (updated : Strategy) (position : Option Position)
    (got : state.strategies.get id = some strategy)
    (sound : ∀ held, position = some held → held.Sound)
    (bound : 0 ≤ updated.totalDeposited ∧ updated.totalDeposited ≤ i128Max) :
    Keeping (updated.totalDeposited - strategy.totalDeposited =
        position.elim 0 Position.deposited - state.principal id user)
      state (state.settle id user updated position) where
  books := by
    constructor
    · exact FiniteMap.forall_put books.sound sound
    · apply FiniteMap.forall_put
      · intro key held found
        obtain ⟨other, listed⟩ := books.listed key held found
        by_cases here : key.1 = id
        · exact ⟨updated, here ▸ get_set_self _ _ _⟩
        · exact ⟨other, (get_set_of_ne _ _ here).trans listed⟩
      · exact fun held _ => ⟨updated, get_set_self _ _ _⟩
    · exact forall_set books.counted (books.counted id strategy got)
    · exact forall_set books.bounded bound
    · exact books.unopened
  exact_iff exact :=
    FiniteMap.Tallied.put_iff exact got updated (fun _ _ => rfl) (fun _ _ => rfl)

theorem keeping_setStrategy (books : Books state) {strategy : Strategy}
    (got : state.strategies.get id = some strategy)
    (same : updated.totalDeposited = strategy.totalDeposited) :
    Keeping True state (state.setStrategy id updated) where
  books := by
    constructor
    · exact books.sound
    · intro key held found
      obtain ⟨other, listed⟩ := books.listed key held found
      by_cases here : key.1 = id
      · exact ⟨updated, here ▸ get_set_self _ _ _⟩
      · exact ⟨other, (get_set_of_ne _ _ here).trans listed⟩
    · exact forall_set books.counted (books.counted id strategy got)
    · exact forall_set books.bounded (same ▸ books.bounded id strategy got)
    · exact books.unopened
  exact_iff exact := iff_true_intro (FiniteMap.Tallied.set_same exact got same)

section Accrual

variable (position : Position) (strategy : Strategy) (now : Nat)

theorem accrue_deposited : (accrue position strategy now).deposited = position.deposited := by
  simp only [accrue]
  split <;> rfl

theorem grossReward_nonneg {balance : Int} (apyBps elapsed : Nat) (nonneg : 0 ≤ balance) :
    0 ≤ grossReward balance apyBps elapsed := by
  have yearly : 0 ≤ saturateI128 (balance * apyBps) :=
    saturateI128_nonneg (mul_nonneg nonneg (Int.natCast_nonneg _))
  exact Int.tdiv_nonneg (saturateI128_nonneg (mul_nonneg yearly (Int.natCast_nonneg _))) (by decide)

variable {position} (sound : position.Sound)
include sound

theorem Position.Sound.earn {reward : Int} (nonneg : 0 ≤ reward) (time : Nat) :
    Position.Sound { position with
      compoundedBalance := saturateI128 (position.compoundedBalance + reward)
      lastUpdateTs := time } where
  deposited_nonneg := sound.deposited_nonneg
  deposited_le := by
    have covered := sound.deposited_le
    have representable := sound.representable
    refine le_max_of_le_right (le_min (covered.trans representable) ?_)
    change position.deposited ≤ position.compoundedBalance + reward
    omega
  representable := (saturateI128_mem _).2

theorem accrue_sound : (accrue position strategy now).Sound := by
  have nonneg := sound.deposited_nonneg.trans sound.deposited_le
  simp only [accrue]
  split
  · exact sound
  · exact sound.earn (grossReward_nonneg strategy.apyBps _ nonneg) now

theorem compoundPreview_sound {strategy : Strategy} {now : Nat} {profile : AdvancedStrategy}
    {compounded : Position × CompoundResult}
    (previewed : compoundPreview position strategy profile now = .ok compounded) :
    compounded.1.Sound ∧ compounded.1.deposited = position.deposited := by
  simp only [compoundPreview, call_ok] at previewed
  obtain ⟨pays, rfl⟩ := previewed
  rw [not_or] at pays
  exact ⟨sound.earn (not_le.mp pays.1).le now, rfl⟩

end Accrual

/-- A strategy whose total a principal has left, as far as it covers it. -/
def Strategy.without (strategy : Strategy) (principal : Int) : Strategy :=
  { strategy with
    totalDeposited := strategy.totalDeposited - min principal strategy.totalDeposited }

variable {env : Env Address contract} {amount : Int}

theorem accruedPosition_spec (books : Books state) (id : Nat) (user : Address)
    (strategy : Strategy) (now : Nat) :
    (state.accruedPosition id user strategy now).Sound ∧
      (state.accruedPosition id user strategy now).deposited = state.principal id user := by
  unfold accruedPosition principal
  cases got : state.positions.get (id, user) with
  | none => exact ⟨⟨le_rfl, le_rfl, i128Max_nonneg⟩, rfl⟩
  | some position =>
    exact ⟨accrue_sound strategy now (books.sound _ position got), accrue_deposited _ _ _⟩

theorem deposit_keeps (books : Books state)
    (ran : deposit env user id amount state = .ok next) : Keeping True state next := by
  simp only [deposit, getStrategy, call_ok, arith_ok] at ran
  obtain ⟨-, -, -, pos, strategy, got, -, -, fits, totalFits, rfl⟩ := ran
  obtain ⟨sound, _⟩ :=
    accruedPosition_spec books id user strategy env.timestamp
  set position := state.accruedPosition id user strategy env.timestamp
  have covered := sound.deposited_le
  have bound := books.bounded id strategy got
  have settled := keeping_settle books user
    { strategy with totalDeposited := strategy.totalDeposited + amount }
    (some { deposited := position.deposited + amount
            compoundedBalance := position.compoundedBalance + amount
            lastUpdateTs := env.timestamp }) got ?_ ?_
  · refine settled.congr fun _ => iff_true_intro ?_
    change strategy.totalDeposited + amount - strategy.totalDeposited =
      position.deposited + amount - state.principal id user
    omega
  · rintro _ same
    cases same
    exact ⟨add_nonneg sound.deposited_nonneg pos.le, add_le_add_left covered amount, fits.2⟩
  · exact ⟨add_nonneg bound.1 pos.le, totalFits.2⟩

/-- A withdrawal takes the principal that it leaves the total without when it takes no rewards, or
when there is no other principal in the strategy. -/
def TakesPrincipal (state : State Address) (user : Address) (id : Nat) (amount : Int) : Prop :=
  ∀ strategy, state.strategies.get id = some strategy →
    amount ≤ state.principal id user ∨ state.principal id user = strategy.totalDeposited

section

variable (books : Books state)
include books

theorem withdraw_keeps {paid : Int} (ran : withdraw env user id amount state = .ok (paid, next)) :
    Keeping (TakesPrincipal state user id amount) state next := by
  simp only [withdraw, getStrategy, getPosition, call_ok, arith_ok] at ran
  obtain ⟨-, -, -, _, strategy, got, previous, held, _, -, -, -, -, rfl⟩ := ran
  have sound := accrue_sound strategy env.timestamp (books.sound _ previous held)
  have principalIs : state.principal id user =
      (accrue previous strategy env.timestamp).deposited := by
    rw [principal_of_get held, accrue_deposited]
  set position := accrue previous strategy env.timestamp
  have bound := books.bounded id strategy got
  have covered := sound.deposited_le
  have representable := sound.representable
  set left := position.deposited - min amount position.deposited with leftIs
  have lowered : 0 ≤ (strategy.without amount).totalDeposited ∧
      (strategy.without amount).totalDeposited ≤ i128Max := by
    constructor <;> dsimp only [Strategy.without] <;> omega
  have moves : TotalsExact state →
      ((strategy.without amount).totalDeposited - strategy.totalDeposited =
        left - state.principal id user ↔ TakesPrincipal state user id amount) := by
    intro exact
    have part := books.principal_le exact user got
    dsimp only [Strategy.without]
    constructor
    · intro moved other found
      cases found.symm.trans got
      omega
    · intro takes
      have takesHere := takes strategy got
      omega
  by_cases gone : position.compoundedBalance - amount = 0
  · rw [if_pos gone]
    have nothing : left = 0 := by omega
    rw [nothing] at moves
    exact (keeping_settle books user _ none got (by simp) lowered).congr moves
  · rw [if_neg gone]
    refine (keeping_settle books user _ (some _) got ?_ lowered).congr moves
    rintro _ same
    cases same
    constructor <;> dsimp only <;> omega

theorem compound_keeps {balance : Int}
    (ran : compound env user id state = .ok (balance, next)) : Keeping True state next := by
  simp only [compound, getStrategy, getPosition, call_ok] at ran
  obtain ⟨-, -, strategy, got, previous, held, -, rfl⟩ := ran
  have settled := keeping_settle books user { strategy with lastCompoundTs := env.timestamp }
    (some (accrue previous strategy env.timestamp)) got ?_ (books.bounded id strategy got)
  · refine settled.congr fun _ => iff_true_intro ?_
    rw [principal_of_get held]
    change strategy.totalDeposited - strategy.totalDeposited =
      (accrue previous strategy env.timestamp).deposited - previous.deposited
    rw [accrue_deposited, sub_self, sub_self]
  · rintro _ same
    cases same
    exact accrue_sound strategy env.timestamp (books.sound _ previous held)

theorem compoundProfitably_keeps {result : CompoundResult}
    (ran : compoundProfitably env user id state = .ok (result, next)) :
    Keeping True state next := by
  simp only [compoundProfitably, getStrategy, getPosition, call_ok] at ran
  obtain ⟨-, -, strategy, got, -, previous, held, compounded, previewed, -, rfl⟩ := ran
  obtain ⟨sound, sameDeposit⟩ :=
    compoundPreview_sound (books.sound _ previous held) previewed
  have settled := keeping_settle books user { strategy with lastCompoundTs := env.timestamp }
    (some compounded.1) got ?_ (books.bounded id strategy got)
  · refine settled.congr fun _ => iff_true_intro ?_
    rw [principal_of_get held, ← sameDeposit]
    change strategy.totalDeposited - strategy.totalDeposited =
      compounded.1.deposited - compounded.1.deposited
    rw [sub_self, sub_self]
  · rintro _ same
    cases same
    exact sound

theorem keeping_leave (user : Address) {strategy : Strategy}
    (got : state.strategies.get id = some strategy) :
    Keeping True state
      (state.settle id user (strategy.without (state.principal id user)) none) := by
  have nonneg := books.principal_nonneg id user
  have bound := books.bounded id strategy got
  refine (keeping_settle books user _ none got nofun ?_).congr ?_
  · constructor <;> dsimp only [Strategy.without] <;> omega
  · intro exact
    have part := books.principal_le exact user got
    refine iff_true_intro ?_
    dsimp only [Strategy.without, Option.elim_none]
    omega

theorem keeping_arrive (user : Address) {strategy : Strategy}
    (got : state.strategies.get id = some strategy) {position : Position}
    (sound : position.Sound) (own : position.deposited = state.principal id user) {moved : Int}
    (pos : 0 < moved) (representable : moved ≤ i128Max) (now : Nat) :
    Keeping (strategy.totalDeposited + moved ≤ i128Max ∨
        state.principal id user = strategy.totalDeposited) state
      (state.settle id user
        { strategy with totalDeposited := saturateI128 (strategy.totalDeposited + moved) }
        (some { deposited := saturateI128 (position.deposited + moved)
                compoundedBalance := saturateI128 (position.compoundedBalance + moved)
                lastUpdateTs := now })) := by
  have nonneg := sound.deposited_nonneg
  have covered := sound.deposited_le
  have bound := books.bounded id strategy got
  refine (keeping_settle books user _ (some _) got ?_ ?_).congr ?_
  · rintro _ same
    cases same
    exact ⟨saturateI128_nonneg (by omega), saturateI128_mono (by omega), (saturateI128_mem _).2⟩
  · exact ⟨saturateI128_nonneg (by omega), (saturateI128_mem _).2⟩
  · intro exact
    have part := books.principal_le exact user got
    have lowest : i128Min ≤ 0 := by decide
    dsimp only [Option.elim_some]
    unfold saturateI128
    omega

end

/-- The total of the best strategy has room for what is moved there, or has no other principal than
the user's own. -/
def MovesWithinTotal (state : State Address) (user : Address) (fromId maxRisk now : Nat) : Prop :=
  ∀ toId source target position, bestAdvancedStrategy maxRisk state = .ok toId →
    state.strategies.get fromId = some source → state.strategies.get toId = some target →
    state.positions.get (fromId, user) = some position →
    target.totalDeposited + (accrue position source now).compoundedBalance ≤ i128Max ∨
      state.principal toId user = target.totalDeposited

theorem rebalanceToBest_keeps {maxRisk : Nat} {result : RebalanceResult} (books : Books state)
    (ran : rebalanceToBest env user id maxRisk state = .ok (result, next)) :
    Keeping (MovesWithinTotal state user id maxRisk env.timestamp) state next := by
  simp only [rebalanceToBest, getStrategy, getPosition, call_ok] at ran
  obtain ⟨-, -, -, toId, best, ne, source, sourceStored, target, targetStored, -, -,
    previous, held, pos, -, rfl⟩ := ran
  have moved := accrue_sound source env.timestamp (books.sound _ previous held)
  obtain ⟨joined, own⟩ := accruedPosition_spec books toId user target env.timestamp
  -- first the position leaves its strategy, then it arrives in the best one
  have leaves := keeping_leave books user sourceStored
  have targetThere := (get_set_of_ne state.strategies
    (source.without (state.principal id user)) ne).trans targetStored
  have ownThere : principal
      (state.settle id user (source.without (state.principal id user)) none) toId user =
        state.principal toId user :=
    settle_principal_of_ne ne
  have arrives := keeping_arrive leaves.books user targetThere joined (own.trans ownThere.symm)
    pos moved.representable env.timestamp
  rw [ownThere] at arrives
  have left : saturateI128 (source.totalDeposited - min (min
      (accrue previous source env.timestamp).deposited
        (accrue previous source env.timestamp).compoundedBalance) source.totalDeposited) =
      source.totalDeposited - min (state.principal id user) source.totalDeposited := by
    have bound := books.bounded id source sourceStored
    have nonneg := moved.deposited_nonneg
    rw [min_eq_left moved.deposited_le, principal_of_get held, ← accrue_deposited previous
      source env.timestamp]
    exact saturateI128_of_mem (inI128_of_le (by omega) (by omega : _ ≤ i128Max) ⟨by decide, le_rfl⟩)
  rw [left]
  refine (leaves.trans arrives).congr fun _ => ?_
  constructor
  · intro fits otherId otherSource otherTarget position isBest atSource atTarget heldToo
    obtain rfl := Except.ok.inj (isBest.symm.trans best)
    cases atSource.symm.trans sourceStored
    cases atTarget.symm.trans targetStored
    cases heldToo.symm.trans held
    exact fits
  · intro fits
    exact fits toId source target previous best sourceStored targetStored held

theorem addStrategy_keeps {admin : Address} {name : String} {apyBps : Nat} (books : Books state)
    (ran : addStrategy env admin name apyBps state = .ok (id, next)) : Keeping True state next := by
  simp only [addStrategy, assertAdmin, assertInitialized, call_ok, arith_ok] at ran
  obtain ⟨⟨opened, -⟩, -, -, -, -, rfl⟩ := ran
  have fresh : ∀ key position, state.positions.get key = some position →
      key.1 ≠ state.strategyCount + 1 := by
    intro key position got same
    obtain ⟨strategy, listed⟩ := books.listed key position got
    have counted := books.counted _ strategy listed
    omega
  constructor
  · constructor
    · exact books.sound
    · intro key position got
      obtain ⟨strategy, listed⟩ := books.listed key position got
      exact ⟨strategy, (get_set_of_ne _ _ (fresh key position got)).trans listed⟩
    · refine forall_set (fun key strategy got => ?_) le_rfl
      exact (books.counted key strategy got).trans (Nat.le_succ _)
    · exact forall_set books.bounded ⟨le_rfl, i128Max_nonneg⟩
    · intro unopened
      change state.admin = none at unopened
      rw [unopened] at opened
      cases opened
  · exact fun exact => iff_true_intro (FiniteMap.Tallied.set_new exact fresh rfl)

/-- A call moves the principal that its books move. -/
def MovesPrincipal (state : State Address) (call : Env Address contract × Operation Address) :
    Prop :=
  match call.2 with
  | .withdraw user strategyId amount => TakesPrincipal state user strategyId amount
  | .rebalanceToBest user fromStrategyId maxRisk =>
      MovesWithinTotal state user fromStrategyId maxRisk call.1.timestamp
  | _ => True

theorem dispatch_keeps {state next : State Address}
    {call : Env Address contract × Operation Address} (books : Books state)
    (ran : dispatch state call = .ok next) : Keeping (MovesPrincipal state call) state next := by
  obtain ⟨_, op⟩ := call
  cases op with
  | initializeOptimizer =>
    simp only [dispatch, initializeOptimizer, call_ok] at ran
    obtain ⟨unopened, -, -, rfl⟩ := ran
    have none' : state.admin = none := by simpa using unopened
    refine keeping_of_same books rfl rfl (books.unopened none').symm ?_
    intro opened
    cases opened
  | addStrategy =>
    obtain ⟨⟨_, _⟩, added, rfl⟩ := map_eq_ok.mp ran
    exact addStrategy_keeps books added
  | updateApy =>
    simp only [dispatch, updateApy, getStrategy, call_ok] at ran
    obtain ⟨-, -, -, strategy, got, rfl⟩ := ran
    exact keeping_setStrategy books got rfl
  | setStrategyActive =>
    simp only [dispatch, setStrategyActive, getStrategy, call_ok] at ran
    obtain ⟨-, -, _, got, rfl⟩ := ran
    exact keeping_setStrategy books got rfl
  | deposit => exact deposit_keeps books ran
  | withdraw =>
    obtain ⟨⟨_, _⟩, withdrawn, rfl⟩ := map_eq_ok.mp ran
    exact withdraw_keeps books withdrawn
  | compound =>
    obtain ⟨⟨_, _⟩, compounded, rfl⟩ := map_eq_ok.mp ran
    exact compound_keeps books compounded
  | compoundProfitably =>
    obtain ⟨⟨result, _⟩, compounded, rfl⟩ := map_eq_ok.mp ran
    exact compoundProfitably_keeps books compounded
  | rebalanceToBest =>
    obtain ⟨⟨_, _⟩, rebalanced, rfl⟩ := map_eq_ok.mp ran
    exact rebalanceToBest_keeps books rebalanced
  | _ =>
    have same : next.strategies = state.strategies ∧ next.positions = state.positions ∧
        next.strategyCount = state.strategyCount ∧ next.admin = state.admin := by
      apply Outcome.Yields.of_ok ran
      simp only [dispatch, pause, unpause, configureAdvancedStrategy, yields_bind, yields_pure,
        yields_true, and_self]
    exact keeping_of_same books same.1 same.2.1 same.2.2.1 same.2.2.2.symm.trans

/-- Throughout a run every strategy's total is the principal of its positions, exactly when each
withdrawal takes principal alone, or meets no other principal, and each move fits the total. -/
theorem totals_exact_iff_moves_principal
    (calls : List (Env Address contract × Operation Address)) :
    (machine contract).Always TotalsExact {} calls ↔
      (machine contract).Meets MovesPrincipal {} calls := by
  apply always_iff_meets _ _ books_empty
  · intro id strategy got
    cases got
  · intro state call next books ran
    have keeping : Keeping (MovesPrincipal state call) state next := dispatch_keeps books ran
    exact keeping.books
  · intro state call next books exact ran
    have keeping : Keeping (MovesPrincipal state call) state next := dispatch_keeps books ran
    exact keeping.exact_iff exact

/-- Every address authorizes a call at the given time. -/
def signedAt (timestamp : Nat) : Env Nat 0 :=
  { timestamp, auths := [1, 2, 3], contract_silent := zero_notMem_three_signers }

/-- Users `2` and `3` hold `1000` each at ten percent; after a year the first withdraws the `1100`
that its position has grown to. -/
def yearThenWithdraw : List (Env Nat 0 × Operation Nat) :=
  [(signedAt 0, .initializeOptimizer 1), (signedAt 0, .addStrategy 1 "lending" 1000),
    (signedAt 0, .deposit 2 1 1000), (signedAt 0, .deposit 3 1 1000),
    (signedAt 31536000, .withdraw 2 1 1100)]

/-- The withdrawal of rewards takes `100` of the other user's principal out of the total. -/
theorem withdrawn_rewards_lower_the_total :
    let state := (machine 0).run {} yearThenWithdraw
    (state.strategies.get 1).map Strategy.totalDeposited = some 900 ∧
      state.principalSum 1 = 1000 ∧ ¬ (machine 0).Always TotalsExact {} yearThenWithdraw := by
  have total : (((machine 0).run {} yearThenWithdraw).strategies.get 1).map
      Strategy.totalDeposited = some 900 := by decide
  have sum : ((machine 0).run {} yearThenWithdraw).principalSum 1 = 1000 := by decide
  refine ⟨total, sum, fun always => ?_⟩
  obtain ⟨strategy, got, lowered⟩ := Option.map_eq_some_iff.mp total
  have exact := always.final 1 strategy got
  rw [lowered, sum] at exact
  cases exact

end SorobanPlayground.YieldOptimizer
