import SorobanPlayground.Stablecoin.Supply

/-! # Rebases and holders

A rebase rewrites the total supply and leaves every balance as it was, and the share
supply is never read. So a rebase that moves the supply tears it from the balances.
-/

namespace SorobanPlayground.Stablecoin

variable {Address : Type} [DecidableEq Address] {contract : Address}

/-- What a rebase should leave: a supply that is the sum of all balances, the part of
each holder up to one unit, and a contraction within the reserve. -/
structure Rebases (state next : State Address) : Prop where
  backed : next.Exact
  shares : ∀ user, |next.balance user * state.totalSupply - state.balance user * next.totalSupply| ≤
    state.totalSupply
  reserve : state.totalSupply - next.totalSupply ≤ state.reserveBalance

/-- A rebase does what it should. -/
def RebasesHolders (state : State Address) (call : Env Address contract × Operation Address) :
    Prop :=
  ∀ caller next, call.2 = .rebase caller → dispatch state call = .ok next → Rebases state next

/-- The deviation of the price from the target rounds to less than one unit of the supply,
or a contraction finds no reserve. -/
def RoundsAway (state : State Address) (call : Env Address contract × Operation Address) : Prop :=
  ∀ caller currentPrice targetPrice, call.2 = .rebase caller →
    state.currentPrice = some currentPrice → state.targetPrice = some targetPrice →
      state.totalSupply * (|currentPrice - targetPrice| * 1000000).tdiv targetPrice < 1000000 ∨
        currentPrice < targetPrice ∧ state.reserveBalance = 0

theorem supplyChange_spec {supply deviation targetPrice change : Int} (supplied : 0 ≤ supply)
    (deviates : 0 ≤ deviation) (target : 0 < targetPrice)
    (eq : supplyChange supply deviation targetPrice = .ok change) :
    0 ≤ change ∧ (change = 0 ↔ supply * (deviation * 1000000).tdiv targetPrice < 1000000) := by
  simp only [supplyChange, call_ok, arith_ok] at eq
  obtain ⟨-, -, -, -, rfl⟩ := eq
  have scaled : 0 ≤ deviation * 1000000 := by omega
  have ratio : 0 ≤ (deviation * 1000000).tdiv targetPrice :=
    Int.tdiv_nonneg scaled target.le
  have product := mul_nonneg supplied ratio
  rw [Int.tdiv_eq_ediv_of_nonneg product]
  omega

theorem rebasedSupply_spec {supply reserve currentPrice targetPrice newSupply : Int}
    (supplied : 0 ≤ supply) (reserved : 0 ≤ reserve) (target : 0 < targetPrice)
    (eq : rebasedSupply supply reserve currentPrice targetPrice = .ok newSupply) :
    newSupply = supply ↔
      supply * (|currentPrice - targetPrice| * 1000000).tdiv targetPrice < 1000000 ∨
        currentPrice < targetPrice ∧ reserve = 0 := by
  unfold rebasedSupply at eq
  by_cases above : targetPrice < currentPrice
  · rw [if_pos above] at eq
    simp only [bind_eq_ok, arith_ok] at eq
    obtain ⟨-, _, expands, -, rfl⟩ := eq
    have deviates : 0 ≤ currentPrice - targetPrice := by omega
    obtain ⟨-, rounds⟩ := supplyChange_spec supplied deviates target expands
    rw [abs_of_nonneg deviates, ← rounds]
    omega
  · rw [if_neg above] at eq
    by_cases below : currentPrice < targetPrice
    · rw [if_pos below] at eq
      simp only [bind_eq_ok, arith_ok] at eq
      obtain ⟨-, _, contracts, -, rfl⟩ := eq
      have deviates : 0 ≤ targetPrice - currentPrice := by omega
      obtain ⟨_, rounds⟩ := supplyChange_spec supplied deviates target contracts
      rw [abs_sub_comm, abs_of_nonneg deviates, ← rounds]
      split_ifs <;> omega
    · rw [if_neg below] at eq
      cases eq
      have level : currentPrice = targetPrice := by omega
      subst level
      simp

variable {state next : State Address}

theorem supply_nonneg (sound : Sound state) (exact : state.Exact) : 0 ≤ state.totalSupply := by
  rw [exact]
  exact total_nonneg sound.nonneg

/-- A rebase of a supply that is the sum of all balances serves the holders exactly when
it keeps the supply. -/
theorem rebases_iff (sound : Sound state) (exact : state.Exact)
    (userTokens : next.userTokens = state.userTokens) :
    Rebases state next ↔ next.totalSupply = state.totalSupply := by
  have sum : next.tokenSum = state.totalSupply := by
    rw [exact]
    unfold State.tokenSum
    rw [userTokens]
  constructor
  · intro rebases
    exact rebases.backed.trans sum
  · intro same
    refine ⟨same.trans sum.symm, fun user => ?_, ?_⟩
    · unfold State.balance
      rw [same, userTokens, sub_self, abs_zero]
      exact supply_nonneg sound exact
    · rw [same, sub_self]
      exact sound.reserve

theorem rebase_rebases_iff {env : Env Address contract} {caller : Address} {info : RebaseInfo}
    {currentPrice targetPrice : Int} (sound : Sound state) (exact : state.Exact)
    (price : state.currentPrice = some currentPrice) (target : state.targetPrice = some targetPrice)
    (ran : rebase env caller state = .ok (info, next)) :
    Rebases state next ↔
      state.totalSupply * (|currentPrice - targetPrice| * 1000000).tdiv targetPrice < 1000000 ∨
        currentPrice < targetPrice ∧ state.reserveBalance = 0 := by
  obtain ⟨_, _, read, aimed, eq, userTokens, -, -⟩ := rebase_changes sound ran
  cases price.symm.trans read
  cases target.symm.trans aimed
  rw [rebases_iff sound exact userTokens]
  exact rebasedSupply_spec (supply_nonneg sound exact) sound.reserve
    (sound.target targetPrice target) eq

variable {call : Env Address contract × Operation Address}

theorem rebasesHolders_iff_roundsAway (sound : Sound state) (exact : state.Exact)
    (ran : dispatch state call = .ok next) : RebasesHolders state call ↔ RoundsAway state call := by
  obtain ⟨_, _⟩ := call
  constructor
  · rintro holders caller currentPrice targetPrice ⟨⟩ price target
    have serves := holders caller next rfl ran
    obtain ⟨⟨info, _⟩, rebased, rfl⟩ := map_eq_ok.mp ran
    exact (rebase_rebases_iff sound exact price target rebased).mp serves
  · rintro away caller _ ⟨⟩ again
    obtain ⟨⟨_, _⟩, rebased, rfl⟩ := map_eq_ok.mp again
    obtain ⟨currentPrice, targetPrice, price, target, -⟩ := rebase_changes sound rebased
    have rounds := away caller currentPrice targetPrice rfl price target
    exact (rebase_rebases_iff sound exact price target rebased).mpr rounds

omit [DecidableEq Address] in
theorem roundsAway_of_rebaseless (rebaseless : Rebaseless state call) : RoundsAway state call :=
  fun caller _ _ rebases => absurd rebases (rebaseless caller)

theorem dispatch_exact (sound : Sound state) (exact : state.Exact)
    (apart : TransfersApart state call) (away : RoundsAway state call)
    (ran : dispatch state call = .ok next) : next.Exact := by
  by_cases rebases : ∃ caller, call.2 = .rebase caller
  · obtain ⟨caller, rebases⟩ := rebases
    have holders := (rebasesHolders_iff_roundsAway sound exact ran).mpr away
    exact (holders caller next rebases ran).backed
  · have rebaseless : Rebaseless state call := not_exists.mp rebases
    obtain ⟨_, _, changes, -⟩ := dispatch_changes sound ran
    apply (changes.exact_iff exact).mpr
    exact (supplyDrift_eq_zero_iff sound rebaseless ran).mpr apart

/-- In a run without transfers to oneself, all rebases serve the holders exactly when all
of them round away. -/
theorem rebases_holders_iff_rounds_away
    {calls : List (Env Address contract × Operation Address)}
    (apart : (machine contract).Meets TransfersApart {} calls) :
    (machine contract).Meets RebasesHolders {} calls ↔
      (machine contract).Meets RoundsAway {} calls := by
  have keeps : ∀ (state : State Address) call next, Sound state ∧ state.Exact →
      TransfersApart state call → RoundsAway state call →
      (machine contract).exec state call = .ok next → Sound next ∧ next.Exact := by
    rintro state call next ⟨sound, exact⟩ apart away ran
    exact ⟨dispatch_sound state call next sound ran,
      dispatch_exact sound exact apart away ran⟩
  apply CallMachine.meets_congr_of_meets keeps _ ⟨sound_empty, rfl⟩ apart
  rintro _ _ _ ⟨sound, exact⟩ - ran
  exact rebasesHolders_iff_roundsAway sound exact ran

/-- The admin 1 mints coins to account 2, the oracle 1 sets the price to a tenth above the
target, and the supply is rebased. -/
def rebasing (amount : Int) : List (Env Nat 0 × Operation Nat) :=
  [(signedEnv 0, .initCoin 1 1), (signedEnv 0, .mint 1 2 amount),
    (signedEnv 0, .setPrice 1 11000000), (signedEnv 3600, .rebase 2)]

/-- A tenth of nine coins rounds to nothing. -/
theorem rebases_holders_iff_rounds_away_at_nine :
    (machine 0).Meets RebasesHolders {} (rebasing 9) := by
  refine (rebases_holders_iff_rounds_away ?_).mpr ?_
  · exact meets_of_mem (by simp [rebasing, TransfersApart]) _
  · refine ⟨fun _ => roundsAway_of_rebaseless (by simp [Rebaseless]),
      fun _ => roundsAway_of_rebaseless (by simp [Rebaseless]),
      fun _ => roundsAway_of_rebaseless (by simp [Rebaseless]), fun _ => ?_, trivial⟩
    intro caller currentPrice targetPrice _ price target
    have priced : some 11000000 = some currentPrice := price
    have aimed : some 10000000 = some targetPrice := target
    cases priced
    cases aimed
    exact .inl (by decide +kernel)

/-- Account 2 holds all of a supply of a million, and still a million after the rebase to
a supply of 1100000. -/
theorem rebase_leaves_balances : ¬ (machine 0).Meets RebasesHolders {} (rebasing 1000000) := by
  intro meets
  have supply : ((machine 0).run {} (rebasing 1000000)).totalSupply = 1100000 := rfl
  have held : ((machine 0).run {} (rebasing 1000000)).tokenSum = 1000000 := rfl
  have holders := meets.2.2.2.1 ⟨(machine 0).run {} (rebasing 1000000), rfl⟩
  have backed : ((machine 0).run {} (rebasing 1000000)).Exact := (holders 2 _ rfl rfl).backed
  unfold State.Exact at backed
  omega

end SorobanPlayground.Stablecoin
