import SorobanPlayground.Stablecoin.Contract

/-! # The supply and the balances

Every call but a rebase moves the total supply with the sum of all balances, except
for a transfer to oneself: both balances are read before either is written, so the
second write overrides the first and the amount is created.
-/

namespace SorobanPlayground.Stablecoin

open State

variable {Address : Type} [DecidableEq Address] {contract : Address}

/-- The balances of all users. -/
def State.tokenSum (state : State Address) : Int := state.userTokens.total fun _ tokens => tokens

/-- What the total supply exceeds the balances by. -/
def State.drift (state : State Address) : Int := state.totalSupply - state.tokenSum

/-- The total supply is the sum of all balances. -/
def State.Exact (state : State Address) : Prop := state.totalSupply = state.tokenSum

/-- The storage that the initialisation starts from. -/
structure Untouched (state : State Address) : Prop where
  userTokens : ∀ user, state.userTokens.get user = none
  totalSupply : state.totalSupply = 0
  psmDebtCeiling : state.psmDebtCeiling = 0
  psmMintedDebt : state.psmMintedDebt = 0
  psmVaultBalance : state.psmVaultBalance = 0
  psmFeeVault : state.psmFeeVault = 0
  currentPrice : state.currentPrice = none
  oracleAddress : state.oracleAddress = none

/-- Nothing is stored before the initialisation, balances and the reserve are not
negative, the fees are at most five percent and the target price is positive. -/
structure Sound (state : State Address) : Prop where
  nonneg : ∀ user tokens, state.userTokens.get user = some tokens → 0 ≤ tokens
  fees : state.psmMintFeeBps ≤ 500 ∧ state.psmRedeemFeeBps ≤ 500
  target : ∀ targetPrice, state.targetPrice = some targetPrice → 0 < targetPrice
  reserve : 0 ≤ state.reserveBalance
  started : state.admin = none → Untouched state

variable {state : State Address}

theorem tokenSum_setTokens (user : Address) (tokens : Int) :
    (state.setTokens user tokens).tokenSum = state.tokenSum + (tokens - state.balance user) := by
  unfold tokenSum setTokens balance
  rw [total_set_getD _ _ _ _ 0 rfl]
  omega

theorem balance_setTokens (user other : Address) (tokens : Int) :
    (state.setTokens user tokens).balance other =
      if other = user then tokens else state.balance other := by
  unfold setTokens balance
  rw [get_set]
  split_ifs <;> rfl

theorem Sound.balance_nonneg (sound : Sound state) (user : Address) : 0 ≤ state.balance user := by
  unfold balance
  cases stored : state.userTokens.get user with
  | none => exact le_rfl
  | some tokens => exact sound.nonneg user tokens stored

theorem Sound.nonneg_set (sound : Sound state) {user : Address} {tokens : Int}
    (nonneg : 0 ≤ tokens) (other : Address) (stored : Int)
    (found : (state.setTokens user tokens).userTokens.get other = some stored) : 0 ≤ stored :=
  forall_set sound.nonneg nonneg other stored found

variable {amount fee : Int} {feeBps : Nat}

theorem psmFee_eq (eq : psmFee amount feeBps = .ok fee) : fee = (amount * feeBps).tdiv 10000 := by
  simp only [psmFee, call_ok, arith_ok] at eq
  obtain ⟨-, charged⟩ := eq
  exact charged.symm

theorem psmFee_spec (pos : 0 < amount) (bound : feeBps ≤ 500)
    (eq : psmFee amount feeBps = .ok fee) : 0 ≤ fee ∧ fee < amount := by
  obtain rfl := psmFee_eq eq
  have nonneg : 0 ≤ amount * (feeBps : Int) := mul_nonneg pos.le (Int.natCast_nonneg feeBps)
  have small : amount * (feeBps : Int) ≤ amount * 500 :=
    mul_le_mul_of_nonneg_left (by exact_mod_cast bound) pos.le
  rw [Int.tdiv_eq_ediv_of_nonneg nonneg]
  omega

/-- What a call does to the books: it keeps them sound and adds to the drift, to the
vault and to the fee vault. -/
structure Changes (state next : State Address) (drift vault fees : Int) : Prop where
  sound : Sound next
  drift : next.drift = state.drift + drift
  vault : next.psmVaultBalance = state.psmVaultBalance + vault
  feeVault : next.psmFeeVault = state.psmFeeVault + fees

variable {env : Env Address contract} {next : State Address} {user : Address} {stored : Address}

theorem Untouched.of_admin (initialised : state.admin = some stored) (missing : state.admin = none)
    :
    Untouched next :=
  absurd (initialised.symm.trans missing) (Option.some_ne_none stored)

theorem changes_of_same (sound : Sound state) (started : next.admin = none → Untouched next)
    (userTokens : next.userTokens = state.userTokens)
    (totalSupply : next.totalSupply = state.totalSupply)
    (fees : next.psmMintFeeBps = state.psmMintFeeBps ∧ next.psmRedeemFeeBps = state.psmRedeemFeeBps)
    (target : next.targetPrice = state.targetPrice) (reserve : 0 ≤ next.reserveBalance)
    (vault : next.psmVaultBalance = state.psmVaultBalance)
    (feeVault : next.psmFeeVault = state.psmFeeVault) : Changes state next 0 0 0 := by
  refine ⟨⟨?_, ?_, ?_, reserve, started⟩, ?_, ?_, ?_⟩
  · rw [userTokens]
    exact sound.nonneg
  · rw [fees.1, fees.2]
    exact sound.fees
  · rw [target]
    exact sound.target
  · unfold drift tokenSum
    rw [userTokens, totalSupply, add_zero]
  · rw [vault, add_zero]
  · rw [feeVault, add_zero]

theorem drift_written (user : Address) {tokens extra : Int}
    (wrote : next.userTokens = (state.setTokens user tokens).userTokens)
    (supply : next.totalSupply - state.totalSupply = tokens - state.balance user + extra) :
    next.drift = state.drift + extra := by
  have sum : next.tokenSum = state.tokenSum + (tokens - state.balance user) := by
    rw [← tokenSum_setTokens]
    exact congrArg (FiniteMap.total · _) wrote
  unfold drift
  omega

theorem Sound.initialised (sound : Sound state) (held : 0 < state.balance user) :
    state.admin ≠ none := by
  intro missing
  unfold balance at held
  rw [(sound.started missing).userTokens] at held
  exact absurd held (lt_irrefl _)

variable {admin oracle : Address}

section

variable (sound : Sound state)
include sound

theorem initCoin_changes
    (ran : initCoin env admin oracle state = .ok next) : Changes state next 0 0 0 := by
  simp only [initCoin, call_ok] at ran
  obtain ⟨gone, -, rfl⟩ := ran
  rw [Option.isSome_eq_false_iff, Option.isNone_iff_eq_none] at gone
  have untouched := sound.started gone
  have defaults : 10 ≤ 500 ∧ 10 ≤ 500 := ⟨by decide, by decide⟩
  have target : ∀ targetPrice, some 10000000 = some targetPrice → (0 : Int) < targetPrice := by
    rintro _ ⟨⟩
    decide
  refine ⟨⟨sound.nonneg, defaults, target, le_rfl, by simp⟩, ?_, ?_, ?_⟩
  · unfold drift
    rw [untouched.totalSupply, add_zero]
    rfl
  · rw [untouched.psmVaultBalance]
    rfl
  · rw [untouched.psmFeeVault]
    rfl

variable {result : PsmSwapResult}

theorem psmMint_changes (ran : psmMint env user amount state = .ok (result, next)) :
    ∃ fee, 0 ≤ fee ∧ fee < amount ∧ Changes state next 0 amount fee := by
  simp only [psmMint, call_ok, arith_ok] at ran
  obtain ⟨-, _, -, _, -, pos, fee, charged, -, -, room, -, -, -, -, rfl, rfl⟩ := ran
  obtain ⟨feeNonneg, feeSmall⟩ := psmFee_spec pos sound.fees.1 charged
  have received : 0 ≤ state.balance user + (amount - fee) := by
    have held := sound.balance_nonneg user
    omega
  refine ⟨fee, feeNonneg, feeSmall, ⟨sound.nonneg_set received, sound.fees, sound.target,
    sound.reserve, fun missing => ?_⟩, ?_,
    rfl, rfl⟩
  · have untouched := sound.started missing
    rw [untouched.psmDebtCeiling, untouched.psmMintedDebt] at room
    omega
  · refine drift_written user rfl ?_
    dsimp only
    omega

theorem psmRedeem_changes (ran : psmRedeem env user amount state = .ok (result, next)) :
    ∃ fee, 0 ≤ fee ∧ fee < amount ∧ psmFee amount state.psmRedeemFeeBps = .ok fee ∧
      result.amountOut = amount - fee ∧ amount - fee ≤ state.psmVaultBalance ∧
      Changes state next 0 (-(amount - fee)) fee := by
  simp only [psmRedeem, call_ok, arith_ok] at ran
  obtain ⟨-, _, -, _, -, pos, fee, charged, -, backed, held, -, -, -, -, rfl, rfl⟩ := ran
  obtain ⟨feeNonneg, feeSmall⟩ := psmFee_spec pos sound.fees.2 charged
  have initialised := sound.initialised (pos.trans_le held)
  refine ⟨fee, feeNonneg, feeSmall, charged, rfl, backed,
    ⟨sound.nonneg_set (sub_nonneg.mpr held), sound.fees, sound.target, sound.reserve,
    fun missing => absurd missing initialised⟩,
    ?_, ?_, rfl⟩
  · refine drift_written user rfl ?_
    dsimp only
    omega
  · dsimp only
    omega

theorem psmCollectFees_changes {collected : Int}
    (ran : psmCollectFees env admin state = .ok (collected, next)) :
    collected = state.psmFeeVault ∧ Changes state next 0 0 (-state.psmFeeVault) := by
  simp only [psmCollectFees, call_ok] at ran
  obtain ⟨-, _, -, rfl, rfl⟩ := ran
  refine ⟨rfl, ⟨sound.nonneg, sound.fees, sound.target, sound.reserve,
    fun missing => ?_⟩, (add_zero _).symm, (add_zero _).symm,
    (add_neg_cancel _).symm⟩
  have untouched := sound.started missing
  exact { untouched with psmFeeVault := rfl }

theorem psmSetParams_changes {mintFeeBps redeemFeeBps : Nat} {debtCeiling : Int}
    (ran : psmSetParams env admin mintFeeBps redeemFeeBps debtCeiling state = .ok next) :
    Changes state next 0 0 0 := by
  simp only [psmSetParams, assertAdmin, call_ok] at ran
  obtain ⟨-, ⟨_, initialised, -⟩, _, -, rfl⟩ := ran
  refine ⟨⟨sound.nonneg, ?_, sound.target, sound.reserve, fun missing => ?_⟩, (add_zero _).symm,
    (add_zero _).symm, (add_zero _).symm⟩
  · have small : mintFeeBps ≤ 500 ∧ redeemFeeBps ≤ 500 := by omega
    exact small
  · exact Untouched.of_admin initialised missing

end

variable {destination : Address}

theorem mint_changes (sound : Sound state)
    (ran : mint env admin destination amount state = .ok next) : Changes state next 0 0 0 := by
  simp only [mint, assertAdmin, call_ok, arith_ok] at ran
  obtain ⟨-, ⟨_, initialised, -⟩, _, -, pos, -, -, rfl⟩ := ran
  have received := add_nonneg (sound.balance_nonneg destination) pos.le
  refine ⟨⟨sound.nonneg_set received, sound.fees, sound.target, sound.reserve,
    fun missing => ?_⟩, ?_, (add_zero _).symm,
    (add_zero _).symm⟩
  · exact Untouched.of_admin initialised missing
  · refine drift_written destination rfl ?_
    dsimp only
    omega

variable {source : Address}

section

variable (sound : Sound state)
include sound

theorem burn_changes (ran : burn env source amount state = .ok next) :
    Changes state next 0 0 0 := by
  simp only [burn, call_ok, arith_ok] at ran
  obtain ⟨-, _, -, pos, held, -, -, rfl⟩ := ran
  have initialised := sound.initialised (pos.trans_le held)
  refine ⟨⟨sound.nonneg_set (sub_nonneg.mpr held), sound.fees, sound.target, sound.reserve,
    fun missing =>
    absurd missing initialised⟩, ?_, (add_zero _).symm, (add_zero _).symm⟩
  refine drift_written source rfl ?_
  dsimp only
  omega

theorem transfer_changes (ran : transfer env source destination amount state = .ok next) :
    0 < amount ∧ Changes state next (if source = destination then -amount else 0) 0 0 := by
  simp only [transfer, call_ok, arith_ok] at ran
  obtain ⟨-, _, -, pos, held, -, -, rfl⟩ := ran
  have initialised := sound.initialised (pos.trans_le held)
  have received := add_nonneg (sound.balance_nonneg destination) pos.le
  have left : 0 ≤ state.balance source - amount := sub_nonneg.mpr held
  refine ⟨pos, ⟨forall_set (sound.nonneg_set left) received, sound.fees,
    sound.target, sound.reserve, fun missing =>
    absurd missing initialised⟩, ?_, (add_zero _).symm, (add_zero _).symm⟩
  have first : (state.setTokens source (state.balance source - amount)).drift =
      state.drift + amount := by
    apply drift_written source rfl
    dsimp only [setTokens]
    omega
  have second : ((state.setTokens source (state.balance source - amount)).setTokens destination
      (state.balance destination + amount)).drift = (state.drift + amount) +
        (if source = destination then -(amount + amount) else -amount) := by
    rw [← first]
    apply drift_written destination rfl
    rw [balance_setTokens]
    dsimp only [setTokens]
    by_cases own : source = destination
    · subst own
      rw [if_pos rfl, if_pos rfl]
      omega
    · rw [if_neg own, if_neg (Ne.symm own)]
      omega
  rw [second]
  split_ifs <;> omega

theorem setPrice_changes {newPrice : Int}
    (ran : setPrice env oracle newPrice state = .ok next) : Changes state next 0 0 0 := by
  simp only [setPrice, assertOracle, call_ok] at ran
  obtain ⟨-, ⟨stored, known, -⟩, -, rfl⟩ := ran
  refine changes_of_same sound (fun missing => ?_) rfl rfl ⟨rfl, rfl⟩ rfl sound.reserve rfl rfl
  exact absurd (known.symm.trans (sound.started missing).oracleAddress) (Option.some_ne_none stored)

theorem rebase_changes {caller : Address} {info : RebaseInfo}
    (ran : rebase env caller state = .ok (info, next)) :
    ∃ currentPrice targetPrice, state.currentPrice = some currentPrice ∧
      state.targetPrice = some targetPrice ∧
      rebasedSupply state.totalSupply state.reserveBalance currentPrice targetPrice =
        .ok next.totalSupply ∧
      next.userTokens = state.userTokens ∧ next.reserveBalance = state.reserveBalance ∧
      Changes state next (next.totalSupply - state.totalSupply) 0 0 := by
  simp only [rebase, call_ok, arith_ok, orTrap_eq_ok] at ran
  obtain ⟨-, -, -, _, -, currentPrice, price, targetPrice, target, _, eq, -, rfl⟩ := ran
  refine ⟨currentPrice, targetPrice, price, target, eq, rfl, rfl,
    ⟨sound.nonneg, sound.fees, sound.target, sound.reserve,
    fun missing => ?_⟩, ?_, (add_zero _).symm, (add_zero _).symm⟩
  · exact absurd (price.symm.trans (sound.started missing).currentPrice)
      (Option.some_ne_none currentPrice)
  · unfold drift tokenSum
    dsimp only
    omega

theorem admin_changes (initialised : state.admin = some stored)
    (admin : next.admin = state.admin) (userTokens : next.userTokens = state.userTokens)
    (totalSupply : next.totalSupply = state.totalSupply)
    (fees : next.psmMintFeeBps = state.psmMintFeeBps ∧ next.psmRedeemFeeBps = state.psmRedeemFeeBps)
    (target : next.targetPrice = state.targetPrice) (reserve : 0 ≤ next.reserveBalance)
    (vault : next.psmVaultBalance = state.psmVaultBalance)
    (feeVault : next.psmFeeVault = state.psmFeeVault) : Changes state next 0 0 0 :=
  changes_of_same sound (fun missing => Untouched.of_admin initialised (admin ▸ missing)) userTokens
    totalSupply fees target reserve vault feeVault

end

/-- The amount that a call moves the supply away from the balances by. -/
def supplyDrift (state : State Address) (operation : Operation Address) (next : State Address) :
    Int :=
  match operation with
  | .transfer source destination amount => if source = destination then -amount else 0
  | .rebase _ => next.totalSupply - state.totalSupply
  | _ => 0

def Operation.MovesReserve : Operation Address → Prop
  | .psmMint _ _ | .psmRedeem _ _ | .psmCollectFees _ => True
  | _ => False

variable {call : Env Address contract × Operation Address}

theorem dispatch_changes (sound : Sound state) (ran : dispatch state call = .ok next) :
    ∃ vault fees, Changes state next (supplyDrift state call.2 next) vault fees ∧
      (¬ call.2.MovesReserve → vault = 0 ∧ fees = 0) := by
  obtain ⟨_, op⟩ := call
  have still : ¬ op.MovesReserve → (0 : Int) = 0 ∧ (0 : Int) = 0 := fun _ => ⟨rfl, rfl⟩
  cases op with
  | initCoin => exact ⟨_, _, initCoin_changes sound ran, still⟩
  | psmSetParams =>
    exact ⟨_, _, psmSetParams_changes sound ran, still⟩
  | psmMint =>
    obtain ⟨⟨result, _⟩, minted, rfl⟩ := map_eq_ok.mp ran
    obtain ⟨fee, -, -, changes⟩ := psmMint_changes sound minted
    exact ⟨_, _, changes, (absurd trivial ·)⟩
  | psmRedeem =>
    obtain ⟨⟨_, _⟩, redeemed, rfl⟩ := map_eq_ok.mp ran
    obtain ⟨_, -, -, -, -, -, changes⟩ := psmRedeem_changes sound redeemed
    exact ⟨_, _, changes, (absurd trivial ·)⟩
  | psmCollectFees =>
    obtain ⟨⟨_, _⟩, collects, rfl⟩ := map_eq_ok.mp ran
    exact ⟨_, _, (psmCollectFees_changes sound collects).2, (absurd trivial ·)⟩
  | mint => exact ⟨_, _, mint_changes sound ran, still⟩
  | burn => exact ⟨_, _, burn_changes sound ran, still⟩
  | transfer => exact ⟨_, _, (transfer_changes sound ran).2, still⟩
  | setPrice => exact ⟨_, _, setPrice_changes sound ran, still⟩
  | rebase =>
    obtain ⟨⟨_, _⟩, rebased, rfl⟩ := map_eq_ok.mp ran
    obtain ⟨_, _, -, -, -, -, -, changes⟩ := rebase_changes sound rebased
    exact ⟨_, _, changes, still⟩
  | psmSetPaused =>
    simp only [dispatch, psmSetPaused, assertAdmin, call_ok] at ran
    obtain ⟨_, ⟨stored, initialised, -⟩, rfl⟩ := ran
    refine ⟨_, _, ?_, still⟩
    exact admin_changes sound initialised rfl rfl rfl ⟨rfl, rfl⟩ rfl sound.reserve rfl rfl
  | pause =>
    simp only [dispatch, pause, assertAdmin, call_ok] at ran
    obtain ⟨_, ⟨stored, initialised, -⟩, _, -, rfl⟩ := ran
    refine ⟨_, _, ?_, still⟩
    exact admin_changes sound initialised rfl rfl rfl ⟨rfl, rfl⟩ rfl sound.reserve rfl rfl
  | unpause =>
    simp only [dispatch, unpause, assertAdmin, call_ok] at ran
    obtain ⟨_, ⟨stored, initialised, -⟩, _, -, rfl⟩ := ran
    refine ⟨_, _, ?_, still⟩
    exact admin_changes sound initialised rfl rfl rfl ⟨rfl, rfl⟩ rfl sound.reserve rfl rfl
  | addReserve =>
    simp only [dispatch, addReserve, assertAdmin, call_ok, arith_ok] at ran
    obtain ⟨-, ⟨stored, initialised, -⟩, pos, -, rfl⟩ := ran
    have reserve := add_nonneg sound.reserve pos.le
    refine ⟨_, _, ?_, still⟩
    exact admin_changes sound initialised rfl rfl rfl ⟨rfl, rfl⟩ rfl reserve rfl rfl
  | withdrawReserve _ amount =>
    simp only [dispatch, withdrawReserve, assertAdmin, call_ok, arith_ok] at ran
    obtain ⟨-, ⟨_, initialised, -⟩, -, held, -, rfl⟩ := ran
    have reserve : 0 ≤ state.reserveBalance - amount := sub_nonneg.mpr held
    refine ⟨_, _, ?_, still⟩
    exact admin_changes sound initialised rfl rfl rfl ⟨rfl, rfl⟩ rfl reserve rfl rfl

/-- A call does not rebase. -/
def Rebaseless (_ : State Address) (call : Env Address contract × Operation Address) : Prop :=
  ∀ caller, call.2 ≠ .rebase caller

/-- A call does not transfer from an account to itself. -/
def TransfersApart (_ : State Address) (call : Env Address contract × Operation Address) : Prop :=
  ∀ account amount, call.2 ≠ .transfer account account amount

/-- The total supply is the sum of all balances, and no balance is negative. -/
def State.Backed (state : State Address) : Prop :=
  state.Exact ∧ ∀ user, 0 ≤ state.balance user

section

omit [DecidableEq Address]

theorem exact_iff_drift : state.Exact ↔ state.drift = 0 := by
  unfold State.Exact drift
  omega

theorem Changes.exact_iff [DecidableEq Address] {drift vault fees : Int}
    (changes : Changes state next drift vault fees) (exact : state.Exact) :
    next.Exact ↔ drift = 0 := by
  rw [exact_iff_drift] at exact ⊢
  rw [changes.drift, exact, zero_add]

end

theorem supplyDrift_eq_zero_iff (sound : Sound state) (rebaseless : Rebaseless state call)
    (ran : dispatch state call = .ok next) :
    supplyDrift state call.2 next = 0 ↔ TransfersApart state call := by
  obtain ⟨_, op⟩ := call
  cases op with
  | transfer source _ amount =>
    have pos := (transfer_changes sound ran).1
    constructor
    · rintro same _ _ ⟨⟩
      have drift : -amount = 0 := (if_pos rfl).symm.trans same
      omega
    · intro apart
      apply if_neg
      rintro rfl
      exact apart source amount rfl
  | rebase caller => exact absurd rfl (rebaseless caller)
  | _ => exact iff_of_true rfl fun _ _ => nofun

theorem dispatch_sound (state : State Address) (call : Env Address contract × Operation Address)
    (next : State Address) (sound : Sound state)
    (ran : (machine contract).exec state call = .ok next) : Sound next := by
  obtain ⟨_, _, changes, -⟩ := dispatch_changes sound ran
  exact changes.sound

theorem sound_empty : Sound ({} : State Address) where
  nonneg := by simp
  fees := by
    have defaults : 10 ≤ 500 ∧ 10 ≤ 500 := ⟨by decide, by decide⟩
    exact defaults
  target := nofun
  reserve := le_rfl
  started := fun _ => ⟨fun _ => get_empty _, rfl, rfl, rfl, rfl, rfl, rfl, rfl⟩

/-- Without a rebase the total supply is the sum of all balances in every state of a
run exactly when no transfer of the run is from an account to itself. -/
theorem backed_iff_transfers_apart {calls : List (Env Address contract × Operation Address)}
    (rebaseless : ∀ call ∈ calls, ∀ caller, call.2 ≠ .rebase caller) :
    (machine contract).Always State.Backed {} calls ↔
      (machine contract).Meets TransfersApart {} calls := by
  have exact : ∀ (state : State Address) call next, Sound state → state.Backed →
      Rebaseless state call → (machine contract).exec state call = .ok next →
      (next.Backed ↔ TransfersApart state call) := by
    intro state call next sound backed quiet ran
    obtain ⟨_, _, changes, -⟩ := dispatch_changes sound ran
    rw [← supplyDrift_eq_zero_iff sound quiet ran, ← changes.exact_iff backed.1]
    exact and_iff_left changes.sound.balance_nonneg
  have initial : State.Backed ({} : State Address) := ⟨rfl, sound_empty.balance_nonneg⟩
  exact always_iff_meets_of_meets dispatch_sound exact sound_empty initial
    (meets_of_mem (fun call mem _ => rebaseless call mem) _)

/-- The addresses 1 and 2 authorize at a time. -/
def signedEnv (timestamp : Nat) : Env Nat 0 where
  timestamp
  auths := [1, 2]
  contract_silent := zero_notMem_two_signers

/-- The admin 1 mints 100 coins to account 2, which transfers 40 of them. -/
def transferring (destination : Nat) : List (Env Nat 0 × Operation Nat) :=
  [(signedEnv 0, .initCoin 1 1), (signedEnv 0, .mint 1 2 100),
    (signedEnv 0, .transfer 2 destination 40)]

/-- A transfer to another account leaves the supply backed. -/
theorem backed_iff_transfers_apart_at_transfer :
    (machine 0).Always State.Backed {} (transferring 1) := by
  apply (backed_iff_transfers_apart (by simp [transferring])).mpr
  exact meets_of_mem (by simp [transferring, TransfersApart]) _

/-- Account 2 transfers 40 coins to itself and holds 140 of a supply of 100. -/
theorem self_transfer_creates_coins :
    (∀ call ∈ transferring 2, ∀ caller, call.2 ≠ .rebase caller) ∧
      ¬ (machine 0).Always State.Backed {} (transferring 2) := by
  refine ⟨by simp [transferring], fun always => ?_⟩
  have held : ((machine 0).run {} (transferring 2)).tokenSum = 140 := rfl
  have supply : ((machine 0).run {} (transferring 2)).totalSupply = 100 := rfl
  have exact := always.final.1
  unfold State.Exact at exact
  omega

end SorobanPlayground.Stablecoin
