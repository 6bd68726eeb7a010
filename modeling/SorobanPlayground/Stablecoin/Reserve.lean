import SorobanPlayground.Stablecoin.Supply

/-! # The reserve of the peg stability module

A fee stays in the vault until it is collected, but collecting it lowers the fee vault
only. The vault still counts what was collected, and redemptions pay out of the vault.
-/

namespace SorobanPlayground.Stablecoin

variable {Address : Type} [DecidableEq Address] {contract : Address}

/-- What the peg stability module has taken in, paid for redeemed coins and paid as
fees. -/
structure Flows where
  takenIn : Int := 0
  redeemed : Int := 0
  collected : Int := 0

def Flows.paidOut (flows : Flows) : Int := flows.redeemed + flows.collected

/-- The flows after a successful call, by the amounts that it takes and returns. -/
def Flows.follow (state : State Address) (call : Env Address contract × Operation Address)
    (_ : State Address) (flows : Flows) : Flows :=
  match call.2 with
  | .psmMint _ amount => { flows with takenIn := flows.takenIn + amount }
  | .psmRedeem user amount =>
      match psmRedeem call.1 user amount state with
      | .ok (result, _) => { flows with redeemed := flows.redeemed + result.amountOut }
      | .error _ => flows
  | .psmCollectFees admin =>
      match psmCollectFees call.1 admin state with
      | .ok (fees, _) => { flows with collected := flows.collected + fees }
      | .error _ => flows
  | _ => flows

/-- The stablecoin with the flows of its peg stability module. -/
def accounted (contract : Address) :
    CallMachine (State Address × Flows) (Env Address contract × Operation Address)
      (Failure Error) :=
  (machine contract).withGhost Flows.follow

/-- No more was paid out than was taken in, and the vault covers the fee vault. -/
def Covered (accounts : State Address × Flows) : Prop :=
  accounts.2.paidOut ≤ accounts.2.takenIn ∧ accounts.1.psmFeeVault ≤ accounts.1.psmVaultBalance

/-- A redemption leaves the fees in the vault, those already collected and those not yet;
a collection finds what was collected before in the vault as well. -/
def SparesFees (accounts : State Address × Flows)
    (call : Env Address contract × Operation Address) : Prop :=
  match call.2 with
  | .psmRedeem _ amount =>
      accounts.1.psmFeeVault + amount ≤ accounts.1.psmVaultBalance ∧
        accounts.2.collected + (amount - (amount * accounts.1.psmRedeemFeeBps).tdiv 10000) ≤
          accounts.1.psmVaultBalance
  | .psmCollectFees _ =>
      accounts.2.collected + accounts.1.psmFeeVault ≤ accounts.1.psmVaultBalance
  | _ => True

/-- The vault holds what came in less what was paid for redeemed coins, and the fee vault
is not negative. -/
structure Accounted (accounts : State Address × Flows) : Prop where
  sound : Sound accounts.1
  fees : 0 ≤ accounts.1.psmFeeVault
  vault : accounts.1.psmVaultBalance = accounts.2.takenIn - accounts.2.redeemed

variable {state next : State Address × Flows} {call : Env Address contract × Operation Address}

omit [DecidableEq Address] in
theorem covered_iff (vault : state.1.psmVaultBalance = state.2.takenIn - state.2.redeemed) :
    Covered state ↔ state.2.collected ≤ state.1.psmVaultBalance ∧
      state.1.psmFeeVault ≤ state.1.psmVaultBalance := by
  unfold Covered Flows.paidOut
  omega

theorem accounted_of_still (accounts : Accounted state) (followed : next.2 = state.2)
    (still : ¬ call.2.MovesReserve) (ran : (machine contract).exec state.1 call = .ok next.1) :
    Accounted next ∧ (Covered state → Covered next) := by
  obtain ⟨_, _, changes, quiet⟩ := dispatch_changes accounts.sound ran
  obtain ⟨rfl, rfl⟩ := quiet still
  have vault : next.1.psmVaultBalance = state.1.psmVaultBalance := by
    rw [changes.vault, add_zero]
  have feeVault : next.1.psmFeeVault = state.1.psmFeeVault := by
    rw [changes.feeVault, add_zero]
  refine ⟨⟨changes.sound, ?_, ?_⟩, fun covered => ?_⟩
  · rw [feeVault]
    exact accounts.fees
  · rw [vault, followed]
    exact accounts.vault
  · unfold Covered
    rw [followed, vault, feeVault]
    exact covered

variable {env : Env Address contract} {result : PsmSwapResult}

theorem accounted_psmMint {user : Address} {amount : Int} (accounts : Accounted state)
    (followed : next.2 = { state.2 with takenIn := state.2.takenIn + amount })
    (ran : psmMint env user amount state.1 = .ok (result, next.1)) :
    Accounted next ∧ (Covered state → Covered next) := by
  obtain ⟨_, feeNonneg, _, changes⟩ := psmMint_changes accounts.sound ran
  have vault : next.1.psmVaultBalance = next.2.takenIn - next.2.redeemed := by
    rw [changes.vault, accounts.vault, followed]
    dsimp only
    omega
  have fees : 0 ≤ next.1.psmFeeVault := by
    rw [changes.feeVault]
    exact add_nonneg accounts.fees feeNonneg
  refine ⟨⟨changes.sound, fees, vault⟩, fun covered => ?_⟩
  rw [covered_iff accounts.vault] at covered
  rw [covered_iff vault, changes.vault, changes.feeVault, followed]
  dsimp only
  omega

theorem accounted_psmRedeem {user : Address} {amount : Int} (accounts : Accounted state)
    (followed : next.2 = { state.2 with redeemed := state.2.redeemed + result.amountOut })
    (ran : psmRedeem env user amount state.1 = .ok (result, next.1)) :
    Accounted next ∧ (Covered next ↔
      SparesFees state ((env, .psmRedeem user amount) : _ × Operation Address)) := by
  obtain ⟨_, feeNonneg, -, charged, paid, -, changes⟩ := psmRedeem_changes accounts.sound ran
  have vault : next.1.psmVaultBalance = next.2.takenIn - next.2.redeemed := by
    rw [changes.vault, accounts.vault, followed, paid]
    dsimp only
    omega
  have fees : 0 ≤ next.1.psmFeeVault := by
    rw [changes.feeVault]
    exact add_nonneg accounts.fees feeNonneg
  refine ⟨⟨changes.sound, fees, vault⟩, ?_⟩
  rw [covered_iff vault, changes.vault, changes.feeVault, followed]
  dsimp only [SparesFees]
  rw [← psmFee_eq charged]
  omega

theorem accounted_psmCollectFees {admin : Address} {fees : Int} (accounts : Accounted state)
    (followed : next.2 = { state.2 with collected := state.2.collected + fees })
    (ran : psmCollectFees env admin state.1 = .ok (fees, next.1)) :
    Accounted next ∧ (Covered state → (Covered next ↔
      SparesFees state ((env, .psmCollectFees admin) : _ × Operation Address))) := by
  obtain ⟨rfl, changes⟩ := psmCollectFees_changes accounts.sound ran
  have vault : next.1.psmVaultBalance = next.2.takenIn - next.2.redeemed := by
    rw [changes.vault, accounts.vault, followed]
    exact add_zero _
  have emptied : next.1.psmFeeVault = 0 := by
    rw [changes.feeVault]
    exact add_neg_cancel _
  refine ⟨⟨changes.sound, emptied.ge, vault⟩, fun covered => ?_⟩
  have held := accounts.fees.trans covered.2
  rw [covered_iff vault, changes.vault, emptied, followed]
  dsimp only [SparesFees]
  omega

theorem accounted_step (state : State Address × Flows)
    (call : Env Address contract × Operation Address) (next : State Address × Flows)
    (accounts : Accounted state) (ran : (accounted contract).exec state call = .ok next) :
    Accounted next ∧ (Covered state → (Covered next ↔ SparesFees state call)) := by
  obtain ⟨dispatched, followed⟩ := withGhost_exec_eq_ok.mp ran
  obtain ⟨_, op⟩ := call
  cases op with
  | psmMint =>
    obtain ⟨⟨result, after⟩, minted, rfl⟩ := map_eq_ok.mp dispatched
    obtain ⟨kept, covers⟩ := accounted_psmMint accounts followed minted
    exact ⟨kept, fun covered => iff_of_true (covers covered) trivial⟩
  | psmRedeem =>
    obtain ⟨⟨_, after⟩, redeemed, same⟩ := map_eq_ok.mp dispatched
    simp only [Flows.follow, redeemed] at followed
    subst same
    obtain ⟨kept, covers⟩ := accounted_psmRedeem accounts followed redeemed
    exact ⟨kept, fun _ => covers⟩
  | psmCollectFees =>
    obtain ⟨⟨_, _⟩, collects, same⟩ := map_eq_ok.mp dispatched
    simp only [Flows.follow, collects] at followed
    subst same
    exact accounted_psmCollectFees accounts followed collects
  | _ =>
    obtain ⟨kept, covers⟩ := accounted_of_still accounts followed id dispatched
    exact ⟨kept, fun covered => iff_of_true (covers covered) trivial⟩

/-- No more is paid out than was taken in, with the fee vault covered by the vault, in
every state of a run exactly when its redemptions and collections spare the fees. -/
theorem covered_iff_spares_fees (calls : List (Env Address contract × Operation Address)) :
    (accounted contract).Always Covered ({}, {}) calls ↔
      (accounted contract).Meets SparesFees ({}, {}) calls := by
  have initial : Accounted (({}, {}) : State Address × Flows) := ⟨sound_empty, le_rfl, rfl⟩
  have keeps : ∀ (state : State Address × Flows) call next, Accounted state →
      (accounted contract).exec state call = .ok next → Accounted next := by
    intro state call next accounts ran
    exact (accounted_step state call next accounts ran).1
  apply always_iff_meets keeps _ initial ⟨le_rfl, le_rfl⟩
  intro state call next accounts covered ran
  exact (accounted_step state call next accounts ran).2 covered

/-- Account 2 mints at the module, the admin 1 collects the fee and mints coins for account
2, which redeems coins. -/
def collecting (minted redeemed : Int) : List (Env Nat 0 × Operation Nat) :=
  [(signedEnv 0, .initCoin 1 1), (signedEnv 0, .psmMint 2 10000),
    (signedEnv 0, .psmCollectFees 1), (signedEnv 0, .mint 1 2 minted),
    (signedEnv 0, .psmRedeem 2 redeemed)]

/-- The fee of 10 was collected, and 10000 are paid for 10010 coins: 10010 for 10000. -/
theorem collected_fees_paid_again :
    ¬ (accounted 0).Always Covered ({}, {}) (collecting 20 10010) := by
  intro always
  have paid : ((accounted 0).run ({}, {}) (collecting 20 10010)).2.paidOut = 10010 := rfl
  have taken : ((accounted 0).run ({}, {}) (collecting 20 10010)).2.takenIn = 10000 := rfl
  have covered := always.final.1
  omega

end SorobanPlayground.Stablecoin
