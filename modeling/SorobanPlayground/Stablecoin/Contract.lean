import SorobanPlayground.Host

/-! # The algorithmic stablecoin

The admin mints coins, holders burn and transfer them, and a rebase moves the supply
towards the target price. The peg stability module mints coins against a reserve and
redeems them for it, both at a fee that stays in the vault until it is collected.
-/

namespace SorobanPlayground.Stablecoin

inductive Error where
  | unauthorized
  | contractPaused
  | alreadyInState
  | notInitialized
  | invalidAmount
  | insufficientBalance
  | rebaseTooFrequent
  | psmPaused
  | psmDebtCeilingExceeded
  | psmInsufficientReserve
  | invalidFeeBps
  | invalidDebtCeiling
  deriving DecidableEq, Repr

structure RebaseInfo where
  oldSupply : Int
  newSupply : Int
  price : Int
  timestamp : Nat
  deriving DecidableEq, Repr

/-- What a swap at the peg stability module returns. -/
structure PsmSwapResult where
  amountIn : Int
  amountOut : Int
  feeCollected : Int
  vaultBalance : Int
  mintedDebt : Int
  deriving DecidableEq, Repr

structure State (Address : Type) where
  admin : Option Address := none
  targetPrice : Option Int := none
  currentPrice : Option Int := none
  totalSupply : Int := 0
  shareSupply : Int := 0
  userTokens : FiniteMap Address Int := ∅
  paused : Bool := false
  lastRebaseTime : Nat := 0
  reserveBalance : Int := 0
  oracleAddress : Option Address := none
  rebaseCooldown : Nat := 3600
  psmPaused : Bool := false
  psmMintFeeBps : Nat := 10
  psmRedeemFeeBps : Nat := 10
  psmDebtCeiling : Int := 0
  psmMintedDebt : Int := 0
  psmVaultBalance : Int := 0
  psmFeeVault : Int := 0

variable {Address : Type} [DecidableEq Address] {contract : Address}

def State.balance (state : State Address) (user : Address) : Int :=
  (state.userTokens.get user).getD 0

def State.setTokens (state : State Address) (user : Address) (tokens : Int) : State Address :=
  { state with userTokens := state.userTokens.set user tokens }

variable (env : Env Address contract) (state : State Address)

def assertAdmin (caller : Address) : Outcome Error Unit := do
  let admin ← orError state.admin .notInitialized
  ensure (admin = caller) .unauthorized

def assertOracle (caller : Address) : Outcome Error Unit := do
  let oracle ← orError state.oracleAddress .notInitialized
  ensure (oracle = caller) .unauthorized

def assertNotPaused : Outcome Error Unit := ensure (state.paused = false) .contractPaused

def assertPsmNotPaused : Outcome Error Unit := ensure (state.psmPaused = false) .psmPaused

def initCoin (admin oracle : Address) (state : State Address) : Outcome Error (State Address) := do
  ensure (state.admin.isSome = false) .alreadyInState
  requireAuth env admin
  return { state with
    admin := some admin
    oracleAddress := some oracle
    targetPrice := some 10000000
    currentPrice := some 10000000
    totalSupply := 0
    shareSupply := 1000000000
    paused := false
    lastRebaseTime := 0
    reserveBalance := 0
    rebaseCooldown := 3600
    psmPaused := false
    psmMintFeeBps := 10
    psmRedeemFeeBps := 10
    psmDebtCeiling := 1000000000000
    psmMintedDebt := 0
    psmVaultBalance := 0
    psmFeeVault := 0 }

def psmSetParams (admin : Address) (mintFeeBps redeemFeeBps : Nat) (debtCeiling : Int)
    (state : State Address) : Outcome Error (State Address) := do
  requireAuth env admin
  assertAdmin state admin
  ensure (¬ (500 < mintFeeBps ∨ 500 < redeemFeeBps)) .invalidFeeBps
  ensure (0 < debtCeiling) .invalidDebtCeiling
  return { state with
    psmMintFeeBps := mintFeeBps, psmRedeemFeeBps := redeemFeeBps, psmDebtCeiling := debtCeiling }

def psmSetPaused (admin : Address) (paused : Bool) (state : State Address) :
    Outcome Error (State Address) := do
  requireAuth env admin
  assertAdmin state admin
  return { state with psmPaused := paused }

/-- The fee on an amount, in basis points and rounded down. -/
def psmFee (amount : Int) (feeBps : Nat) : Outcome Error Int := do
  let product ← checkedMul .trap amount feeBps
  return product.tdiv 10000

def psmMint (user : Address) (amount : Int) (state : State Address) :
    Outcome Error (PsmSwapResult × State Address) := do
  requireAuth env user
  assertNotPaused state
  assertPsmNotPaused state
  ensure (0 < amount) .invalidAmount
  let feeCollected ← psmFee amount state.psmMintFeeBps
  let amountOut ← checkedSub .trap amount feeCollected
  let mintedDebt ← checkedAdd .trap state.psmMintedDebt amountOut
  ensure (mintedDebt ≤ state.psmDebtCeiling) .psmDebtCeilingExceeded
  let vaultBalance ← checkedAdd .trap state.psmVaultBalance amount
  let feeVault ← checkedAdd .trap state.psmFeeVault feeCollected
  let tokens ← checkedAdd .trap (state.balance user) amountOut
  let totalSupply ← checkedAdd .trap state.totalSupply amountOut
  return ({ amountIn := amount, amountOut, feeCollected, vaultBalance, mintedDebt },
    { state.setTokens user tokens with
      totalSupply, psmMintedDebt := mintedDebt, psmVaultBalance := vaultBalance,
      psmFeeVault := feeVault })

def debtAfter (mintedDebt amount : Int) : Int :=
  if amount < mintedDebt then mintedDebt - amount else 0

def psmRedeem (user : Address) (amount : Int) (state : State Address) :
    Outcome Error (PsmSwapResult × State Address) := do
  requireAuth env user
  assertNotPaused state
  assertPsmNotPaused state
  ensure (0 < amount) .invalidAmount
  let feeCollected ← psmFee amount state.psmRedeemFeeBps
  let amountOut ← checkedSub .trap amount feeCollected
  ensure (amountOut ≤ state.psmVaultBalance) .psmInsufficientReserve
  ensure (amount ≤ state.balance user) .insufficientBalance
  let tokens ← checkedSub .trap (state.balance user) amount
  let totalSupply ← checkedSub .trap state.totalSupply amount
  let mintedDebt := debtAfter state.psmMintedDebt amount
  let vaultBalance ← checkedSub .trap state.psmVaultBalance amountOut
  let feeVault ← checkedAdd .trap state.psmFeeVault feeCollected
  return ({ amountIn := amount, amountOut, feeCollected, vaultBalance, mintedDebt },
    { state.setTokens user tokens with
      totalSupply, psmMintedDebt := mintedDebt, psmVaultBalance := vaultBalance,
      psmFeeVault := feeVault })

def psmCollectFees (admin : Address) (state : State Address) :
    Outcome Error (Int × State Address) := do
  requireAuth env admin
  assertAdmin state admin
  return (state.psmFeeVault, { state with psmFeeVault := 0 })

def mint (admin destination : Address) (amount : Int) (state : State Address) :
    Outcome Error (State Address) := do
  requireAuth env admin
  assertAdmin state admin
  assertNotPaused state
  ensure (0 < amount) .invalidAmount
  let tokens ← checkedAdd .trap (state.balance destination) amount
  let totalSupply ← checkedAdd .trap state.totalSupply amount
  return { state.setTokens destination tokens with totalSupply }

def burn (source : Address) (amount : Int) (state : State Address) :
    Outcome Error (State Address) := do
  requireAuth env source
  assertNotPaused state
  ensure (0 < amount) .invalidAmount
  ensure (amount ≤ state.balance source) .insufficientBalance
  let tokens ← checkedSub .trap (state.balance source) amount
  let totalSupply ← checkedSub .trap state.totalSupply amount
  return { state.setTokens source tokens with totalSupply }

/-- Both balances are read before either is written. -/
def transfer (source destination : Address) (amount : Int) (state : State Address) :
    Outcome Error (State Address) := do
  requireAuth env source
  assertNotPaused state
  ensure (0 < amount) .invalidAmount
  ensure (amount ≤ state.balance source) .insufficientBalance
  let left ← checkedSub .trap (state.balance source) amount
  let received ← checkedAdd .trap (state.balance destination) amount
  return (state.setTokens source left).setTokens destination received

def setPrice (oracle : Address) (newPrice : Int) (state : State Address) :
    Outcome Error (State Address) := do
  requireAuth env oracle
  assertOracle state oracle
  ensure (0 < newPrice) .invalidAmount
  return { state with currentPrice := some newPrice }

/-- A part of the supply in millionths: the deviation of the price over the target. -/
def supplyChange (supply deviation targetPrice : Int) : Outcome Error Int := do
  let scaled ← checkedMul .trap deviation 1000000
  let ratio ← checkedDiv .trap scaled targetPrice
  let product ← checkedMul .trap supply ratio
  return product.tdiv 1000000

/-- The supply after a rebase: it grows above the target price, and shrinks below it
by at most the reserve. -/
def rebasedSupply (supply reserve currentPrice targetPrice : Int) : Outcome Error Int :=
  if targetPrice < currentPrice then do
    let deviation ← checkedSub .trap currentPrice targetPrice
    let expansion ← supplyChange supply deviation targetPrice
    checkedAdd .trap supply expansion
  else if currentPrice < targetPrice then do
    let deviation ← checkedSub .trap targetPrice currentPrice
    let maxContraction ← supplyChange supply deviation targetPrice
    checkedSub .trap supply (if reserve < maxContraction then reserve else maxContraction)
  else .ok supply

def rebase (caller : Address) (state : State Address) :
    Outcome Error (RebaseInfo × State Address) := do
  requireAuth env caller
  assertNotPaused state
  let nextRebase ← inUnsigned u64Max .trap (state.lastRebaseTime + state.rebaseCooldown)
  ensure (nextRebase ≤ env.timestamp) .rebaseTooFrequent
  let currentPrice ← orTrap state.currentPrice
  let targetPrice ← orTrap state.targetPrice
  let newSupply ←
    rebasedSupply state.totalSupply state.reserveBalance currentPrice targetPrice
  let info : RebaseInfo :=
    { oldSupply := state.totalSupply, newSupply, price := currentPrice, timestamp := env.timestamp }
  return (info, { state with totalSupply := newSupply, lastRebaseTime := env.timestamp })

def pause (admin : Address) (state : State Address) : Outcome Error (State Address) := do
  requireAuth env admin
  assertAdmin state admin
  ensure (state.paused = false) .alreadyInState
  return { state with paused := true }

def unpause (admin : Address) (state : State Address) : Outcome Error (State Address) := do
  requireAuth env admin
  assertAdmin state admin
  ensure (state.paused = true) .alreadyInState
  return { state with paused := false }

def addReserve (admin : Address) (amount : Int) (state : State Address) :
    Outcome Error (State Address) := do
  requireAuth env admin
  assertAdmin state admin
  ensure (0 < amount) .invalidAmount
  let reserveBalance ← checkedAdd .trap state.reserveBalance amount
  return { state with reserveBalance }

def withdrawReserve (admin : Address) (amount : Int) (state : State Address) :
    Outcome Error (State Address) := do
  requireAuth env admin
  assertAdmin state admin
  ensure (0 < amount) .invalidAmount
  ensure (amount ≤ state.reserveBalance) .insufficientBalance
  let reserveBalance ← checkedSub .trap state.reserveBalance amount
  return { state with reserveBalance }

inductive Operation (Address : Type) where
  | initCoin (admin oracle : Address)
  | psmSetParams (admin : Address) (mintFeeBps redeemFeeBps : Nat) (debtCeiling : Int)
  | psmSetPaused (admin : Address) (paused : Bool)
  | psmMint (user : Address) (amount : Int)
  | psmRedeem (user : Address) (amount : Int)
  | psmCollectFees (admin : Address)
  | mint (admin destination : Address) (amount : Int)
  | burn (source : Address) (amount : Int)
  | transfer (source destination : Address) (amount : Int)
  | setPrice (oracle : Address) (newPrice : Int)
  | rebase (caller : Address)
  | pause (admin : Address)
  | unpause (admin : Address)
  | addReserve (admin : Address) (amount : Int)
  | withdrawReserve (admin : Address) (amount : Int)

def dispatch (state : State Address) (call : Env Address contract × Operation Address) :
    Outcome Error (State Address) :=
  match call.2 with
  | .initCoin admin oracle => initCoin call.1 admin oracle state
  | .psmSetParams admin mintFeeBps redeemFeeBps debtCeiling =>
      psmSetParams call.1 admin mintFeeBps redeemFeeBps debtCeiling state
  | .psmSetPaused admin paused => psmSetPaused call.1 admin paused state
  | .psmMint user amount => Prod.snd <$> psmMint call.1 user amount state
  | .psmRedeem user amount => Prod.snd <$> psmRedeem call.1 user amount state
  | .psmCollectFees admin => Prod.snd <$> psmCollectFees call.1 admin state
  | .mint admin destination amount => mint call.1 admin destination amount state
  | .burn source amount => burn call.1 source amount state
  | .transfer source destination amount => transfer call.1 source destination amount state
  | .setPrice oracle newPrice => setPrice call.1 oracle newPrice state
  | .rebase caller => Prod.snd <$> rebase call.1 caller state
  | .pause admin => pause call.1 admin state
  | .unpause admin => unpause call.1 admin state
  | .addReserve admin amount => addReserve call.1 admin amount state
  | .withdrawReserve admin amount => withdrawReserve call.1 admin amount state

def machine (contract : Address) :
    CallMachine (State Address) (Env Address contract × Operation Address) (Failure Error) where
  exec := dispatch

end SorobanPlayground.Stablecoin
