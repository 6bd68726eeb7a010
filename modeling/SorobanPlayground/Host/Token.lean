import Mathlib.Algebra.Ring.Int.Defs
import SorobanPlayground.Host.Outcome

/-! # Token contracts

The token contracts that a contract calls are outside it. `TokenHost` takes
their `transfer` as a parameter with the facts the contracts rely on: a transfer
that succeeds moves exactly the requested amount, which is not negative. It may
fail for any reason, and a failed transfer traps the calling contract.
-/

namespace SorobanPlayground

/-- The balances at all token contracts: of a token, held by an address. -/
abbrev TokenLedger (Address : Type) := Address → Address → Nat

variable {Address : Type} [DecidableEq Address]

/-- The change of a holder's balance of a token by a transfer. -/
def transferDelta (token source destination : Address) (amount : Int) (read holder : Address) :
    Int :=
  if read = token then
    (if holder = destination then amount else 0) - (if holder = source then amount else 0)
  else 0

/-- The transfer functions of the token contracts. -/
structure TokenHost (Address : Type) [DecidableEq Address] where
  transfer : TokenLedger Address → (token source destination : Address) → Int →
    Option (TokenLedger Address)
  moves_exactly : ∀ {ledger next token source destination amount},
    transfer ledger token source destination amount = some next →
      ∀ read holder, (next read holder : Int) =
        ledger read holder + transferDelta token source destination amount read holder
  rejects_negative : ∀ {ledger next token source destination amount},
    transfer ledger token source destination amount = some next → 0 ≤ amount

/-- `token::Client::new(&env, &token).transfer(&source, &destination, &amount)`. -/
def TokenHost.pay {ε : Type} (host : TokenHost Address) (ledger : TokenLedger Address)
    (token source destination : Address) (amount : Int) : Outcome ε (TokenLedger Address) :=
  match host.transfer ledger token source destination amount with
  | some next => .ok next
  | none => .error .trap

/-- A transfer that a holder makes outside the contract. -/
def TokenHost.payAs {ε : Type} {contract : Address} (host : TokenHost Address)
    (env : Env Address contract) (ledger : TokenLedger Address)
    (token source destination : Address) (amount : Int) : Outcome ε (TokenLedger Address) := do
  requireAuth env source
  host.pay ledger token source destination amount

/-- The tokens never refuse a transfer that the sender's balance covers. -/
def TokenHost.PaysCovered (host : TokenHost Address) : Prop :=
  ∀ (ledger : TokenLedger Address) (token source destination : Address) (amount : Int),
    0 ≤ amount → amount ≤ ledger token source →
      ∃ next, host.transfer ledger token source destination amount = some next

theorem TokenHost.PaysCovered.pay {ε : Type} {host : TokenHost Address} (pays : host.PaysCovered)
    {ledger : TokenLedger Address} {token source : Address} (destination : Address) {amount : Int}
    (nonneg : 0 ≤ amount) (covered : amount ≤ ledger token source) :
    ∃ next, (host.pay ledger token source destination amount : Outcome ε _) = .ok next := by
  obtain ⟨next, succeeded⟩ := pays ledger token source destination amount nonneg covered
  refine ⟨next, ?_⟩
  unfold TokenHost.pay
  rw [succeeded]

variable {ε : Type} {host : TokenHost Address} {ledger next : TokenLedger Address}
  {token source destination : Address} {amount : Int}

theorem TokenHost.pay_nonneg
    (paid : (host.pay ledger token source destination amount : Outcome ε _) = .ok next) :
    0 ≤ amount := by
  unfold TokenHost.pay at paid
  split at paid
  · next succeeded => exact host.rejects_negative succeeded
  · cases paid

theorem TokenHost.pay_ne_error {reason : ε} :
    host.pay ledger token source destination amount ≠ .error (.error reason) := by
  unfold TokenHost.pay
  split <;> nofun

section

variable (paid : (host.pay ledger token source destination amount : Outcome ε _) = .ok next)
include paid

theorem TokenHost.pay_eq_ok (read holder : Address) :
    (next read holder : Int) =
      ledger read holder + transferDelta token source destination amount read holder := by
  unfold TokenHost.pay at paid
  split at paid
  · next succeeded =>
    cases paid
    exact host.moves_exactly succeeded read holder
  · cases paid

theorem TokenHost.pay_received (ne : destination ≠ source) :
    (next token destination : Int) = ledger token destination + amount := by
  have moved := host.pay_eq_ok paid token destination
  simpa [transferDelta, ne] using moved

theorem TokenHost.pay_spent (ne : destination ≠ source) :
    (next token source : Int) = ledger token source - amount := by
  have moved := host.pay_eq_ok paid token source
  simpa [transferDelta, ne.symm, Int.sub_eq_add_neg] using moved

theorem TokenHost.pay_le {holder : Address} (ne : holder ≠ source) (read : Address) :
    (ledger read holder : Int) ≤ next read holder := by
  have moved := host.pay_eq_ok paid read holder
  have nonneg := host.pay_nonneg paid
  unfold transferDelta at moved
  split_ifs at moved <;> omega

end

structure Leg (Address : Type) where
  token : Address
  source : Address
  destination : Address
  amount : Int

/-- The change of a balance by several movements. -/
def movedBy (legs : List (Leg Address)) (read holder : Address) : Int :=
  (legs.map fun leg =>
    transferDelta leg.token leg.source leg.destination leg.amount read holder).sum

@[simp] theorem movedBy_nil (read holder : Address) : movedBy [] read holder = 0 := rfl

@[simp] theorem movedBy_cons (leg : Leg Address) (legs : List (Leg Address))
    (read holder : Address) :
    movedBy (leg :: legs) read holder =
      transferDelta leg.token leg.source leg.destination leg.amount read holder +
        movedBy legs read holder := rfl

/-- The balances change by the given movements and in no other way. -/
def Moved (legs : List (Leg Address)) (ledger next : TokenLedger Address) : Prop :=
  ∀ read holder, (next read holder : Int) = ledger read holder + movedBy legs read holder

theorem TokenHost.pay_moved {ε : Type} {host : TokenHost Address}
    {ledger next : TokenLedger Address} {token source destination : Address} {amount : Int}
    (paid : (host.pay ledger token source destination amount : Outcome ε _) = .ok next) :
    Moved [⟨token, source, destination, amount⟩] ledger next := by
  intro read holder
  have moved := host.pay_eq_ok paid read holder
  simpa [movedBy] using moved

theorem moved_nil (ledger : TokenLedger Address) : Moved [] ledger ledger :=
  fun _ _ => (Int.add_zero _).symm

theorem TokenHost.pay_positive_moved {ε : Type} {host : TokenHost Address}
    {ledger next : TokenLedger Address} {token source destination : Address} {amount : Int}
    (paid : ((if 0 < amount then host.pay ledger token source destination amount
      else pure ledger) : Outcome ε _) = .ok next) (nonneg : 0 ≤ amount) :
    Moved [⟨token, source, destination, amount⟩] ledger next := by
  split at paid
  · exact TokenHost.pay_moved paid
  · cases paid
    obtain rfl : amount = 0 := by omega
    intro read holder
    simp [transferDelta]

theorem TokenHost.PaysCovered.pay_positive {ε : Type} {host : TokenHost Address}
    (pays : host.PaysCovered) {ledger : TokenLedger Address} {token source : Address}
    (destination : Address) {amount : Int} (covered : amount ≤ ledger token source) :
    ∃ next, ((if 0 < amount then host.pay ledger token source destination amount
      else pure ledger) : Outcome ε _) = .ok next := by
  split
  · next pos => exact pays.pay destination (Int.le_of_lt pos) covered
  · exact ⟨ledger, rfl⟩

theorem Moved.append {first second : List (Leg Address)} {ledger middle next : TokenLedger Address}
    (before : Moved first ledger middle) (after : Moved second middle next) :
    Moved (first ++ second) ledger next := by
  intro read holder
  have start := before read holder
  have finish := after read holder
  unfold movedBy at *
  rw [List.map_append, List.sum_append]
  omega

theorem transferDelta_of_source_ne {token source destination : Address} {amount : Int}
    {read holder : Address} (ne : holder ≠ source) :
    transferDelta token source destination amount read holder =
      if read = token ∧ holder = destination then amount else 0 := by
  unfold transferDelta
  by_cases same : read = token <;> simp [same, ne]

theorem transferDelta_of_destination_ne {token source destination : Address} {amount : Int}
    {read holder : Address} (ne : holder ≠ destination) :
    transferDelta token source destination amount read holder =
      if read = token ∧ holder = source then -amount else 0 := by
  unfold transferDelta
  rw [if_neg ne]
  by_cases same : read = token <;> by_cases payer : holder = source <;> simp [same, payer]

theorem transferDelta_in {token source holder : Address} {amount : Int}
    (ne : source ≠ holder) (read : Address) :
    transferDelta token source holder amount read holder = if read = token then amount else 0 := by
  rw [transferDelta_of_source_ne ne.symm]
  simp

theorem transferDelta_out {token holder destination : Address} {amount : Int}
    (ne : destination ≠ holder) (read : Address) :
    transferDelta token holder destination amount read holder =
      -(if read = token then amount else 0) := by
  rw [transferDelta_of_destination_ne ne.symm]
  by_cases same : read = token <;> simp [same]

section

variable (paid : (host.pay ledger token source destination amount : Outcome ε _) = .ok next)
include paid

theorem TokenHost.pay_credits (ne : source ≠ destination) (read : Address) :
    (next read destination : Int) =
      ledger read destination + if read = token then amount else 0 := by
  rw [host.pay_eq_ok paid, transferDelta_in ne]

theorem TokenHost.pay_debits (ne : source ≠ destination) (read : Address) :
    (next read source : Int) = ledger read source - if read = token then amount else 0 := by
  rw [host.pay_eq_ok paid, transferDelta_out ne.symm, Int.sub_eq_add_neg]

theorem TokenHost.pay_leaves (read : Address) :
    (ledger read source : Int) - (if read = token then amount else 0) ≤ next read source := by
  have moved := host.pay_eq_ok paid read source
  have nonneg := host.pay_nonneg paid
  unfold transferDelta at moved
  split_ifs at * <;> omega

end

theorem Moved.leaves {token source destination : Address} {amount : Int}
    {ledger next : TokenLedger Address}
    (moved : Moved [⟨token, source, destination, amount⟩] ledger next) (nonneg : 0 ≤ amount)
    (read : Address) :
    (ledger read source : Int) - (if token = read then amount else 0) ≤ next read source := by
  have balance := moved read source
  rw [movedBy_cons, movedBy_nil] at balance
  dsimp only at balance
  unfold transferDelta at balance
  by_cases same : token = read
  · rw [if_pos same]
    split_ifs at balance <;> omega
  · rw [if_neg fun other => same other.symm] at balance
    omega

/-- The standard token: a transfer needs a nonnegative amount and enough balance. -/
def standardTransfer (ledger : TokenLedger Address) (token source destination : Address)
    (amount : Int) : Option (TokenLedger Address) :=
  if 0 ≤ amount ∧ amount ≤ ledger token source then
    some fun read holder =>
      ((ledger read holder : Int) + transferDelta token source destination amount read holder).toNat
  else none

def standardHost : TokenHost Address where
  transfer := standardTransfer
  moves_exactly := by
    intro ledger next token source destination amount succeeded read holder
    unfold standardTransfer at succeeded
    split_ifs at succeeded with allowed
    cases succeeded
    apply Int.toNat_of_nonneg
    unfold transferDelta
    split_ifs with sameToken sameDestination sameSource sameSource
    all_goals first | (subst sameToken; subst sameSource; omega) | omega
  rejects_negative := by
    intro ledger next token source destination amount succeeded
    unfold standardTransfer at succeeded
    split_ifs at succeeded with allowed
    exact allowed.1

theorem standardHost_paysCovered : (standardHost : TokenHost Address).PaysCovered :=
  fun _ _ _ _ _ nonneg covered => ⟨_, if_pos ⟨nonneg, covered⟩⟩

export TokenHost (payAs pay_ne_error pay_eq_ok pay_nonneg pay_le pay_moved pay_positive_moved
  pay_credits pay_debits pay_leaves)

end SorobanPlayground
