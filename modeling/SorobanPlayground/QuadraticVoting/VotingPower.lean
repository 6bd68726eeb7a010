import SorobanPlayground.Host

/-! # Quadratic voting power

A vote counts with the integer square root of the voter's balance. The balance is an
`i128`, narrowed to a `u64` before Newton's iteration, which starts from its successor:
the power is exact below the largest `u64`, and at no balance from there on.
-/

namespace SorobanPlayground.QuadraticVoting

inductive ProposalStatus where
  | active
  | passed
  | defeated
  | cancelled
  deriving DecidableEq, Repr

inductive Error where
  | alreadyInitialized
  | notInitialized
  | unauthorized
  | proposalNotFound
  | votingNotActive
  | alreadyVoted
  | notWhitelisted
  | proposalNotActive
  | contractPaused
  | emptyTitle
  | votingStillActive
  | insufficientVotingPower
  | quorumNotReached
  deriving DecidableEq, Repr

structure Proposal (Address : Type) where
  id : Nat
  proposer : Address
  title : String
  description : String
  status : ProposalStatus
  votesFor : Int
  votesAgainst : Int
  totalSupplySnapshot : Int
  voteStart : Nat
  voteEnd : Nat

structure State (Address : Type) where
  admin : Option Address := none
  proposalCount : Nat := 0
  paused : Bool := false
  votingPeriod : Nat := 604800
  totalSupply : Int := 0
  quorumBps : Int := 400
  proposals : FiniteMap Nat (Proposal Address) := ∅
  balances : FiniteMap Address Int := ∅
  whitelisted : FiniteMap Address Bool := ∅
  voted : FiniteMap (Nat × Address) Bool := ∅

/-- `value as u64` of an `i128`: the low 64 bits. -/
def castU64 (value : Int) : Nat := (value % 18446744073709551616).toNat

/-- The rounds of Newton's iteration; each lowers `x`. -/
def sqrtLoop (n : Nat) : Nat → Nat → Nat → Outcome Error Nat
  | 0, x, _ => .ok x
  | fuel + 1, x, y =>
      if y < x then do
        assertOrTrap (y ≠ 0)
        let sum ← inUnsigned u64Max .trap (y + n / y)
        sqrtLoop n fuel y (sum / 2)
      else .ok x

def integerSqrt (n : Nat) : Outcome Error Nat :=
  if n = 0 then .ok 0
  else do
    let sum ← inUnsigned u64Max .trap (n + 1)
    sqrtLoop n n n (sum / 2)

def balanceToVotingPower (balance : Int) : Outcome Error Int :=
  if balance ≤ 0 then .ok 0
  else do
    let power ← integerSqrt (castU64 balance)
    return (power : Int)

variable {Address : Type} [DecidableEq Address] {contract : Address}

def ensureInitialized (state : State Address) : Outcome Error Unit :=
  ensure (state.admin.isSome = true) .notInitialized

def notPaused (state : State Address) : Outcome Error Unit :=
  ensure (state.paused = false) .contractPaused

def requireAdmin (state : State Address) (caller : Address) : Outcome Error Unit := do
  let admin ← orError state.admin .notInitialized
  ensure (admin = caller) .unauthorized

def State.getBalance (state : State Address) (address : Address) : Int :=
  (state.balances.get address).getD 0

variable (env : Env Address contract)

def initializeVoting (admin : Address) (votingPeriod : Option Nat) (quorumBps : Option Int)
    (state : State Address) : Outcome Error (State Address) := do
  ensure (state.admin.isSome = false) .alreadyInitialized
  requireAuth env admin
  return { state with
    admin := some admin
    votingPeriod := votingPeriod.getD state.votingPeriod
    quorumBps := quorumBps.getD state.quorumBps }

def mint (admin recipient : Address) (amount : Int) (state : State Address) :
    Outcome Error (State Address) := do
  ensureInitialized state
  requireAuth env admin
  requireAdmin state admin
  let balance ← checkedAdd .trap (state.getBalance recipient) amount
  let totalSupply ← checkedAdd .trap state.totalSupply amount
  return { state with
    balances := state.balances.set recipient balance
    totalSupply }

def whitelist (admin voter : Address) (allow : Bool) (state : State Address) :
    Outcome Error (State Address) := do
  ensureInitialized state
  notPaused state
  requireAuth env admin
  requireAdmin state admin
  return { state with whitelisted := state.whitelisted.set voter allow }

def createProposal (admin : Address) (title description : String) (duration : Option Nat)
    (state : State Address) : Outcome Error (Nat × State Address) := do
  ensureInitialized state
  notPaused state
  requireAuth env admin
  requireAdmin state admin
  ensure (title ≠ "") .emptyTitle
  let id := state.proposalCount
  let voteEnd ← inUnsigned u64Max .trap (env.timestamp + duration.getD state.votingPeriod)
  let proposalCount ← inUnsigned u32Max .trap (id + 1)
  let proposal : Proposal Address :=
    { id, proposer := admin, title, description, status := .active, votesFor := 0,
      votesAgainst := 0, totalSupplySnapshot := state.totalSupply, voteStart := env.timestamp,
      voteEnd }
  return (id, { state with proposals := state.proposals.set id proposal, proposalCount })

def addVotes (isFor : Bool) (votes : Int) (proposal : Proposal Address) :
    Outcome Error (Proposal Address) :=
  if isFor then do
    let votesFor ← checkedAdd .trap proposal.votesFor votes
    return { proposal with votesFor }
  else do
    let votesAgainst ← checkedAdd .trap proposal.votesAgainst votes
    return { proposal with votesAgainst }

/-- Cast a vote; returns the power it counts with. -/
def vote (voter : Address) (proposalId : Nat) (isFor : Bool) (state : State Address) :
    Outcome Error (Int × State Address) := do
  ensureInitialized state
  notPaused state
  requireAuth env voter
  ensure ((state.whitelisted.get voter).getD false = true) .notWhitelisted
  let proposal ← orError (state.proposals.get proposalId) .proposalNotFound
  ensure (proposal.status = .active) .proposalNotActive
  ensure (¬ (env.timestamp < proposal.voteStart ∨ proposal.voteEnd < env.timestamp))
    .votingNotActive
  ensure (state.voted.has (proposalId, voter) = false) .alreadyVoted
  let balance := state.getBalance voter
  ensure (balance ≠ 0) .insufficientVotingPower
  let root ← integerSqrt (castU64 balance)
  let votes : Int := root
  let counted ← addVotes isFor votes proposal
  return (votes, { state with
    voted := state.voted.set (proposalId, voter) true
    proposals := state.proposals.set proposal.id counted })

/-- A power is the root of a balance, rounded down. -/
def IsRoot (power balance : Int) : Prop :=
  0 ≤ power ∧ power * power ≤ balance ∧ balance < (power + 1) * (power + 1)

section

variable {n x fuel : Nat}

/-- A step of Newton's iteration does not fall below the root. -/
theorem sqrt_le_step (pos : 0 < x) : Nat.sqrt n ≤ (x + n / x) / 2 := by
  have square := Nat.sqrt_le n
  have quotient : 2 * Nat.sqrt n - x ≤ n / x := by
    rw [Nat.le_div_iff_mul_le pos]
    rcases le_total (2 * Nat.sqrt n) x with small | large
    · rw [Nat.sub_eq_zero_of_le small, Nat.zero_mul]
      exact Nat.zero_le n
    · obtain ⟨rest, split⟩ := Nat.exists_eq_add_of_le large
      rw [split, Nat.add_sub_cancel_left]
      nlinarith [sq_nonneg ((x : Int) - rest)]
  omega

/-- The sum that a step halves exceeds the radicand by at most one. -/
theorem step_sum_le (pos : 0 < x) (bound : x ≤ n) : x + n / x ≤ n + 1 := by
  have product := Nat.mul_div_le n x
  have quotient : 0 < n / x := Nat.div_pos bound pos
  nlinarith

/-- From a guess on the root's far side, any number of rounds from the guess on reaches it. -/
theorem sqrtLoop_eq (fits : n < u64Max) (pos : 0 < x) (bound : x ≤ n) (above : Nat.sqrt n ≤ x)
    (enough : x ≤ fuel) : sqrtLoop n fuel x ((x + n / x) / 2) = .ok (Nat.sqrt n) := by
  induction fuel generalizing x with
  | zero => omega
  | succ fuel ih =>
    have next := sqrt_le_step (n := n) pos
    have positive : 0 < (x + n / x) / 2 := by
      have quotient : 0 < n / x := Nat.div_pos bound pos
      omega
    rw [sqrtLoop]
    set y := (x + n / x) / 2
    split_ifs with lower
    · have small := step_sum_le positive (lower.le.trans bound)
      have added : inUnsigned u64Max (.trap : Failure Error) (y + n / y) = .ok (y + n / y) :=
        inUnsigned_eq_ok.mpr ⟨by omega, rfl⟩
      rw [assertOrTrap, if_pos positive.ne', added]
      exact ih positive (lower.le.trans bound) next (by omega)
    · -- The guess is no larger than its quotient, so its square is no larger than the radicand.
      have quotient : x ≤ n / x := by omega
      have square := (Nat.le_div_iff_mul_le pos).mp quotient
      exact congrArg Except.ok (le_antisymm (Nat.le_sqrt.mpr square) above)

theorem integerSqrt_eq (fits : n < u64Max) : integerSqrt n = .ok (Nat.sqrt n) := by
  unfold integerSqrt
  split_ifs with zero
  · rw [zero, Nat.sqrt_zero]
  · have pos := Nat.pos_of_ne_zero zero
    have added : inUnsigned u64Max (.trap : Failure Error) (n + 1) = .ok (n + 1) :=
      inUnsigned_eq_ok.mpr ⟨fits, rfl⟩
    have ran := sqrtLoop_eq fits pos le_rfl (Nat.sqrt_le_self n) le_rfl
    rw [Nat.div_self pos] at ran
    rw [added]
    exact ran

end

variable {balance power : Int}

theorem castU64_of_fits (nonneg : 0 ≤ balance) (fits : balance ≤ u64Max) :
    castU64 balance = balance.toNat := by
  have bound : balance < 18446744073709551616 := by
    unfold u64Max at fits
    omega
  rw [castU64, Int.emod_eq_of_lt nonneg bound]

theorem castU64_le (balance : Int) : castU64 balance ≤ u64Max := by
  unfold castU64 u64Max
  omega

/-- What the narrowed balance has a root of is the balance exactly below the largest `u64`. -/
theorem isRoot_iff (nonneg : 0 ≤ balance) {root : Nat}
    (ran : integerSqrt (castU64 balance) = .ok root) : IsRoot root balance ↔ balance < u64Max := by
  constructor
  · rintro ⟨-, -, above⟩
    have bound := castU64_le balance
    have below : castU64 balance < u64Max := by
      refine lt_of_le_of_ne bound fun largest => ?_
      have failed : integerSqrt u64Max = .error .trap := by decide
      rw [largest, failed] at ran
      cases ran
    rw [integerSqrt_eq below] at ran
    obtain rfl := Except.ok.inj ran
    have small : Nat.sqrt (castU64 balance) < 4294967296 := by
      rw [Nat.sqrt_lt]
      exact bound.trans_lt (by decide)
    have square : ((Nat.sqrt (castU64 balance) : Int) + 1) * (Nat.sqrt (castU64 balance) + 1) ≤
        4294967296 * 4294967296 := by
      nlinarith
    have reached : balance ≠ u64Max := by
      rintro rfl
      exact absurd below (by decide)
    unfold u64Max at *
    omega
  · intro below
    have narrowed := castU64_of_fits nonneg below.le
    have fits : balance.toNat < u64Max := by omega
    rw [narrowed, integerSqrt_eq fits] at ran
    obtain rfl := Except.ok.inj ran
    have lower := Nat.sqrt_le balance.toNat
    have upper := Nat.lt_succ_sqrt balance.toNat
    rw [← Int.toNat_of_nonneg nonneg]
    exact ⟨Int.natCast_nonneg _, by exact_mod_cast lower, by exact_mod_cast upper⟩

/-- A successful vote counts its power for one side. -/
def Counted (proposal counted : Proposal Address) (isFor : Bool) (power : Int) : Prop :=
  counted = if isFor then { proposal with votesFor := proposal.votesFor + power }
    else { proposal with votesAgainst := proposal.votesAgainst + power }

variable {env : Env Address contract} {voter : Address} {id : Nat} {isFor : Bool}
  {state next : State Address}

theorem vote_counts (ran : vote env voter id isFor state = .ok (power, next)) :
    (∃ root : Nat, integerSqrt (castU64 (state.getBalance voter)) = .ok root ∧ power = root) ∧
    ∃ proposal counted, state.proposals.get id = some proposal ∧
      next.proposals = state.proposals.set proposal.id counted ∧
      Counted proposal counted isFor power := by
  simp only [vote, ensureInitialized, notPaused, call_ok] at ran
  obtain ⟨-, -, -, -, proposal, got, -, -, -, -, root, rooted, counted, tallied, rfl, rfl⟩ := ran
  refine ⟨⟨root, rooted, rfl⟩, proposal, counted, got, rfl, ?_⟩
  cases isFor with
  | true =>
    obtain ⟨_, added, same⟩ := bind_eq_ok.mp tallied
    cases (checkedAdd_eq_ok.mp added).2
    cases same
    rfl
  | false =>
    obtain ⟨_, added, same⟩ := bind_eq_ok.mp tallied
    cases (checkedAdd_eq_ok.mp added).2
    cases same
    rfl

theorem balanceToVotingPower_eq (below : balance < u64Max) :
    balanceToVotingPower balance = .ok (Nat.sqrt balance.toNat : Int) := by
  unfold balanceToVotingPower
  split_ifs with none
  · rw [Int.toNat_of_nonpos none, Nat.sqrt_zero, Nat.cast_zero]
  · have narrowed := castU64_of_fits (not_le.mp none).le below.le
    rw [narrowed, integerSqrt_eq (by omega)]
    rfl

/-- The iteration ends and yields the root of a balance exactly where the balance is below the
largest `u64`; a vote adds its power to the tally, and the power is the root of the voter's
balance exactly there. Powers of such balances are ordered as the balances. -/
theorem votingPower_exact_iff (balance : Int) (nonneg : 0 ≤ balance) (fits : balance ≤ i128Max) :
    ((∃ power, balanceToVotingPower balance = .ok power ∧ IsRoot power balance) ↔
      balance < u64Max) ∧
    (∀ (Address : Type) [DecidableEq Address] (contract : Address) (env : Env Address contract)
      (voter : Address) (id : Nat) (isFor : Bool) (state next : State Address) (power : Int),
      state.getBalance voter = balance → vote env voter id isFor state = .ok (power, next) →
      (∃ proposal counted, state.proposals.get id = some proposal ∧
        next.proposals = state.proposals.set proposal.id counted ∧
        Counted proposal counted isFor power) ∧
      (IsRoot power balance ↔ balance < u64Max)) ∧
    ∀ smaller less more : Int, smaller ≤ balance → balance < u64Max →
      balanceToVotingPower smaller = .ok less → balanceToVotingPower balance = .ok more →
      less ≤ more := by
  refine ⟨?_, ?_, ?_⟩
  · constructor
    · rintro ⟨power, ran, root⟩
      unfold balanceToVotingPower at ran
      split_ifs at ran with none
      · exact none.trans_lt (by decide)
      · obtain ⟨_, rooted, same⟩ := bind_eq_ok.mp ran
        cases same
        exact (isRoot_iff nonneg rooted).mp root
    · intro below
      have rooted := integerSqrt_eq (n := balance.toNat) (by omega)
      rw [← castU64_of_fits nonneg below.le] at rooted
      refine ⟨_, balanceToVotingPower_eq below, ?_⟩
      rw [← castU64_of_fits nonneg below.le]
      exact (isRoot_iff nonneg rooted).mpr below
  · rintro Address _ contract env voter id isFor state next power rfl ran
    obtain ⟨⟨root, rooted, rfl⟩, counts⟩ := vote_counts ran
    exact ⟨counts, isRoot_iff nonneg rooted⟩
  · intro smaller less more ordered below first second
    cases first.symm.trans (balanceToVotingPower_eq (ordered.trans_lt below))
    cases second.symm.trans (balanceToVotingPower_eq below)
    exact_mod_cast Nat.sqrt_le_sqrt (Int.toNat_le_toNat ordered)

theorem votingPower_exact_iff_hundred :
    ∃ power, balanceToVotingPower 100 = .ok power ∧ IsRoot power 100 :=
  (votingPower_exact_iff 100 (by decide) (by decide)).1.mpr (by decide)

/-- The balance is narrowed to nothing, and its vote counts nothing. -/
theorem large_balance_votes_nothing :
    let env : Env Nat 0 := { timestamp := 0, auths := [1, 2], contract_silent := zero_notMem_two_signers }
    let voted := do
      let state ← initializeVoting env 1 none none {}
      let state ← mint env 1 2 18446744073709551616 state
      let state ← whitelist env 1 2 true state
      let (id, state) ← createProposal env 1 "budget" "" none state
      vote env 2 id true state
    Prod.fst <$> voted = .ok 0 ∧ ¬ IsRoot 0 18446744073709551616 := by
  unfold IsRoot
  decide

end SorobanPlayground.QuadraticVoting
