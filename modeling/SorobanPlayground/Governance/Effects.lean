import Mathlib.Tactic.Ring
import SorobanPlayground.Governance.Contract

/-! # What the calls of the governance contract do

A successful call changes settings only, mints, creates a proposal, counts a balance for
a proposal, or moves a proposal to another status.
-/

namespace SorobanPlayground.Governance

variable {Address : Type} {contract : Address}

def Proposal.votes (proposal : Proposal Address) : Int :=
  proposal.votesFor + proposal.votesAgainst + proposal.votesAbstain

/-- Proposals are stored under their own ids. -/
def Named (state : State Address) : Prop :=
  ∀ id proposal, state.proposals.get id = some proposal → proposal.id = id

variable [DecidableEq Address]

/-- A call moves a proposal to another status. -/
def Moves (state next : State Address) (call : Env Address contract × Operation Address)
    (proposal : Proposal Address) (status : ProposalStatus) : Prop :=
  match call.2 with
  | .finalise id => proposal.id = id ∧ proposal.status = .active ∧
      proposal.voteEnd < call.1.timestamp ∧ (status = .passed ∨ status = .defeated) ∧
      finalise call.1 id state = .ok (status, next)
  | .execute _ id => proposal.id = id ∧ proposal.status = .passed ∧
      proposal.executeAfter ≤ call.1.timestamp ∧ status = .executed
  | .cancel _ id => proposal.id = id ∧ proposal.status = .active ∧ status = .cancelled
  | _ => False

/-- What a successful call does to balances, proposals and marks. -/
inductive Effect (state next : State Address) : Env Address contract × Operation Address → Prop
  where
  | settings (call : Env Address contract × Operation Address) (admin : Option Address)
      (quorumBps requiredDeposit : Int) (votingPeriod execDelay : Nat)
      (pendingUpgrade : Option UpgradePending) (delegates : FiniteMap Address Address)
      (unvoted : ∀ voter id choice, call.2 ≠ .vote voter id choice)
      (written : next = { state with
        admin, quorumBps, requiredDeposit, votingPeriod, execDelay, pendingUpgrade, delegates }) :
      Effect state next call
  | mint (env : Env Address contract) (admin recipient : Address) (amount : Int)
      (written : next =
        (state.setBalance recipient (state.getBalance recipient + amount)).setTotalSupply
          (state.totalSupply + amount)) :
      Effect state next (env, .mint admin recipient amount)
  | propose (env : Env Address contract) (proposer : Address) (title description : String)
      (deposit : Int) (proposal : Proposal Address) (named : proposal.id = state.proposalCount)
      (active : proposal.status = .active) (unvoted : proposal.votes = 0)
      (written : next = (state.setProposal proposal).setProposalCount (state.proposalCount + 1)) :
      Effect state next (env, .propose proposer title description deposit)
  | vote (env : Env Address contract) (voter : Address) (id : Nat) (choice : VoteChoice)
      (proposal : Proposal Address) (votesFor votesAgainst votesAbstain : Int)
      (stored : state.proposals.get id = some proposal)
      (unmarked : state.hasVoted id (state.resolveDelegate voter) = false)
      (counted : votesFor + votesAgainst + votesAbstain =
        proposal.votes + state.getBalance (state.resolveDelegate voter))
      (written : next = (state.recordVote id (state.resolveDelegate voter)).setProposal
        { proposal with votesFor, votesAgainst, votesAbstain }) :
      Effect state next (env, .vote voter id choice)
  | move (call : Env Address contract × Operation Address) (proposal : Proposal Address)
      (status : ProposalStatus) (stored : state.proposals.get proposal.id = some proposal)
      (moves : Moves state next call proposal status)
      (written : next = state.setProposal { proposal with status }) : Effect state next call

variable {state next : State Address}

omit [DecidableEq Address] in
theorem Proposal.tally_eq_ok {proposal tallied : Proposal Address} {choice : VoteChoice}
    {power : Int} (added : proposal.tally choice power = .ok tallied) :
    ∃ votesFor votesAgainst votesAbstain : Int,
      votesFor + votesAgainst + votesAbstain = proposal.votes + power ∧
        tallied = { proposal with votesFor, votesAgainst, votesAbstain } := by
  unfold Proposal.votes
  cases choice with
  | «for» =>
    simp only [Proposal.tally, call_ok, arith_ok] at added
    obtain ⟨-, rfl⟩ := added
    exact ⟨_, _, _, by ring, rfl⟩
  | against =>
    simp only [Proposal.tally, call_ok, arith_ok] at added
    obtain ⟨-, rfl⟩ := added
    exact ⟨_, _, _, by ring, rfl⟩
  | abstain =>
    simp only [Proposal.tally, call_ok, arith_ok] at added
    obtain ⟨-, rfl⟩ := added
    exact ⟨_, _, _, by ring, rfl⟩

theorem dispatch_effect {call : Env Address contract × Operation Address} (named : Named state)
    (ran : dispatch state call = .ok next) : Effect state next call := by
  obtain ⟨env, op⟩ := call
  cases op with
  | initializeGovernance =>
    simp only [dispatch, initializeGovernance, call_ok] at ran
    obtain ⟨-, -, rfl⟩ := ran
    exact .settings _ _ _ _ _ _ _ _ (by simp) rfl
  | mint admin recipient amount =>
    simp only [dispatch, mint, call_ok, arith_ok] at ran
    obtain ⟨_, -, -, -, rfl⟩ := ran
    exact .mint env admin recipient amount rfl
  | propose proposer title description deposit =>
    obtain ⟨⟨_, left⟩, proposed, rfl⟩ := map_eq_ok.mp ran
    simp only [propose, call_ok, arith_ok] at proposed
    obtain ⟨_, -, -, -, -, -, _, -, _, -, -, -, rfl⟩ := proposed
    exact .propose env proposer title description deposit _ rfl rfl rfl rfl
  | vote voter proposalId choice =>
    simp only [dispatch, vote, State.getProposal, call_ok] at ran
    obtain ⟨_, -, -, proposal, got, -, -, unmarked, -, _, added, rfl⟩ := ran
    obtain ⟨_, _, _, counted, rfl⟩ := Proposal.tally_eq_ok added
    exact .vote env voter proposalId choice proposal _ _ _ got unmarked counted rfl
  | finalise proposalId =>
    obtain ⟨⟨_, left⟩, finalised, rfl⟩ := map_eq_ok.mp ran
    have returned := finalised
    simp only [finalise, State.getProposal, call_ok] at finalised
    obtain ⟨_, -, proposal, got, active, closed, _, -, _, -, rfl, rfl⟩ := finalised
    obtain rfl := named proposalId proposal got
    exact .move _ proposal _ got ⟨rfl, active, closed, ite_eq_or_eq _ _ _, returned⟩ rfl
  | execute _ proposalId =>
    simp only [dispatch, execute, State.getProposal, call_ok] at ran
    obtain ⟨_, -, -, proposal, got, passed, elapsed, rfl⟩ := ran
    obtain rfl := named proposalId proposal got
    exact .move _ proposal _ got ⟨rfl, passed, elapsed, rfl⟩ rfl
  | cancel _ proposalId =>
    simp only [dispatch, cancel, State.getProposal, call_ok] at ran
    obtain ⟨_, -, -, proposal, got, _, -, -, active, rfl⟩ := ran
    obtain rfl := named proposalId proposal got
    exact .move _ proposal _ got ⟨rfl, active, rfl⟩ rfl
  | scheduleUpgrade =>
    obtain ⟨⟨_, _⟩, scheduled, rfl⟩ := map_eq_ok.mp ran
    simp only [scheduleUpgrade, call_ok] at scheduled
    obtain ⟨_, -, -, _, -, -, rfl⟩ := scheduled
    exact .settings _ _ _ _ _ _ _ _ (by simp) rfl
  | cancelUpgrade =>
    simp only [dispatch, cancelUpgrade, call_ok] at ran
    obtain ⟨_, -, -, rfl⟩ := ran
    exact .settings _ _ _ _ _ _ _ _ (by simp) rfl
  | delegate _ target =>
    cases target with
    | none =>
      simp only [dispatch, delegate, call_ok] at ran
      obtain ⟨_, -, _, -, rfl⟩ := ran
      exact .settings _ _ _ _ _ _ _ _ (by simp) rfl
    | some =>
      simp only [dispatch, delegate, call_ok] at ran
      obtain ⟨_, -, _, -, -, rfl⟩ := ran
      exact .settings _ _ _ _ _ _ _ _ (by simp) rfl

end SorobanPlayground.Governance
