import SorobanPlayground.Governance.Effects

/-! # Whose vote a call casts

A vote should cast the power of the voter, or of an account that delegated to
the voter. The contract follows the delegation the other way: it casts and uses
up the vote of the account at the end of the voter's own chain. The two agree
exactly when the voter delegates to nobody or lies on a delegation cycle.
-/

namespace SorobanPlayground.Governance

variable {Address : Type} [DecidableEq Address] {contract : Address}

def State.votesCast (state : State Address) (proposalId : Nat) : Int :=
  (state.proposals.get proposalId).elim 0 fun proposal =>
    proposal.votesFor + proposal.votesAgainst + proposal.votesAbstain

/-- Between two states exactly one account's vote on a proposal was cast: its
balance was added to the tallies and its vote is used up. -/
structure CastBy (state next : State Address) (proposalId : Nat) (account : Address) : Prop where
  unspent : state.hasVoted proposalId account = false
  spent : next.hasVoted proposalId account = true
  others : ∀ other, other ≠ account →
    next.hasVoted proposalId other = state.hasVoted proposalId other
  tallied : next.votesCast proposalId = state.votesCast proposalId + state.getBalance account

variable {proposalId : Nat}

theorem CastBy.unique {state next : State Address} {first second : Address}
    (left : CastBy state next proposalId first) (right : CastBy state next proposalId second) :
    first = second := by
  by_contra ne
  have same := right.others first ne
  rw [left.spent, left.unspent] at same
  cases same

/-- The account whose vote was cast is the voter or one whose delegation chain
leads to the voter. -/
def CastWithAuthority (state next : State Address) (voter : Address) (proposalId : Nat) : Prop :=
  ∃ account, CastBy state next proposalId account ∧
    (account = voter ∨ Delegation.Leads state.delegates.get account voter)

variable {env : Env Address contract} {state next : State Address}

omit [DecidableEq Address] in
theorem Named.setProposal (named : Named state) (proposal : Proposal Address) :
    Named (state.setProposal proposal) := by
  have wrote : proposal.id = proposal.id := rfl
  intro id got found
  exact forall_set named wrote id got found

theorem vote_castBy {voter : Address} {choice : VoteChoice} (named : Named state)
    (ran : vote env voter proposalId choice state = .ok next) :
    CastBy state next proposalId (state.resolveDelegate voter) := by
  have effect : Effect state next (env, .vote voter proposalId choice) :=
    dispatch_effect named ran
  cases effect with
  | settings _ _ _ _ _ _ _ _ unvoted => exact absurd rfl (unvoted voter proposalId choice)
  | move _ _ _ _ moves => exact moves.elim
  | vote _ _ _ _ proposal votesFor votesAgainst votesAbstain got unspent counted wrote =>
    subst wrote
    obtain rfl := named proposalId proposal got
    have flag : ∀ other, (state.recordVote proposal.id (state.resolveDelegate voter)).hasVoted
        proposal.id other =
          if other = state.resolveDelegate voter then true
          else state.hasVoted proposal.id other := by
      intro other
      unfold State.hasVoted State.recordVote FiniteMap.has
      rw [get_set]
      by_cases same : other = state.resolveDelegate voter <;> simp [same]
    refine ⟨unspent, (flag _).trans (if_pos rfl), fun other ne => ?_, ?_⟩
    · exact (flag other).trans (if_neg ne)
    · have before : state.votesCast proposal.id = proposal.votes := by
        unfold State.votesCast
        rw [got]
        rfl
      have after : ((state.recordVote proposal.id (state.resolveDelegate voter)).setProposal
          { proposal with votesFor, votesAgainst, votesAbstain }).votesCast proposal.id =
            votesFor + votesAgainst + votesAbstain := by
        exact congrArg (Option.elim · 0 _) (get_set_self _ _ _)
      rw [before, after, counted]

/-- A vote is cast with authority exactly when the voter delegates to nobody or
lies on a delegation cycle. -/
theorem castWithAuthority_iff {voter : Address} {choice : VoteChoice}
    (named : Named state) (ran : vote env voter proposalId choice state = .ok next) :
    CastWithAuthority state next voter proposalId ↔
      state.delegates.get voter = none ∨ Delegation.Leads state.delegates.get voter voter := by
  have cast := vote_castBy named ran
  have authority : CastWithAuthority state next voter proposalId ↔
      (state.resolveDelegate voter = voter ∨
        Delegation.Leads state.delegates.get (state.resolveDelegate voter) voter) := by
    constructor
    · rintro ⟨_, castAccount, leads⟩
      rwa [castAccount.unique cast] at leads
    · exact fun leads => ⟨_, cast, leads⟩
  rw [authority]
  cases named : state.delegates.get voter with
  | none => exact iff_of_true (.inl (Delegation.resolve_of_none named 8)) (.inl rfl)
  | some =>
    have leads : Delegation.Leads state.delegates.get voter (state.resolveDelegate voter) :=
      Delegation.leads_resolve named 7
    rw [Delegation.leads_back_iff leads]
    simp

theorem dispatch_named {call : Env Address contract × Operation Address} (named : Named state)
    (ran : dispatch state call = .ok next) : Named next := by
  cases dispatch_effect named ran with
  | settings _ _ _ _ _ _ _ _ _ wrote =>
    rw [wrote]
    exact named
  | mint _ _ _ _ wrote =>
    rw [wrote]
    exact named
  | propose _ _ _ _ _ proposal _ _ _ wrote =>
    rw [wrote]
    exact named.setProposal proposal
  | vote _ voter id _ _ _ _ _ _ _ _ wrote =>
    rw [wrote]
    have noted : Named (state.recordVote id (state.resolveDelegate voter)) := named
    exact noted.setProposal _
  | move _ _ _ _ _ wrote =>
    rw [wrote]
    exact named.setProposal _

omit [DecidableEq Address] in
theorem named_empty : Named ({} : State Address) := by
  intro id proposal got
  cases got

variable (state : State Address) (call : Env Address contract × Operation Address)

theorem named_step (next : State Address) (named : Named state)
    (ran : (machine contract).exec state call = .ok next) : Named next :=
  dispatch_named named ran

theorem run_named (calls : List (Env Address contract × Operation Address)) :
    Named ((machine contract).run {} calls) :=
  run_invariant named_step named_empty calls

/-- A call that votes casts a vote with authority. -/
def VotesWithAuthority : Prop :=
  match call.2 with
  | .vote voter proposalId choice => ∀ next, vote call.1 voter proposalId choice state = .ok next →
      CastWithAuthority state next voter proposalId
  | _ => True

/-- A call that votes is made by an account that delegates to nobody or lies on a
delegation cycle. -/
def VoterKeepsVote : Prop :=
  match call.2 with
  | .vote voter _ _ =>
      state.delegates.get voter = none ∨ Delegation.Leads state.delegates.get voter voter
  | _ => True

/-- A call at the given time that every account authorizes. -/
def signed (timestamp : Nat) : Env Nat 0 :=
  { timestamp, auths := [1, 2, 3], contract_silent := zero_notMem_three_signers }

/-- Account `3` holds nothing and delegates to account `2`. -/
def delegatedRun : List (Env Nat 0 × Operation Nat) :=
  [(signed 0, .initializeGovernance 1 none none none none), (signed 0, .mint 1 2 300),
    (signed 0, .propose 2 "title" "text" 0), (signed 0, .delegate 3 (some 2))]

end SorobanPlayground.Governance
