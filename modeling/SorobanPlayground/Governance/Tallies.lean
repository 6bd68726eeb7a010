import SorobanPlayground.Governance.VotingAuthority

/-! # Tallies

Each vote that a proposal counts is the balance of one account, which is marked so that it
is counted once, whoever delegates to it when. As balances only grow, the votes of a
proposal never exceed the supply.
-/

namespace SorobanPlayground.Governance

open List State

variable {Address : Type} [DecidableEq Address] {contract : Address}

/-- A balance that was counted for a proposal. -/
structure Ballot (Address : Type) where
  proposalId : Nat
  account : Address
  power : Int

/-- The ballots after a successful call: a vote counts the balance of the effective voter. -/
def Ballot.follow (state : State Address) (call : Env Address contract × Operation Address)
    (_ : State Address) (ballots : List (Ballot Address)) : List (Ballot Address) :=
  match call.2 with
  | .vote voter proposalId _ =>
      let account := state.resolveDelegate voter
      { proposalId, account, power := state.getBalance account } :: ballots
  | _ => ballots

/-- The governance contract with the ballots that were counted. -/
def counting (contract : Address) :
    CallMachine (State Address × List (Ballot Address)) (Env Address contract × Operation Address)
      (Failure Error) :=
  (machine contract).withGhost Ballot.follow

def ballotsOn (proposalId : Nat) (ballots : List (Ballot Address)) : List (Ballot Address) :=
  ballots.filter fun ballot => ballot.proposalId = proposalId

/-- The votes of a proposal are its ballots, no two of one account. -/
structure Counted (ballots : List (Ballot Address)) (proposal : Proposal Address) : Prop where
  once : ((ballotsOn proposal.id ballots).map Ballot.account).Nodup
  votes : proposal.votes = ((ballotsOn proposal.id ballots).map Ballot.power).sum

/-- What holds of every ballot. -/
structure Filed (state : State Address) (ballot : Ballot Address) : Prop where
  proposed : ballot.proposalId < state.proposalCount
  marked : state.hasVoted ballot.proposalId ballot.account = true
  covered : ballot.power ≤ state.getBalance ballot.account

/-- The supply is the sum of the balances, which are not negative, and every ballot is filed,
no two of one account for one proposal. -/
structure Sound (books : State Address × List (Ballot Address)) : Prop where
  named : Named books.1
  numbered : ∀ id proposal, books.1.proposals.get id = some proposal → id < books.1.proposalCount
  supply : books.1.totalSupply = books.1.balances.total fun _ balance => balance
  balances : ∀ address balance, books.1.balances.get address = some balance → 0 ≤ balance
  filed : ∀ ballot ∈ books.2, Filed books.1 ballot
  once : (books.2.map fun ballot => (ballot.proposalId, ballot.account)).Nodup
  votes : ∀ id proposal, books.1.proposals.get id = some proposal →
    proposal.votes = ((ballotsOn id books.2).map Ballot.power).sum

omit [DecidableEq Address] in
theorem ballotsOn_cons (ballot : Ballot Address) (ballots : List (Ballot Address)) (id : Nat) :
    ballotsOn id (ballot :: ballots) =
      if ballot.proposalId = id then ballot :: ballotsOn id ballots else ballotsOn id ballots := by
  unfold ballotsOn
  rw [filter_cons]
  by_cases same : ballot.proposalId = id
  · rw [if_pos same, if_pos (decide_eq_true same)]
  · rw [if_neg same, decide_eq_false same, if_neg Bool.false_ne_true]

theorem sound_empty : Sound (({}, []) : State Address × List (Ballot Address)) where
  named := named_empty
  numbered id proposal got := by cases got
  supply := rfl
  balances address balance got := by cases got
  filed ballot mem := by cases mem
  once := nodup_nil
  votes id proposal got := by cases got

variable {books : State Address × List (Ballot Address)}

theorem Sound.getBalance_nonneg (sound : Sound books) (address : Address) :
    0 ≤ books.1.getBalance address := by
  unfold getBalance
  cases got : books.1.balances.get address with
  | none => exact le_rfl
  | some balance => exact sound.balances address balance got

variable {id : Nat} {proposal : Proposal Address}

theorem Sound.counted (sound : Sound books) (got : books.1.proposals.get id = some proposal) :
    Counted books.2 proposal := by
  obtain rfl := sound.named id proposal got
  refine ⟨?_, sound.votes _ proposal got⟩
  have keys : ((ballotsOn proposal.id books.2).map Ballot.account).map (Prod.mk proposal.id) =
      (ballotsOn proposal.id books.2).map fun ballot => (ballot.proposalId, ballot.account) := by
    rw [map_map]
    apply map_congr_left
    intro ballot mem
    have filed : ballot.proposalId = proposal.id :=
      of_decide_eq_true (mem_filter.mp mem).2
    rw [filed]
    rfl
  have fewer : (ballotsOn proposal.id books.2).Sublist books.2 := filter_sublist
  have apart := sound.once.sublist (fewer.map _)
  rw [← keys] at apart
  exact apart.of_map _

theorem Sound.votes_le_supply (sound : Sound books)
    (got : books.1.proposals.get id = some proposal) : proposal.votes ≤ books.1.totalSupply := by
  obtain ⟨once, votes⟩ := sound.counted got
  have balances := FiniteMap.sum_weightAt_le_total sound.balances once
  rw [← sound.supply, map_map] at balances
  refine (votes.le.trans (sum_le_sum fun ballot mem => ?_)).trans balances
  have covered := (sound.filed ballot (mem_of_mem_filter mem)).covered
  unfold getBalance at covered
  cases held : books.1.balances.get ballot.account with
  | none => simpa [held] using covered
  | some => simpa [held] using covered

variable {state : State Address} {ballots : List (Ballot Address)}

theorem getBalance_setBalance (state : State Address) (address other : Address) (balance : Int) :
    (state.setBalance address balance).getBalance other =
      if other = address then balance else state.getBalance other := by
  unfold setBalance getBalance
  rw [get_set]
  by_cases same : other = address
  · rw [if_pos same, if_pos same]
    rfl
  · rw [if_neg same, if_neg same]

theorem hasVoted_recordVote (state : State Address) (id other : Nat) (voter account : Address) :
    (state.recordVote id voter).hasVoted other account = true ↔
      (other, account) = (id, voter) ∨ state.hasVoted other account = true := by
  unfold recordVote hasVoted
  rw [has_eq_true, has_eq_true, get_set]
  by_cases same : (other, account) = (id, voter)
  · simp [same]
  · simp [same]

theorem Sound.mint (sound : Sound (state, ballots)) (recipient : Address) {amount : Int}
    (pos : 0 < amount) :
    Sound ((state.setBalance recipient (state.getBalance recipient + amount)).setTotalSupply
      (state.totalSupply + amount), ballots) := by
  have nonneg := sound.getBalance_nonneg recipient
  have supply : state.totalSupply = state.balances.total fun _ balance => balance := sound.supply
  refine ⟨sound.named, sound.numbered, ?_, ?_, fun ballot mem => ?_, sound.once, sound.votes⟩
  · have wrote := total_set_getD state.balances (fun _ balance => balance) recipient
      (state.getBalance recipient + amount) 0 rfl
    change state.totalSupply + amount = (state.balances.set recipient _).total _
    rw [wrote, supply]
    unfold getBalance
    omega
  · exact forall_set sound.balances (add_nonneg nonneg pos.le)
  · obtain ⟨proposed, marked, covered⟩ := sound.filed ballot mem
    refine ⟨proposed, marked, covered.trans ?_⟩
    change _ ≤ (state.setBalance recipient _).getBalance ballot.account
    rw [getBalance_setBalance]
    split
    · next same =>
      rw [same]
      exact le_add_of_nonneg_right pos.le
    · exact le_rfl

theorem Sound.propose (sound : Sound (state, ballots)) (named : proposal.id = state.proposalCount)
    (unvoted : proposal.votes = 0) :
    Sound ((state.setProposal proposal).setProposalCount (state.proposalCount + 1), ballots) := by
  have unfiled : ballotsOn state.proposalCount ballots = [] := by
    apply filter_eq_nil_iff.mpr
    intro ballot mem
    have proposed : ballot.proposalId < state.proposalCount := (sound.filed ballot mem).proposed
    simpa using proposed.ne
  refine ⟨sound.named.setProposal proposal, ?_, sound.supply, sound.balances,
    fun ballot mem => ?_, sound.once, ?_⟩
  · refine forall_set (fun id got found => ?_) ?_
    · exact Nat.lt_succ_of_lt (sound.numbered id got found)
    · rw [named]
      exact Nat.lt_succ_self _
  · obtain ⟨proposed, marked, covered⟩ := sound.filed ballot mem
    exact ⟨Nat.lt_succ_of_lt proposed, marked, covered⟩
  · apply forall_set sound.votes
    rw [named, unfiled, unvoted]
    rfl

theorem Sound.vote (sound : Sound (state, ballots)) {account : Address}
    {proposal tallied : Proposal Address} (got : state.proposals.get proposal.id = some proposal)
    (unmarked : state.hasVoted proposal.id account = false) (named : tallied.id = proposal.id)
    (counted : tallied.votes = proposal.votes + state.getBalance account) :
    Sound ((state.recordVote proposal.id account).setProposal tallied,
      { proposalId := proposal.id, account, power := state.getBalance account } :: ballots) := by
  have noted : Named (state.recordVote proposal.id account) := sound.named
  have proposed : proposal.id < state.proposalCount := sound.numbered _ proposal got
  refine ⟨noted.setProposal tallied, ?_, sound.supply, sound.balances, ?_, ?_, ?_⟩
  · exact forall_set sound.numbered (named ▸ proposed)
  · intro ballot mem
    rcases mem_cons.mp mem with rfl | filed
    · exact ⟨proposed, (hasVoted_recordVote _ _ _ _ _).mpr (.inl rfl), le_rfl⟩
    · obtain ⟨proposed, marked, covered⟩ := sound.filed ballot filed
      exact ⟨proposed, (hasVoted_recordVote _ _ _ _ _).mpr (.inr marked), covered⟩
  · refine nodup_cons.mpr ⟨fun again => ?_, sound.once⟩
    obtain ⟨ballot, filed, same⟩ := mem_map.mp again
    obtain ⟨sameId, sameAccount⟩ := Prod.mk.inj same
    have marked : state.hasVoted ballot.proposalId ballot.account = true :=
      (sound.filed ballot filed).marked
    rw [sameId, sameAccount, unmarked] at marked
    cases marked
  · intro id other found
    have read : (state.proposals.set tallied.id tallied).get id = some other := found
    rw [get_set, named] at read
    rw [ballotsOn_cons]
    by_cases same : id = proposal.id
    · subst same
      rw [if_pos rfl] at read
      cases read
      have before : proposal.votes = ((ballotsOn proposal.id ballots).map Ballot.power).sum :=
        sound.votes _ proposal got
      rw [if_pos rfl, counted, before, map_cons, sum_cons, add_comm]
    · rw [if_neg same] at read
      rw [if_neg (Ne.symm same)]
      exact sound.votes id other read

theorem Sound.move (sound : Sound (state, ballots))
    (got : state.proposals.get proposal.id = some proposal) (status : ProposalStatus) :
    Sound (state.setProposal { proposal with status }, ballots) := by
  refine ⟨sound.named.setProposal _, ?_, sound.supply, sound.balances, ?_, sound.once, ?_⟩
  · exact forall_set sound.numbered (sound.numbered _ proposal got)
  · intro ballot mem
    obtain ⟨proposed, marked, covered⟩ := sound.filed ballot mem
    exact ⟨proposed, marked, covered⟩
  · exact forall_set sound.votes (sound.votes _ proposal got)

def Operation.MintsPositive (operation : Operation Address) : Prop :=
  match operation with
  | .mint _ _ amount => 0 < amount
  | _ => True

variable {call : Env Address contract × Operation Address}

theorem follow_of_unvoted {state next : State Address} {ballots : List (Ballot Address)}
    (unvoted : ∀ voter id choice, call.2 ≠ .vote voter id choice) :
    Ballot.follow state call next ballots = ballots := by
  obtain ⟨_, op⟩ := call
  cases op with
  | vote voter id choice => exact absurd rfl (unvoted voter id choice)
  | _ => rfl

omit [DecidableEq Address] in
theorem Moves.unvoted {state next : State Address} {status : ProposalStatus}
    (moves : Moves state next call proposal status) (voter : Address) (id : Nat)
    (choice : VoteChoice) : call.2 ≠ .vote voter id choice := by
  intro votes
  unfold Moves at moves
  rw [votes] at moves
  exact moves

theorem sound_step (books : State Address × List (Ballot Address))
    (call : Env Address contract × Operation Address) (next : State Address × List (Ballot Address))
    (sound : Sound books) (pos : call.2.MintsPositive)
    (ran : (counting contract).exec books call = .ok next) : Sound next := by
  obtain ⟨state, _⟩ := books
  obtain ⟨_, _⟩ := next
  obtain ⟨dispatched, followed⟩ := withGhost_exec_eq_ok.mp ran
  have named : Named state := sound.named
  dsimp only at followed
  subst followed
  cases dispatch_effect named dispatched with
  | settings _ _ _ _ _ _ _ _ unvoted wrote =>
    subst wrote
    rw [follow_of_unvoted unvoted]
    exact ⟨sound.named, sound.numbered, sound.supply, sound.balances,
      fun ballot mem => ⟨(sound.filed ballot mem).proposed,
        (sound.filed ballot mem).marked, (sound.filed ballot mem).covered⟩,
      sound.once, sound.votes⟩
  | mint _ _ recipient _ wrote =>
    subst wrote
    exact sound.mint recipient pos
  | propose _ _ _ _ _ _ named _ unvoted wrote =>
    subst wrote
    exact sound.propose named unvoted
  | vote _ _ id _ proposal _ _ _ got unmarked counted wrote =>
    subst wrote
    obtain rfl := named id proposal got
    exact sound.vote got unmarked rfl counted
  | move _ _ status got moves wrote =>
    subst wrote
    rw [follow_of_unvoted moves.unvoted]
    exact sound.move got status

/-- A call of a run finalised a proposal as passed, after its voting window had closed. -/
def PassedBy (calls : List (Env Address contract × Operation Address))
    (proposal : Proposal Address) : Prop :=
  ∃ first env later, calls = first ++ (env, .finalise proposal.id) :: later ∧
    proposal.voteEnd < env.timestamp ∧
    finalise env proposal.id ((machine contract).run {} first) =
      .ok (.passed, (machine contract).run {} (first ++ [(env, .finalise proposal.id)]))

/-- A call of a run executed a proposal that was finalised as passed before, after its
timelock had elapsed. -/
def ExecutedBy (calls : List (Env Address contract × Operation Address))
    (proposal : Proposal Address) : Prop :=
  ∃ first env caller later, calls = first ++ (env, .execute caller proposal.id) :: later ∧
    proposal.executeAfter ≤ env.timestamp ∧
    execute env caller proposal.id ((machine contract).run {} first) =
      .ok ((machine contract).run {} (first ++ [(env, .execute caller proposal.id)])) ∧
    PassedBy first proposal

/-- How a proposal came to its status. -/
def Explained (calls : List (Env Address contract × Operation Address))
    (proposal : Proposal Address) : Prop :=
  (proposal.status = .passed → PassedBy calls proposal) ∧
    (proposal.status = .executed → ExecutedBy calls proposal)

/-- Two versions of a proposal have the same id and the same times. -/
structure SameTerms (proposal other : Proposal Address) : Prop where
  id : other.id = proposal.id
  voteEnd : other.voteEnd = proposal.voteEnd
  executeAfter : other.executeAfter = proposal.executeAfter

variable {calls : List (Env Address contract × Operation Address)}
  {proposal other : Proposal Address}

theorem PassedBy.extend (passed : PassedBy calls proposal) (terms : SameTerms proposal other)
    (more : List (Env Address contract × Operation Address)) : PassedBy (calls ++ more) other := by
  obtain ⟨first, env, later, rfl, closed, finalised⟩ := passed
  rw [← terms.id] at finalised
  refine ⟨first, env, later ++ more, ?_, terms.voteEnd.trans_lt closed, finalised⟩
  rw [terms.id, append_assoc]
  rfl

theorem ExecutedBy.extend (ran : ExecutedBy calls proposal) (terms : SameTerms proposal other)
    (more : List (Env Address contract × Operation Address)) :
    ExecutedBy (calls ++ more) other := by
  obtain ⟨first, env, caller, later, rfl, elapsed, executes, passed⟩ := ran
  rw [← terms.id] at executes
  have before := passed.extend terms []
  rw [append_nil] at before
  refine ⟨first, env, caller, later ++ more, ?_, terms.executeAfter.trans_le elapsed, executes,
    before⟩
  rw [terms.id, append_assoc]
  rfl

theorem Explained.extend (explained : Explained calls proposal) (terms : SameTerms proposal other)
    (status : other.status = proposal.status)
    (more : List (Env Address contract × Operation Address)) : Explained (calls ++ more) other := by
  refine ⟨fun passed => ?_, fun ran => ?_⟩
  · exact (explained.1 (status.symm.trans passed)).extend terms more
  · exact (explained.2 (status.symm.trans ran)).extend terms more

theorem Effect.proposal_cases {state next : State Address}
    {call : Env Address contract × Operation Address} (named : Named state)
    (effect : Effect state next call) {id : Nat} (found : next.proposals.get id = some other) :
    (∃ proposal, state.proposals.get id = some proposal ∧ SameTerms proposal other ∧
      other.status = proposal.status) ∨ other.status = .active ∨
    (∃ proposal, state.proposals.get id = some proposal ∧ SameTerms proposal other ∧
      Moves state next call proposal other.status) := by
  cases effect with
  | settings _ _ _ _ _ _ _ _ _ wrote =>
    subst wrote
    exact .inl ⟨other, found, ⟨rfl, rfl, rfl⟩, rfl⟩
  | mint _ _ _ _ wrote =>
    subst wrote
    exact .inl ⟨other, found, ⟨rfl, rfl, rfl⟩, rfl⟩
  | propose _ _ _ _ _ proposal _ active _ wrote =>
    subst wrote
    have read : (state.proposals.set proposal.id proposal).get id = some other := found
    rw [get_set] at read
    split at read
    · cases read
      exact .inr (.inl active)
    · exact .inl ⟨other, read, ⟨rfl, rfl, rfl⟩, rfl⟩
  | vote _ _ key _ proposal votesFor votesAgainst votesAbstain got _ _ wrote =>
    subst wrote
    obtain rfl := named key proposal got
    have read : (state.proposals.set proposal.id
        { proposal with votesFor, votesAgainst, votesAbstain }).get id = some other := found
    rw [get_set] at read
    split at read
    · next same =>
      cases read
      exact .inl ⟨proposal, same ▸ got, ⟨rfl, rfl, rfl⟩, rfl⟩
    · exact .inl ⟨other, read, ⟨rfl, rfl, rfl⟩, rfl⟩
  | move _ proposal status got moves wrote =>
    have read : (state.proposals.set proposal.id { proposal with status }).get id = some other := by
      rw [wrote] at found
      exact found
    rw [get_set] at read
    split at read
    · next same =>
      cases read
      exact .inr (.inr ⟨proposal, same ▸ got, ⟨rfl, rfl, rfl⟩, moves⟩)
    · exact .inl ⟨other, read, ⟨rfl, rfl, rfl⟩, rfl⟩

theorem Moves.explained (before : Explained calls proposal) (terms : SameTerms proposal other)
    (ran : (machine contract).exec ((machine contract).run {} calls) call =
      .ok ((machine contract).run {} (calls ++ [call])))
    (moves : Moves ((machine contract).run {} calls) ((machine contract).run {} (calls ++ [call]))
      call proposal other.status) : Explained (calls ++ [call]) other := by
  obtain ⟨env, op⟩ := call
  cases op with
  | finalise =>
    obtain ⟨rfl, -, closed, ended, finalised⟩ := moves
    refine ⟨fun passed => ?_, fun ran => ?_⟩
    · rw [passed] at finalised
      rw [← terms.id] at finalised ⊢
      exact ⟨calls, env, [], rfl, terms.voteEnd.trans_lt closed, finalised⟩
    · rw [ran] at ended
      rcases ended with passed | defeated
      · cases passed
      · cases defeated
  | execute caller =>
    obtain ⟨rfl, passed, elapsed, status⟩ := moves
    refine ⟨fun passed => ?_, fun _ => ?_⟩
    · rw [status] at passed
      cases passed
    · have earlier := (before.1 passed).extend terms []
      rw [append_nil] at earlier
      rw [← terms.id] at ran ⊢
      exact ⟨calls, env, caller, [], rfl, terms.executeAfter.trans_le elapsed, ran, earlier⟩
  | cancel =>
    obtain ⟨-, -, status⟩ := moves
    unfold Explained
    rw [status]
    exact ⟨nofun, nofun⟩
  | _ => exact moves.elim

theorem run_explained (calls : List (Env Address contract × Operation Address)) (id : Nat)
    (proposal : Proposal Address)
    (got : ((machine contract).run {} calls).proposals.get id = some proposal) :
    Explained calls proposal := by
  induction calls using List.reverseRecOn generalizing id proposal with
  | nil => cases got
  | append_singleton calls call ih =>
    have last : (machine contract).run {} (calls ++ [call]) =
        (machine contract).apply ((machine contract).run {} calls) call :=
      run_append _ _ calls [call]
    rcases (machine contract).apply_cases ((machine contract).run {} calls) call with
      ran | same
    · rw [← last] at ran
      have named := run_named calls
      rcases (dispatch_effect named ran).proposal_cases named got with
        ⟨before, found, terms, status⟩ | active | ⟨before, found, terms, moves⟩
      · exact (ih id before found).extend terms status [call]
      · unfold Explained
        rw [active]
        exact ⟨nofun, nofun⟩
      · exact moves.explained (ih id before found) terms ran
    · rw [last, same] at got
      exact (ih id proposal got).extend ⟨rfl, rfl, rfl⟩ rfl [call]

/-- In every run that mints positive amounts, the supply is the sum of the balances and covers
the votes of every proposal, which count each account's balance at most once, and an
executed proposal was finalised as passed after its window and executed after its
timelock. -/
theorem tallies_sound {calls : List (Env Address contract × Operation Address)}
    (positive : ∀ call ∈ calls, call.2.MintsPositive) :
    let books := (counting contract).run ({}, []) calls
    books.1 = (machine contract).run {} calls ∧
    books.1.totalSupply = (books.1.balances.total fun _ balance => balance) ∧
    ∀ id proposal, books.1.proposals.get id = some proposal →
      proposal.votes ≤ books.1.totalSupply ∧ Counted books.2 proposal ∧
        (proposal.status = .executed → ExecutedBy calls proposal) := by
  have followed : ((counting contract).run ({}, []) calls).1 = (machine contract).run {} calls := by
    exact withGhost_run_fst _ calls
  have meets : (counting contract).Meets (fun _ call => call.2.MintsPositive) ({}, []) calls :=
    meets_of_mem (fun call mem _ => positive call mem) _
  have sound : Sound ((counting contract).run ({}, []) calls) :=
    (always_of_meets sound_step sound_empty meets).final
  refine ⟨followed, sound.supply, fun id proposal got => ?_⟩
  refine ⟨sound.votes_le_supply got, sound.counted got, fun ran => ?_⟩
  rw [followed] at got
  exact (run_explained calls id proposal got).2 ran

/-- Account 2 proposes and account 3 votes through it, and the proposal is executed. -/
def executedRun : List (Env Nat 0 × Operation Nat) :=
  delegatedRun ++ [(signed 1, .vote 3 0 .for), (signed 2, .delegate 3 none),
    (signed 604801, .finalise 0), (signed 777600, .execute 1 0)]

theorem tallies_sound_at_executed :
    ∃ proposal, ((counting (0 : Nat)).run ({}, []) executedRun).1.proposals.get 0 = some proposal ∧
      proposal.status = .executed ∧ proposal.votes = 300 ∧ ExecutedBy executedRun proposal := by
  have pos : ∀ call ∈ executedRun, call.2.MintsPositive := by
    simp [executedRun, delegatedRun, Operation.MintsPositive]
  obtain ⟨-, -, sound⟩ := tallies_sound pos
  exact ⟨_, rfl, rfl, rfl, (sound 0 _ rfl).2.2 rfl⟩

end SorobanPlayground.Governance
