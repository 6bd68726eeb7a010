import SorobanPlayground.Indexer.Quorums.Interleaving
import SorobanPlayground.Indexer.Quorums.Soundness

/-! # Reputations

A record beside the run keeps the decision that achieved each quorum and the reputation changes
made for it.
-/

namespace SorobanPlayground.Indexer.Quorums

open Function List OrderedMap

namespace Interleaving

variable {Call : Type} [DecidableEq Call]

/-- What a call has decided on when a quorum becomes `ConsensusAchieved`. -/
structure Decision where
  strategy : ConsensusStrategy
  votes : List Vote
  activeOracles : Nat
  /-- The choice of the call. -/
  choice : String

/-- A choice that meets the strategy requirement. -/
def Decision.Met (decision : Decision) (choice : String) : Prop :=
  Reached decision.strategy (countOf decision.votes choice) decision.activeOracles

instance (decision : Decision) (choice : String) : Decidable (decision.Met choice) :=
  inferInstanceAs (Decidable (Reached _ _ _))

structure Record where
  decided : String → Option Decision := fun _ => none
  /-- The oracles whose reputation has changed because of a quorum, with the change. -/
  changes : String → List (String × Int) := fun _ => []
  /-- The registered reputations with the changes since. -/
  reputation : String → Option Int := fun _ => none

def Record.decide (record : Record) (quorumId : String) (decision : Decision) : Record :=
  { record with decided := Function.update record.decided quorumId (some decision) }

def Record.change (record : Record) (quorumId oracleId : String) (change : Int) : Record :=
  { record with
    changes := Function.update record.changes quorumId
      (record.changes quorumId ++ [(oracleId, change)])
    reputation := Function.update record.reputation oracleId
      ((record.reputation oracleId).map fun reputation => reputation + change) }

/-- The record after an event. -/
def follow (state : State Call) (event : Event Call) (_ : State Call) (record : Record) : Record :=
  match event with
  | .register oracles =>
      { record with
        reputation := fun oracleId => (oracles.get oracleId).map Oracle.reputation }
  | .statement call =>
      match state.phase call with
      | .updateState vote quorum votes activeOracles .consensusAchieved =>
          record.decide vote.quorumId ⟨quorum.consensusStrategy, votes, activeOracles, vote.choice⟩
      | .updateReputations vote _ _ _ (rewarded :: _) =>
          record.change vote.quorumId rewarded.oracleId (reputationChange rewarded vote.choice)
      | _ => record
  | _ => record

/-- The calls beside the record. -/
def recording : CallMachine (State Call × Record) (Event Call) Unit := machine.withGhost follow

/-- The call and the votes left of a loop of `update_reputations`. -/
def Phase.loop : Phase → Option (Vote × List Vote)
  | .updateReputations vote _ _ _ rest => some (vote, rest)
  | _ => none

/-- A call that changes reputations because of a quorum. -/
def Phase.Rewards (phase : Phase) (quorumId : String) : Prop :=
  ∃ vote rest, phase.loop = some (vote, rest) ∧ vote.quorumId = quorumId

/-- Reputations change once for each vote of an achieved quorum, as its choice asks for. -/
structure Rewarded (state : State Call) (record : Record) : Prop where
  reputations : ∀ oracleId,
    (state.database.oracles.get oracleId).map Oracle.reputation = record.reputation oracleId
  once : ∀ quorumId, ((record.changes quorumId).map Prod.fst).Nodup
  achieved : ∀ quorumId decision, record.decided quorumId = some decision →
    ∃ quorum, state.database.quorums.get quorumId = some quorum ∧
      quorum.state = QuorumState.consensusAchieved.asRef
  only : ∀ quorumId oracleId change, (oracleId, change) ∈ record.changes quorumId →
    ∃ decision, record.decided quorumId = some decision ∧
      ∃ vote ∈ state.database.getVotesForQuorum quorumId, vote.oracleId = oracleId ∧
        change = if decision.Met vote.choice then 10 else -20
  all : ∀ quorumId decision, record.decided quorumId = some decision →
    (∀ call, ¬ (state.phase call).Rewards quorumId) →
    ∀ vote ∈ state.database.getVotesForQuorum quorumId,
      vote.oracleId ∈ (record.changes quorumId).map Prod.fst

/-- A quorum that is not achieved yet. -/
def Pending (state : State Call) (quorumId : String) : Prop :=
  ∃ quorum, state.database.quorums.get quorumId = some quorum ∧
    quorum.state ≠ QuorumState.consensusAchieved.asRef

/-- Calls write on quorums that are not achieved yet; a call that achieves one has read all of its
votes, and the choice of the call alone meets the requirement. -/
def Undisturbed (state : State Call) : Event Call → Prop
  | .statement call =>
      match state.phase call with
      | .saveVote vote _ => Pending state vote.quorumId
      | .updateState vote quorum votes activeOracles newState =>
          Pending state vote.quorumId ∧
            (newState = .consensusAchieved →
              state.database.getVotesForQuorum vote.quorumId = votes ∧
                ∀ choice ∈ choices votes,
                  Reached quorum.consensusStrategy (countOf votes choice) activeOracles ↔
                    choice = vote.choice)
      | _ => True
  | _ => True

def Decision.changeOf (decision : Decision) (vote : Vote) : String × Int :=
  (vote.oracleId, reputationChange vote decision.choice)

/-- How far the reputations of an achieved quorum have been changed. -/
structure Progress (state : State Call) (record : Record) (quorumId : String)
    (decision : Decision) : Prop where
  ended : ∃ quorum, state.database.quorums.get quorumId = some quorum ∧
    quorum.state = QuorumState.consensusAchieved.asRef
  votes : state.database.getVotesForQuorum quorumId = decision.votes
  met : ∀ choice ∈ choices decision.votes, decision.Met choice ↔ choice = decision.choice
  single : ∀ first second, (state.phase first).Rewards quorumId →
    (state.phase second).Rewards quorumId → first = second
  loop : ∀ call vote rest, (state.phase call).loop = some (vote, rest) →
    vote.quorumId = quorumId → vote.choice = decision.choice ∧
      ∃ before, decision.votes = before ++ rest ∧
        record.changes quorumId = before.map decision.changeOf
  finished : (∀ call, ¬ (state.phase call).Rewards quorumId) →
    record.changes quorumId = decision.votes.map decision.changeOf

/-- Reputations change because of a quorum only after its decision. -/
def Settled (state : State Call) (record : Record) (quorumId : String) : Prop :=
  match record.decided quorumId with
  | none => record.changes quorumId = [] ∧ ∀ call, ¬ (state.phase call).Rewards quorumId
  | some decision => Progress state record quorumId decision

structure Settling (state : State Call) (record : Record) : Prop where
  wellFormed : state.database.WellFormed
  reputations : ∀ oracleId,
    (state.database.oracles.get oracleId).map Oracle.reputation = record.reputation oracleId
  settled : ∀ quorumId, Settled state record quorumId

variable {recorded : Record}

section Settled

variable {state : State Call} {record : Record} {quorumId : String}

omit [DecidableEq Call]

theorem settled_none (undecided : record.decided quorumId = none) :
    Settled state record quorumId ↔
      record.changes quorumId = [] ∧ ∀ call, ¬ (state.phase call).Rewards quorumId := by
  unfold Settled
  rw [undecided]

theorem settled_some {decision : Decision} (decided : record.decided quorumId = some decision) :
    Settled state record quorumId ↔ Progress state record quorumId decision := by
  unfold Settled
  rw [decided]

theorem Progress.changes {decision : Decision}
    (progress : Progress state record quorumId decision) :
    ∃ before rest, decision.votes = before ++ rest ∧
      record.changes quorumId = before.map decision.changeOf := by
  by_cases rewards : ∃ call, (state.phase call).Rewards quorumId
  · obtain ⟨call, vote, rest, phase, named⟩ := rewards
    obtain ⟨-, before, split, changes⟩ := progress.loop call vote rest phase named
    exact ⟨before, rest, split, changes⟩
  · exact ⟨decision.votes, [], (append_nil _).symm,
      progress.finished fun call running => rewards ⟨call, running⟩⟩

theorem Settling.rewarded (settling : Settling state record) : Rewarded state record := by
  refine ⟨settling.reputations, fun quorumId => ?_, fun quorumId decision decided =>
    ((settled_some decided).mp (settling.settled quorumId)).ended, ?_, ?_⟩
  · cases decided : record.decided quorumId with
    | none =>
      rw [((settled_none decided).mp (settling.settled quorumId)).1]
      exact nodup_nil
    | some =>
      have progress := (settled_some decided).mp (settling.settled quorumId)
      obtain ⟨before, rest, split, changes⟩ := progress.changes
      have apart : ((state.database.getVotesForQuorum quorumId).map Vote.oracleId).Nodup :=
        voters_nodup settling.wellFormed
      rw [progress.votes, split, map_append] at apart
      rw [changes, map_map]
      exact (nodup_append.mp apart).1
  · intro quorumId oracleId change mem
    cases decided : record.decided quorumId with
    | none =>
      rw [((settled_none decided).mp (settling.settled quorumId)).1] at mem
      cases mem
    | some decision =>
      have progress := (settled_some decided).mp (settling.settled quorumId)
      obtain ⟨_, rest, split, changes⟩ := progress.changes
      rw [changes] at mem
      obtain ⟨vote, rewarded, same⟩ := mem_map.mp mem
      cases same
      have counted : vote ∈ decision.votes := by
        rw [split]
        exact mem_append_left rest rewarded
      refine ⟨decision, rfl, vote, ?_, rfl, ?_⟩
      · rw [progress.votes]
        exact counted
      · have agree := progress.met vote.choice (mem_choices counted)
        unfold reputationChange
        by_cases chosen : vote.choice = decision.choice
        · rw [if_pos chosen, if_pos (agree.mpr chosen)]
        · rw [if_neg chosen, if_neg fun met => chosen (agree.mp met)]
  · intro quorumId decision decided quiet vote mem
    have progress := (settled_some decided).mp (settling.settled quorumId)
    rw [progress.finished quiet, map_map]
    rw [progress.votes] at mem
    exact mem_map.mpr ⟨vote, mem, rfl⟩

theorem Settling.undecided (settling : Settling state record) (pending : Pending state quorumId) :
    record.decided quorumId = none := by
  obtain ⟨_, got, unachieved⟩ := pending
  cases decided : record.decided quorumId with
  | none => rfl
  | some =>
    obtain ⟨ended, found, met⟩ :=
      ((settled_some decided).mp (settling.settled quorumId)).ended
    cases found.symm.trans got
    exact absurd met unachieved

/-- What a step leaves of the rewards of a quorum. -/
structure Same (state next : State Call) (record recorded : Record) (quorumId : String) :
    Prop where
  stored : record.decided quorumId ≠ none →
    next.database.quorums.get quorumId = state.database.quorums.get quorumId ∧
      next.database.getVotesForQuorum quorumId = state.database.getVotesForQuorum quorumId
  loops : ∀ call vote rest, vote.quorumId = quorumId →
    ((next.phase call).loop = some (vote, rest) ↔ (state.phase call).loop = some (vote, rest))
  decided : recorded.decided quorumId = record.decided quorumId
  changes : recorded.changes quorumId = record.changes quorumId

theorem Same.rewards {next : State Call} (same : Same state next record recorded quorumId)
    (call : Call) : (next.phase call).Rewards quorumId ↔ (state.phase call).Rewards quorumId := by
  refine exists_congr fun vote => exists_congr fun rest => ?_
  exact and_congr_left fun named => same.loops call vote rest named

theorem Settled.same {next : State Call} (settled : Settled state record quorumId)
    (same : Same state next record recorded quorumId) : Settled next recorded quorumId := by
  cases decided : record.decided quorumId with
  | none =>
    obtain ⟨changes, quiet⟩ := (settled_none decided).mp settled
    refine (settled_none (same.decided.trans decided)).mpr ⟨same.changes.trans changes, ?_⟩
    exact fun call running => quiet call ((same.rewards call).mp running)
  | some decision =>
    have progress := (settled_some decided).mp settled
    have here : record.decided quorumId ≠ none := by
      rw [decided]
      exact Option.some_ne_none decision
    obtain ⟨quorums, votes⟩ := same.stored here
    refine (settled_some (same.decided.trans decided)).mpr
      ⟨?_, votes.trans progress.votes, progress.met, ?_, ?_, ?_⟩
    · rw [quorums]
      exact progress.ended
    · intro first second one two
      exact progress.single first second ((same.rewards first).mp one)
        ((same.rewards second).mp two)
    · intro call vote rest running named
      rw [same.changes]
      exact progress.loop call vote rest ((same.loops call vote rest named).mp running) named
    · intro quiet
      rw [same.changes]
      exact progress.finished fun call running => quiet call ((same.rewards call).mpr running)

end Settled

variable {state next : State Call} {record : Record}

@[simp] theorem move_phase (state : State Call) (call : Call) (phase : Phase) :
    (state.move call phase).phase call = phase := update_self _ _ _

variable {call other : Call}

theorem move_phase_of_ne (state : State Call) (phase : Phase) (ne : other ≠ call) :
    (state.move call phase).phase other = state.phase other :=
  update_of_ne ne _ _

variable {phase : Phase}

theorem move_loops (state : State Call) (own : phase.loop = (state.phase call).loop) (other : Call)
    :
    ((state.move call phase).phase other).loop = (state.phase other).loop := by
  by_cases same : other = call
  · rw [same, move_phase, own]
  · rw [move_phase_of_ne state phase same]

theorem loop_move_elsewhere (state : State Call) {call other : Call} {quorumId : String}
    {voted : Vote} {rest : List Vote} (named : voted.quorumId = quorumId)
    (before : ∀ vote left, (state.phase call).loop = some (vote, left) → quorumId ≠ vote.quorumId)
    (after : ∀ vote left, phase.loop = some (vote, left) → quorumId ≠ vote.quorumId) :
    ((state.move call phase).phase other).loop = some (voted, rest) ↔
      (state.phase other).loop = some (voted, rest) := by
  by_cases same : other = call
  · rw [same, move_phase]
    exact iff_of_false (fun loop => after voted rest loop named.symm)
      fun loop => before voted rest loop named.symm
  · rw [move_phase_of_ne state phase same]

variable {quorumId : String}

theorem rewards_move (state : State Call)
    (quiet : ∀ other, other ≠ call → ¬ (state.phase other).Rewards quorumId)
    (rewards : ((state.move call phase).phase other).Rewards quorumId) : other = call := by
  by_contra ne
  rw [move_phase_of_ne state phase ne] at rewards
  exact quiet other ne rewards

omit [DecidableEq Call] in
theorem Settling.quiet {next : State Call} (settling : Settling state record)
    (wf : next.database.WellFormed) (reputations : ∀ oracleId,
      (next.database.oracles.get oracleId).map Oracle.reputation = recorded.reputation oracleId)
    (loops : ∀ call, (next.phase call).loop = (state.phase call).loop)
    (got : ∀ quorumId, record.decided quorumId ≠ none →
      next.database.quorums.get quorumId = state.database.quorums.get quorumId ∧
        next.database.getVotesForQuorum quorumId = state.database.getVotesForQuorum quorumId)
    (decided : recorded.decided = record.decided) (changes : recorded.changes = record.changes) :
    Settling next recorded := by
  refine ⟨wf, reputations, fun quorumId => ?_⟩
  refine (settling.settled quorumId).same ⟨got quorumId, fun call vote rest _ => ?_, ?_, ?_⟩
  · rw [loops]
  · rw [decided]
  · rw [changes]

theorem Settling.move {call : Call} (settling : Settling state record)
    (own : phase.loop = (state.phase call).loop) : Settling (state.move call phase) record :=
  settling.quiet settling.wellFormed settling.reputations (move_loops state own)
    (fun _ _ => ⟨rfl, rfl⟩) rfl rfl

variable {database changed : Database}

theorem getVotesForQuorum_congr (same : changed.votes = database.votes) (quorumId : String) :
    changed.getVotesForQuorum quorumId = database.getVotesForQuorum quorumId := by
  unfold Database.getVotesForQuorum
  rw [same]

section

omit [DecidableEq Call]

theorem Settling.wellFormed_of_votes (settling : Settling state record)
    (same : changed.votes = state.database.votes) : changed.WellFormed := by
  intro id vote got
  rw [same] at got
  exact settling.wellFormed id vote got

theorem Settling.reputations_of_oracles (settling : Settling state record)
    (same : changed.oracles = state.database.oracles) (oracleId : String) :
    (changed.oracles.get oracleId).map Oracle.reputation = record.reputation oracleId := by
  rw [same]
  exact settling.reputations oracleId

end

variable {saved : Database} {vote : Vote}

theorem saveVote_elsewhere (inserted : database.saveVote vote = some saved)
    (ne : quorumId ≠ vote.quorumId) :
    saved.getVotesForQuorum quorumId = database.getVotesForQuorum quorumId := by
  unfold Database.saveVote at inserted
  split at inserted
  · cases inserted
  · next gone =>
    cases inserted
    have other : ([vote].filter fun vote => vote.quorumId = quorumId) = [] :=
      filter_cons_of_neg (by simpa using ne.symm)
    unfold Database.getVotesForQuorum
    rw [values_set_of_absent gone, filter_append, other, append_nil]

theorem saveVote_oracles (inserted : database.saveVote vote = some saved) :
    saved.oracles = database.oracles := by
  unfold Database.saveVote at inserted
  split at inserted
  · cases inserted
  · cases inserted
    rfl

theorem updateQuorumState_keeps (database : Database) (id text : String) :
    (database.updateQuorumState id text).votes = database.votes ∧
      (database.updateQuorumState id text).oracles = database.oracles := by
  unfold Database.updateQuorumState
  split
  · exact ⟨rfl, rfl⟩
  · exact ⟨rfl, rfl⟩

theorem updateQuorumState_elsewhere (database : Database) {id other : String} (text : String)
    (ne : other ≠ id) :
    (database.updateQuorumState id text).quorums.get other = database.quorums.get other := by
  unfold Database.updateQuorumState
  split
  · exact OrderedMap.get_set_of_ne _ _ ne
  · rfl

variable {quorum : Quorum}

theorem updateQuorumState_get {id : String} (text : String)
    (got : database.quorums.get id = some quorum) :
    (database.updateQuorumState id text).quorums.get id = some { quorum with state := text } := by
  unfold Database.updateQuorumState
  rw [got]
  exact OrderedMap.get_set_self _ _ _

theorem updateOracleReputation_keeps (database : Database) (id : String) (change : Int) :
    (database.updateOracleReputation id change).votes = database.votes ∧
      (database.updateOracleReputation id change).quorums = database.quorums := by
  unfold Database.updateOracleReputation
  split
  · exact ⟨rfl, rfl⟩
  · exact ⟨rfl, rfl⟩

theorem updateOracleReputation_get (database : Database) (id : String) (change : Int)
    (other : String) :
    ((database.updateOracleReputation id change).oracles.get other).map Oracle.reputation =
      update (fun id => (database.oracles.get id).map Oracle.reputation) id
        (((database.oracles.get id).map Oracle.reputation).map fun old => old + change) other := by
  unfold Database.updateOracleReputation
  by_cases same : other = id
  · subst same
    rw [update_self]
    cases got : database.oracles.get other with
    | none =>
      rw [got]
      rfl
    | some =>
      rw [OrderedMap.get_set_self]
      rfl
  · rw [update_of_ne same]
    cases got : database.oracles.get id with
    | none => rfl
    | some =>
      rw [OrderedMap.get_set_of_ne _ _ same]

section

variable (settling : Settling state record)
include settling

theorem Settling.saveVote (phase : state.phase call = .saveVote vote quorum)
    (pending : Pending state vote.quorumId) (inserted : state.database.saveVote vote = some saved) :
    Settling ((state.withDatabase saved).move call (.getVotes vote quorum)) record := by
  obtain ⟨quorums, -, -⟩ := saveVote_cases inserted
  have undecided := settling.undecided pending
  refine settling.quiet (saveVote_wellFormed settling.wellFormed inserted)
    (settling.reputations_of_oracles (saveVote_oracles inserted))
    (move_loops (state.withDatabase saved) (by rw [State.withDatabase, phase]; rfl)) ?_ rfl rfl
  intro quorumId here
  have ne : quorumId ≠ vote.quorumId := by
    rintro rfl
    exact here undecided
  refine ⟨?_, saveVote_elsewhere inserted ne⟩
  change saved.quorums.get quorumId = _
  rw [quorums]

theorem Settling.written {call : Call} {vote : Vote} {text : String}
    (pending : Pending state vote.quorumId) (own : phase.loop = (state.phase call).loop) :
    Settling ((state.withDatabase (state.database.updateQuorumState vote.quorumId text)).move
      call phase) record := by
  obtain ⟨votes, oracles⟩ := updateQuorumState_keeps state.database vote.quorumId text
  refine settling.quiet (settling.wellFormed_of_votes votes)
    (settling.reputations_of_oracles oracles) (move_loops (state.withDatabase _) own) ?_ rfl rfl
  intro quorumId here
  have ne : quorumId ≠ vote.quorumId := by
    rintro rfl
    exact here (settling.undecided pending)
  exact ⟨updateQuorumState_elsewhere state.database text ne,
    getVotesForQuorum_congr votes quorumId⟩

variable {activeOracles : Nat}

theorem Settling.decide {call : Call} {vote : Vote} {quorum : Quorum} {votes : List Vote}
    (phase : state.phase call = .updateState vote quorum votes activeOracles .consensusAchieved)
    (pending : Pending state vote.quorumId)
    (counted : state.database.getVotesForQuorum vote.quorumId = votes)
    (met : ∀ choice ∈ choices votes,
      Reached quorum.consensusStrategy (countOf votes choice) activeOracles ↔
        choice = vote.choice) :
    Settling
      ((state.withDatabase (state.database.updateQuorumState vote.quorumId
        QuorumState.consensusAchieved.asRef)).move call
          (.updateReputations vote quorum votes activeOracles votes))
      (record.decide vote.quorumId
        ⟨quorum.consensusStrategy, votes, activeOracles, vote.choice⟩) := by
  have undecided := settling.undecided pending
  obtain ⟨_, found, -⟩ := pending
  obtain ⟨changes, quiet⟩ := (settled_none undecided).mp (settling.settled vote.quorumId)
  obtain ⟨kept, oracles⟩ := updateQuorumState_keeps state.database vote.quorumId
    QuorumState.consensusAchieved.asRef
  refine ⟨settling.wellFormed_of_votes kept, settling.reputations_of_oracles oracles,
    fun quorumId => ?_⟩
  by_cases own : quorumId = vote.quorumId
  · subst own
    refine (settled_some (update_self _ _ _)).mpr ⟨?_, ?_, met, ?_, ?_, ?_⟩
    · exact ⟨_, updateQuorumState_get _ found, rfl⟩
    · exact (getVotesForQuorum_congr kept _).trans counted
    · intro first second one two
      have first_eq := rewards_move (state.withDatabase _) (fun other _ => quiet other) one
      have second_eq := rewards_move (state.withDatabase _) (fun other _ => quiet other) two
      exact first_eq.trans second_eq.symm
    · intro other voted rest running named
      by_cases same : other = call
      · rw [same, move_phase] at running
        cases running
        exact ⟨rfl, [], rfl, changes⟩
      · rw [move_phase_of_ne _ _ same] at running
        exact absurd ⟨voted, rest, running, named⟩ (quiet other)
    · intro idle
      refine absurd ?_ (idle call)
      rw [move_phase]
      exact ⟨vote, votes, rfl, rfl⟩
  · refine (settling.settled quorumId).same ⟨fun _ => ⟨?_, getVotesForQuorum_congr kept quorumId⟩,
      fun other voted rest named => ?_, ?_, rfl⟩
    · exact updateQuorumState_elsewhere state.database _ own
    · refine loop_move_elsewhere (state.withDatabase _) named (fun vote left running => ?_)
        fun vote left running => ?_
      · rw [State.withDatabase, phase] at running
        cases running
      · cases running
        exact own
    · exact update_of_ne own _ _

theorem Settling.reward {call : Call} {vote rewarded : Vote} {quorum : Quorum}
    {votes rest : List Vote} (phase : state.phase call =
      .updateReputations vote quorum votes activeOracles (rewarded :: rest)) :
    Settling
      ((state.withDatabase (state.database.updateOracleReputation rewarded.oracleId
        (reputationChange rewarded vote.choice))).move call
          (.updateReputations vote quorum votes activeOracles rest))
      (record.change vote.quorumId rewarded.oracleId (reputationChange rewarded vote.choice)) := by
  have running : (state.phase call).loop = some (vote, rewarded :: rest) := by
    rw [phase]
    rfl
  obtain ⟨kept, quorums⟩ := updateOracleReputation_keeps state.database rewarded.oracleId
    (reputationChange rewarded vote.choice)
  refine ⟨settling.wellFormed_of_votes kept, ?_, fun quorumId => ?_⟩
  · intro oracleId
    refine (updateOracleReputation_get state.database _ _ oracleId).trans ?_
    unfold Record.change
    rw [settling.reputations rewarded.oracleId, funext settling.reputations]
  by_cases own : quorumId = vote.quorumId
  · subst own
    cases decided : record.decided vote.quorumId with
    | none =>
      obtain ⟨-, quiet⟩ := (settled_none decided).mp (settling.settled vote.quorumId)
      exact absurd ⟨vote, _, running, rfl⟩ (quiet call)
    | some decision =>
      have progress := (settled_some decided).mp (settling.settled vote.quorumId)
      obtain ⟨choice, before, split, changes⟩ := progress.loop call vote _ running rfl
      have others : ∀ other, other ≠ call → ¬ (state.phase other).Rewards vote.quorumId :=
        fun other ne rewards =>
          ne (progress.single other call rewards ⟨vote, _, running, rfl⟩)
      have recorded : (record.change vote.quorumId rewarded.oracleId
          (reputationChange rewarded vote.choice)).decided vote.quorumId = some decision :=
        decided
      refine (settled_some recorded).mpr ⟨?_, ?_, progress.met, ?_, ?_, ?_⟩
      · change ∃ quorum, (Database.updateOracleReputation _ _ _).quorums.get _ = _ ∧ _
        rw [quorums]
        exact progress.ended
      · exact (getVotesForQuorum_congr kept _).trans progress.votes
      · intro first second one two
        have first_eq := rewards_move (state.withDatabase _) others one
        have second_eq := rewards_move (state.withDatabase _) others two
        exact first_eq.trans second_eq.symm
      · intro other voted left loop named
        by_cases same : other = call
        · rw [same, move_phase] at loop
          cases loop
          refine ⟨choice, before ++ [rewarded], ?_, ?_⟩
          · rw [split, append_assoc]
            rfl
          · refine (update_self _ _ _).trans ?_
            rw [changes, map_append, choice]
            rfl
        · exact absurd (rewards_move (state.withDatabase _) others ⟨voted, left, loop, named⟩) same
      · intro idle
        refine absurd ?_ (idle call)
        rw [move_phase]
        exact ⟨vote, rest, rfl, rfl⟩
  · refine (settling.settled quorumId).same ⟨fun _ => ⟨?_, getVotesForQuorum_congr kept quorumId⟩,
      fun other voted left named => ?_, rfl, ?_⟩
    · change (Database.updateOracleReputation _ _ _).quorums.get _ = _
      rw [quorums]
    · refine loop_move_elsewhere (state.withDatabase _) named (fun found left loop => ?_)
        fun found left loop => ?_
      · obtain ⟨rfl, -⟩ := Prod.mk.inj (Option.mem_unique running loop)
        exact own
      · cases loop
        exact own
    · exact update_of_ne own _ _

theorem Settling.finish {votes : List Vote} {result : Except Failure Quorum}
    (phase : state.phase call = .updateReputations vote quorum votes activeOracles []) :
    Settling (state.move call (.done result)) record := by
  have running : (state.phase call).loop = some (vote, []) := by
    rw [phase]
    rfl
  refine ⟨settling.wellFormed, settling.reputations, fun quorumId => ?_⟩
  by_cases own : quorumId = vote.quorumId
  · subst own
    cases decided : record.decided vote.quorumId with
    | none =>
      obtain ⟨-, quiet⟩ := (settled_none decided).mp (settling.settled vote.quorumId)
      exact absurd ⟨vote, _, running, rfl⟩ (quiet call)
    | some =>
      have progress := (settled_some decided).mp (settling.settled vote.quorumId)
      obtain ⟨-, _, split, changes⟩ := progress.loop call vote _ running rfl
      have still : ∀ other,
          ¬ ((state.move call (.done result)).phase other).Rewards vote.quorumId := by
        intro other rewards
        have same : other = call := rewards_move state (fun other ne rewards =>
          ne (progress.single other call rewards ⟨vote, _, running, rfl⟩)) rewards
        rw [same, move_phase] at rewards
        obtain ⟨_, _, loop, _⟩ := rewards
        cases loop
      rw [append_nil] at split
      exact (settled_some decided).mpr ⟨progress.ended, progress.votes, progress.met,
        fun first _ one => absurd one (still first),
        fun other voted rest loop named => absurd ⟨voted, rest, loop, named⟩ (still other),
        fun _ => split ▸ changes⟩
  · refine (settling.settled quorumId).same ⟨fun _ => ⟨rfl, rfl⟩, fun other voted left named => ?_,
      rfl, rfl⟩
    refine loop_move_elsewhere state named (fun found left loop => ?_) nofun
    obtain ⟨rfl, -⟩ := Prod.mk.inj (Option.mem_unique running loop)
    exact own

end

theorem afterCount_loop (vote : Vote) (quorum : Quorum) (votes : List Vote)
    (activeOracles : Nat) : (afterCount vote quorum votes activeOracles).loop = none := by
  unfold afterCount
  split
  · rfl
  · split <;> rfl

theorem statement_settling (settling : Settling state record)
    (undisturbed : Undisturbed state (.statement call)) (ran : statement state call = some next) :
    Settling next (follow state (.statement call) next record) := by
  unfold Undisturbed at undisturbed
  unfold statement at ran
  unfold follow
  dsimp only at undisturbed ⊢
  cases phase : state.phase call with
  | idle | done result =>
    rw [phase] at ran
    cases ran
  | getQuorum =>
    rw [phase] at ran
    dsimp only at ran ⊢
    split at ran
    · cases ran
      exact settling.move (by rw [phase]; rfl)
    · split at ran
      · cases ran
        exact settling.move (by rw [phase]; rfl)
      · cases ran
        exact settling.move (by rw [phase]; rfl)
  | saveVote =>
    rw [phase] at ran undisturbed
    dsimp only at ran ⊢
    split at ran
    · cases ran
      exact settling.move (by rw [phase]; rfl)
    · next saved inserted =>
      cases ran
      exact settling.saveVote phase undisturbed inserted
  | getVotes =>
    rw [phase] at ran
    cases ran
    exact settling.move (by rw [phase]; rfl)
  | getOracles =>
    rw [phase] at ran
    cases ran
    refine settling.move ?_
    rw [phase, afterCount_loop]
    rfl
  | updateState _ _ _ _ newState =>
    rw [phase] at ran undisturbed
    cases ran
    obtain ⟨pending, met⟩ := undisturbed
    cases newState with
    | consensusAchieved => exact settling.decide phase pending (met rfl).1 (met rfl).2
    | collecting | thresholdReached | failed =>
      exact settling.written pending (by rw [phase]; rfl)
  | updateReputations _ _ _ _ rest =>
    rw [phase] at ran
    cases rest with
    | cons =>
      cases ran
      exact settling.reward phase
    | nil =>
      cases ran
      exact settling.finish phase

theorem step_settling {event : Event Call} (settling : Settling state record)
    (undisturbed : Undisturbed state event) (ran : step state event = some next) :
    Settling next (follow state event next record) := by
  cases event with
  | create =>
    unfold step at ran
    dsimp only at ran
    split at ran
    · cases ran
    · next gone =>
      cases ran
      refine settling.quiet settling.wellFormed settling.reputations (fun _ => rfl)
        (fun quorumId here => ⟨?_, rfl⟩) rfl rfl
      refine OrderedMap.get_set_of_ne _ _ ?_
      rintro rfl
      obtain ⟨_, decided⟩ := Option.ne_none_iff_exists'.mp here
      obtain ⟨ended, found, -⟩ :=
        ((settled_some decided).mp (settling.settled quorumId)).ended
      rw [gone] at found
      cases found
  | register =>
    cases ran
    exact settling.quiet settling.wellFormed (fun _ => rfl) (fun _ => rfl)
      (fun _ _ => ⟨rfl, rfl⟩) rfl rfl
  | call =>
    unfold step at ran
    dsimp only at ran
    split at ran
    · next phase =>
      cases ran
      exact settling.move (by rw [phase]; rfl)
    · cases ran
  | statement => exact statement_settling settling undisturbed ran

/-- Two of three oracles vote alike, and the second vote decides. -/
def agreed : List (Event Nat) :=
  [.register (["a", "b", "c"].foldl (fun registry oracle => registry.set oracle ⟨true, 100⟩) ∅),
    .create "q" { state := "collecting", strategy := "simple_majority", threshold := 2 },
    .call 0 ⟨"q", "a", "yes"⟩, .statement 0, .statement 0, .statement 0, .statement 0,
    .call 1 ⟨"q", "b", "yes"⟩, .statement 1, .statement 1, .statement 1, .statement 1,
    .statement 1, .statement 1, .statement 1, .statement 1]

/-- Two of three oracles vote alike, and the vote of the third decides. -/
def outvoted : List (Event Nat) :=
  [.register (["a", "b", "c"].foldl (fun registry oracle => registry.set oracle ⟨true, 100⟩) ∅),
    .create "q" { state := "collecting", strategy := "simple_majority", threshold := 3 },
    .call 0 ⟨"q", "a", "yes"⟩, .statement 0, .statement 0, .statement 0, .statement 0,
    .call 1 ⟨"q", "b", "yes"⟩, .statement 1, .statement 1, .statement 1, .statement 1,
    .call 2 ⟨"q", "c", "no"⟩, .statement 2, .statement 2, .statement 2, .statement 2,
    .statement 2, .statement 2, .statement 2, .statement 2, .statement 2]

omit [DecidableEq Call] in
theorem settling_empty : Settling ({} : State Call) {} := by
  refine ⟨nofun, fun _ => rfl, fun quorumId => ?_⟩
  exact (settled_none rfl).mpr ⟨rfl, fun _ ⟨_, _, running, _⟩ => nomatch running⟩

/-- In a run whose calls write on quorums that are not achieved yet, and achieve them with all of
their votes and for the choice that meets the requirement, reputations change as the achieved
quorums ask for. -/
theorem reputations_follow (events : List (Event Call))
    (undisturbed : recording.Meets (fun state event => Undisturbed state.1 event) ({}, {}) events) :
    recording.Always (fun state => Rewarded state.1 state.2) ({}, {}) events := by
  refine CallMachine.Always.mono (fun state settling => Settling.rewarded settling)
    (always_of_meets ?_ settling_empty undisturbed)
  intro state event next settling undisturbed ran
  obtain ⟨stepped, followed⟩ := withGhost_exec_eq_ok.mp ran
  rw [followed]
  exact step_settling settling undisturbed (ofStep_exec_eq_ok.mp stepped)

theorem reputations_follow_agreed :
    recording.Always (fun state => Rewarded state.1 state.2) ({}, {}) agreed := by
  refine reputations_follow agreed ⟨fun _ => trivial, fun _ => trivial, fun _ => trivial,
    fun _ => trivial, fun _ => ⟨_, rfl, by decide⟩, fun _ => trivial, fun _ => trivial,
    fun _ => trivial, fun _ => trivial, fun _ => ⟨_, rfl, by decide⟩, fun _ => trivial,
    fun _ => trivial, fun _ => ?_, fun _ => trivial, fun _ => trivial, fun _ => trivial, trivial⟩
  exact ⟨⟨_, rfl, by decide⟩, fun _ => ⟨rfl, by decide⟩⟩

/-- Reputations fall for the choice that two of three oracles have voted for. -/
theorem outvoted_falls :
    ¬ recording.Always (fun state => Rewarded state.1 state.2) ({}, {}) outvoted := by
  intro always
  have rewarded := always.final
  obtain ⟨_, decided, vote, _, _, change⟩ :=
    rewarded.only "q" "a" (-20) (by decide)
  cases decided
  have chosen : vote.choice = "yes" := by
    revert vote
    decide
  rw [chosen] at change
  exact absurd change (by decide)

end Interleaving

end SorobanPlayground.Indexer.Quorums
