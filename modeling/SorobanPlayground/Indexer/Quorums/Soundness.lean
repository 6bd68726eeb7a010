import Mathlib.Data.List.Perm.Basic
import SorobanPlayground.Indexer.Quorums.Manager
import SorobanPlayground.Library.CallMachine

/-! # Soundness of quorum states

What a quorum means is stated over the active oracles and their votes; the states that
`process_vote` writes are compared with it.
-/

namespace SorobanPlayground.Indexer.Quorums

open List OrderedMap

/-- More than half, at least two thirds or all. -/
def Qualifies (strategy : ConsensusStrategy) (count totalOracles : Nat) : Prop :=
  match strategy with
  | .simpleMajority => totalOracles < 2 * count
  | .superMajority => 2 * totalOracles ≤ 3 * count
  | .unanimous => count = totalOracles

namespace Database

variable (database : Database)

def activeOracles : List String :=
  (database.oracles.entries.filter fun entry => entry.2.active).map Prod.fst

/-- The active oracles with a vote for a choice. -/
def backers (quorumId choice : String) : List String :=
  database.activeOracles.filter fun oracle =>
    ∃ vote ∈ database.getVotesForQuorum quorumId, vote.oracleId = oracle ∧ vote.choice = choice

/-- The active oracles without a vote. -/
def undecided (quorumId : String) : List String :=
  database.activeOracles.filter fun oracle =>
    ¬ ∃ vote ∈ database.getVotesForQuorum quorumId, vote.oracleId = oracle

/-- The undecided oracles to which an assignment gives a choice. -/
def assigned (quorumId : String) (assignment : String → String) (choice : String) : List String :=
  (database.undecided quorumId).filter fun oracle => assignment oracle = choice

/-- Every vote row is stored at its id. -/
def WellFormed : Prop := ∀ id vote, database.votes.get id = some vote → vote.id = id

end Database

variable {strategy : ConsensusStrategy} {count total : Nat}

theorem reached_iff_of_qualifies (qualifies : Qualifies strategy count total) :
    Reached strategy count total := by
  cases strategy with
  | simpleMajority =>
    change total < 2 * count at qualifies
    change total / 2 < count
    omega
  | superMajority =>
    change 2 * total ≤ 3 * count at qualifies
    change total * 2 / 3 ≤ count
    omega
  | unanimous => exact qualifies

theorem qualifies_of_reached (reached : Reached strategy count total)
    (exact : strategy = .superMajority → total % 3 = 0 ∨ count ≠ total * 2 / 3) :
    Qualifies strategy count total := by
  cases strategy with
  | simpleMajority =>
    change total / 2 < count at reached
    change total < 2 * count
    omega
  | superMajority =>
    have exact := exact rfl
    change total * 2 / 3 ≤ count at reached
    change 2 * total ≤ 3 * count
    omega
  | unanimous => exact reached

theorem reached_mono {more : Nat} (reached : Reached strategy count total) (le : count ≤ more)
    (bound : more ≤ total) : Reached strategy more total := by
  cases strategy with
  | simpleMajority =>
    exact reached.trans_le le
  | superMajority =>
    exact reached.trans le
  | unanimous =>
    exact le_antisymm bound (reached ▸ le)

theorem qualifies_unique {first second : Nat} (some : 0 < total) (separate : first + second ≤ total)
    (one : Qualifies strategy first total) (two : Qualifies strategy second total) : False := by
  cases strategy with
  | simpleMajority =>
    change total < 2 * first at one
    change total < 2 * second at two
    omega
  | superMajority =>
    change 2 * total ≤ 3 * first at one
    change 2 * total ≤ 3 * second at two
    omega
  | unanimous =>
    change first = total at one
    change second = total at two
    omega

variable {database : Database} {quorumId : String}

theorem activeOracles_nodup (database : Database) : database.activeOracles.Nodup :=
  database.oracles.distinct.sublist (filter_sublist.map _)

theorem activeOraclesCount_eq (database : Database) :
    database.activeOraclesCount = database.activeOracles.length := by
  unfold Database.activeOraclesCount Database.activeOracles OrderedMap.values
  rw [filter_map, length_map, length_map]
  rfl

theorem voters_nodup (wf : database.WellFormed) :
    ((database.getVotesForQuorum quorumId).map Vote.oracleId).Nodup := by
  have ids : database.votes.values.map Vote.id = database.votes.keys := by
    unfold OrderedMap.values OrderedMap.keys
    rw [map_map]
    refine map_congr_left fun entry mem => ?_
    exact wf entry.1 entry.2 (get_eq_some.mpr mem)
  have apart : ((database.getVotesForQuorum quorumId).map Vote.id).Nodup := by
    refine List.Nodup.sublist (filter_sublist.map Vote.id) ?_
    rw [ids]
    exact database.votes.distinct
  have named : (database.getVotesForQuorum quorumId).map Vote.id =
      ((database.getVotesForQuorum quorumId).map Vote.oracleId).map
        fun oracle => quorumId ++ "-" ++ oracle := by
    rw [map_map]
    refine map_congr_left fun vote mem => ?_
    have same : vote.quorumId = quorumId := of_decide_eq_true (mem_filter.mp mem).2
    unfold Vote.id
    rw [same]
    rfl
  rw [named] at apart
  exact apart.of_map _

def ActiveVoters (database : Database) (quorumId : String) : Prop :=
  ∀ vote ∈ database.getVotesForQuorum quorumId, vote.oracleId ∈ database.activeOracles

theorem countOf_eq_backers (wf : database.WellFormed)
    (active : ActiveVoters database quorumId) (choice : String) :
    countOf (database.getVotesForQuorum quorumId) choice =
      (database.backers quorumId choice).length := by
  have same : (((database.getVotesForQuorum quorumId).filter fun vote => vote.choice = choice).map
      Vote.oracleId).Perm (database.backers quorumId choice) := by
    refine (perm_ext_iff_of_nodup ?_ ?_).mpr fun oracle => ?_
    · exact (voters_nodup wf).sublist (filter_sublist.map _)
    · exact (activeOracles_nodup database).filter _
    · rw [mem_map, Database.backers, mem_filter]
      constructor
      · rintro ⟨vote, mem, rfl⟩
        obtain ⟨got, chosen⟩ := mem_filter.mp mem
        refine ⟨active vote got, decide_eq_true ⟨vote, got, rfl, ?_⟩⟩
        exact of_decide_eq_true chosen
      · rintro ⟨-, backed⟩
        obtain ⟨vote, got, rfl, chosen⟩ := of_decide_eq_true backed
        exact ⟨vote, mem_filter.mpr ⟨got, decide_eq_true chosen⟩, rfl⟩
  rw [← same.length_eq, length_map, countOf, countP_eq_length_filter]

theorem votes_add_undecided (wf : database.WellFormed) (active : ActiveVoters database quorumId) :
    (database.getVotesForQuorum quorumId).length + (database.undecided quorumId).length =
      database.activeOracles.length := by
  have same : ((database.getVotesForQuorum quorumId).map Vote.oracleId).Perm
      (database.activeOracles.filter fun oracle =>
        ∃ vote ∈ database.getVotesForQuorum quorumId, vote.oracleId = oracle) := by
    refine (perm_ext_iff_of_nodup (voters_nodup wf)
      ((activeOracles_nodup database).filter _)).mpr fun oracle => ?_
    rw [mem_map, mem_filter]
    constructor
    · rintro ⟨vote, got, rfl⟩
      exact ⟨active vote got, decide_eq_true ⟨vote, got, rfl⟩⟩
    · rintro ⟨-, voted⟩
      exact of_decide_eq_true voted
  have voted := same.length_eq
  rw [length_map] at voted
  rw [voted, Database.undecided]
  have parts := length_eq_length_filter_add (l := database.activeOracles) fun oracle =>
    decide (∃ vote ∈ database.getVotesForQuorum quorumId, vote.oracleId = oracle)
  rw [parts]
  congr 3
  funext oracle
  exact decide_not

theorem countOf_le (votes : List Vote) (choice : String) : countOf votes choice ≤ votes.length :=
  countP_le_length

theorem countOf_add_le (votes : List Vote) {first second : String} (ne : first ≠ second) :
    countOf votes first + countOf votes second ≤ votes.length := by
  unfold countOf
  induction votes with
  | nil => exact Nat.le_refl 0
  | cons vote =>
    rw [countP_cons, countP_cons, length_cons]
    by_cases one : vote.choice = first
    · have other : vote.choice ≠ second := fun two => ne (one.symm.trans two)
      rw [if_pos (decide_eq_true one), if_neg (by simpa using other)]
      omega
    · rw [if_neg (by simpa using one)]
      split <;> omega

variable {votes : List Vote}

theorem countOf_pos {choice : String} (mem : choice ∈ choices votes) :
    0 < countOf votes choice := by
  obtain ⟨vote, got, chosen⟩ := mem_map.mp (mem_dedup.mp mem)
  exact countP_pos_iff.mpr ⟨vote, got, decide_eq_true chosen⟩

theorem mem_choices {vote : Vote} (got : vote ∈ votes) : vote.choice ∈ choices votes :=
  mem_dedup.mpr (mem_map_of_mem got)

/-- The votes suffice for a decision. -/
def Quorum.Decides (quorum : Quorum) (votes : List Vote) : Prop :=
  quorum.Split votes ∨ quorum.thresholdCount ≤ votes.length

/-- All voters are active oracles, and no choice has exactly two thirds rounded down. -/
structure Regular (database : Database) (quorumId : String) (quorum : Quorum) : Prop where
  voters : ActiveVoters database quorumId
  exact : quorum.consensusStrategy = .superMajority → database.activeOraclesCount % 3 = 0 ∨
    ∀ choice ∈ choices (database.getVotesForQuorum quorumId),
      countOf (database.getVotesForQuorum quorumId) choice ≠ database.activeOraclesCount * 2 / 3

/-- One choice has the active oracles that the strategy asks for, and no other one meets the
test. -/
def Achieved (database : Database) (quorumId : String) (quorum : Quorum) : Prop :=
  ∃ choice,
    Qualifies quorum.consensusStrategy (database.backers quorumId choice).length
        database.activeOracles.length ∧
      (∀ other, Qualifies quorum.consensusStrategy (database.backers quorumId other).length
        database.activeOracles.length → other = choice) ∧
      ∀ other ∈ choices (database.getVotesForQuorum quorumId),
        Reached quorum.consensusStrategy (countOf (database.getVotesForQuorum quorumId) other)
          database.activeOraclesCount → other = choice

/-- However the undecided oracles vote, no choice gets what the strategy asks for. -/
def Hopeless (database : Database) (quorumId : String) (quorum : Quorum) : Prop :=
  ∀ assignment choice, ¬ Qualifies quorum.consensusStrategy
    ((database.backers quorumId choice).length +
      (database.assigned quorumId assignment choice).length) database.activeOracles.length

variable {quorum : Quorum}

theorem state_overflow (decided : quorum.calculateNewState votes total = none) :
    quorum.thresholdCount ≤ votes.length ∧ total < votes.length := by
  unfold Quorum.calculateNewState at decided
  dsimp only at decided
  split_ifs at decided with split few reached excess still
  exact ⟨Nat.le_of_not_lt few, excess⟩

theorem state_achieved (decided : quorum.calculateNewState votes total = some .consensusAchieved) :
    quorum.thresholdCount ≤ votes.length ∧
      ∃ choice ∈ choices votes, Reached quorum.consensusStrategy (countOf votes choice) total := by
  unfold Quorum.calculateNewState at decided
  dsimp only at decided
  split_ifs at decided with split few reached excess still
  · cases decided
  · cases decided
  · exact ⟨Nat.le_of_not_lt few, reached⟩
  · cases decided
  · cases decided

theorem state_failed (decided : quorum.calculateNewState votes total = some .failed) :
    quorum.Split votes ∨
      (quorum.thresholdCount ≤ votes.length ∧
        ∀ choice ∈ choices votes, ¬ Reached quorum.consensusStrategy
          (countOf votes choice + (total - votes.length)) total) := by
  unfold Quorum.calculateNewState at decided
  dsimp only at decided
  split_ifs at decided with split few reached excess still
  · exact .inl split
  · cases decided
  · cases decided
  · cases decided
  · exact .inr ⟨Nat.le_of_not_lt few, fun choice mem met => still ⟨choice, mem, met⟩⟩

section

variable (wf : database.WellFormed)
include wf

theorem backers_add_le (active : ActiveVoters database quorumId) {first second : String}
    (ne : first ≠ second) :
    (database.backers quorumId first).length + (database.backers quorumId second).length ≤
      database.activeOracles.length := by
  rw [← countOf_eq_backers wf active, ← countOf_eq_backers wf active]
  have parts := votes_add_undecided wf active
  have both := countOf_add_le (database.getVotesForQuorum quorumId) ne
  omega

section

variable (regular : quorum.Decides (database.getVotesForQuorum quorumId) →
    Regular database quorumId quorum)
include regular

theorem not_overflow :
    quorum.calculateNewState (database.getVotesForQuorum quorumId)
      database.activeOraclesCount ≠ none := by
  intro decided
  obtain ⟨enough, overflow⟩ := state_overflow decided
  have parts := votes_add_undecided wf (regular (.inr enough)).voters
  rw [activeOraclesCount_eq] at overflow
  omega

theorem achieved_of_state (decided : quorum.calculateNewState (database.getVotesForQuorum quorumId)
      database.activeOraclesCount = some .consensusAchieved) :
    Achieved database quorumId quorum := by
  obtain ⟨enough, choice, mem, meets⟩ := state_achieved decided
  have regular := regular (.inr enough)
  have exact : ∀ other ∈ choices (database.getVotesForQuorum quorumId),
      Reached quorum.consensusStrategy (countOf (database.getVotesForQuorum quorumId) other)
        database.activeOraclesCount →
      Qualifies quorum.consensusStrategy (database.backers quorumId other).length
        database.activeOracles.length := by
    intro other voted met
    rw [← countOf_eq_backers wf regular.voters, ← activeOraclesCount_eq]
    refine qualifies_of_reached met fun super => ?_
    exact (regular.exact super).imp_right fun apart => apart other voted
  have qualifies := exact choice mem meets
  have some : 0 < database.activeOracles.length := by
    have parts := votes_add_undecided wf regular.voters
    have pos := countOf_pos mem
    have bound := countOf_le (database.getVotesForQuorum quorumId) choice
    omega
  have alone : ∀ other, Qualifies quorum.consensusStrategy
      (database.backers quorumId other).length database.activeOracles.length →
      other = choice := by
    intro other also
    by_contra ne
    exact qualifies_unique some (backers_add_le wf regular.voters ne) also qualifies
  exact ⟨choice, qualifies, alone, fun other voted met => alone other (exact other voted met)⟩

theorem hopeless_of_state (voted : database.getVotesForQuorum quorumId ≠ [])
    (decided : quorum.calculateNewState (database.getVotesForQuorum quorumId)
      database.activeOraclesCount = some .failed) : Hopeless database quorumId quorum := by
  intro assignment choice qualifies
  have fewer : (database.assigned quorumId assignment choice).length ≤
    (database.undecided quorumId).length := length_filter_le _ _
  rcases state_failed decided with split | ⟨enough, still⟩
  · -- two choices of a unanimous quorum
    have active := (regular (.inl split)).voters
    have parts := votes_add_undecided wf active
    rw [split.1, ← countOf_eq_backers wf active] at qualifies
    change _ = _ at qualifies
    obtain ⟨first, second, left, right, ne⟩ :
        ∃ first second, first ∈ choices (database.getVotesForQuorum quorumId) ∧
          second ∈ choices (database.getVotesForQuorum quorumId) ∧ first ≠ second := by
      cases listed : choices (database.getVotesForQuorum quorumId) with
      | nil =>
        have more := split.2.2
        rw [listed] at more
        exact absurd more (by simp)
      | cons first rest =>
        cases rest with
        | nil =>
          have more := split.2.2
          rw [listed] at more
          exact absurd more (by simp)
        | cons second =>
          have distinct : (choices (database.getVotesForQuorum quorumId)).Nodup :=
            nodup_dedup _
          rw [listed] at distinct
          refine ⟨first, second, mem_cons_self, by simp, fun same => ?_⟩
          exact (nodup_cons.mp distinct).1 (same ▸ mem_cons_self)
    have other : ∃ other ∈ choices (database.getVotesForQuorum quorumId), other ≠ choice := by
      by_cases same : first = choice
      · exact ⟨second, right, fun also => ne (same.trans also.symm)⟩
      · exact ⟨first, left, same⟩
    obtain ⟨other, mem, apart⟩ := other
    have pos := countOf_pos mem
    have both := countOf_add_le (database.getVotesForQuorum quorumId) apart
    omega
  · -- no choice can still reach the requirement
    have active := (regular (.inr enough)).voters
    have parts := votes_add_undecided wf active
    have total := activeOraclesCount_eq database
    rw [← countOf_eq_backers wf active, ← total] at qualifies
    have met := reached_iff_of_qualifies qualifies
    by_cases mem : choice ∈ choices (database.getVotesForQuorum quorumId)
    · have bound := countOf_le (database.getVotesForQuorum quorumId) choice
      refine still choice mem (reached_mono met ?_ ?_)
      · omega
      · omega
    · obtain ⟨vote, got⟩ := exists_mem_of_ne_nil _ voted
      have leading := mem_choices got
      have none : countOf (database.getVotesForQuorum quorumId) choice = 0 := by
        by_contra pos
        obtain ⟨found, here, chosen⟩ :=
          countP_pos_iff.mp (Nat.pos_of_ne_zero pos)
        have same : found.choice = choice := of_decide_eq_true chosen
        exact mem (same ▸ mem_choices here)
      have bound := countOf_le (database.getVotesForQuorum quorumId) vote.choice
      refine still vote.choice leading (reached_mono met ?_ ?_)
      · omega
      · omega

end

end

inductive Event where
  /-- A quorum is inserted. -/
  | create (id : String) (quorum : Quorum)
  /-- The registry of the oracles changes. -/
  | register (oracles : OrderedMap String Oracle)
  | vote (vote : Vote)

def step (database : Database) : Event → Option Database
  | .create id quorum =>
      match database.quorums.get id with
      | some _ => none
      | none => some { database with quorums := database.quorums.set id quorum }
  | .register oracles => some { database with oracles }
  | .vote vote => some (processVote database vote).1

def machine : CallMachine Database Event Unit := CallMachine.ofStep step

def RegularCall (database : Database) : Event → Prop
  | .vote vote => ∀ quorum saved, database.quorums.get vote.quorumId = some quorum →
      quorum.Accepting → database.saveVote vote = some saved →
      quorum.Decides (saved.getVotesForQuorum vote.quorumId) →
      Regular saved vote.quorumId quorum
  | _ => True

/-- A call of `process_vote` decides soundly. -/
structure SoundCall (database : Database) (vote : Vote) : Prop where
  noOverflow : (processVote database vote).2 ≠ .error .overflow
  achieved : ∀ quorum after, database.quorums.get vote.quorumId = some quorum →
    quorum.state ≠ QuorumState.consensusAchieved.asRef →
    (processVote database vote).1.quorums.get vote.quorumId = some after →
    after.state = QuorumState.consensusAchieved.asRef →
    Achieved (processVote database vote).1 vote.quorumId quorum
  failed : ∀ quorum after, database.quorums.get vote.quorumId = some quorum →
    quorum.state ≠ QuorumState.failed.asRef →
    (processVote database vote).1.quorums.get vote.quorumId = some after →
    after.state = QuorumState.failed.asRef →
    Hopeless (processVote database vote).1 vote.quorumId quorum

/-- An event decides soundly and changes no quorum that has ended. -/
structure Sound (database : Database) (event : Event) : Prop where
  call : ∀ vote, event = .vote vote → SoundCall database vote
  stays : ∀ next id quorum, step database event = some next →
    database.quorums.get id = some quorum → ¬ quorum.Accepting →
    next.quorums.get id = some quorum

variable {saved next : Database} {vote : Vote} {newState : QuorumState}

theorem activeOracles_updateOracleReputation (database : Database) (id : String) (change : Int) :
    (database.updateOracleReputation id change).activeOracles = database.activeOracles := by
  unfold Database.updateOracleReputation
  split
  · next oracle got =>
    have here : id ∈ database.oracles.entries.map Prod.fst :=
      mem_keys.mpr ⟨oracle, got⟩
    change ((OrderedMap.setEntries database.oracles.entries id _).filter _).map _ = _
    unfold OrderedMap.setEntries Database.activeOracles
    rw [if_pos here, filter_map, map_map]
    have kept : ∀ entry ∈ database.oracles.entries,
        (if entry.1 = id then (id, { oracle with reputation := oracle.reputation + change })
          else entry).2.active = entry.2.active := by
      intro entry mem
      split
      · next same =>
        have own : (id, entry.2) ∈ database.oracles.entries := by
          rw [← same]
          exact mem
        have one := (get_eq_some.mpr own).symm.trans got
        rw [Option.some.inj one]
      · rfl
    refine (congrArg (List.map _) (filter_congr kept)).trans ?_
    refine map_congr_left fun entry _ => ?_
    rw [Function.comp_apply]
    split
    · next same => exact same.symm
    · rfl
  · rfl

theorem updateReputations_keeps (database : Database) (votes : List Vote) (choice : String) :
    (updateReputations database votes choice).quorums = database.quorums ∧
      (updateReputations database votes choice).votes = database.votes ∧
      (updateReputations database votes choice).activeOracles = database.activeOracles := by
  unfold updateReputations
  induction votes generalizing database with
  | nil => exact ⟨rfl, rfl, rfl⟩
  | cons vote _ ih =>
    obtain ⟨quorums, got, active⟩ := ih
      (database.updateOracleReputation vote.oracleId (reputationChange vote choice))
    rw [foldl_cons, quorums, got, active, activeOracles_updateOracleReputation]
    unfold Database.updateOracleReputation
    split
    · exact ⟨rfl, rfl, rfl⟩
    · exact ⟨rfl, rfl, rfl⟩

/-- A database after a call that has decided on a state. -/
structure Decided (saved : Database) (quorumId : String) (quorum : Quorum)
    (newState : QuorumState) (next : Database) : Prop where
  state : next.quorums.get quorumId = some { quorum with state := newState.asRef }
  others : ∀ id, id ≠ quorumId → next.quorums.get id = saved.quorums.get id
  votes : next.votes = saved.votes
  oracles : next.activeOracles = saved.activeOracles

theorem processVote_cases (database : Database) (vote : Vote) :
    ((processVote database vote).1 = database ∧ (processVote database vote).2 ≠ .error .overflow) ∨
      ∃ quorum saved, database.quorums.get vote.quorumId = some quorum ∧ quorum.Accepting ∧
        database.saveVote vote = some saved ∧
        ((quorum.calculateNewState (saved.getVotesForQuorum vote.quorumId)
            saved.activeOraclesCount = none ∧ (processVote database vote).1 = saved) ∨
          ∃ newState, quorum.calculateNewState (saved.getVotesForQuorum vote.quorumId)
              saved.activeOraclesCount = some newState ∧
            (∃ result, (processVote database vote).2 = .ok result) ∧
            Decided saved vote.quorumId quorum newState (processVote database vote).1) := by
  unfold processVote
  split
  · exact .inl ⟨rfl, by simp⟩
  · next quorum found =>
    split
    · exact .inl ⟨rfl, by simp⟩
    · next accepting =>
      split
      · exact .inl ⟨rfl, by simp⟩
      · next saved inserted =>
        refine .inr ⟨quorum, saved, found, not_not.mp accepting, inserted, ?_⟩
        have quorums : saved.quorums = database.quorums := by
          unfold Database.saveVote at inserted
          split at inserted
          · cases inserted
          · cases inserted
            rfl
        have got : saved.quorums.get vote.quorumId = some quorum := by
          rw [quorums]
          exact found
        have updated : ∀ state : String,
            (saved.updateQuorumState vote.quorumId state).quorums =
              saved.quorums.set vote.quorumId { quorum with state } := by
          intro state
          unfold Database.updateQuorumState
          rw [got]
        have rest : ∀ state : String,
            (saved.updateQuorumState vote.quorumId state).votes = saved.votes ∧
              (saved.updateQuorumState vote.quorumId state).activeOracles =
                saved.activeOracles := by
          intro state
          unfold Database.updateQuorumState
          rw [got]
          exact ⟨rfl, rfl⟩
        dsimp only
        split
        · next overflow => exact .inl ⟨overflow, rfl⟩
        · next newState decided =>
          refine .inr ⟨newState, decided, ?_⟩
          split
          · next same =>
            refine ⟨⟨_, rfl⟩, ⟨?_, fun _ _ => rfl, rfl, rfl⟩⟩
            rw [same]
            exact got
          · split
            · obtain ⟨kept, votes, oracles⟩ := updateReputations_keeps
                (saved.updateQuorumState vote.quorumId newState.asRef)
                (saved.getVotesForQuorum vote.quorumId) vote.choice
              refine ⟨⟨_, rfl⟩, ⟨?_, fun id ne => ?_, ?_, ?_⟩⟩
              · rw [kept, updated, OrderedMap.get_set_self]
              · rw [kept, updated, OrderedMap.get_set_of_ne _ _ ne]
              · exact votes.trans (rest _).1
              · exact oracles.trans (rest _).2
            · refine ⟨⟨_, rfl⟩, ⟨?_, fun id ne => ?_, ?_, ?_⟩⟩
              · rw [updated, OrderedMap.get_set_self]
              · rw [updated, OrderedMap.get_set_of_ne _ _ ne]
              · exact (rest _).1
              · exact (rest _).2

theorem Decided.achieved {quorumId : String} (decided : Decided saved quorumId quorum newState next)
    (achieved : Achieved saved quorumId quorum) : Achieved next quorumId quorum := by
  unfold Achieved Database.backers Database.getVotesForQuorum at *
  rw [activeOraclesCount_eq] at achieved ⊢
  rw [decided.votes, decided.oracles]
  exact achieved

theorem Decided.hopeless {quorumId : String} (decided : Decided saved quorumId quorum newState next)
    (hopeless : Hopeless saved quorumId quorum) : Hopeless next quorumId quorum := by
  unfold Hopeless Database.assigned Database.undecided Database.backers
    Database.getVotesForQuorum at *
  rw [decided.votes, decided.oracles]
  exact hopeless

theorem saveVote_cases (inserted : database.saveVote vote = some saved) :
    saved.quorums = database.quorums ∧ saved.votes = database.votes.set vote.id vote ∧
      vote ∈ saved.getVotesForQuorum vote.quorumId := by
  unfold Database.saveVote at inserted
  split at inserted
  · cases inserted
  · cases inserted
    refine ⟨rfl, rfl, mem_filter.mpr ⟨?_, decide_eq_true rfl⟩⟩
    exact mem_map.mpr ⟨(vote.id, vote),
      get_eq_some.mp (OrderedMap.get_set_self _ _ _), rfl⟩

theorem saveVote_wellFormed (wf : database.WellFormed)
    (inserted : database.saveVote vote = some saved) : saved.WellFormed := by
  obtain ⟨-, votes, -⟩ := saveVote_cases inserted
  intro id found got
  rw [votes, OrderedMap.get_set] at got
  split at got
  · next same =>
    cases got
    exact same.symm
  · exact wf id found got

variable {event : Event}

theorem step_wellFormed (wf : database.WellFormed)
    (ran : step database event = some next) : next.WellFormed := by
  cases event with
  | create =>
    unfold step at ran
    dsimp only at ran
    split at ran
    · cases ran
    · cases ran
      exact wf
  | register =>
    cases ran
    exact wf
  | vote vote =>
    cases ran
    rcases processVote_cases database vote with
      ⟨unchanged, -⟩ | ⟨quorum, saved, -, -, inserted, ⟨-, same⟩ | ⟨newState, -, -, decided⟩⟩
    · rwa [unchanged]
    · rw [same]
      exact saveVote_wellFormed wf inserted
    · intro id found got
      rw [decided.votes] at got
      exact saveVote_wellFormed wf inserted id found got

theorem soundCall_of_regular (wf : database.WellFormed)
    (regular : RegularCall database (.vote vote)) : SoundCall database vote := by
  rcases processVote_cases database vote with
    ⟨unchanged, fails⟩ | ⟨quorum, saved, found, accepting, inserted, decided⟩
  · refine ⟨fails, fun before after got open_ found reached => ?_,
      fun before after got open_ found reached => ?_⟩
    · rw [unchanged, got] at found
      exact absurd (Option.some.inj found ▸ reached) open_
    · rw [unchanged, got] at found
      exact absurd (Option.some.inj found ▸ reached) open_
  · have wf := saveVote_wellFormed wf inserted
    have regular := regular quorum saved found accepting inserted
    obtain ⟨-, -, mem⟩ := saveVote_cases inserted
    rcases decided with ⟨overflow, -⟩ | ⟨newState, chosen, ⟨_, succeeds⟩, decided⟩
    · exact absurd overflow (not_overflow wf regular)
    · have wrote : ∀ before after, database.quorums.get vote.quorumId = some before →
          (processVote database vote).1.quorums.get vote.quorumId = some after →
          before = quorum ∧ after.state = newState.asRef := by
        intro before after got left
        rw [found] at got
        rw [decided.state] at left
        cases left
        exact ⟨(Option.some.inj got).symm, rfl⟩
      refine ⟨?_, fun before after got _ left reached => ?_,
        fun before after got _ left reached => ?_⟩
      · rw [succeeds]
        exact nofun
      · obtain ⟨rfl, state⟩ := wrote before after got left
        have same : newState = .consensusAchieved := by
          rw [← QuorumState.ofString_asRef newState, ← state, reached, QuorumState.ofString_asRef]
        rw [same] at chosen
        exact decided.achieved (achieved_of_state wf regular chosen)
      · obtain ⟨rfl, state⟩ := wrote before after got left
        have same : newState = .failed := by
          rw [← QuorumState.ofString_asRef newState, ← state, reached, QuorumState.ofString_asRef]
        rw [same] at chosen
        exact decided.hopeless
          (hopeless_of_state wf regular (ne_nil_of_mem mem) chosen)

theorem step_stays {id : String} (ran : step database event = some next)
    (found : database.quorums.get id = some quorum) (ended : ¬ quorum.Accepting) :
    next.quorums.get id = some quorum := by
  cases event with
  | create =>
    unfold step at ran
    dsimp only at ran
    split at ran
    · cases ran
    · next gone =>
      cases ran
      refine (OrderedMap.get_set_of_ne _ _ ?_).trans found
      rintro rfl
      rw [gone] at found
      cases found
  | register =>
    cases ran
    exact found
  | vote vote =>
    cases ran
    rcases processVote_cases database vote with
      ⟨unchanged, -⟩ | ⟨voted, saved, got, accepting, inserted, decided⟩
    · rwa [unchanged]
    · obtain ⟨quorums, -, -⟩ := saveVote_cases inserted
      have ne : id ≠ vote.quorumId := by
        rintro rfl
        cases got.symm.trans found
        exact ended accepting
      rcases decided with ⟨-, same⟩ | ⟨_, -, -, decided⟩
      · rw [same, quorums]
        exact found
      · rw [decided.others id ne, quorums]
        exact found

/-- Active oracles and a quorum that asks for two thirds of them. -/
def registered (oracles : List String) : List Event :=
  [.register (oracles.foldl (fun registry oracle => registry.set oracle { active := true }) ∅),
    .create "q" { state := "collecting", strategy := "super_majority", threshold := 2 }]

/-- Two of four oracles vote alike. -/
def halfVotes : List Event :=
  registered ["a", "b", "c", "d"] ++ [.vote ⟨"q", "a", "yes"⟩, .vote ⟨"q", "b", "yes"⟩]

theorem wellFormed_empty : ({} : Database).WellFormed := by
  intro id vote got
  cases got

theorem run_wellFormed (events : List Event) : (machine.run {} events).WellFormed := by
  refine run_invariant ?_ wellFormed_empty events
  intro database event next wf ran
  exact step_wellFormed wf (ofStep_exec_eq_ok.mp ran)

/-- In a run whose calls decide on the votes of active oracles only, and not with a super majority
of exactly two thirds rounded down, every call decides soundly and no ended quorum changes. -/
theorem quorums_sound (events : List Event) (regular : machine.Meets RegularCall {} events) :
    machine.Meets Sound {} events := by
  refine meets_of_invariant ?_ ?_ wellFormed_empty regular
  · intro database event next wf _ ran
    exact step_wellFormed wf (ofStep_exec_eq_ok.mp ran)
  · intro database event next wf regular _
    refine ⟨fun vote same => ?_, fun next id quorum stepped found ended =>
      step_stays stepped found ended⟩
    subst same
    exact soundCall_of_regular wf regular

theorem quorums_sound_three :
    machine.Meets Sound {} (registered ["a", "b", "c"] ++
      [.vote ⟨"q", "a", "yes"⟩, .vote ⟨"q", "b", "yes"⟩]) := by
  refine quorums_sound _ ⟨fun _ => trivial, fun _ => trivial, fun _ => ?_, fun _ => ?_, trivial⟩
  · intro quorum saved found _ inserted decides
    cases inserted
    cases found
    exact absurd decides (by unfold Quorum.Decides; decide)
  · intro quorum saved found _ inserted _
    cases inserted
    exact ⟨by unfold ActiveVoters; decide, fun _ => .inl rfl⟩

/-- Two of four oracles achieve a super majority. -/
theorem half_achieves : ¬ machine.Meets Sound {} halfVotes := by
  intro sound
  obtain ⟨-, -, -, second, -⟩ := sound
  have call := (second ⟨_, rfl⟩).call _ rfl
  obtain ⟨choice, qualifies, -⟩ := call.achieved _ _ rfl (by decide) rfl rfl
  have enough : 2 * 4 ≤ 3 * ((machine.run {} halfVotes).backers "q" choice).length := qualifies
  have active : ActiveVoters (machine.run {} halfVotes) "q" := by
    unfold ActiveVoters
    decide
  have few := countOf_le ((machine.run {} halfVotes).getVotesForQuorum "q") choice
  rw [countOf_eq_backers (run_wellFormed halfVotes) active] at few
  have two : ((machine.run {} halfVotes).getVotesForQuorum "q").length = 2 := by decide
  omega

end SorobanPlayground.Indexer.Quorums
