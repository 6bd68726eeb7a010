import Mathlib.Algebra.Group.Int.Defs
import Mathlib.Data.List.Dedup
import SorobanPlayground.Library.OrderedMap

/-! # Quorums of oracles

A vote is saved and all votes of its quorum are counted against the active oracles. The id of a
vote row is its primary key.
-/

namespace SorobanPlayground.Indexer.Quorums

inductive QuorumState where
  | collecting
  | thresholdReached
  | consensusAchieved
  | failed
  deriving DecidableEq, Repr

namespace QuorumState

/-- `From<&str>`. -/
def ofString (text : String) : QuorumState :=
  if text = "threshold_reached" then thresholdReached
  else if text = "consensus_achieved" then consensusAchieved
  else if text = "failed" then failed
  else collecting

def asRef : QuorumState → String
  | collecting => "collecting"
  | thresholdReached => "threshold_reached"
  | consensusAchieved => "consensus_achieved"
  | failed => "failed"

@[simp] theorem ofString_asRef (state : QuorumState) : ofString state.asRef = state := by
  cases state <;> decide

end QuorumState

inductive ConsensusStrategy where
  | simpleMajority
  | superMajority
  | unanimous
  deriving DecidableEq, Repr

/-- `From<&str>`. -/
def ConsensusStrategy.ofString (text : String) : ConsensusStrategy :=
  if text = "super_majority" then superMajority
  else if text = "unanimous" then unanimous
  else simpleMajority

structure Quorum where
  state : String
  strategy : String
  threshold : Int
  deriving DecidableEq, Repr

structure Vote where
  quorumId : String
  oracleId : String
  choice : String
  deriving DecidableEq, Repr

structure Oracle where
  active : Bool
  reputation : Int := 100
  deriving DecidableEq, Repr

structure Database where
  quorums : OrderedMap String Quorum := ∅
  votes : OrderedMap String Vote := ∅
  oracles : OrderedMap String Oracle := ∅

def Vote.id (vote : Vote) : String := vote.quorumId ++ "-" ++ vote.oracleId

namespace Database

variable (database : Database)

/-- The insert fails when the id is taken. -/
def saveVote (vote : Vote) : Option Database :=
  match database.votes.get vote.id with
  | some _ => none
  | none => some { database with votes := database.votes.set vote.id vote }

def getVotesForQuorum (quorumId : String) : List Vote :=
  database.votes.values.filter fun vote => vote.quorumId = quorumId

def activeOraclesCount : Nat := (database.oracles.values.filter fun oracle => oracle.active).length

def updateQuorumState (id state : String) : Database :=
  match database.quorums.get id with
  | some quorum =>
      { database with quorums := database.quorums.set id { quorum with state } }
  | none => database

def updateOracleReputation (id : String) (change : Int) : Database :=
  match database.oracles.get id with
  | some oracle =>
      { database with
        oracles := database.oracles.set id
          { oracle with reputation := oracle.reputation + change } }
  | none => database

end Database

def countOf (votes : List Vote) (choice : String) : Nat :=
  votes.countP fun vote => vote.choice = choice

def choices (votes : List Vote) : List String := (votes.map Vote.choice).dedup

/-- Whether a count meets the requirement of a strategy. -/
def Reached (strategy : ConsensusStrategy) (count totalOracles : Nat) : Prop :=
  match strategy with
  | .simpleMajority => totalOracles / 2 < count
  | .superMajority => totalOracles * 2 / 3 ≤ count
  | .unanimous => count = totalOracles

instance (strategy : ConsensusStrategy) (count totalOracles : Nat) :
    Decidable (Reached strategy count totalOracles) :=
  match strategy with
  | .simpleMajority => inferInstanceAs (Decidable (_ < _))
  | .superMajority => inferInstanceAs (Decidable (_ ≤ _))
  | .unanimous => inferInstanceAs (Decidable (_ = _))

namespace Quorum

variable (quorum : Quorum)

def consensusStrategy : ConsensusStrategy := .ofString quorum.strategy

/-- `threshold as usize`. -/
def thresholdCount : Nat := (quorum.threshold % 2 ^ 64).toNat

/-- A unanimous quorum whose votes differ. -/
def Split (votes : List Vote) : Prop :=
  quorum.consensusStrategy = .unanimous ∧ 0 < votes.length ∧ 1 < (choices votes).length

instance (votes : List Vote) : Decidable (quorum.Split votes) :=
  inferInstanceAs (Decidable (_ ∧ _))

/-- The state after a vote; `none` says that `total_oracles - vote_count` overflows. -/
def calculateNewState (votes : List Vote) (totalOracles : Nat) : Option QuorumState :=
  let strategy := quorum.consensusStrategy
  if quorum.Split votes then some .failed
  else if votes.length < quorum.thresholdCount then some .collecting
  else if ∃ choice ∈ choices votes, Reached strategy (countOf votes choice) totalOracles then
    some .consensusAchieved
  else if totalOracles < votes.length then none
  else if ∃ choice ∈ choices votes,
      Reached strategy (countOf votes choice + (totalOracles - votes.length)) totalOracles then
    some .thresholdReached
  else some .failed

/-- Whether votes are still accepted. -/
def Accepting : Prop :=
  QuorumState.ofString quorum.state = .collecting ∨
    QuorumState.ofString quorum.state = .thresholdReached

instance : Decidable quorum.Accepting := inferInstanceAs (Decidable (_ ∨ _))

end Quorum

inductive Failure where
  | quorumNotFound
  | notAccepting
  /-- The vote row is not inserted. -/
  | voteNotSaved
  /-- `total_oracles - vote_count` overflows. -/
  | overflow
  deriving DecidableEq, Repr

def reputationChange (vote : Vote) (consensusChoice : String) : Int :=
  if vote.choice = consensusChoice then 10 else -20

def updateReputations (database : Database) (votes : List Vote) (consensusChoice : String) :
    Database :=
  votes.foldl
    (fun database vote =>
      database.updateOracleReputation vote.oracleId (reputationChange vote consensusChoice))
    database

/-- `process_vote` without another call in between; what it has written stays when it fails. -/
def processVote (database : Database) (vote : Vote) : Database × Except Failure Quorum :=
  match database.quorums.get vote.quorumId with
  | none => (database, .error .quorumNotFound)
  | some quorum =>
      if ¬ quorum.Accepting then (database, .error .notAccepting)
      else
        match database.saveVote vote with
        | none => (database, .error .voteNotSaved)
        | some saved =>
            let votes := saved.getVotesForQuorum vote.quorumId
            match quorum.calculateNewState votes saved.activeOraclesCount with
            | none => (saved, .error .overflow)
            | some newState =>
                let result := { quorum with state := newState.asRef }
                if newState.asRef = quorum.state then (saved, .ok result)
                else
                  let updated := saved.updateQuorumState vote.quorumId newState.asRef
                  if newState = .consensusAchieved then
                    (updateReputations updated votes vote.choice, .ok result)
                  else (updated, .ok result)

end SorobanPlayground.Indexer.Quorums
