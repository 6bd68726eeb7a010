import SorobanPlayground.Indexer.Quorums.Manager
import SorobanPlayground.Library.CallMachine

/-! # Concurrent calls of `process_vote`

Every statement of the database is one step, and other calls run between two statements of a call.
-/

namespace SorobanPlayground.Indexer.Quorums

namespace Interleaving

/-- The next statement of a call, with the local variables that it and later ones need. -/
inductive Phase where
  | idle
  | getQuorum (vote : Vote)
  | saveVote (vote : Vote) (quorum : Quorum)
  | getVotes (vote : Vote) (quorum : Quorum)
  | getOracles (vote : Vote) (quorum : Quorum) (votes : List Vote)
  | updateState (vote : Vote) (quorum : Quorum) (votes : List Vote) (activeOracles : Nat)
      (newState : QuorumState)
  /-- The loop of `update_reputations`, with the votes that are left. -/
  | updateReputations (vote : Vote) (quorum : Quorum) (votes : List Vote) (activeOracles : Nat)
      (rest : List Vote)
  | done (result : Except Failure Quorum)

structure State (Call : Type) where
  database : Database := {}
  phase : Call → Phase := fun _ => .idle

inductive Event (Call : Type) where
  | create (id : String) (quorum : Quorum)
  | register (oracles : OrderedMap String Oracle)
  | call (call : Call) (vote : Vote)
  /-- The next statement of a call. -/
  | statement (call : Call)

variable {Call : Type} [DecidableEq Call]

def State.move (state : State Call) (call : Call) (phase : Phase) : State Call :=
  { state with phase := Function.update state.phase call phase }

omit [DecidableEq Call] in
def State.withDatabase (state : State Call) (database : Database) : State Call :=
  { state with database }

/-- What follows the count of the active oracles. -/
def afterCount (vote : Vote) (quorum : Quorum) (votes : List Vote) (activeOracles : Nat) : Phase :=
  match quorum.calculateNewState votes activeOracles with
  | none => .done (.error .overflow)
  | some newState =>
      if newState.asRef = quorum.state then
        .done (.ok { quorum with state := newState.asRef })
      else .updateState vote quorum votes activeOracles newState

/-- What follows the update of the state. -/
def afterUpdate (vote : Vote) (quorum : Quorum) (votes : List Vote) (activeOracles : Nat)
    (newState : QuorumState) : Phase :=
  if newState = .consensusAchieved then
    .updateReputations vote quorum votes activeOracles votes
  else .done (.ok { quorum with state := newState.asRef })

/-- The next statement of a call. -/
def statement (state : State Call) (call : Call) : Option (State Call) :=
  match state.phase call with
  | .getQuorum vote =>
      match state.database.quorums.get vote.quorumId with
      | none => some (state.move call (.done (.error .quorumNotFound)))
      | some quorum =>
          if quorum.Accepting then some (state.move call (.saveVote vote quorum))
          else some (state.move call (.done (.error .notAccepting)))
  | .saveVote vote quorum =>
      match state.database.saveVote vote with
      | none => some (state.move call (.done (.error .voteNotSaved)))
      | some saved => some ((state.withDatabase saved).move call (.getVotes vote quorum))
  | .getVotes vote quorum =>
      some (state.move call
        (.getOracles vote quorum (state.database.getVotesForQuorum vote.quorumId)))
  | .getOracles vote quorum votes =>
      some (state.move call (afterCount vote quorum votes state.database.activeOraclesCount))
  | .updateState vote quorum votes activeOracles newState =>
      some ((state.withDatabase
        (state.database.updateQuorumState vote.quorumId newState.asRef)).move call
          (afterUpdate vote quorum votes activeOracles newState))
  | .updateReputations vote quorum votes activeOracles (rewarded :: rest) =>
      some ((state.withDatabase (state.database.updateOracleReputation rewarded.oracleId
        (reputationChange rewarded vote.choice))).move call
          (.updateReputations vote quorum votes activeOracles rest))
  | .updateReputations _ quorum _ _ [] =>
      some (state.move call
        (.done (.ok { quorum with state := QuorumState.consensusAchieved.asRef })))
  | .idle | .done _ => none

def step (state : State Call) : Event Call → Option (State Call)
  | .create id quorum =>
      match state.database.quorums.get id with
      | some _ => none
      | none =>
          some (state.withDatabase
            { state.database with quorums := state.database.quorums.set id quorum })
  | .register oracles => some (state.withDatabase { state.database with oracles })
  | .call call vote =>
      match state.phase call with
      | .idle => some (state.move call (.getQuorum vote))
      | _ => none
  | .statement call => statement state call

def machine : CallMachine (State Call) (Event Call) Unit := CallMachine.ofStep step

end Interleaving

end SorobanPlayground.Indexer.Quorums
