import Mathlib.Algebra.Order.BigOperators.Group.Finset
import Mathlib.Data.List.Sort
import Mathlib.Tactic.Linarith
import SorobanPlayground.Library.CallMachine
import SorobanPlayground.Library.OrderedMap

/-! # Runs of `processProof` on one proof

The votes of one proof are counted by the weights of their nodes. Every request to the vote store
and to the lock store is executed some time after it is made, and its answer is read later still. No
vote and no lock expires.
-/

namespace SorobanPlayground.Backend.OracleConsensus

open List OrderedMap

section

variable {Node Vote : Type} [DecidableEq Node] [DecidableEq Vote]

/-- The stored vote of every node. -/
abbrev Votes (Node Vote : Type) := OrderedMap Node Vote

structure Tally (Vote : Type) where
  totalVotes : Nat
  totalWeight : ℚ
  /-- The votes with their weights, the heaviest first. -/
  results : List (Vote × ℚ)

inductive Quorum (Vote : Type) where
  | empty
  | reached (vote : Vote) (count : ℚ)
  | missed (leadingVote : Vote) (leadingCount : ℚ)

/-- Add the weight of a node to what its vote has. -/
def countVote (weight : Node → ℚ) (counts : OrderedMap Vote ℚ) (entry : Node × Vote) :
    OrderedMap Vote ℚ :=
  counts.set entry.2 ((counts.get entry.2).getD 0 + weight entry.1)

def countVotes (weight : Node → ℚ) (entries : List (Node × Vote)) : OrderedMap Vote ℚ :=
  entries.foldl (countVote weight) ∅

def tally (weight : Node → ℚ) (votes : Votes Node Vote) : Tally Vote where
  totalVotes := votes.entries.length
  totalWeight := (votes.entries.map fun entry => weight entry.1).sum
  results := (countVotes weight votes.entries).entries.insertionSort fun first second =>
    second.2 ≤ first.2

def checkQuorum (threshold : ℚ) (tally : Tally Vote) : Quorum Vote :=
  match tally.results with
  | [] => .empty
  | (vote, count) :: _ => if threshold ≤ count then .reached vote count else .missed vote count

/-- The weight of the nodes that have cast a vote. -/
def weightFor (weight : Node → ℚ) (entries : List (Node × Vote)) (vote : Vote) : ℚ :=
  ((entries.filter fun entry => entry.2 = vote).map fun entry => weight entry.1).sum

omit [DecidableEq Node] in
theorem foldl_countVote_get (weight : Node → ℚ) (entries : List (Node × Vote)) (vote : Vote)
    (counts : OrderedMap Vote ℚ) :
    ((entries.foldl (countVote weight) counts).get vote).getD 0 =
      (counts.get vote).getD 0 + weightFor weight entries vote := by
  induction entries generalizing counts with
  | nil => exact (add_zero _).symm
  | cons entry _ ih =>
    rw [foldl_cons, ih]
    unfold weightFor countVote
    by_cases same : entry.2 = vote
    · rw [filter_cons_of_pos (by simpa using same), map_cons, sum_cons, ← same,
        OrderedMap.get_set_self, Option.getD_some, add_assoc]
    · rw [filter_cons_of_neg (by simpa using same),
        OrderedMap.get_set_of_ne _ _ (Ne.symm same)]

variable {weight : Node → ℚ} {votes : Votes Node Vote} {threshold : ℚ}

omit [DecidableEq Node] in
theorem checkQuorum_reached {count : ℚ} {vote : Vote}
    (reached : checkQuorum threshold (tally weight votes) = .reached vote count) :
    threshold ≤ weightFor weight votes.entries vote := by
  unfold checkQuorum at reached
  split at reached
  · cases reached
  · next leading leadingCount rest heaviest =>
    split at reached
    · obtain ⟨rfl, rfl⟩ := Quorum.reached.inj reached
      have listed : (leading, leadingCount) ∈ (tally weight votes).results := by
        rw [heaviest]
        exact mem_cons_self
      have mem := (perm_insertionSort _ _).mem_iff.mp listed
      have counted := foldl_countVote_get weight votes.entries leading ∅
      have got := get_eq_some.mpr mem
      unfold countVotes at got
      rw [got, OrderedMap.get_empty, Option.getD_some, Option.getD_none, zero_add] at counted
      rwa [← counted]
    · cases reached

variable [Fintype Node] {voteOf : Node → Vote}

/-- Where every stored vote is the one its node always casts, the weight for a vote is at most
the weight of the nodes that cast it. -/
theorem weightFor_le (nonneg : ∀ node, 0 ≤ weight node)
    (cast : ∀ node vote, votes.get node = some vote → vote = voteOf node) (vote : Vote) :
    weightFor weight votes.entries vote ≤ ∑ node with voteOf node = vote, weight node := by
  have apart : ((votes.entries.filter fun entry => entry.2 = vote).map Prod.fst).Nodup :=
    votes.distinct.sublist (filter_sublist.map _)
  have sum : weightFor weight votes.entries vote =
      ∑ node ∈ ((votes.entries.filter fun entry => entry.2 = vote).map Prod.fst).toFinset,
        weight node := by
    rw [sum_toFinset _ apart, map_map]
    rfl
  rw [sum]
  refine Finset.sum_le_sum_of_subset_of_nonneg (fun node mem => ?_) fun node _ _ =>
    nonneg node
  obtain ⟨⟨voter, got⟩, here, rfl⟩ := mem_map.mp (mem_toFinset.mp mem)
  obtain ⟨stored', same⟩ := mem_filter.mp here
  rw [Finset.mem_filter_univ]
  exact (cast voter got (get_eq_some.mpr stored')).symm.trans (of_decide_eq_true same)

omit [DecidableEq Node] in
theorem vote_unique (nonneg : ∀ node, 0 ≤ weight node)
    (majority : ∑ node, weight node < 2 * threshold) {first second : Vote}
    (one : threshold ≤ ∑ node with voteOf node = first, weight node)
    (two : threshold ≤ ∑ node with voteOf node = second, weight node) : first = second := by
  by_contra ne
  have both : ∑ node with voteOf node = first, weight node +
      ∑ node with voteOf node = second, weight node ≤ ∑ node, weight node := by
    classical
    rw [← Finset.sum_union]
    · exact Finset.sum_le_sum_of_subset_of_nonneg (Finset.subset_univ _) fun node _ _ =>
        nonneg node
    · refine Finset.disjoint_filter.mpr fun node _ left right => ?_
      exact ne (left.symm.trans right)
  linarith

end

inductive Result (Vote : Type) where
  | rejected
  | pending (tally : Tally Vote)
  | follower (vote : Vote) (tally : Tally Vote)
  /-- `submitted` says whether the submitter has succeeded. -/
  | leader (vote : Vote) (tally : Tally Vote) (submitted : Bool)

/-- Where a run waits; an answer is `none` until the store has executed the request. -/
inductive Phase (Node Vote : Type) where
  | idle
  | validating
  /-- The put of `registerVote`. -/
  | registering (vote : Vote) (stored : Bool)
  /-- The tally of `registerVote`. -/
  | registered (votes : Option (Votes Node Vote))
  /-- The tally of `checkQuorum`. -/
  | checking (votes : Option (Votes Node Vote))
  | withoutQuorum (votes : Option (Votes Node Vote))
  /-- `tryAcquire` of `electLeader`. -/
  | electing (vote : Vote) (acquired : Option Bool)
  | elected (vote : Vote) (isLeader : Bool) (votes : Option (Votes Node Vote))
  | submitting (vote : Vote) (tally : Tally Vote)
  | releasing (vote : Vote) (tally : Tally Vote) (submitted released : Bool)
  | done (result : Result Vote)

structure Config (Node Run Vote : Type) where
  nodeOf : Run → Node
  /-- `_weightOf`. -/
  weight : Node → ℚ
  threshold : ℚ
  /-- Whether the signature of a node on a vote is verified. -/
  verify : Node → Vote → Bool

structure State (Node Run Vote : Type) where
  votes : Votes Node Vote := ∅
  /-- The run whose token is stored at the submission key. -/
  lock : Option Run := none
  /-- The votes that the submitter has taken successfully. -/
  submissions : List Vote := []
  phase : Run → Phase Node Vote := fun _ => .idle

inductive Event (Run Vote : Type) where
  | call (run : Run)
  /-- `validate` resolves. -/
  | validated (run : Run) (vote : Vote)
  /-- `validate` rejects. -/
  | validationFails (run : Run)
  /-- A store executes the request of the run. -/
  | execute (run : Run)
  /-- The run reads an answer and goes on. -/
  | resume (run : Run)
  /-- The submitter resolves. -/
  | submitted (run : Run)
  /-- The submitter rejects. -/
  | submissionFails (run : Run)
  /-- A request to a store fails, before or after the store has executed it. -/
  | storeFails (run : Run)

variable {Node Run Vote : Type} [DecidableEq Node] [DecidableEq Run] [DecidableEq Vote]

omit [DecidableEq Node] [DecidableEq Vote] in
def State.move (state : State Node Run Vote) (run : Run) (phase : Phase Node Vote) :
    State Node Run Vote :=
  { state with phase := Function.update state.phase run phase }

variable (config : Config Node Run Vote)

/-- A store executes the request of a run. -/
def execute (state : State Node Run Vote) (run : Run) : Option (State Node Run Vote) :=
  match state.phase run with
  | .registering vote false =>
      some ({ state with votes := state.votes.set (config.nodeOf run) vote }.move run
        (.registering vote true))
  | .registered none => some (state.move run (.registered (some state.votes)))
  | .checking none => some (state.move run (.checking (some state.votes)))
  | .withoutQuorum none => some (state.move run (.withoutQuorum (some state.votes)))
  | .electing vote none =>
      match state.lock with
      | none => some ({ state with lock := some run }.move run (.electing vote (some true)))
      | some _ => some (state.move run (.electing vote (some false)))
  | .elected vote isLeader none =>
      some (state.move run (.elected vote isLeader (some state.votes)))
  | .releasing vote tally submitted false =>
      let lock := if state.lock = some run then none else state.lock
      some ({ state with lock }.move run (.releasing vote tally submitted true))
  | _ => none

omit [DecidableEq Run] in
/-- What follows the quorum check. -/
def afterCheck (votes : Votes Node Vote) : Phase Node Vote :=
  match checkQuorum config.threshold (tally config.weight votes) with
  | .reached vote _ => .electing vote none
  | _ => .withoutQuorum none

/-- A run reads an answer. -/
def resume (state : State Node Run Vote) (run : Run) : Option (State Node Run Vote) :=
  match state.phase run with
  | .registering _ true => some (state.move run (.registered none))
  | .registered (some _) => some (state.move run (.checking none))
  | .checking (some votes) => some (state.move run (afterCheck config votes))
  | .withoutQuorum (some votes) =>
      some (state.move run (.done (.pending (tally config.weight votes))))
  | .electing vote (some acquired) => some (state.move run (.elected vote acquired none))
  | .elected vote true (some votes) =>
      some (state.move run (.submitting vote (tally config.weight votes)))
  | .elected vote false (some votes) =>
      some (state.move run (.done (.follower vote (tally config.weight votes))))
  | .releasing vote tally submitted true =>
      some (state.move run (.done (.leader vote tally submitted)))
  | _ => none

omit [DecidableEq Node] [DecidableEq Vote] in
/-- A failed request rejects the proof, but a failed release is ignored. -/
def afterFailure (state : State Node Run Vote) (run : Run) : Option (State Node Run Vote) :=
  match state.phase run with
  | .registering _ _ | .registered _ | .checking _ | .withoutQuorum _ | .electing _ _
  | .elected _ _ _ => some (state.move run (.done .rejected))
  | .releasing vote tally submitted _ =>
      some (state.move run (.done (.leader vote tally submitted)))
  | _ => none

def step (state : State Node Run Vote) : Event Run Vote → Option (State Node Run Vote)
  | .call run =>
      match state.phase run with
      | .idle => some (state.move run .validating)
      | _ => none
  | .validated run vote =>
      match state.phase run with
      | .validating =>
          if config.verify (config.nodeOf run) vote = true then
            some (state.move run (.registering vote false))
          else some (state.move run (.done .rejected))
      | _ => none
  | .validationFails run =>
      match state.phase run with
      | .validating => some (state.move run (.done .rejected))
      | _ => none
  | .execute run => execute config state run
  | .resume run => resume config state run
  | .submitted run =>
      match state.phase run with
      | .submitting vote tally =>
          some ({ state with submissions := state.submissions ++ [vote] }.move run
            (.releasing vote tally true false))
      | _ => none
  | .submissionFails run =>
      match state.phase run with
      | .submitting vote tally => some (state.move run (.releasing vote tally false false))
      | _ => none
  | .storeFails run => afterFailure state run

def machine : CallMachine (State Node Run Vote) (Event Run Vote) Unit :=
  CallMachine.ofStep (step config)

end SorobanPlayground.Backend.OracleConsensus
