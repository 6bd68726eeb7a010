import SorobanPlayground.Royalty.Tree

/-! # Allocations

Down an accepted tree every node gets the rounded part of its parent's amount and keeps what
it does not pass on. No credit is negative, and the credits add up to the amount allocated.
-/

namespace SorobanPlayground.Royalty

open Finset

variable {Address : Type}

/-- An entry of a list of amounts, zero past its end. -/
def amountAt (amounts : List Int) (i : Nat) : Int := amounts[i]?.getD 0

/-- What the children of a node get. -/
def childrenAmount (nodes : List (RoyaltyNode Address)) (incoming : Nat → Int) (node : Nat) : Int :=
  TreeFlow.outflow (Finset.range nodes.length) (parentOf nodes) incoming node

/-- The amounts that flow down a tree and the credits that the nodes keep. -/
structure Waterfall (nodes : List (RoyaltyNode Address)) (amount : Int) (incoming : Nat → Int)
    (credits : List Int) : Prop where
  root : incoming 0 = amount
  child : ∀ i above, parentOf nodes i = some above →
    incoming i = incoming above * shareOf nodes i / 10000
  length : credits.length = nodes.length
  credit : ∀ i credit, credits[i]? = some credit →
    credit = incoming i - childrenAmount nodes incoming i
  nonneg : ∀ credit ∈ credits, 0 ≤ credit
  sum : credits.sum = amount

/-- The part of an amount that a node gets from its parent. -/
def part (nodes : List (RoyaltyNode Address)) (amount : Int) (i : Nat) : Int :=
  (amount * shareOf nodes i).tdiv 10000

/-- The children of a node before an index have got their parts. -/
structure Distributed (nodes : List (RoyaltyNode Address)) (node : Nat) (amount : Int)
    (given : List Int) (count : Nat) (progress : List Int × Int) : Prop where
  length : progress.1.length = nodes.length
  entries : ∀ i, amountAt progress.1 i =
    if node < i ∧ i < count ∧ parentOf nodes i = some node then part nodes amount i
    else amountAt given i
  sum : progress.2 = TreeFlow.outflow (Finset.range count) (parentOf nodes) (part nodes amount) node

/-- The first nodes have passed on what flowed into them. -/
structure Allocated (nodes : List (RoyaltyNode Address)) (amount : Int) (count : Nat)
    (progress : List Int × List Int) : Prop where
  incomings : progress.1.length = nodes.length
  length : progress.2.length = nodes.length
  root : amountAt progress.1 0 = amount
  child : ∀ i, ∀ above < count, parentOf nodes i = some above →
    amountAt progress.1 i = part nodes (amountAt progress.1 above) i
  credit : ∀ node < count,
    progress.2[node]? = some (amountAt progress.1 node -
      childrenAmount nodes (amountAt progress.1) node)

variable {nodes : List (RoyaltyNode Address)} {node count : Nat} {amount : Int}
  {given : List Int}

theorem amountAt_set (amounts : List Int) (index other : Nat) (amount : Int) :
    amountAt (amounts.set index amount) other =
      if index = other ∧ index < amounts.length then amount else amountAt amounts other := by
  unfold amountAt
  rw [List.getElem?_set]
  by_cases same : index = other
  · subst same
    rw [if_pos rfl]
    by_cases inside : index < amounts.length
    · rw [if_pos inside, if_pos ⟨rfl, inside⟩]
      rfl
    · rw [if_neg inside, if_neg fun both => inside both.2,
        List.getElem?_eq_none (Nat.le_of_not_lt inside)]
  · rw [if_neg same, if_neg fun both => same both.1]

theorem lt_of_parentOf {i above : Nat} (up : parentOf nodes i = some above) : i < nodes.length := by
  obtain ⟨_, found, -⟩ := Option.bind_eq_some_iff.mp up
  exact (List.getElem?_eq_some_iff.mp found).1

theorem RoyaltyTree.parent_lt (tree : RoyaltyTree nodes) {i above : Nat}
    (up : parentOf nodes i = some above) : above < i := by
  rcases Nat.eq_zero_or_pos i with rfl | pos
  · rw [tree.root] at up
    cases up
  · obtain ⟨_, _, found⟩ := tree.below i (lt_of_parentOf up) pos
    rwa [Option.mem_unique up found]

theorem distribute_distributed {progress next : List Int × Int} (after : node < count)
    (distributed : Distributed nodes node amount given count progress)
    (ran : distribute nodes node amount progress count = .ok next) :
    Distributed nodes node amount given (count + 1) next := by
  simp only [distribute, bind_eq_ok, orTrap_eq_ok] at ran
  obtain ⟨child, found, ran⟩ := ran
  have inside := (List.getElem?_eq_some_iff.mp found).1
  have up := parentOf_eq found
  split at ran
  · next listed =>
    simp only [checkedMulDiv, call_ok, arith_ok] at ran
    obtain ⟨_, ⟨-, -, -, rfl⟩, -, rfl⟩ := ran
    have share : part nodes amount count = (amount * child.shareBps).tdiv 10000 := by
      unfold part
      rw [shareOf_eq found]
    rw [← share]
    rw [listed] at up
    refine ⟨(List.length_set ..).trans distributed.length, fun i => ?_, ?_⟩
    · rw [amountAt_set, distributed.length, distributed.entries]
      by_cases same : count = i
      · subst same
        rw [if_pos ⟨rfl, inside⟩, if_pos ⟨after, Nat.lt_succ_self _, up⟩]
      · rw [if_neg fun both => same both.1]
        refine if_congr ?_ rfl rfl
        have order : i < count ↔ i < count + 1 := by omega
        rw [order]
    · rw [TreeFlow.outflow_range_succ, if_pos up, distributed.sum]
  · next unlisted =>
    cases ran
    rw [← up] at unlisted
    refine ⟨distributed.length, fun i => ?_, ?_⟩
    · rw [distributed.entries]
      refine if_congr ?_ rfl rfl
      constructor
      · rintro ⟨least, most, listed⟩
        exact ⟨least, most.trans (Nat.lt_succ_self _), listed⟩
      · rintro ⟨least, most, listed⟩
        rcases Nat.lt_succ_iff_lt_or_eq.mp most with earlier | rfl
        · exact ⟨least, earlier, listed⟩
        · exact absurd listed unlisted
    · rw [TreeFlow.outflow_range_succ, if_neg unlisted, add_zero]
      exact distributed.sum

theorem RoyaltyTree.distributed (tree : RoyaltyTree nodes) (inside : node < nodes.length)
    (length : given.length = nodes.length) {final : List Int × Int}
    (ran : (List.range' (node + 1) (nodes.length - (node + 1))).foldlM
      (distribute nodes node amount) (given, 0) = .ok final) :
    final.1.length = nodes.length ∧
    (∀ i, amountAt final.1 i =
      if parentOf nodes i = some node then part nodes amount i else amountAt given i) ∧
    final.2 = childrenAmount nodes (part nodes amount) node := by
  have initial : Distributed nodes node amount given (node + 1) (given, 0) := by
    refine ⟨length, fun i => ?_, ?_⟩
    · rw [if_neg]
      rintro ⟨least, most, -⟩
      omega
    · refine (sum_eq_zero fun child mem => ?_).symm
      obtain ⟨most, up⟩ := mem_filter.mp mem
      have order := tree.parent_lt up
      have bound := mem_range.mp most
      omega
  have distributed := foldlM_range'_invariant (Distributed nodes node amount given)
    (fun _ _ _ least _ distributed ran => distribute_distributed least distributed ran)
    initial ran
  rw [Nat.add_sub_cancel' inside] at distributed
  refine ⟨distributed.length, fun i => ?_, distributed.sum⟩
  rw [distributed.entries]
  refine if_congr ?_ rfl rfl
  exact ⟨fun all => all.2.2, fun up => ⟨tree.parent_lt up, lt_of_parentOf up, up⟩⟩

theorem RoyaltyTree.allocateNode (tree : RoyaltyTree nodes) (inside : node < nodes.length)
    {progress next : List Int × List Int} (allocated : Allocated nodes amount node progress)
    (ran : allocateNode nodes progress node = .ok next) :
    Allocated nodes amount (node + 1) next := by
  simp only [Royalty.allocateNode, bind_eq_ok, orTrap_eq_ok] at ran
  obtain ⟨given, found, ⟨incoming, distributed⟩, looped, ran⟩ := ran
  simp only [arith_ok, pure_eq_ok] at ran
  obtain ⟨-, rfl⟩ := ran
  obtain ⟨length, entries, sum⟩ := tree.distributed inside allocated.incomings looped
  dsimp only at length entries sum
  have value : amountAt progress.1 node = given := by
    unfold amountAt
    rw [found]
    rfl
  have settled : ∀ above ≤ node, amountAt incoming above = amountAt progress.1 above := by
    intro above most
    rw [entries, if_neg]
    intro up
    have order := tree.parent_lt up
    omega
  have children : ∀ i, parentOf nodes i = some node → amountAt incoming i = part nodes given i :=
    fun i up => (entries i).trans (if_pos up)
  have others : ∀ i, parentOf nodes i ≠ some node → amountAt incoming i = amountAt progress.1 i :=
    fun i up => (entries i).trans (if_neg up)
  refine ⟨length, (List.length_set ..).trans allocated.length, ?_, fun i above most up => ?_,
    fun other most => ?_⟩
  · exact (settled 0 (Nat.zero_le _)).trans allocated.root
  · rcases Nat.lt_succ_iff_lt_or_eq.mp most with earlier | rfl
    · rw [others i (by rw [up]; exact fun same => earlier.ne (Option.some.inj same)),
        settled above earlier.le]
      exact allocated.child i above earlier up
    · rw [settled above le_rfl, value]
      exact children i up
  · rw [List.getElem?_set, settled other (Nat.lt_succ_iff.mp most)]
    rcases Nat.lt_succ_iff_lt_or_eq.mp most with earlier | rfl
    · rw [if_neg earlier.ne', allocated.credit other earlier]
      congr 2
      refine TreeFlow.outflow_congr fun child _ up => (others child ?_).symm
      rw [up]
      exact fun same => earlier.ne (Option.some.inj same)
    · rw [if_pos rfl, if_pos (by rw [allocated.length]; exact inside), value, sum]
      congr 2
      exact TreeFlow.outflow_congr fun child _ up => (children child up).symm

variable {credits : List Int}

theorem sum_eq_sum_amountAt (amounts : List Int) :
    amounts.sum = ∑ i ∈ range amounts.length, amountAt amounts i := by
  induction amounts with
  | nil => rfl
  | cons _ _ ih =>
    rw [List.sum_cons, List.length_cons, sum_range_succ', ih, add_comm]
    rfl

section

variable (tree : RoyaltyTree nodes)

include tree

theorem RoyaltyTree.allocated (ran : allocate nodes amount = .ok credits) :
    ∃ incoming, Allocated nodes amount nodes.length (incoming, credits) := by
  simp only [allocate, call_ok, assertOrTrap_eq_ok] at ran
  obtain ⟨-, ⟨incoming, _⟩, looped, ran⟩ := ran
  cases ran
  have first : 0 < nodes.length := List.length_pos_iff.mpr tree.rooted
  have initial : Allocated nodes amount 0
      ((List.replicate nodes.length 0).set 0 amount, List.replicate nodes.length 0) := by
    refine ⟨?_, List.length_replicate, ?_, by simp, by simp⟩
    · rw [List.length_set, List.length_replicate]
    · rw [amountAt_set, List.length_replicate, if_pos ⟨rfl, first⟩]
  exact ⟨incoming, foldlM_range_invariant (Allocated nodes amount)
    (fun _ _ _ inside allocated ran => tree.allocateNode inside allocated ran)
    initial looped⟩

theorem RoyaltyTree.incoming_nonneg {progress : List Int × List Int}
    (allocated : Allocated nodes amount nodes.length progress) (pos : 0 < amount) (i : Nat) :
    0 ≤ amountAt progress.1 i := by
  induction i using Nat.strongRecOn with
  | ind i ih =>
    rcases Nat.lt_or_ge i nodes.length with inside | outside
    · rcases Nat.eq_zero_or_pos i with rfl | later
      · rw [allocated.root]
        exact pos.le
      · obtain ⟨above, earlier, up⟩ := tree.below i inside later
        rw [allocated.child i above (earlier.trans inside) up]
        exact Int.tdiv_nonneg (mul_nonneg (ih above earlier) (Int.natCast_nonneg _)) (by decide)
    · unfold amountAt
      rw [List.getElem?_eq_none (allocated.incomings.trans_le outside)]
      exact le_rfl

theorem RoyaltyTree.roots :
    (range nodes.length).filter (fun i => parentOf nodes i = none) = {0} := by
  ext i
  rw [mem_filter, mem_range, mem_singleton]
  constructor
  · rintro ⟨inside, top⟩
    by_contra later
    obtain ⟨_, -, up⟩ := tree.below i inside (Nat.pos_of_ne_zero later)
    rw [top] at up
    cases up
  · rintro rfl
    exact ⟨List.length_pos_iff.mpr tree.rooted, tree.root⟩

theorem RoyaltyTree.childrenAmount_le {incoming : Nat → Int} (nonneg : ∀ i, 0 ≤ incoming i)
    (child : ∀ i above, parentOf nodes i = some above →
      incoming i = incoming above * shareOf nodes i / 10000)
    (node : Nat) : childrenAmount nodes incoming node ≤ incoming node := by
  have shares : TreeFlow.outflow (range nodes.length) (parentOf nodes)
      (fun i => (shareOf nodes i : Int)) node ≤ 10000 := by
    rw [← TreeFlow.outflow_natCast]
    exact_mod_cast tree.within node
  refine TreeFlow.outflow_le (by decide) (nonneg node) shares fun i _ up => ?_
  rw [child i node up]
  exact Int.ediv_mul_le _ (by decide)

theorem RoyaltyTree.waterfall (pos : 0 < amount) (ran : allocate nodes amount = .ok credits) :
    ∃ incoming, Waterfall nodes amount incoming credits := by
  obtain ⟨incoming, allocated⟩ := tree.allocated ran
  have nonneg := tree.incoming_nonneg allocated pos
  have child : ∀ i above, parentOf nodes i = some above →
      amountAt incoming i = amountAt incoming above * shareOf nodes i / 10000 := by
    intro i above up
    rw [← Int.tdiv_eq_ediv_of_nonneg (mul_nonneg (nonneg above) (Int.natCast_nonneg _))]
    exact allocated.child i above ((tree.parent_lt up).trans (lt_of_parentOf up)) up
  have credit : ∀ i credit, credits[i]? = some credit →
      credit = amountAt incoming i - childrenAmount nodes (amountAt incoming) i := by
    intro i credit found
    have inside := (List.getElem?_eq_some_iff.mp found).1
    rw [allocated.length] at inside
    exact Option.some.inj (found.symm.trans (allocated.credit i inside))
  refine ⟨amountAt incoming, allocated.root, child, allocated.length, credit, ?_, ?_⟩
  · intro value mem
    obtain ⟨i, inside, rfl⟩ := List.getElem_of_mem mem
    rw [credit i _ (List.getElem?_eq_getElem inside)]
    exact sub_nonneg.mpr (tree.childrenAmount_le nonneg child i)
  · have entries : ∀ i ∈ range nodes.length, amountAt credits i =
        amountAt incoming i - childrenAmount nodes (amountAt incoming) i := by
      intro i mem
      unfold amountAt
      rw [allocated.credit i (mem_range.mp mem)]
      rfl
    rw [sum_eq_sum_amountAt, allocated.length, sum_congr rfl entries]
    have closed : ∀ i ∈ range nodes.length, ∀ above, parentOf nodes i = some above →
        above ∈ range nodes.length := fun i _ above up =>
      mem_range.mpr ((tree.parent_lt up).trans (lt_of_parentOf up))
    calc ∑ i ∈ range nodes.length,
          (amountAt incoming i - childrenAmount nodes (amountAt incoming) i)
        = ∑ i ∈ range nodes.length with parentOf nodes i = none, amountAt incoming i :=
          TreeFlow.sum_retained closed
      _ = amountAt incoming 0 := by rw [tree.roots, sum_singleton]
      _ = amount := allocated.root

end

/-- The root keeps 3 of 7 units, its child gets 4 and passes 1 on. -/
example : allocate [(⟨0, none, 10000⟩ : RoyaltyNode Nat), ⟨1, some 0, 6000⟩, ⟨2, some 1, 2500⟩] 7 =
    .ok [3, 3, 1] :=
  rfl

end SorobanPlayground.Royalty
