import SorobanPlayground.Library.TreeFlow
import SorobanPlayground.Royalty.Contract

/-! # Accepted trees

A tree that the contract accepts is rooted at its first node, every other node comes after
its parent, no account has two nodes, and the shares under a node are at most the whole.
-/

namespace SorobanPlayground.Royalty

variable {Address : Type}

def parentOf (nodes : List (RoyaltyNode Address)) (i : Nat) : Option Nat :=
  nodes[i]?.bind RoyaltyNode.parent

def shareOf (nodes : List (RoyaltyNode Address)) (i : Nat) : Nat :=
  (nodes[i]?.map RoyaltyNode.shareBps).getD 0

/-- The sum of the shares of the children of a node, among the first nodes. -/
def childShares (nodes : List (RoyaltyNode Address)) (count node : Nat) : Nat :=
  TreeFlow.outflow (Finset.range count) (parentOf nodes) (shareOf nodes) node

/-- The first nodes of a list are those of a royalty tree. -/
structure TreeUpTo (nodes : List (RoyaltyNode Address)) (count : Nat) : Prop where
  shares : ∀ i < count, 0 < shareOf nodes i ∧ shareOf nodes i ≤ 10000
  distinct : ((nodes.take count).map RoyaltyNode.account).Nodup
  below : ∀ i < count, 0 < i → ∃ above < i, parentOf nodes i = some above
  within : ∀ node, childShares nodes count node ≤ 10000

structure RoyaltyTree (nodes : List (RoyaltyNode Address)) : Prop extends
    TreeUpTo nodes nodes.length where
  rooted : nodes ≠ []
  few : nodes.length ≤ maxNodes
  root : parentOf nodes 0 = none
  whole : shareOf nodes 0 = 10000

/-- The audit has recorded the children of the first nodes. -/
structure Recorded (nodes : List (RoyaltyNode Address)) (count : Nat) (audit : Audit) : Prop where
  tree : TreeUpTo nodes count
  totals : ∀ node < nodes.length, audit.childTotals[node]? = some (childShares nodes count node)

variable {nodes : List (RoyaltyNode Address)} {node : RoyaltyNode Address} {i : Nat}
  {audit next : Audit}

theorem parentOf_eq (found : nodes[i]? = some node) : parentOf nodes i = node.parent := by
  unfold parentOf
  rw [found]
  rfl

theorem shareOf_eq (found : nodes[i]? = some node) : shareOf nodes i = node.shareBps := by
  unfold shareOf
  rw [found]
  rfl

theorem childShares_succ (nodes : List (RoyaltyNode Address)) (count node : Nat) :
    childShares nodes (count + 1) node =
      childShares nodes count node +
        if parentOf nodes count = some node then shareOf nodes count else 0 :=
  TreeFlow.outflow_range_succ _ _ _ _

theorem TreeUpTo.succ [DecidableEq Address] (tree : TreeUpTo nodes i)
    (found : nodes[i]? = some node) (share : 0 < node.shareBps ∧ node.shareBps ≤ 10000)
    (fresh : node.account ∉ (nodes.take i).map RoyaltyNode.account)
    (placed : 0 < i → ∃ above < i, node.parent = some above)
    (within : ∀ above, childShares nodes (i + 1) above ≤ 10000) : TreeUpTo nodes (i + 1) where
  shares j below := by
    rcases Nat.lt_succ_iff_lt_or_eq.mp below with earlier | rfl
    · exact tree.shares j earlier
    · rwa [shareOf_eq found]
  distinct := by
    rw [List.take_add_one, found, List.map_append, List.nodup_append]
    refine ⟨tree.distinct, List.nodup_singleton _, fun account earlier other now => ?_⟩
    rw [List.mem_singleton.mp now]
    rintro rfl
    exact fresh earlier
  below j below pos := by
    rcases Nat.lt_succ_iff_lt_or_eq.mp below with earlier | rfl
    · exact tree.below j earlier pos
    · rw [parentOf_eq found]
      exact placed pos
  within := within

variable [DecidableEq Address]

theorem auditParent_recorded (noted : Recorded nodes i audit) (found : nodes[i]? = some node)
    (share : 0 < node.shareBps ∧ node.shareBps ≤ 10000)
    (fresh : node.account ∉ (nodes.take i).map RoyaltyNode.account)
    (ran : auditParent audit i node = .ok next) : Recorded nodes (i + 1) next := by
  simp only [auditParent, call_ok, orTrap_eq_ok, arith_ok, not_le, not_lt] at ran
  obtain ⟨parent, up, earlier, _, -, -, _, counted, -, within, rfl⟩ := ran
  have inside := (List.getElem?_eq_some_iff.mp found).1
  have children := fun above => childShares_succ nodes i above
  rw [parentOf_eq found, up, shareOf_eq found] at children
  obtain rfl := Option.some.inj (counted.symm.trans (noted.totals parent (by omega)))
  refine ⟨noted.tree.succ found share fresh (fun _ => ⟨parent, earlier, up⟩) fun above => ?_,
    fun above known => ?_⟩
  · rw [children]
    split
    · next same =>
      cases same
      exact within
    · exact noted.tree.within above
  · rw [List.getElem?_set, children]
    split
    · next same =>
      subst same
      rw [if_pos (List.getElem?_eq_some_iff.mp counted).1, if_pos rfl]
    · next ne =>
      rw [if_neg fun same => ne (Option.some.inj same), add_zero]
      exact noted.totals above known

theorem auditNode_recorded (root : parentOf nodes 0 = none) (noted : Recorded nodes i audit)
    (ran : auditNode nodes audit i = .ok next) : Recorded nodes (i + 1) next := by
  simp only [auditNode, call_ok, orTrap_eq_ok, not_or, not_lt] at ran
  obtain ⟨node, found, ⟨pos, most⟩, fresh, ran⟩ := ran
  have share : 0 < node.shareBps ∧ node.shareBps ≤ 10000 := ⟨Nat.pos_of_ne_zero pos, most⟩
  split at ran
  · exact auditParent_recorded noted found share fresh ran
  · next first =>
    cases ran
    obtain rfl : i = 0 := Nat.eq_zero_of_not_pos first
    have same : ∀ above, childShares nodes 1 above = childShares nodes 0 above := by
      intro above
      rw [childShares_succ, root, if_neg (by simp)]
      rfl
    refine ⟨noted.tree.succ found share fresh (absurd · first) fun above => ?_,
      fun above known => ?_⟩
    · rw [same]
      exact noted.tree.within above
    · rw [same]
      exact noted.totals above known

theorem validateTree_tree (accepted : validateTree nodes = .ok ()) : RoyaltyTree nodes := by
  simp only [validateTree, call_ok, orTrap_eq_ok, not_or, not_lt, not_not,
    Option.not_isSome_iff_eq_none] at accepted
  obtain ⟨rooted, few, root, first, ⟨rootless, whole⟩, _, ran, -⟩ := accepted
  have top := (parentOf_eq first).trans rootless
  have initial : Recorded nodes 0 ⟨List.replicate nodes.length 0, List.replicate nodes.length 0⟩ :=
    ⟨⟨by simp, List.nodup_nil, by simp, fun _ => Nat.zero_le _⟩, fun node known =>
      List.getElem?_replicate_of_lt known⟩
  have noted := foldlM_range_invariant (Recorded nodes)
    (fun _ _ _ _ noted ran => auditNode_recorded top noted ran) initial ran
  exact { noted.tree with
    rooted, few
    root := top
    whole := (shareOf_eq first).trans whole }

end SorobanPlayground.Royalty
