import Mathlib.Data.String.Basic

/-! # The audit trail's Merkle tree

Pairs of nodes are hashed level by level, and the last node of an odd level with itself. SHA-256
and the hex encoding are parameters.
-/

namespace SorobanPlayground.Indexer.Merkle

open List

section Levels

variable {Node : Type} (combine : Node → Node → Node)

def nextLevel : List Node → List Node
  | left :: right :: rest => combine left right :: nextLevel rest
  | [left] => [combine left left]
  | [] => []

theorem length_nextLevel (level : List Node) :
    (nextLevel combine level).length = (level.length + 1) / 2 := by
  fun_induction nextLevel with
  | case1 left right rest ih =>
    simp only [length_cons, ih]
    omega
  | case2 | case3 => simp

/-- The levels from one on, up to the root. -/
def climb (level : List Node) : List Node :=
  if 1 < level.length then climb (nextLevel combine level) else level
termination_by level.length
decreasing_by
  rw [length_nextLevel]
  omega

/-- The level some steps above one, or the root. -/
def levelAbove : Nat → List Node → List Node
  | 0, level => level
  | height + 1, level =>
      if 1 < level.length then levelAbove height (nextLevel combine level) else level

def sibling (level : List Node) (index : Nat) : Option Node :=
  if index % 2 = 0 then level[index + 1]?.or level[index]? else level[index - 1]?

/-- The siblings on the way from a node to the root. -/
def siblings (level : List Node) (index : Nat) : List Node :=
  if 1 < level.length then
    (sibling level index).toList ++ siblings (nextLevel combine level) (index / 2)
  else []
termination_by level.length
decreasing_by
  rw [length_nextLevel]
  omega

/-- A node's parent with its index. -/
def ascend (current : Node × Nat) (sibling : Node) : Node × Nat :=
  (if current.2 % 2 = 0 then combine current.1 sibling else combine sibling current.1,
    current.2 / 2)

variable {level : List Node}

theorem nextLevel_ascend {index : Nat} {node : Node} (found : level[index]? = some node) :
    ∃ other, sibling level index = some other ∧
      (nextLevel combine level)[index / 2]? = some (ascend combine (node, index) other).1 := by
  fun_induction nextLevel combine level generalizing index with
  | case1 left right rest ih =>
    match index with
    | 0 =>
      cases found
      exact ⟨right, rfl, rfl⟩
    | 1 =>
      cases found
      exact ⟨left, rfl, rfl⟩
    | index + 2 =>
      obtain ⟨other, beside, parent⟩ := ih found
      refine ⟨other, ?_, ?_⟩
      · rw [← beside]
        unfold sibling
        rw [Nat.add_mod_right]
        split
        · rfl
        · obtain ⟨previous, rfl⟩ := Nat.exists_eq_succ_of_ne_zero (n := index) (by grind)
          rfl
      · rw [show (index + 2) / 2 = index / 2 + 1 by omega, getElem?_cons_succ, parent]
        simp [ascend]
  | case2 left =>
    match index with
    | 0 =>
      cases found
      exact ⟨node, rfl, rfl⟩
    | _ + 1 => cases found
  | case3 => cases found

variable {combine}

/-- Ascending past all siblings of any node leads to the root. -/
theorem climb_eq_ascend {index : Nat} {node : Node} (found : level[index]? = some node) :
    climb combine level =
      [((siblings combine level index).foldl (ascend combine) (node, index)).1] := by
  fun_induction climb combine level generalizing index node with
  | case1 level more ih =>
    obtain ⟨other, beside, parent⟩ := nextLevel_ascend combine found
    rw [siblings, if_pos more, beside]
    exact ih parent
  | case2 level few =>
    rw [siblings, if_neg few]
    match level, index with
    | [only], 0 =>
      cases found
      rfl
    | _ :: _ :: _, _ => simp at few

theorem climb_levelAbove (height : Nat) (level : List Node) :
    climb combine (levelAbove combine height level) = climb combine level := by
  induction height generalizing level with
  | zero => rfl
  | succ height ih =>
    unfold levelAbove
    split
    · next more =>
      rw [ih]
      conv_rhs => rw [climb, if_pos more]
    · rfl

theorem climb_map {Other : Type} {combineOther : Other → Other → Other} {view : Node → Other}
    (combined : ∀ left right, view (combine left right) = combineOther (view left) (view right)) :
    climb combineOther (level.map view) = (climb combine level).map view := by
  have next : ∀ level, nextLevel combineOther (level.map view) =
      (nextLevel combine level).map view := fun level => by
    fun_induction nextLevel combine level with
    | case1 left right rest ih => simp [nextLevel, combined, ih]
    | case2 | case3 => simp [nextLevel, combined]
  fun_induction climb combine level with
  | case1 level more ih => rw [climb, if_pos (by rwa [length_map]), next, ih]
  | case2 level few => rw [climb, if_neg (by rwa [length_map])]

end Levels

abbrev Bytes := List UInt8

/-- The functions of the crates `sha2` and `hex`. -/
structure Crates where
  sha256 : Bytes → Bytes
  encode : Bytes → String
  decode : String → Option Bytes

variable (crates : Crates)

def Crates.hash (left right : Bytes) : Bytes := crates.sha256 (left ++ right)

/-- `unwrap_or_default`. -/
def Crates.decoded (text : String) : Bytes := (crates.decode text).getD []

def calculateMerkleRoot : List String → String
  | [] => String.ofList (List.replicate 64 '0')
  | [hash] => hash
  | hashes => crates.encode ((climb crates.hash (hashes.map crates.decoded)).headD [])

def verifyProof (leaf : String) (proof : List String) (root : String) (index : Nat) : Bool :=
  let current := proof.foldl (fun current sibling =>
    ascend crates.hash current (crates.decoded sibling)) (crates.decoded leaf, index)
  crates.encode current.1 == root

/-- A computation of hashes from leaves. -/
inductive Tree where
  | leaf (hash : Bytes)
  | node (left right : Tree)

/-- The tree that a list of leaves is padded to; a list that is not empty has one. -/
def trees (leaves : List Bytes) : List Tree := climb .node (leaves.map .leaf)

def Tree.leaves : Tree → List Bytes
  | .leaf hash => [hash]
  | .node left right => left.leaves ++ right.leaves

def Tree.hash : Tree → Bytes
  | .leaf hash => hash
  | .node left right => crates.hash left.hash right.hash

/-- What is given to SHA-256 at the inner nodes. -/
def Tree.inputs : Tree → List Bytes
  | .leaf _ => []
  | .node left right => (left.hash crates ++ right.hash crates) :: (left.inputs ++ right.inputs)

/-- The inputs of SHA-256 in a list's tree. -/
def inputs (leaves : List Bytes) : List Bytes := (trees leaves).flatMap (Tree.inputs crates)

/-- Between two trees, given by their leaves and inputs, different inputs have different hashes, and
the hash of an inner node is not a leaf. -/
structure Separate (leaves inputs otherLeaves otherInputs : List Bytes) : Prop where
  sized : ∀ leaf ∈ leaves ++ otherLeaves, leaf.length = 32
  collisionFree : ∀ input ∈ inputs, ∀ other ∈ otherInputs,
    crates.sha256 input = crates.sha256 other → input = other
  apart : ∀ leaf ∈ leaves, ∀ input ∈ otherInputs, crates.sha256 input ≠ leaf
  otherApart : ∀ leaf ∈ otherLeaves, ∀ input ∈ inputs, crates.sha256 input ≠ leaf

/-- What is given to SHA-256 on the way from a node past given siblings. -/
def pathInputs : Bytes × Nat → List Bytes → List Bytes
  | _, [] => []
  | current, sibling :: path =>
      (if current.2 % 2 = 0 then current.1 ++ sibling else sibling ++ current.1) ::
        pathInputs (ascend crates.hash current sibling) path

/-- Different inputs on two paths have different hashes. -/
def PathsApart (current : Bytes × Nat) (path : List Bytes) (other : Bytes × Nat)
    (otherPath : List Bytes) : Prop :=
  ∀ input ∈ pathInputs crates current path, ∀ also ∈ pathInputs crates other otherPath,
    crates.sha256 input = crates.sha256 also → input = also

structure Crates.Lawful : Prop where
  decode_encode : ∀ bytes, crates.decode (crates.encode bytes) = some bytes
  length_sha256 : ∀ bytes, (crates.sha256 bytes).length = 32

variable {crates} {leaves : List Bytes}

theorem climb_eq_map_hash : climb crates.hash leaves = (trees leaves).map (Tree.hash crates) := by
  have climbed : climb crates.hash ((leaves.map Tree.leaf).map (Tree.hash crates)) =
      (trees leaves).map (Tree.hash crates) := climb_map fun _ _ => rfl
  rwa [map_map, show Tree.hash crates ∘ Tree.leaf = id from rfl, map_id] at climbed

theorem trees_eq (nonempty : leaves ≠ []) : ∃ tree, trees leaves = [tree] := by
  obtain ⟨first, rest, rfl⟩ := exists_cons_of_ne_nil nonempty
  exact ⟨_, climb_eq_ascend (show _[0]? = some (Tree.leaf first) from rfl)⟩

/-- The leaves of a list's tree are the list's own, and begin with the list. -/
theorem leaves_trees (leaves : List Bytes) : leaves <+: (trees leaves).flatMap Tree.leaves ∧
    (trees leaves).flatMap Tree.leaves ⊆ leaves := by
  have next : ∀ level : List Tree,
      level.flatMap Tree.leaves <+: (nextLevel .node level).flatMap Tree.leaves ∧
        (nextLevel .node level).flatMap Tree.leaves ⊆ level.flatMap Tree.leaves := fun level => by
    fun_induction nextLevel Tree.node level with
    | case1 left right rest ih =>
      simp only [flatMap_cons, Tree.leaves, append_assoc, prefix_append_right_inj]
      exact ⟨ih.1, by grind⟩
    | case2 | case3 => simp [Tree.leaves]
  have top : ∀ level : List Tree,
      level.flatMap Tree.leaves <+: (climb .node level).flatMap Tree.leaves ∧
        (climb .node level).flatMap Tree.leaves ⊆ level.flatMap Tree.leaves := fun level => by
    fun_induction climb Tree.node level with
    | case1 level more ih =>
      exact ⟨(next level).1.trans ih.1, fun _ mem => (next level).2 (ih.2 mem)⟩
    | case2 level few => exact ⟨prefix_rfl, List.Subset.refl _⟩
  simpa [trees, flatMap_map, Tree.leaves] using top (leaves.map .leaf)

theorem Separate.mono {inputs otherLeaves otherInputs own otherOwn : List Bytes}
    (separate : Separate crates leaves inputs otherLeaves otherInputs) (sub : own ⊆ leaves)
    (otherSub : otherOwn ⊆ otherLeaves) : Separate crates own inputs otherOwn otherInputs where
  sized leaf mem := separate.sized leaf (by grind)
  collisionFree := separate.collisionFree
  apart leaf mem := separate.apart leaf (sub mem)
  otherApart leaf mem := separate.otherApart leaf (otherSub mem)

theorem ascend_eq_sha256 (current : Bytes × Nat) (sibling : Bytes) :
    (ascend crates.hash current sibling).1 = crates.sha256
      (if current.2 % 2 = 0 then current.1 ++ sibling else sibling ++ current.1) := by
  unfold ascend Crates.hash
  split <;> rfl

section Lawful

variable (lawful : crates.Lawful)
include lawful

theorem decoded_encode (bytes : Bytes) : crates.decoded (crates.encode bytes) = bytes := by
  rw [Crates.decoded, lawful.decode_encode]
  rfl

theorem map_decoded : (leaves.map crates.encode).map crates.decoded = leaves := by
  rw [map_map]
  exact (map_congr_left fun bytes _ => decoded_encode lawful bytes).trans (map_id leaves)

theorem calculateMerkleRoot_eq {top : Bytes} (climbed : climb crates.hash leaves = [top]) :
    calculateMerkleRoot crates (leaves.map crates.encode) = crates.encode top := by
  match leaves with
  | [] => simp [climb] at climbed
  | [leaf] =>
    rw [climb, if_neg (by simp)] at climbed
    exact congrArg crates.encode (List.cons.inj climbed).1
  | first :: second :: rest =>
    change crates.encode ((climb crates.hash
      (((first :: second :: rest).map crates.encode).map crates.decoded)).headD []) = _
    rw [map_decoded lawful, climbed]
    rfl

theorem calculateMerkleRoot_tree {tree : Tree} (built : trees leaves = [tree]) :
    calculateMerkleRoot crates (leaves.map crates.encode) = crates.encode (tree.hash crates) := by
  refine calculateMerkleRoot_eq lawful ?_
  rw [climb_eq_map_hash, built, map_singleton]

/-- Separate trees with the same hash are the same. -/
theorem Tree.hash_injective {tree other : Tree} (separate : Separate crates tree.leaves
      (tree.inputs crates) other.leaves (other.inputs crates))
    (same : tree.hash crates = other.hash crates) : tree = other := by
  have length : ∀ tree : Tree, (∀ leaf ∈ tree.leaves, leaf.length = 32) →
      (tree.hash crates).length = 32 := fun tree sized => by
    cases tree with
    | leaf hash => exact sized hash mem_cons_self
    | node left right => exact lawful.length_sha256 _
  induction tree generalizing other with
  | leaf hash =>
    cases other with
    | leaf => exact congrArg Tree.leaf same
    | node =>
      exact absurd same.symm (separate.apart hash mem_cons_self _ mem_cons_self)
  | node left right ihLeft ihRight =>
    cases other with
    | leaf hash =>
      exact absurd same (separate.otherApart hash mem_cons_self _ mem_cons_self)
    | node otherLeft otherRight =>
      obtain ⟨sized, collisionFree, apart, otherApart⟩ := separate
      simp only [Tree.leaves, Tree.inputs, mem_append,
        mem_cons] at sized collisionFree apart otherApart
      obtain ⟨sameLeft, sameRight⟩ := append_inj
        (collisionFree _ (.inl rfl) _ (.inl rfl) same)
        ((length left (by grind)).trans (length otherLeft (by grind)).symm)
      rw [ihLeft ⟨by grind, by grind, by grind, by grind⟩ sameLeft,
        ihRight ⟨by grind, by grind, by grind, by grind⟩ sameRight]

/-- A leaf is accepted with its siblings. Lists have the same root when they are padded to the same
tree, which different lists of one length are not. -/
theorem roots_determine_trees :
    (∀ leaves index leaf, leaves[index]? = some leaf →
      verifyProof crates (crates.encode leaf)
        ((siblings crates.hash leaves index).map crates.encode)
        (calculateMerkleRoot crates (leaves.map crates.encode)) index = true) ∧
    ∀ first second, first ≠ [] → second ≠ [] →
      Separate crates first (inputs crates first) second (inputs crates second) →
      (calculateMerkleRoot crates (first.map crates.encode) =
          calculateMerkleRoot crates (second.map crates.encode) ↔ trees first = trees second) ∧
        (trees first = trees second → first.length = second.length → first = second) := by
  constructor
  · intro leaves index leaf found
    have folded : ∀ (path : List Bytes) (current : Bytes × Nat),
        (path.map crates.encode).foldl
            (fun current sibling => ascend crates.hash current (crates.decoded sibling)) current =
          path.foldl (ascend crates.hash) current := fun path current => by
      rw [foldl_map]
      simp only [decoded_encode lawful]
    rw [calculateMerkleRoot_eq lawful (climb_eq_ascend found), verifyProof, folded,
      decoded_encode lawful]
    exact beq_self_eq_true _
  · intro first second nonempty otherNonempty separate
    obtain ⟨tree, built⟩ := trees_eq nonempty
    obtain ⟨other, otherBuilt⟩ := trees_eq otherNonempty
    obtain ⟨start, own⟩ := leaves_trees first
    obtain ⟨otherStart, otherOwn⟩ := leaves_trees second
    rw [calculateMerkleRoot_tree lawful built, calculateMerkleRoot_tree lawful otherBuilt]
    simp only [inputs, built, otherBuilt,
      flatMap_singleton] at separate start own otherStart otherOwn ⊢
    refine ⟨⟨fun same => ?_, fun same => ?_⟩, fun same lengths => ?_⟩
    · have hashes := Option.some.inj ((lawful.decode_encode _).symm.trans
        ((congrArg crates.decode same).trans (lawful.decode_encode _)))
      rw [Tree.hash_injective lawful (separate.mono own otherOwn) hashes]
    · rw [(cons.inj same).1]
    · rw [← (cons.inj same).1] at otherStart
      exact (prefix_of_prefix_length_le start otherStart lengths.le).eq_of_length lengths

variable {index : Nat} {node other : Bytes} {path otherPath : List Bytes}

/-- Paths of one length from one index to one hash start at the same node and pass the same
siblings. -/
theorem ascend_injective (sized : node.length = 32) (otherSized : other.length = 32)
    (lengths : path.length = otherPath.length)
    (apart : PathsApart crates (node, index) path (other, index) otherPath)
    (same : (path.foldl (ascend crates.hash) (node, index)).1 =
      (otherPath.foldl (ascend crates.hash) (other, index)).1) :
    node = other ∧ path = otherPath := by
  induction path generalizing node other index otherPath with
  | nil =>
    obtain rfl := length_eq_zero_iff.mp lengths.symm
    exact ⟨same, rfl⟩
  | cons sibling path ih =>
    cases otherPath with
    | nil => simp at lengths
    | cons otherSibling otherPath =>
      have hashed : ∀ current sibling, (ascend crates.hash current sibling).1.length = 32 := by
        intro current sibling
        rw [ascend_eq_sha256]
        exact lawful.length_sha256 _
      have above : PathsApart crates (ascend crates.hash (node, index) sibling) path
          (ascend crates.hash (other, index) otherSibling) otherPath :=
        fun input mem also beside =>
          apart input (mem_cons_of_mem _ mem) also (mem_cons_of_mem _ beside)
      obtain ⟨parents, rfl⟩ := ih (hashed _ _) (hashed _ _) (Nat.succ.inj lengths) above same
      rw [ascend_eq_sha256, ascend_eq_sha256] at parents
      have inputs := apart _ mem_cons_self _ mem_cons_self parents
      split at inputs
      · obtain ⟨rfl, rfl⟩ := append_inj inputs (sized.trans otherSized.symm)
        exact ⟨rfl, rfl⟩
      · obtain ⟨rfl, rfl⟩ := append_inj' inputs (sized.trans otherSized.symm)
        exact ⟨rfl, rfl⟩

end Lawful

section Example

def bytes32 (value : Nat) : Bytes :=
  (List.range 32).map fun place => UInt8.ofNat (value / 256 ^ (31 - place))

def digit (char : Char) : Option Nat := (List.range 16).find? fun value => value.digitChar = char

def decodeHex : List Char → Option Bytes
  | high :: low :: rest => do
      return UInt8.ofNat (16 * (← digit high) + (← digit low)) :: (← decodeHex rest)
  | [_] => none
  | [] => some []

def leaf (byte : UInt8) : Bytes := List.replicate 32 byte

/-- Hex in lower case, and SHA-256 in the tree of three leaves. -/
def threeLeaves : Crates where
  sha256 input :=
    if input = leaf 1 ++ leaf 2 then
      bytes32 0xf818afd37a6dc3bc92fb44731011277006db4efa6e9023cd7468c02335d22a4d
    else if input = leaf 3 ++ leaf 3 then
      bytes32 0x6aa56c4bcd208911792ad24c7681fefb93bed51903afc54860c9bd37e41e5a31
    else bytes32 0x831e18b32b5392c031f24c715086821d7532fcb6cac0bb815a1a647990cff261
  encode bytes := String.ofList (bytes.flatMap fun byte =>
    [(byte.toNat / 16).digitChar, (byte.toNat % 16).digitChar])
  decode text := decodeHex text.toList

theorem threeLeaves_lawful : threeLeaves.Lawful where
  decode_encode bytes := by
    have read : ∀ value < 16, digit value.digitChar = some value := by decide
    simp only [threeLeaves, String.toList_ofList]
    induction bytes with
    | nil => rfl
    | cons byte bytes ih =>
      have split : 16 * (byte / 16) + byte % 16 = byte := by grind
      simp [decodeHex, read, Nat.mod_lt, Nat.div_lt_iff_lt_mul, byte.toNat_lt, ih, split]
  length_sha256 bytes := by
    simp only [threeLeaves]
    split_ifs <;> simp [bytes32]

def three : List Bytes := [leaf 1, leaf 2, leaf 3]

theorem trees_three : trees three = [.node (.node (.leaf (leaf 1)) (.leaf (leaf 2)))
    (.node (.leaf (leaf 3)) (.leaf (leaf 3)))] := by
  simp [three, trees, climb, nextLevel]

theorem trees_padded : trees (three ++ [leaf 3]) = trees three := by
  simp [three, trees, climb, nextLevel]

theorem three_separate : Separate threeLeaves three (inputs threeLeaves three)
    (three ++ [leaf 3]) (inputs threeLeaves (three ++ [leaf 3])) := by
  unfold inputs
  rw [trees_padded, trees_three]
  exact ⟨by decide +kernel, by decide +kernel, by decide +kernel, by decide +kernel⟩

theorem roots_determine_trees_three :
    verifyProof threeLeaves (threeLeaves.encode (leaf 3))
        ((siblings threeLeaves.hash three 2).map threeLeaves.encode)
        (calculateMerkleRoot threeLeaves (three.map threeLeaves.encode)) 2 = true ∧
      (calculateMerkleRoot threeLeaves (three.map threeLeaves.encode) =
        calculateMerkleRoot threeLeaves ((three ++ [leaf 3]).map threeLeaves.encode) ↔
          trees three = trees (three ++ [leaf 3])) :=
  ⟨(roots_determine_trees threeLeaves_lawful).1 three 2 (leaf 3) rfl,
    ((roots_determine_trees threeLeaves_lawful).2 three (three ++ [leaf 3]) (by decide)
      (by decide) three_separate).1⟩

/-- A list and the list that repeats its last leaf have the same root. -/
theorem padded_lists_share_root :
    threeLeaves.Lawful ∧ three ≠ three ++ [leaf 3] ∧
      Separate threeLeaves three (inputs threeLeaves three) (three ++ [leaf 3])
        (inputs threeLeaves (three ++ [leaf 3])) ∧
      calculateMerkleRoot threeLeaves (three.map threeLeaves.encode) =
        calculateMerkleRoot threeLeaves ((three ++ [leaf 3]).map threeLeaves.encode) := by
  refine ⟨threeLeaves_lawful, by decide, three_separate, ?_⟩
  rw [calculateMerkleRoot_tree threeLeaves_lawful trees_three,
    calculateMerkleRoot_tree threeLeaves_lawful (trees_padded.trans trees_three)]

end Example

end SorobanPlayground.Indexer.Merkle
