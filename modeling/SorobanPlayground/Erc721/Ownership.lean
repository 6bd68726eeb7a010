import SorobanPlayground.Erc721.Contract

/-! # Owners and balances

A transfer does not check that its source is the owner, it also counts a transfer to oneself as
a gain, and a burn leaves the approval of its token. A register beside the state keeps the
approvals that the current owners gave. Balances and supply count the owners, and owners change
by their own authority, in exactly the runs that transfer from the owner to somebody else and
do not use an approval left over by a burn.
-/

namespace SorobanPlayground.Erc721

open Function

variable {Address : Type} [DecidableEq Address] {contract : Address}

/-- The number of tokens that an address owns. -/
def tokensOf (owners : FiniteMap Nat Address) (address : Address) : Int :=
  owners.total fun _ owner => if owner = address then 1 else 0

def ownedTokens (owners : FiniteMap Nat Address) : Int := owners.total fun _ _ => 1

/-- Balances and supply count the owned tokens. -/
structure Counted (state : State Address) : Prop where
  balances : ∀ address, (state.balance address : Int) = tokensOf state.owners address
  supply : (state.totalSupply : Int) = ownedTokens state.owners

/-- The counters of a call do not saturate. -/
def Unsaturated (state : State Address) (call : Env Address contract × Operation Address) : Prop :=
  match call.2 with
  | .mint destination _ => state.balance destination < u64Max ∧ state.totalSupply < u64Max
  | .transferFrom _ _ destination _ | .safeTransferFrom _ _ destination _ =>
      state.balance destination < u64Max
  | _ => True

/-- The approvals that the current owners gave, and the tokens that were burnt since their stored
approval was written. -/
structure Register (Address : Type) where
  grants : Nat → Option Address := fun _ => none
  leftover : Nat → Bool := fun _ => false

/-- The approvals after a call that leaves the owners. -/
def granted (operation : Operation Address) (grants : Nat → Option Address) :
    Nat → Option Address :=
  match operation with
  | .approve _ destination tokenId => Function.update grants tokenId (some destination)
  | _ => grants

/-- The tokens with a leftover approval after a call. -/
def remaining (operation : Operation Address) (leftover : Nat → Bool) : Nat → Bool :=
  match operation with
  | .burn _ tokenId => Function.update leftover tokenId true
  | .approve _ _ tokenId | .transferFrom _ _ _ tokenId | .safeTransferFrom _ _ _ tokenId =>
      Function.update leftover tokenId false
  | _ => leftover

/-- An approval lasts while the owner stays. -/
def Register.follow (state : State Address) (call : Env Address contract × Operation Address)
    (next : State Address) (register : Register Address) : Register Address where
  grants tokenId :=
    if next.owners.get tokenId = state.owners.get tokenId then
      granted call.2 register.grants tokenId
    else none
  leftover := remaining call.2 register.leftover

/-- The contract beside which the register is kept. -/
def registered (contract : Address) :
    CallMachine (State Address × Register Address) (Env Address contract × Operation Address)
      (Failure Error) :=
  (machine contract).withGhost Register.follow

/-- Who makes a call about a token. -/
def Operation.caller : Operation Address → Option Address
  | .transferFrom caller _ _ _ | .safeTransferFrom caller _ _ _ | .burn caller _
  | .approve caller _ _ | .setApprovalForAll caller _ _ | .setTokenUri caller _ _ => some caller
  | _ => none

/-- An address has the authority of the owner of a token. -/
def Entitled (account : State Address × Register Address) (tokenId : Nat)
    (owner address : Address) : Prop :=
  address = owner ∨ account.2.grants tokenId = some address ∨
    account.1.isOperator owner address = true

/-- A token leaves its owner by a call of somebody with the owner's authority only. -/
def Rightful (account : State Address × Register Address)
    (call : Env Address contract × Operation Address) : Prop :=
  ∀ tokenId owner, account.1.owners.get tokenId = some owner →
    ((registered contract).apply account call).1.owners.get tokenId ≠ some owner →
    ∃ caller, call.2.caller = some caller ∧ caller ∈ call.1.auths ∧
      Entitled account tokenId owner caller

/-- A transfer is from the owner to somebody else. -/
def Outgoing (state : State Address) (call : Env Address contract × Operation Address) : Prop :=
  match call.2 with
  | .transferFrom _ source destination tokenId | .safeTransferFrom _ source destination tokenId =>
      ∀ owner, state.owners.get tokenId = some owner → source = owner ∧ destination ≠ owner
  | _ => True

/-- An approval left over by a burn is not used. -/
def Renewed (account : State Address × Register Address)
    (call : Env Address contract × Operation Address) : Prop :=
  match call.2 with
  | .transferFrom caller _ _ tokenId | .safeTransferFrom caller _ _ tokenId
  | .burn caller tokenId =>
      account.2.leftover tokenId = true → ∀ owner, account.1.owners.get tokenId = some owner →
        caller = owner ∨ account.1.isOperator owner caller = true
  | _ => True

/-- What a call does to the tokens. -/
inductive Effect (state : State Address) :
    Env Address contract × Operation Address → State Address → Prop
  | other (call : Env Address contract × Operation Address) (next : State Address)
      (uncounted : ∀ grants leftover, granted call.2 grants = grants ∧
        remaining call.2 leftover = leftover)
      (owners : next.owners = state.owners) (balances : next.balances = state.balances)
      (approved : next.approved = state.approved)
      (supply : next.totalSupply = state.totalSupply ∨ state.admin = none ∧ next.totalSupply = 0)
      (admin : next.admin = state.admin ∨ next.admin.isSome = true)
      (safe : Unsaturated state call ∧ Outgoing state call ∧ ∀ register,
        Renewed (state, register) call) : Effect state call next
  | transferred (env : Env Address contract) (operation : Operation Address)
      (caller source destination : Address) (tokenId : Nat) (owner : Address)
      (kind : operation = .transferFrom caller source destination tokenId ∨
        operation = .safeTransferFrom caller source destination tokenId)
      (opened : state.admin.isSome = true) (signed : caller ∈ env.auths)
      (stored : state.owners.get tokenId = some owner)
      (allowed : caller = owner ∨ state.approved.get tokenId = some caller ∨
        state.isOperator source caller = true) :
      Effect state (env, operation) { state with
        approved := state.approved.remove tokenId
        owners := state.owners.set tokenId destination
        balances := moveBalance state source destination }
  | minted (env : Env Address contract) (destination : Address) (tokenId : Nat)
      (opened : state.admin.isSome = true) (absent : state.owners.get tokenId = none) :
      Effect state (env, .mint destination tokenId) { state with
        owners := state.owners.set tokenId destination
        balances := state.balances.set destination (saturatingSucc (state.balance destination))
        totalSupply := saturatingSucc state.totalSupply }
  | burnt (env : Env Address contract) (caller : Address) (tokenId : Nat) (owner : Address)
      (opened : state.admin.isSome = true) (signed : caller ∈ env.auths)
      (stored : state.owners.get tokenId = some owner)
      (allowed : caller = owner ∨ state.approved.get tokenId = some caller) :
      Effect state (env, .burn caller tokenId) { state with
        owners := state.owners.remove tokenId
        balances := state.balances.set owner (state.balance owner - 1)
        totalSupply := state.totalSupply - 1 }
  | approved (env : Env Address contract) (caller destination : Address) (tokenId : Nat)
      (opened : state.admin.isSome = true)
      (stored : state.owners.get tokenId = some caller) :
      Effect state (env, .approve caller destination tokenId)
        { state with approved := state.approved.set tokenId destination }

variable {env : Env Address contract} {state next : State Address} {op : Operation Address}

theorem transferFrom_effect {caller source destination : Address} {tokenId : Nat}
    (kind : op = .transferFrom caller source destination tokenId ∨
      op = .safeTransferFrom caller source destination tokenId)
    (ran : transferFrom env caller source destination tokenId state = .ok next) :
    Effect state (env, op) next := by
  simp only [transferFrom, ownerOf, ensureInitialized, call_ok] at ran
  obtain ⟨opened, signed, owner, ⟨-, got⟩, allowed, rfl⟩ := ran
  exact Effect.transferred env op caller source destination tokenId owner kind opened signed
    got allowed

theorem dispatch_effect {call : Env Address contract × Operation Address}
    (ran : dispatch state call = .ok next) : Effect state call next := by
  obtain ⟨env, op⟩ := call
  cases op with
  | initializeToken =>
    simp only [dispatch, initializeToken, call_ok, Option.not_isSome_iff_eq_none] at ran
    obtain ⟨closed, -, rfl⟩ := ran
    exact Effect.other _ _ (fun _ _ => ⟨rfl, rfl⟩) rfl rfl rfl (.inr ⟨closed, rfl⟩) (.inr rfl)
      ⟨trivial, trivial, fun _ => trivial⟩
  | transferFrom =>
    exact transferFrom_effect (.inl rfl) ran
  | safeTransferFrom =>
    simp only [dispatch, safeTransferFrom, ensureInitialized, call_ok] at ran
    exact transferFrom_effect (.inr rfl) ran.2.2
  | mint destination tokenId =>
    simp only [dispatch, mint, getAdmin, ensureInitialized, call_ok] at ran
    obtain ⟨opened, admin, -, -, gone, rfl⟩ := ran
    exact Effect.minted env destination tokenId opened
      (has_eq_false.mp (Bool.eq_false_iff.mpr gone))
  | burn caller tokenId =>
    simp only [dispatch, burn, ownerOf, ensureInitialized, call_ok] at ran
    obtain ⟨opened, signed, owner, ⟨-, got⟩, allowed, rfl⟩ := ran
    exact Effect.burnt env caller tokenId owner opened signed got allowed
  | approve caller destination tokenId =>
    simp only [dispatch, approve, ownerOf, ensureInitialized, call_ok] at ran
    obtain ⟨opened, -, _, ⟨-, got⟩, rfl, rfl⟩ := ran
    exact Effect.approved env caller destination tokenId opened got
  | setApprovalForAll =>
    simp only [dispatch, setApprovalForAll, ensureInitialized, call_ok] at ran
    obtain ⟨-, -, rfl⟩ := ran
    exact Effect.other _ _ (fun _ _ => ⟨rfl, rfl⟩) rfl rfl rfl (.inl rfl) (.inl rfl)
      ⟨trivial, trivial, fun _ => trivial⟩
  | setTokenUri =>
    simp only [dispatch, setTokenUri, ownerOf, getAdmin, ensureInitialized, call_ok] at ran
    obtain ⟨-, -, _, -, admin, -, -, -, rfl⟩ := ran
    exact Effect.other _ _ (fun _ _ => ⟨rfl, rfl⟩) rfl rfl rfl (.inl rfl) (.inl rfl)
      ⟨trivial, trivial, fun _ => trivial⟩
  | setRoyalty =>
    simp only [dispatch, setRoyalty, getAdmin, ensureInitialized, call_ok] at ran
    obtain ⟨-, _, -, -, -, rfl⟩ := ran
    exact Effect.other _ _ (fun _ _ => ⟨rfl, rfl⟩) rfl rfl rfl (.inl rfl) (.inl rfl)
      ⟨trivial, trivial, fun _ => trivial⟩

variable {owners : FiniteMap Nat Address} {tokenId : Nat} {owner : Address}

section

variable (got : owners.get tokenId = some owner)
include got

theorem tokensOf_set_of_stored (destination address : Address) :
    tokensOf (owners.set tokenId destination) address =
      tokensOf owners address - (if owner = address then 1 else 0) +
        if destination = address then 1 else 0 := by
  unfold tokensOf
  rw [total_set_of_stored _ got]

theorem tokensOf_pos : 0 < tokensOf owners owner := by
  have counted : (if owner = owner then (1 : Int) else 0) ≤ tokensOf owners owner :=
    weight_le_total (fun _ held _ => by split <;> decide) got
  rwa [if_pos rfl] at counted

omit [DecidableEq Address] in
theorem ownedTokens_pos : 0 < ownedTokens owners := by
  have counted : (1 : Int) ≤ ownedTokens owners :=
    weight_le_total (fun _ _ _ => zero_le_one) got
  exact counted

end

theorem saturatingSucc_of_lt {value : Nat} (small : value < u64Max) :
    saturatingSucc value = value + 1 := min_eq_left small

theorem balance_set (balances : FiniteMap Address Nat) (address read : Address) (value : Nat) :
    ((balances.set address value).get read).getD 0 =
      if read = address then value else (balances.get read).getD 0 := by
  rw [get_set]
  split <;> rfl

variable {source destination : Address}

theorem balance_move (small : state.balance destination < u64Max) (read : Address) :
    ((moveBalance state source destination).get read).getD 0 =
      if read = destination then state.balance destination + 1
      else if read = source then state.balance source - 1 else state.balance read := by
  unfold moveBalance
  rw [balance_set, balance_set, saturatingSucc_of_lt small]
  rfl

theorem Counted.transfer_iff (counted : Counted state) (got : state.owners.get tokenId = some owner)
    (small : state.balance destination < u64Max) (approved : FiniteMap Nat Address) :
    Counted { state with
        approved
        owners := state.owners.set tokenId destination
        balances := moveBalance state source destination } ↔
      source = owner ∧ destination ≠ owner := by
  have before := counted.balances
  have held := tokensOf_pos got
  constructor
  · intro after
    have received := after.balances destination
    have sent := after.balances owner
    unfold State.balance at received sent
    rw [balance_move small, tokensOf_set_of_stored got, if_pos rfl] at received
    rw [balance_move small, tokensOf_set_of_stored got, if_pos rfl] at sent
    rw [← before, if_pos rfl] at received
    have ne : destination ≠ owner := by
      rintro rfl
      rw [if_pos rfl] at received
      omega
    refine ⟨?_, ne⟩
    by_contra apart
    rw [if_neg ne.symm, if_neg (Ne.symm apart), if_neg ne, ← before] at sent
    omega
  · rintro ⟨rfl, ne⟩
    refine ⟨fun address => ?_, ?_⟩
    · unfold State.balance
      rw [balance_move small, tokensOf_set_of_stored got, ← before]
      have own := before source
      rcases eq_or_ne address destination with rfl | other
      · rw [if_pos rfl, if_neg ne.symm, if_pos rfl]
        omega
      · rw [if_neg other, if_neg other.symm]
        rcases eq_or_ne address source with rfl | apart
        · rw [if_pos rfl, if_pos rfl]
          omega
        · rw [if_neg apart, if_neg apart.symm]
          omega
    · unfold ownedTokens
      rw [counted.supply, total_set_of_stored _ got, sub_add_cancel]
      rfl

theorem Counted.mint (counted : Counted state) {destination : Address}
    (gone : state.owners.get tokenId = none) (small : state.balance destination < u64Max)
    (few : state.totalSupply < u64Max) :
    Counted { state with
      owners := state.owners.set tokenId destination
      balances := state.balances.set destination (saturatingSucc (state.balance destination))
      totalSupply := saturatingSucc state.totalSupply } where
  balances address := by
    have before := counted.balances address
    have wrote := balance_set state.balances destination address
      (saturatingSucc (state.balance destination))
    change ((Option.getD _ 0 : Nat) : Int) = tokensOf (state.owners.set tokenId destination) address
    rw [wrote, saturatingSucc_of_lt small]
    unfold tokensOf at before ⊢
    rw [total_set_of_absent _ _ _ gone, ← before]
    rcases eq_or_ne address destination with rfl | other
    · rw [if_pos rfl, if_pos rfl]
      omega
    · rw [if_neg other, if_neg other.symm, zero_add]
      rfl
  supply := by
    change ((saturatingSucc state.totalSupply : Nat) : Int) =
      ownedTokens (state.owners.set tokenId destination)
    unfold ownedTokens
    rw [saturatingSucc_of_lt few, total_set_of_absent _ _ _ gone]
    have before := counted.supply
    unfold ownedTokens at before
    omega

theorem Counted.burn (counted : Counted state) (got : state.owners.get tokenId = some owner) :
    Counted { state with
      owners := state.owners.remove tokenId
      balances := state.balances.set owner (state.balance owner - 1)
      totalSupply := state.totalSupply - 1 } where
  balances address := by
    have before := counted.balances address
    have held := tokensOf_pos got
    have wrote := balance_set state.balances owner address (state.balance owner - 1)
    change ((Option.getD _ 0 : Nat) : Int) = tokensOf (state.owners.remove tokenId) address
    rw [wrote]
    unfold tokensOf at before held ⊢
    rw [total_remove, got, weightAt_some, ← before]
    rcases eq_or_ne address owner with rfl | other
    · rw [if_pos rfl, if_pos rfl]
      omega
    · rw [if_neg other, if_neg other.symm, sub_zero]
      rfl
  supply := by
    have before := counted.supply
    have owned := ownedTokens_pos got
    change ((state.totalSupply - 1 : Nat) : Int) = ownedTokens (state.owners.remove tokenId)
    unfold ownedTokens at before owned ⊢
    rw [total_remove, got, weightAt_some]
    omega

/-- The register agrees with the stored approvals. -/
structure Kept (account : State Address × Register Address) : Prop where
  opened : account.1.admin = none → account.1.owners = ∅
  unowned : ∀ tokenId address, account.1.owners.get tokenId = none →
    account.1.approved.get tokenId = some address → account.2.leftover tokenId = true
  current : ∀ tokenId address, account.1.approved.get tokenId = some address →
    account.2.leftover tokenId = false → account.2.grants tokenId = some address
  expired : ∀ tokenId, account.2.leftover tokenId = true → account.2.grants tokenId = none

variable {register : Register Address} {call : Env Address contract × Operation Address}

omit [DecidableEq Address] in
theorem opened_of_isSome {admin : Option Address} {owners : FiniteMap Nat Address}
    (opened : admin.isSome = true) : admin = none → owners = ∅ := by
  rintro rfl
  cases opened

/-- What the register says of one token. -/
structure Noted (owner approved grant : Option Address) (leftover : Bool) : Prop where
  unowned : ∀ address, owner = none → approved = some address → leftover = true
  current : ∀ address, approved = some address → leftover = false → grant = some address
  expired : leftover = true → grant = none

omit [DecidableEq Address] in
theorem Kept.rewrite {register' : Register Address} (kept : Kept (state, register)) (tokenId : Nat)
    (opened : next.admin.isSome = true)
    (apart : ∀ other, other ≠ tokenId → next.owners.get other = state.owners.get other ∧
      next.approved.get other = state.approved.get other ∧
      register'.grants other = register.grants other ∧
      register'.leftover other = register.leftover other)
    (noted : Noted (next.owners.get tokenId) (next.approved.get tokenId)
      (register'.grants tokenId) (register'.leftover tokenId)) : Kept (next, register') := by
  have every (other : Nat) : Noted (next.owners.get other) (next.approved.get other)
      (register'.grants other) (register'.leftover other) := by
    rcases eq_or_ne other tokenId with rfl | ne
    · exact noted
    · obtain ⟨owner, approved, grant, leftover⟩ := apart other ne
      rw [owner, approved, grant, leftover]
      exact ⟨kept.unowned other, kept.current other, kept.expired other⟩
  exact ⟨opened_of_isSome opened, fun other => (every other).unowned,
    fun other => (every other).current, fun other => (every other).expired⟩

theorem Kept.step (kept : Kept (state, register)) (effect : Effect state call next) :
    Kept (next, register.follow state call next) := by
  cases effect with
  | other _ _ uncounted owners _ approved _ admin =>
    obtain ⟨grants, leftover⟩ := uncounted register.grants register.leftover
    obtain ⟨opened, unowned, _, expired⟩ := kept
    unfold Register.follow
    rw [grants, leftover, owners]
    simp only [if_true]
    refine ⟨fun closed => ?_, ?_, ?_, expired⟩
    · rcases admin with same | opened'
      · exact owners.trans (opened (same.symm.trans closed))
      · exact opened_of_isSome opened' closed
    · dsimp only
      rwa [owners, approved]
    · dsimp only
      rwa [approved]
  | transferred _ op _ _ destination tokenId _ kind opened =>
    have grants : granted op register.grants = register.grants := by
      rcases kind with rfl | rfl <;> rfl
    have leftover : remaining op register.leftover =
        update register.leftover tokenId false := by
      rcases kind with rfl | rfl <;> rfl
    unfold Register.follow
    rw [grants, leftover]
    refine kept.rewrite tokenId opened (fun other ne => ?_) ?_
    · have same := get_set_of_ne state.owners destination ne
      exact ⟨same, get_remove_of_ne _ ne, if_pos same, update_of_ne ne _ _⟩
    · dsimp only
      rw [get_set_self, get_remove_self, update_self]
      exact ⟨by simp, by simp, by simp⟩
  | minted _ destination tokenId opened gone =>
    refine kept.rewrite tokenId opened (fun other ne => ?_)
      ⟨?_, fun address held fresh => ?_, ?_⟩
    · have same := get_set_of_ne state.owners destination ne
      exact ⟨same, rfl, if_pos same, rfl⟩
    · dsimp only
      rw [get_set_self]
      simp
    · exact absurd (kept.unowned tokenId address gone held) (Bool.eq_false_iff.mp fresh)
    · unfold Register.follow
      dsimp only
      rw [get_set_self, gone]
      exact fun _ => rfl
  | burnt _ _ tokenId owner opened _ got =>
    have left : update register.leftover tokenId true tokenId = true :=
      update_self _ _ _
    refine kept.rewrite tokenId opened (fun other ne => ?_)
      ⟨fun _ _ _ => left, fun _ _ fresh => ?_, fun _ => ?_⟩
    · have same := get_remove_of_ne state.owners ne
      exact ⟨same, rfl, if_pos same, update_of_ne ne _ _⟩
    · cases left.symm.trans fresh
    · unfold Register.follow
      dsimp only
      rw [get_remove_self, got, if_neg (Option.some_ne_none owner).symm]
  | approved _ _ _ tokenId opened got =>
    have renewed : update register.leftover tokenId false tokenId = false :=
      update_self _ _ _
    refine kept.rewrite tokenId opened (fun other ne => ?_)
      ⟨fun _ missing => ?_, fun address held _ => ?_, fun late => ?_⟩
    · exact ⟨rfl, get_set_of_ne _ _ ne,
        (if_pos rfl).trans (update_of_ne ne _ _),
        update_of_ne ne _ _⟩
    · cases missing.symm.trans got
    · dsimp only at held
      rw [get_set_self] at held
      exact (if_pos rfl).trans ((update_self _ _ _).trans held)
    · cases renewed.symm.trans late

theorem Counted.step_iff (counted : Counted state) (opened : state.admin = none → state.owners = ∅)
    (effect : Effect state call next) (unsaturated : Unsaturated state call) :
    Counted next ↔ Outgoing state call := by
  cases effect with
  | other _ _ _ owners balances _ supply _ safe =>
    refine iff_of_true ⟨fun address => ?_, ?_⟩ safe.2.1
    · unfold State.balance
      rw [owners, balances]
      exact counted.balances address
    · rw [owners]
      rcases supply with same | ⟨closed, zero⟩
      · rw [same]
        exact counted.supply
      · rw [zero, opened closed]
        rfl
  | transferred env op _ source destination tokenId owner kind _ _ got =>
    have small : state.balance destination < u64Max := by
      rcases kind with rfl | rfl <;> exact unsaturated
    have outgoing : Outgoing state (env, op) ↔
        ∀ held, state.owners.get tokenId = some held → source = held ∧ destination ≠ held := by
      rcases kind with rfl | rfl <;> exact Iff.rfl
    rw [counted.transfer_iff got small, outgoing, got]
    exact ⟨fun out held same => Option.some.inj same ▸ out, fun out => out owner rfl⟩
  | minted _ _ _ _ gone =>
    exact iff_of_true (counted.mint gone unsaturated.1 unsaturated.2) trivial
  | burnt _ _ _ _ _ _ got =>
    exact iff_of_true (counted.burn got) trivial
  | approved =>
    exact iff_of_true ⟨counted.balances, counted.supply⟩ trivial

/-- Who passes the check of the caller has the owner's authority exactly if it does not need a
leftover approval. -/
theorem Kept.entitled_iff (kept : Kept (state, register)) {tokenId : Nat} {owner caller : Address}
    (allowed : caller = owner ∨ state.approved.get tokenId = some caller ∨
      state.isOperator owner caller = true) :
    Entitled (state, register) tokenId owner caller ↔
      (register.leftover tokenId = true →
        caller = owner ∨ state.isOperator owner caller = true) := by
  constructor
  · rintro (own | grant | operator) late
    · exact .inl own
    · exact absurd ((kept.expired tokenId late).symm.trans grant) (Option.some_ne_none caller).symm
    · exact .inr operator
  · intro renewed
    rcases allowed with own | approved | operator
    · exact .inl own
    · cases late : register.leftover tokenId with
      | false => exact .inr (.inl (kept.current tokenId caller approved late))
      | true => exact (renewed late).imp_right .inr
    · exact .inr (.inr operator)

theorem rightful_token {env : Env Address contract} {owners : FiniteMap Nat Address} {tokenId : Nat}
    {owner caller : Address} (named : op.caller = some caller) (signed : caller ∈ env.auths)
    (got : state.owners.get tokenId = some owner) (leaves : owners.get tokenId ≠ some owner)
    (stay : ∀ other ≠ tokenId, owners.get other = state.owners.get other) :
    (∀ other held, state.owners.get other = some held → owners.get other ≠ some held →
        ∃ maker, op.caller = some maker ∧ maker ∈ env.auths ∧
          Entitled (state, register) other held maker) ↔
      Entitled (state, register) tokenId owner caller := by
  constructor
  · intro rightful
    obtain ⟨_, made, -, entitled⟩ := rightful tokenId owner got leaves
    cases named.symm.trans made
    exact entitled
  · intro entitled other held owned left
    rcases eq_or_ne other tokenId with rfl | ne
    · cases got.symm.trans owned
      exact ⟨caller, named, signed, entitled⟩
    · exact absurd ((stay other ne).trans owned) left

theorem rightful_iff (kept : Kept (state, register)) (outgoing : Outgoing state call)
    {after : State Address × Register Address}
    (ran : (registered contract).exec (state, register) call = .ok after)
    (effect : Effect state call after.1) :
    Rightful (state, register) call ↔ Renewed (state, register) call := by
  unfold Rightful
  rw [apply_of_ok _ ran]
  generalize after.1 = next at effect
  cases effect with
  | other _ _ _ owners _ _ _ _ safe =>
    refine iff_of_true (fun tokenId owner held left => ?_) (safe.2.2 register)
    rw [owners] at left
    exact absurd held left
  | transferred env op caller source destination tokenId owner kind _ signed got allowed
      =>
    have named : op.caller = some caller := by
      rcases kind with rfl | rfl <;> rfl
    have out : source = owner ∧ destination ≠ owner := by
      rcases kind with rfl | rfl <;> exact outgoing owner got
    have renewed : Renewed (state, register) (env, op) ↔
        (register.leftover tokenId = true → ∀ held, state.owners.get tokenId = some held →
          caller = held ∨ state.isOperator held caller = true) := by
      rcases kind with rfl | rfl <;> exact Iff.rfl
    obtain ⟨rfl, ne⟩ := out
    have leaves : (state.owners.set tokenId destination).get tokenId ≠ some source := by
      rw [get_set_self]
      exact fun same => ne (Option.some.inj same)
    rw [rightful_token named signed got leaves fun other apart => get_set_of_ne _ _
      apart, kept.entitled_iff allowed, renewed, got]
    exact imp_congr_right fun _ =>
      ⟨fun own held same => Option.some.inj same ▸ own, fun own => own source rfl⟩
  | minted _ _ tokenId _ gone =>
    refine iff_of_true (fun other owner held left => ?_) trivial
    rcases eq_or_ne other tokenId with rfl | ne
    · rw [gone] at held
      cases held
    · exact absurd ((get_set_of_ne _ _ ne).trans held) left
  | burnt env caller tokenId owner _ signed got allowed =>
    have leaves : (state.owners.remove tokenId).get tokenId ≠ some owner := by
      rw [get_remove_self]
      exact (Option.some_ne_none owner).symm
    have own : Renewed (state, register) (env, .burn caller tokenId) ↔
        (register.leftover tokenId = true →
          caller = owner ∨ state.isOperator owner caller = true) := by
      unfold Renewed
      dsimp only
      rw [got]
      exact imp_congr_right fun _ =>
        ⟨fun held => held owner rfl, fun held other same => Option.some.inj same ▸ held⟩
    rw [rightful_token rfl signed got leaves fun other apart => get_remove_of_ne _
      apart, kept.entitled_iff (allowed.imp_right .inl), own]
  | approved =>
    exact iff_of_true (fun other owner held left => absurd held left) trivial

theorem Kept.exec {account after : State Address × Register Address}
    {call : Env Address contract × Operation Address} (kept : Kept account)
    (ran : (registered contract).exec account call = .ok after) : Kept after :=
  withGhost_step ran fun _ done => kept.step (dispatch_effect done)

/-- Calls signed by the admin and three holders. -/
def sampleEnv : Env Nat 0 where
  timestamp := 0
  auths := [1, 2, 3, 4]
  contract_silent := zero_notMem_four_signers

def mintedToken : List (Env Nat 0 × Operation Nat) :=
  [(sampleEnv, .initializeToken 1), (sampleEnv, .mint 2 7)]

/-- The owner approves somebody, who sends the token on, and its new owner burns it. -/
def approvedTransfer : List (Env Nat 0 × Operation Nat) :=
  mintedToken ++ [(sampleEnv, .approve 2 3 7), (sampleEnv, .transferFrom 3 2 4 7),
    (sampleEnv, .burn 4 7)]

/-- The owner sends the token to itself. -/
def selfTransfer : List (Env Nat 0 × Operation Nat) :=
  mintedToken ++ [(sampleEnv, .transferFrom 2 2 2 7)]

/-- Address 3 takes the token by the approval of address 4, which does not own it. -/
def foreignSource : List (Env Nat 0 × Operation Nat) :=
  mintedToken ++ [(sampleEnv, .setApprovalForAll 4 3 true), (sampleEnv, .transferFrom 3 4 3 7)]

/-- The token is burnt while address 3 is approved for it, and minted for address 4. -/
def leftoverApproval : List (Env Nat 0 × Operation Nat) :=
  mintedToken ++ [(sampleEnv, .approve 2 3 7), (sampleEnv, .burn 2 7), (sampleEnv, .mint 4 7),
    (sampleEnv, .transferFrom 3 4 3 7)]

/-- Without saturation, balances and supply count the owned tokens and owners change by their own
authority in exactly the runs whose transfers are from the owner to somebody else and that use no
approval left over by a burn. -/
theorem ownership_iff (contract : Address) {calls : List (Env Address contract × Operation Address)}
    (unsaturated : (machine contract).Meets Unsaturated {} calls) :
    (registered contract).Always (fun account => Counted account.1) ({}, {}) calls ∧
        (registered contract).Meets Rightful ({}, {}) calls ↔
      (registered contract).Meets
        (fun account call => Outgoing account.1 call ∧ Renewed account call) ({}, {}) calls := by
  have start : Kept (({}, {}) : State Address × Register Address) :=
    ⟨fun _ => rfl, nofun, nofun, nofun⟩
  have assumed :
      (registered contract).Meets (fun account => Unsaturated account.1) ({}, {}) calls :=
    withGhost_meets.mpr unsaturated
  have counts : (registered contract).Always (fun account => Counted account.1) ({}, {}) calls ↔
      (registered contract).Meets (fun account => Outgoing account.1) ({}, {}) calls :=
    always_iff_meets_of_meets (fun _ _ _ kept ran => Kept.exec kept ran)
      (fun _ _ _ kept counted small ran =>
        counted.step_iff kept.opened (dispatch_effect (withGhost_exec_eq_ok.mp ran).1) small)
      start ⟨fun _ => rfl, rfl⟩ assumed
  have changes (outgoing : (registered contract).Meets (fun account => Outgoing account.1) ({}, {})
      calls) : (registered contract).Meets Rightful ({}, {}) calls ↔
        (registered contract).Meets Renewed ({}, {}) calls :=
    CallMachine.meets_congr_of_meets
      (fun _ _ _ kept _ _ ran => Kept.exec kept ran)
      (fun _ _ _ kept out ran => rightful_iff kept out ran
        (dispatch_effect (withGhost_exec_eq_ok.mp ran).1))
      start outgoing
  constructor
  · rintro ⟨counted, rightful⟩
    have outgoing := counts.mp counted
    exact outgoing.and ((changes outgoing).mp rightful)
  · intro careful
    have outgoing := careful.mono fun _ _ both => both.1
    have renewed := careful.mono fun _ _ both => both.2
    exact ⟨counts.mpr outgoing, (changes outgoing).mpr renewed⟩

/-- A token is sent by its approved address and burnt by its new owner. -/
theorem approved_transfer_counted :
    (registered (0 : Nat)).Always (fun account => Counted account.1) ({}, {}) approvedTransfer ∧
      (registered (0 : Nat)).Meets Rightful ({}, {}) approvedTransfer := by
  have small : 0 < u64Max := by decide
  have unsaturated : (machine (0 : Nat)).Meets Unsaturated {} approvedTransfer :=
    ⟨fun _ => trivial, fun _ => ⟨small, small⟩, fun _ => trivial, fun _ => small,
      fun _ => trivial, trivial⟩
  refine (ownership_iff 0 unsaturated).mpr ?_
  refine ⟨fun _ => ⟨trivial, trivial⟩, fun _ => ⟨trivial, trivial⟩, fun _ => ⟨trivial, trivial⟩,
    fun _ => ⟨?_, nofun⟩, fun _ => ⟨trivial, nofun⟩, trivial⟩
  rintro _ ⟨⟩
  decide

/-- A transfer to oneself counts as a gain; a token is taken by the approval of somebody who does
not own it; and an approval outlives the burnt token. -/
theorem owners_change_unasked :
    (¬ ∀ calls, (machine (0 : Nat)).Meets Unsaturated {} calls →
        (registered 0).Always (fun account => Counted account.1) ({}, {}) calls) ∧
      ((machine (0 : Nat)).Meets Unsaturated {} foreignSource ∧
        ¬ (registered 0).Meets Rightful ({}, {}) foreignSource) ∧
      (machine (0 : Nat)).Meets Unsaturated {} leftoverApproval ∧
        ¬ (registered 0).Meets Rightful ({}, {}) leftoverApproval := by
  have small : 0 < u64Max := by decide
  have one : 1 < u64Max := by decide
  refine ⟨fun always => ?_, ⟨?_, fun rightful => ?_⟩, ?_, fun rightful => ?_⟩
  · have unsaturated : (machine (0 : Nat)).Meets Unsaturated {} selfTransfer :=
      ⟨fun _ => trivial, fun _ => ⟨small, small⟩, fun _ => one, trivial⟩
    have counted := (always selfTransfer unsaturated).final
    exact absurd (counted.balances 2) (by decide)
  · exact ⟨fun _ => trivial, fun _ => ⟨small, small⟩, fun _ => trivial, fun _ => small, trivial⟩
  · obtain ⟨caller, named, -, entitled⟩ := rightful.2.2.2.1 ⟨_, rfl⟩ 7 2 rfl (by decide)
    cases named
    revert entitled
    unfold Entitled
    decide
  · exact ⟨fun _ => trivial, fun _ => ⟨small, small⟩, fun _ => trivial, fun _ => trivial,
      fun _ => ⟨small, small⟩, fun _ => small, trivial⟩
  · obtain ⟨_, named, -, entitled⟩ := rightful.2.2.2.2.2.1 ⟨_, rfl⟩ 7 4 rfl (by decide)
    cases named
    revert entitled
    unfold Entitled
    decide

end SorobanPlayground.Erc721
