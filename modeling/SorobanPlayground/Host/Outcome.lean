import Mathlib.Data.Int.Notation

/-! # Outcomes of a contract call

A contract function returns `Result<T, Error>`, and the host can also abort it:
a panic, an integer overflow under `overflow-checks`, a failing cross-contract
call or a missing authorization traps. Both kinds of failure roll the whole call
back. An `Outcome` keeps the two apart.

The lemmas tagged `@[simp]` invert a successful outcome: a sequence succeeds iff
each of its steps does.
-/

namespace SorobanPlayground

open List

/-- How a call fails: with an error value of the contract, or by a trap. -/
inductive Failure (ε : Type) where
  | error (reason : ε)
  | trap
  deriving DecidableEq, Repr

/-- The outcome of a fallible contract function. -/
abbrev Outcome (ε α : Type) := Except (Failure ε) α

variable {ε α β : Type}

/-- `if !condition { return Err(reason) }`. -/
def ensure (condition : Prop) [Decidable condition] (reason : ε) : Outcome ε Unit :=
  if condition then .ok () else .error (.error reason)

/-- `value.ok_or(reason)?`. -/
def orError (value : Option α) (reason : ε) : Outcome ε α :=
  match value with
  | some found => .ok found
  | none => .error (.error reason)

/-- `value.unwrap()`. -/
def orTrap (value : Option α) : Outcome ε α :=
  match value with
  | some found => .ok found
  | none => .error .trap

/-- `if condition { action?; }`. -/
def whenever (condition : Prop) [Decidable condition] (action : Outcome ε Unit) : Outcome ε Unit :=
  if condition then action else .ok ()

/-- A panic unless the condition holds. -/
def assertOrTrap (condition : Prop) [Decidable condition] : Outcome ε Unit :=
  if condition then .ok () else .error .trap

namespace Outcome

variable {next : α → Outcome ε β}

@[simp] theorem bind_eq_ok {first : Outcome ε α} {result : β} :
    (first >>= next) = .ok result ↔ ∃ value, first = .ok value ∧ next value = .ok result := by
  cases first with
  | error => simp [bind, Except.bind]
  | ok => simp [bind, Except.bind]

@[simp] theorem pure_eq_ok {value result : α} :
    (pure value : Outcome ε α) = .ok result ↔ value = result := by
  simp [pure, Except.pure]

@[simp] theorem map_eq_ok {outcome : Outcome ε α} {transform : α → β} {result : β} :
    transform <$> outcome = .ok result ↔
      ∃ value, outcome = .ok value ∧ transform value = result := by
  cases outcome with
  | error => simp [Functor.map, Except.map]
  | ok => simp [Functor.map, Except.map]

theorem bind_eq_error {first : Outcome ε α} {next : α → Outcome ε β} {failure : Failure ε} :
    (first >>= next) = .error failure ↔
      first = .error failure ∨ ∃ value, first = .ok value ∧ next value = .error failure := by
  cases first with
  | error => simp [bind, Except.bind]
  | ok => simp [bind, Except.bind]

variable {outcome : Outcome ε α} {transform : α → β} {failure : Failure ε}

theorem map_eq_error : (transform <$> outcome) = .error failure ↔ outcome = .error failure := by
  cases outcome with
  | error => simp [Functor.map, Except.map]
  | ok => simp [Functor.map, Except.map]

/-- Every result of an outcome satisfies a condition. -/
def Yields (outcome : Outcome ε α) (holds : α → Prop) : Prop :=
  ∀ result, outcome = .ok result → holds result

variable {holds : β → Prop}

theorem Yields.of_ok {outcome : Outcome ε β} {result : β} (succeeded : outcome = .ok result)
    (yields : Yields outcome holds) : holds result :=
  yields result succeeded

theorem yields_bind {first : Outcome ε α} :
    Yields (first >>= next) holds ↔ Yields first fun value => Yields (next value) holds := by
  simp only [Yields, bind_eq_ok]
  grind

theorem yields_pure {value : β} : Yields (pure value : Outcome ε β) holds ↔ holds value := by
  simp [Yields]

theorem yields_ok {value : β} : Yields (.ok value : Outcome ε β) holds ↔ holds value :=
  yields_pure

theorem yields_map :
    Yields (transform <$> outcome) holds ↔ Yields outcome fun value => holds (transform value) := by
  simp only [Yields, map_eq_ok]
  grind

theorem yields_ite {condition : Prop} [Decidable condition] {first second : Outcome ε β} :
    Yields (if condition then first else second) holds ↔
      (condition → Yields first holds) ∧ (¬ condition → Yields second holds) := by
  split <;> simp [*]

theorem yields_true (outcome : Outcome ε β) : Yields outcome (fun _ => True) ↔ True := by
  simp [Yields]

theorem bind_congr_ok {first : Outcome ε α} {other : α → Outcome ε β}
    (same : ∀ value, first = .ok value → next value = other value) :
    (first >>= next) = (first >>= other) := by
  cases first with
  | error => rfl
  | ok value => exact same value rfl

theorem pure_ne_error {value : α} : (pure value : Outcome ε α) ≠ .error failure := by
  simp [pure, Except.pure]

end Outcome

export Outcome (bind_eq_ok pure_eq_ok map_eq_ok yields_bind yields_pure yields_ok yields_map
  yields_ite yields_true bind_eq_error map_eq_error pure_ne_error bind_congr_ok)

variable {condition : Prop} {reason : ε} {result : Unit}

@[simp] theorem ensure_eq_ok [Decidable condition] :
    ensure condition reason = .ok result ↔ condition := by
  unfold ensure
  split <;> simp [*]

@[simp] theorem whenever_eq_ok [Decidable condition] {action : Outcome ε Unit} :
    whenever condition action = .ok result ↔ (condition → action = .ok ()) := by
  unfold whenever
  split <;> simp [*]

@[simp] theorem orError_eq_ok {value : Option α} {result : α} :
    orError value reason = .ok result ↔ value = some result := by
  cases value <;> simp [orError]

@[simp] theorem orTrap_eq_ok {value : Option α} {result : α} :
    (orTrap value : Outcome ε α) = .ok result ↔ value = some result := by
  cases value <;> simp [orTrap]

@[simp] theorem assertOrTrap_eq_ok [Decidable condition] :
    (assertOrTrap condition : Outcome ε Unit) = .ok result ↔ condition := by
  unfold assertOrTrap
  split <;> simp [*]

variable {failure : Failure ε}

theorem ensure_eq_error [Decidable condition] :
    ensure condition reason = .error failure ↔ ¬ condition ∧ failure = .error reason := by
  unfold ensure
  split <;> simp [*, eq_comm]

theorem orError_eq_error {value : Option α} :
    orError value reason = .error failure ↔ value = none ∧ failure = .error reason := by
  cases value <;> simp [orError, eq_comm]

theorem orTrap_eq_error {value : Option α} :
    (orTrap value : Outcome ε α) = .error failure ↔ value = none ∧ failure = .trap := by
  cases value <;> simp [orTrap, eq_comm]

theorem assertOrTrap_eq_error [Decidable condition] :
    (assertOrTrap condition : Outcome ε Unit) = .error failure ↔ ¬ condition ∧ failure = .trap := by
  unfold assertOrTrap
  split <;> simp [*, eq_comm]

variable {σ ι : Type} {start final : σ}

theorem foldlM_invariant {round : σ → ι → Outcome ε σ} {items : List ι} (holds : σ → Prop)
    (preserved : ∀ state item next, item ∈ items → holds state → round state item = .ok next →
      holds next)
    (initial : holds start) (ran : items.foldlM round start = .ok final) : holds final := by
  induction items generalizing start with
  | nil =>
    cases ran
    exact initial
  | cons item _ ih =>
    obtain ⟨next, first, rest⟩ := bind_eq_ok.mp ran
    refine ih (fun state other after mem => ?_) ?_ rest
    · exact preserved state other after (mem_cons_of_mem _ mem)
    · exact preserved start item next mem_cons_self initial first

variable {round : σ → Nat → Outcome ε σ}

theorem foldlM_range'_invariant {first count : Nat} (holds : Nat → σ → Prop)
    (preserved : ∀ index state next, first ≤ index → index < first + count → holds index state →
      round state index = .ok next → holds (index + 1) next) (initial : holds first start)
    (ran : (List.range' first count).foldlM round start = .ok final) :
    holds (first + count) final := by
  induction count generalizing first start with
  | zero =>
    cases ran
    exact initial
  | succ _ ih =>
    obtain ⟨next, now, rest⟩ := bind_eq_ok.mp ran
    have carried := preserved first start next (Nat.le_refl _) (by omega) initial now
    rw [← Nat.succ_add_eq_add_succ]
    refine ih (fun index state after least most => ?_) carried rest
    exact preserved index state after (by omega) (by omega)

theorem foldlM_range_invariant {count : Nat} (holds : Nat → σ → Prop)
    (preserved : ∀ index state next, index < count → holds index state → round state index =
      .ok next → holds (index + 1) next) (initial : holds 0 start)
    (ran : (List.range count).foldlM round start = .ok final) : holds count final := by
  rw [range_eq_range'] at ran
  rw [← Nat.zero_add count]
  refine foldlM_range'_invariant holds (fun index state next _ most => ?_) initial ran
  exact preserved index state next (by omega)

theorem foldlM_congr {round other : σ → ι → Outcome ε σ} {items : List ι}
    (same : ∀ item ∈ items, ∀ state, round state item = other state item) (start : σ) :
    items.foldlM round start = items.foldlM other start := by
  induction items generalizing start with
  | nil => rfl
  | cons _ _ ih =>
    obtain ⟨first, others⟩ := forall_mem_cons.mp same
    rw [foldlM_cons, foldlM_cons, first]
    exact bind_congr_ok fun next _ => ih others next

theorem foldlM_ne_error {round : σ → ι → Outcome ε σ} {items : List ι}
    (never : ∀ item ∈ items, ∀ state, round state item ≠ .error failure) (start : σ) :
    items.foldlM round start ≠ .error failure := by
  induction items generalizing start with
  | nil => exact pure_ne_error
  | cons _ _ ih =>
    obtain ⟨first, others⟩ := forall_mem_cons.mp never
    intro failed
    rcases bind_eq_error.mp failed with now | ⟨next, -, later⟩
    · exact first start now
    · exact ih others next later

variable {ι : Type} {items : List ι}

theorem forM_eq_ok {check : ι → Outcome ε Unit} :
    items.forM check = .ok result ↔ ∀ item ∈ items, check item = .ok () := by
  induction items with
  | nil => exact iff_of_true rfl nofun
  | cons item items ih =>
    change (check item >>= fun _ => items.forM check) = .ok result ↔ _
    rw [bind_eq_ok, forall_mem_cons]
    constructor
    · rintro ⟨⟨⟩, first, rest⟩
      exact ⟨first, ih.mp rest⟩
    · rintro ⟨first, rest⟩
      exact ⟨(), first, ih.mpr rest⟩

variable {compute : ι → Outcome ε α}

theorem mapM_congr {other : ι → Outcome ε α} (same : ∀ item ∈ items, compute item = other item) :
    items.mapM compute = items.mapM other := by
  induction items with
  | nil => rfl
  | cons _ _ ih =>
    obtain ⟨first, others⟩ := forall_mem_cons.mp same
    rw [mapM_cons, mapM_cons, first, ih others]

variable {results : List α}

theorem mem_of_mapM (ran : items.mapM compute = .ok results) {result : α}
    (mem : result ∈ results) : ∃ item ∈ items, compute item = .ok result := by
  induction items generalizing results with
  | nil =>
    cases ran
    cases mem
  | cons item _ ih =>
    rw [mapM_cons] at ran
    obtain ⟨_, now, ran⟩ := bind_eq_ok.mp ran
    obtain ⟨_, later, ran⟩ := bind_eq_ok.mp ran
    cases ran
    rcases mem_cons.mp mem with rfl | inRest
    · exact ⟨item, mem_cons_self, now⟩
    · obtain ⟨other, listed, eq⟩ := ih later inRest
      exact ⟨other, mem_cons_of_mem _ listed, eq⟩

theorem mapM_ne_error (never : ∀ item ∈ items, compute item ≠ .error failure) :
    items.mapM compute ≠ .error failure := by
  induction items with
  | nil => exact pure_ne_error
  | cons _ _ ih =>
    obtain ⟨first, others⟩ := forall_mem_cons.mp never
    rw [mapM_cons]
    intro failed
    rcases bind_eq_error.mp failed with now | ⟨_, -, later⟩
    · exact first now
    · rcases bind_eq_error.mp later with rest | ⟨_, -, collected⟩
      · exact ih others rest
      · exact pure_ne_error collected

theorem mapM_eq_map {value : ι → α}
    (computes : ∀ item result, compute item = .ok result → result = value item)
    (ran : items.mapM compute = .ok results) : results = items.map value := by
  induction items generalizing results with
  | nil => exact (pure_eq_ok.mp ran).symm
  | cons item _ ih =>
    rw [mapM_cons] at ran
    obtain ⟨result, first, ran⟩ := bind_eq_ok.mp ran
    obtain ⟨_, later, ran⟩ := bind_eq_ok.mp ran
    cases ran
    rw [computes item result first, ih later, map_cons]

theorem mapM_getElem? (ran : items.mapM compute = .ok results) {index : Nat} {item : ι}
    (found : items[index]? = some item) :
    ∃ result, results[index]? = some result ∧ compute item = .ok result := by
  induction items generalizing results index with
  | nil => cases found
  | cons _ _ ih =>
    rw [mapM_cons] at ran
    obtain ⟨result, first, ran⟩ := bind_eq_ok.mp ran
    obtain ⟨_, later, ran⟩ := bind_eq_ok.mp ran
    cases ran
    cases index with
    | zero =>
      cases found
      exact ⟨result, rfl, first⟩
    | succ => exact ih later found

variable {bad : Failure ε → Prop}

/-- The outcome is none of the bad failures. -/
def Avoids (bad : Failure ε → Prop) (outcome : Outcome ε α) : Prop :=
  ∀ failure, outcome = .error failure → ¬ bad failure

/-- Under a condition the outcome is a known value, and otherwise a bad failure. -/
structure Computes (bad : Failure ε → Prop) (outcome : Outcome ε α) (condition : Prop)
    (value : α) : Prop where
  result : condition → outcome = .ok value
  fails : ¬ condition → ∃ failure, outcome = .error failure ∧ bad failure

theorem avoids_pure (value : α) : Avoids bad (pure value : Outcome ε α) := nofun

theorem avoids_of_error {outcome : Outcome ε α} {failure : Failure ε}
    (failed : outcome = .error failure) : Avoids bad outcome ↔ ¬ bad failure := by
  constructor
  · intro avoids
    exact avoids failure failed
  · intro harmless other same
    obtain rfl := Except.error.inj (failed.symm.trans same)
    exact harmless

theorem avoids_ensure [Decidable condition] (harmless : ¬ bad (.error reason)) :
    Avoids bad (ensure condition reason) := by
  intro failure failed
  rw [(ensure_eq_error.mp failed).2]
  exact harmless

variable {next : α → Outcome ε β} {first : Outcome ε α}

theorem Avoids.bind (avoids : Avoids bad first) (later : ∀ value, Avoids bad (next value)) :
    Avoids bad (first >>= next) := by
  intro failure failed
  rcases bind_eq_error.mp failed with now | ⟨value, -, rest⟩
  · exact avoids failure now
  · exact later value failure rest

theorem avoids_bind_of_ok {value : α} (ran : first = .ok value) :
    Avoids bad (first >>= next) ↔ Avoids bad (next value) := by
  rw [ran]
  exact Iff.rfl

theorem avoids_bind_of_error {failure : Failure ε} (failed : first = .error failure) :
    Avoids bad (first >>= next) ↔ ¬ bad failure :=
  avoids_of_error (bind_eq_error.mpr (.inl failed))

namespace Computes

variable {outcome : Outcome ε α} {condition : Prop} {value : α}

theorem avoids_bind (computes : Computes bad outcome condition value) {next : α → Outcome ε β} :
    Avoids bad (outcome >>= next) ↔ condition ∧ Avoids bad (next value) := by
  by_cases holds : condition
  · rw [avoids_bind_of_ok (computes.result holds), and_iff_right holds]
  · obtain ⟨_, failed, isBad⟩ := computes.fails holds
    rw [avoids_bind_of_error failed]
    exact iff_of_false (not_not_intro isBad) fun both => holds both.1

theorem bind {next : α → Outcome ε β} {second : Prop} {result : β}
    (first : Computes bad outcome condition value)
    (later : condition → Computes bad (next value) second result) :
    Computes bad (outcome >>= next) (condition ∧ second) result where
  result := by
    rintro ⟨holds, also⟩
    rw [first.result holds]
    exact (later holds).result also
  fails := by
    intro fails
    by_cases holds : condition
    · obtain ⟨failure, failed, isBad⟩ := (later holds).fails fun also => fails ⟨holds, also⟩
      exact ⟨failure, bind_eq_error.mpr (.inr ⟨value, first.result holds, failed⟩), isBad⟩
    · obtain ⟨failure, failed, isBad⟩ := first.fails holds
      exact ⟨failure, bind_eq_error.mpr (.inl failed), isBad⟩

theorem congr {other : Prop} (computes : Computes bad outcome condition value)
    (same : condition ↔ other) : Computes bad outcome other value where
  result holds := computes.result (same.mpr holds)
  fails fails := computes.fails (mt same.mp fails)

end Computes

theorem computes_pure (value : α) : Computes bad (pure value : Outcome ε α) True value where
  result _ := rfl
  fails never := (never trivial).elim

/-- What a call sees of the ledger: its timestamp and the addresses that
authorized it. The contract under call never authorizes itself: the host admits
no reentrant call. -/
structure Env (Address : Type) (contract : Address) where
  timestamp : Nat
  auths : List Address
  contract_silent : contract ∉ auths

/-! In the runs on fixed inputs the contract has the address 0. -/

theorem zero_notMem_two_signers : 0 ∉ [1, 2] := by decide

theorem zero_notMem_three_signers : 0 ∉ [1, 2, 3] := by decide

theorem zero_notMem_four_signers : 0 ∉ [1, 2, 3, 4] := by decide

variable {Address : Type} [DecidableEq Address] {contract : Address}

/-- `address.require_auth()`: traps unless the address authorized the call. -/
def requireAuth (env : Env Address contract) (address : Address) : Outcome ε Unit :=
  assertOrTrap (address ∈ env.auths)

variable {env : Env Address contract} {address : Address}

@[simp] theorem requireAuth_eq_ok :
    (requireAuth env address : Outcome ε Unit) = .ok result ↔ address ∈ env.auths :=
  assertOrTrap_eq_ok

theorem requireAuth_eq_error {failure : Failure ε} :
    requireAuth env address = .error failure ↔ address ∉ env.auths ∧ failure = .trap :=
  assertOrTrap_eq_error

omit [DecidableEq Address] in
theorem Env.ne_contract (env : Env Address contract) (signed : address ∈ env.auths) :
    address ≠ contract := by
  rintro rfl
  exact env.contract_silent signed

theorem call_ok :
    (∀ {ε α β : Type} {first : Outcome ε α} {next : α → Outcome ε β} {result : β},
      (first >>= next) = .ok result ↔ ∃ value, first = .ok value ∧ next value = .ok result) ∧
    (∀ {ε α : Type} {value result : α}, (pure value : Outcome ε α) = .ok result ↔ value = result) ∧
    (∀ {ε : Type} {condition : Prop} [Decidable condition] {reason : ε} {result : Unit},
      ensure condition reason = .ok result ↔ condition) ∧
    (∀ {ε α : Type} {value : Option α} {reason : ε} {result : α},
      orError value reason = .ok result ↔ value = some result) ∧
    (∀ {ε Address : Type} [DecidableEq Address] {contract : Address} {env : Env Address contract}
      {address : Address} {result : Unit},
      (requireAuth env address : Outcome ε Unit) = .ok result ↔ address ∈ env.auths) ∧
    (∀ {condition : Prop}, (∃ _ : Unit, condition) ↔ condition) ∧
    ∀ {α β : Type} {a c : α} {b d : β}, (a, b) = (c, d) ↔ a = c ∧ b = d :=
  ⟨bind_eq_ok, pure_eq_ok, ensure_eq_ok, orError_eq_ok, requireAuth_eq_ok, exists_const _,
    .of_eq (Prod.mk.injEq ..)⟩

end SorobanPlayground
