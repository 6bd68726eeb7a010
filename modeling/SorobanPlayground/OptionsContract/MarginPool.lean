import SorobanPlayground.OptionsContract.Contract

/-! # The margin pool

The margin of an active option is locked by nothing. The total counts the writers' margins, and
every writer's margin covers the minimum margins of the active options, in exactly the runs
that leave the margins of the other options when an option is exercised or margin is
withdrawn, and in which no premium is paid.
-/

namespace SorobanPlayground.OptionsContract

variable {Address : Type} [DecidableEq Address] {contract : Address}

def minMarginOf (opt : OptionContract Address) : Int :=
  ((opt.strikePrice * opt.size).tdiv pricePrecision * minMarginBps).tdiv 10000

/-- The minimum margin that a writer has to hold for an option. -/
def lockFor (writer : Address) (_ : Nat) (opt : OptionContract Address) : Int :=
  if opt.status = .active ∧ opt.writer = writer then minMarginOf opt else 0

/-- The minimum margins of the active options of a writer. -/
def State.locked (state : State Address) (writer : Address) : Int :=
  state.options.total (lockFor writer)

def State.pool (state : State Address) : Int := state.margins.total fun _ margin => margin

/-- The total counts the margins, and they cover the active options. -/
structure Pooled (state : State Address) : Prop where
  total : state.totalMargin = state.pool
  nonneg : ∀ writer, 0 ≤ state.margin writer
  backed : ∀ writer, state.locked writer ≤ state.margin writer
  uncalled : ∀ optionId requirement, checkMargin state optionId = .ok requirement →
    requirement.marginCall = false

/-- A call leaves the minimum margins of the other active options, and pays no premium. -/
def Covered (state : State Address) (operation : Operation Address) : Prop :=
  match operation with
  | .buyOption _ optionId => ∀ opt, state.options.get optionId = some opt → opt.premium = 0
  | .exercise _ optionId settlementPrice =>
      ∀ opt payout, state.options.get optionId = some opt →
        payoutOf opt settlementPrice = .ok payout →
        min payout (state.margin opt.writer) + (state.locked opt.writer - minMarginOf opt) ≤
          state.margin opt.writer
  | .withdrawMargin writer amount => amount + state.locked writer ≤ state.margin writer
  | _ => True

/-- What the checks of the calls keep. -/
structure Books (state : State Address) : Prop where
  named : ∀ id opt, state.options.get id = some opt → opt.id = id ∧ id < state.optionCount
  written : ∀ id opt, state.options.get id = some opt →
    0 < opt.strikePrice ∧ 0 < opt.size ∧ 0 ≤ opt.premium
  nonneg : ∀ writer margin, state.margins.get writer = some margin → 0 ≤ margin

inductive Effect (state : State Address) : Operation Address → State Address → Prop
  | other (operation : Operation Address) (next : State Address)
      (options : next.options = state.options) (count : next.optionCount = state.optionCount)
      (margins : next.margins = state.margins) (total : next.totalMargin = state.totalMargin)
      (covered : Covered state operation) :
      Effect state operation next
  | wrote (writer : Address) (optionType : OptionType)
      (strikePrice spotPrice size premium : Int) (expiry : Nat) (margin : Int)
      (opt : OptionContract Address) (id : opt.id = state.optionCount)
      (owner : opt.writer = writer) (priced : 0 < opt.strikePrice) (sized : 0 < opt.size)
      (charged : 0 ≤ opt.premium) (deposited : 0 < margin) (enough : minMarginOf opt ≤ margin) :
      Effect state
        (.writeOption writer optionType strikePrice spotPrice size premium expiry margin)
        { state with
          options := state.options.set state.optionCount opt
          optionCount := state.optionCount + 1
          margins := state.margins.set writer (state.margin writer + margin)
          totalMargin := state.totalMargin + margin }
  | bought (buyer : Address) (optionId : Nat) (opt : OptionContract Address)
      (stored : state.options.get optionId = some opt) :
      Effect state (.buyOption buyer optionId) { state with
        margins := state.margins.set opt.writer (state.margin opt.writer + opt.premium)
        options := state.options.set opt.id { opt with holder := some buyer } }
  | exercised (holder : Address) (optionId : Nat) (settlementPrice : Int)
      (opt : OptionContract Address) (payout : Int)
      (stored : state.options.get optionId = some opt) (active : opt.status = .active)
      (computed : payoutOf opt settlementPrice = .ok payout) :
      Effect state (.exercise holder optionId settlementPrice) { state with
        margins := state.margins.set opt.writer
          (state.margin opt.writer - min payout (state.margin opt.writer))
        totalMargin := max (state.totalMargin - min payout (state.margin opt.writer)) 0
        options := state.options.set opt.id { opt with
          status := .exercised
          settlementPrice } }
  | expired (writer : Address) (optionId : Nat) (opt : OptionContract Address)
      (stored : state.options.get optionId = some opt) :
      Effect state (.expireOption writer optionId)
        { state with options := state.options.set opt.id { opt with status := .expired } }
  | deposited (writer : Address) (amount : Int) (positive : 0 < amount) :
      Effect state (.depositMargin writer amount) { state with
        margins := state.margins.set writer (state.margin writer + amount)
        totalMargin := state.totalMargin + amount }
  | withdrawn (writer : Address) (amount : Int) (positive : 0 < amount)
      (enough : amount ≤ state.margin writer) :
      Effect state (.withdrawMargin writer amount) { state with
        margins := state.margins.set writer (state.margin writer - amount)
        totalMargin := max (state.totalMargin - amount) 0 }

variable {env : Env Address contract} {state next : State Address}

omit [DecidableEq Address] in
theorem requiredMargin_eq_ok {opt : OptionContract Address} {required : Int}
    (eq : requiredMargin opt.strikePrice opt.size = .ok required) : required = minMarginOf opt := by
  simp only [requiredMargin, call_ok, arith_ok] at eq
  obtain ⟨-, -, rfl⟩ := eq
  rfl

theorem writeOption_effect {writer : Address} {optionType : OptionType}
    {strikePrice spotPrice size premium : Int} {expiry : Nat} {margin : Int}
    (ran : (Prod.snd <$> writeOption env writer optionType strikePrice spotPrice size premium
      expiry margin state) = .ok next) :
    Effect state
      (.writeOption writer optionType strikePrice spotPrice size premium expiry margin) next := by
  simp only [writeOption, ensureActive, ensureInitialized, map_eq_ok, call_ok, arith_ok, not_or,
    not_le, not_lt] at ran
  obtain ⟨_, ⟨-, -, priced, -, ⟨sized, charged, deposited⟩, _, eq, _, -, -, -, rfl⟩, rfl⟩ := ran
  refine Effect.wrote writer optionType strikePrice spotPrice size premium expiry margin _ rfl rfl
    priced sized charged deposited ?_
  rwa [← requiredMargin_eq_ok eq]

theorem buyOption_effect {buyer : Address} {optionId : Nat}
    (ran : (Prod.snd <$> buyOption env buyer optionId state) = .ok next) :
    Effect state (.buyOption buyer optionId) next := by
  simp only [buyOption, ensureActive, ensureInitialized, map_eq_ok, call_ok, arith_ok] at ran
  obtain ⟨_, ⟨-, -, opt, got, -, -, -, -, rfl⟩, rfl⟩ := ran
  exact Effect.bought buyer optionId opt got

theorem exercise_effect {holder : Address} {optionId : Nat} {settlementPrice : Int}
    (ran : (Prod.snd <$> exercise env holder optionId settlementPrice state) = .ok next) :
    Effect state (.exercise holder optionId settlementPrice) next := by
  simp only [exercise, ensureActive, ensureInitialized, map_eq_ok, call_ok, arith_ok] at ran
  obtain ⟨_, ⟨-, -, opt, got, active, -, _, -, -, payout, eq, -, -,
    rfl⟩, rfl⟩ := ran
  exact Effect.exercised holder optionId settlementPrice opt payout got active eq

theorem depositMargin_effect {writer : Address} {amount : Int}
    (ran : (Prod.snd <$> depositMargin env writer amount state) = .ok next) :
    Effect state (.depositMargin writer amount) next := by
  simp only [depositMargin, ensureActive, ensureInitialized, map_eq_ok, call_ok, arith_ok,
    not_le] at ran
  obtain ⟨_, ⟨-, -, pos, -, -, rfl⟩, rfl⟩ := ran
  exact Effect.deposited writer amount pos

theorem withdrawMargin_effect {writer : Address} {amount : Int}
    (ran : (Prod.snd <$> withdrawMargin env writer amount state) = .ok next) :
    Effect state (.withdrawMargin writer amount) next := by
  simp only [withdrawMargin, ensureActive, ensureInitialized, map_eq_ok, call_ok, arith_ok, not_le,
    not_lt] at ran
  obtain ⟨_, ⟨-, -, pos, enough, -, -, rfl⟩, rfl⟩ := ran
  exact Effect.withdrawn writer amount pos enough

theorem dispatch_effect {call : Env Address contract × Operation Address}
    (ran : dispatch state call = .ok next) : Effect state call.2 next := by
  obtain ⟨_, op⟩ := call
  cases op with
  | initializeOptions =>
    simp only [dispatch, initializeOptions, call_ok] at ran
    obtain ⟨-, -, rfl⟩ := ran
    exact Effect.other _ _ rfl rfl rfl rfl trivial
  | writeOption =>
    exact writeOption_effect ran
  | buyOption => exact buyOption_effect ran
  | exercise => exact exercise_effect ran
  | expireOption writer optionId =>
    simp only [dispatch, expireOption, ensureActive, ensureInitialized, call_ok] at ran
    obtain ⟨-, -, opt, got, -, -, -, rfl⟩ := ran
    exact Effect.expired writer optionId opt got
  | depositMargin => exact depositMargin_effect ran
  | withdrawMargin => exact withdrawMargin_effect ran
  | setPaused =>
    simp only [dispatch, setPaused, call_ok] at ran
    obtain ⟨-, _, -, -, rfl⟩ := ran
    exact Effect.other _ _ rfl rfl rfl rfl trivial

omit [DecidableEq Address] in
theorem minMarginOf_nonneg {opt : OptionContract Address} (priced : 0 < opt.strikePrice)
    (sized : 0 < opt.size) : 0 ≤ minMarginOf opt := by
  have value : 0 ≤ (opt.strikePrice * opt.size).tdiv pricePrecision :=
    Int.tdiv_nonneg (mul_nonneg priced.le sized.le) (by decide)
  exact Int.tdiv_nonneg (mul_nonneg value (by decide)) (by decide)

section

variable (books : Books state)
include books

theorem Books.margin_nonneg (writer : Address) : 0 ≤ state.margin writer := by
  unfold State.margin
  cases got : state.margins.get writer with
  | none => exact le_rfl
  | some margin => exact books.nonneg writer margin got

theorem Books.margin_le_pool (writer : Address) : state.margin writer ≤ state.pool := by
  unfold State.margin
  cases got : state.margins.get writer with
  | none => exact total_nonneg fun _ _ found => books.nonneg _ _ found
  | some => exact weight_le_total (fun _ _ found => books.nonneg _ _ found) got

theorem Books.lock_nonneg (writer : Address) :
    ∀ id opt, state.options.get id = some opt → 0 ≤ lockFor writer id opt := by
  intro id opt got
  obtain ⟨priced, sized, -⟩ := books.written id opt got
  unfold lockFor
  split
  · exact minMarginOf_nonneg priced sized
  · exact le_rfl

theorem Books.pooled_iff :
    Pooled state ↔
      state.totalMargin = state.pool ∧ ∀ writer, state.locked writer ≤ state.margin writer := by
  refine ⟨fun pooled => ⟨pooled.total, pooled.backed⟩, fun ⟨total, backed⟩ =>
    ⟨total, books.margin_nonneg, backed, fun optionId requirement checked => ?_⟩⟩
  simp only [checkMargin, call_ok, ensureInitialized] at checked
  obtain ⟨-, opt, got, checked⟩ := checked
  split at checked
  · next active =>
    simp only [call_ok] at checked
    obtain ⟨_, eq, rfl⟩ := checked
    obtain rfl := requiredMargin_eq_ok eq
    have part : minMarginOf opt ≤ state.locked opt.writer := by
      have lock := weight_le_total (books.lock_nonneg opt.writer) got
      unfold lockFor at lock
      rwa [if_pos ⟨active, rfl⟩] at lock
    exact decide_eq_false (not_lt.mpr (part.trans (backed opt.writer)))
  · cases checked
    rfl

theorem Books.write {id : Nat} {opt : OptionContract Address}
    (options : next.options = state.options.set id opt) (named : opt.id = id)
    (count : state.optionCount ≤ next.optionCount) (within : id < next.optionCount)
    (written : 0 < opt.strikePrice ∧ 0 < opt.size ∧ 0 ≤ opt.premium)
    (nonneg : ∀ writer margin, next.margins.get writer = some margin → 0 ≤ margin) :
    Books next where
  named := by
    rw [options]
    exact forall_set (fun other found got =>
      ⟨(books.named other found got).1, (books.named other found got).2.trans_le count⟩)
      ⟨named, within⟩
  written := by
    rw [options]
    exact forall_set books.written written
  nonneg := nonneg

theorem Books.nonneg_set {writer : Address} {margin : Int} (nonneg : 0 ≤ margin) :
    ∀ other found, (state.margins.set writer margin).get other = some found → 0 ≤ found :=
  forall_set books.nonneg nonneg

theorem Books.step {op : Operation Address} (effect : Effect state op next) : Books next := by
  cases effect with
  | other _ _ options count margins =>
    refine ⟨?_, ?_, ?_⟩
    · rw [options, count]
      exact books.named
    · rw [options]
      exact books.written
    · rw [margins]
      exact books.nonneg
  | wrote writer _ _ _ _ _ _ _ _ id _ priced sized charged =>
    have held := books.margin_nonneg writer
    exact books.write rfl id (Nat.le_succ _) (Nat.lt_succ_self _) ⟨priced, sized, charged⟩
      (books.nonneg_set (by omega))
  | bought _ optionId opt got =>
    obtain ⟨named, within⟩ := books.named optionId opt got
    have terms := books.written optionId opt got
    have held := books.margin_nonneg opt.writer
    exact books.write rfl rfl le_rfl (named.trans_lt within) terms
      (books.nonneg_set (add_nonneg held terms.2.2))
  | exercised _ optionId _ opt _ got =>
    obtain ⟨named, within⟩ := books.named optionId opt got
    exact books.write rfl rfl le_rfl (named.trans_lt within) (books.written optionId opt got)
      (books.nonneg_set (sub_nonneg.mpr (min_le_right _ _)))
  | expired _ optionId opt got =>
    obtain ⟨named, within⟩ := books.named optionId opt got
    exact books.write rfl rfl le_rfl (named.trans_lt within) (books.written optionId opt got)
      books.nonneg
  | deposited writer =>
    have held := books.margin_nonneg writer
    exact ⟨books.named, books.written, books.nonneg_set (by omega)⟩
  | withdrawn _ _ _ enough =>
    exact ⟨books.named, books.written, books.nonneg_set (sub_nonneg.mpr enough)⟩

end

theorem margin_set (margins : FiniteMap Address Int) (writer read : Address) (margin : Int) :
    ((margins.set writer margin).get read).getD 0 =
      if read = writer then margin else (margins.get read).getD 0 := by
  rw [get_set]
  split <;> rfl

theorem pool_set (writer : Address) (margin : Int) :
    (state.margins.set writer margin).total (fun _ held => held) =
      state.pool - state.margin writer + margin :=
  total_set_getD _ _ writer margin 0 rfl

theorem locked_set (books : Books state) {optionId : Nat} {opt wrote : OptionContract Address}
    (got : state.options.get optionId = some opt) (writer : Address) :
    (state.options.set opt.id wrote).total (lockFor writer) =
      state.locked writer - lockFor writer optionId opt + lockFor writer optionId wrote := by
  rw [(books.named optionId opt got).1]
  exact total_set_of_stored _ got wrote

theorem backed_of_raised (backed : ∀ writer, state.locked writer ≤ state.margin writer)
    {locked : Address → Int} {writer : Address} {margin : Int}
    (own : locked writer ≤ margin) (others : ∀ other ≠ writer, locked other ≤ state.locked other)
    (read : Address) : locked read ≤ ((state.margins.set writer margin).get read).getD 0 := by
  rw [margin_set]
  split
  · next same => rwa [same]
  · next ne => exact (others read ne).trans (backed read)

theorem Pooled.step_iff (books : Books state) (pooled : Pooled state) {op : Operation Address}
    (effect : Effect state op next) : Pooled next ↔ Covered state op := by
  rw [(books.step effect).pooled_iff]
  have total := pooled.total
  cases effect with
  | other _ _ options _ margins same covered =>
    refine iff_of_true ⟨?_, fun writer => ?_⟩ covered
    · unfold State.pool
      rw [same, margins]
      exact total
    · unfold State.locked State.margin
      rw [options, margins]
      exact pooled.backed writer
  | wrote writer _ _ _ _ _ _ margin opt _ owner priced sized =>
    have least := minMarginOf_nonneg priced sized
    have fresh : state.options.get state.optionCount = none := by
      cases got : state.options.get state.optionCount with
      | none => rfl
      | some found => exact absurd (books.named _ found got).2 (lt_irrefl _)
    have locks : ∀ read, (state.options.set state.optionCount opt).total (lockFor read) =
        lockFor read state.optionCount opt + state.locked read := fun read =>
      total_set_of_absent _ _ opt fresh
    have before := pooled.backed writer
    refine iff_of_true ⟨?_, backed_of_raised pooled.backed ?_ fun other ne => ?_⟩ trivial
    · change state.totalMargin + margin = FiniteMap.total (state.margins.set writer _) _
      rw [pool_set]
      omega
    · change FiniteMap.total (state.options.set state.optionCount opt) (lockFor writer) ≤ _
      rw [locks]
      unfold lockFor
      split <;> omega
    · change FiniteMap.total (state.options.set state.optionCount opt) (lockFor other) ≤ _
      rw [locks]
      unfold lockFor
      rw [if_neg fun same => ne (same.2.symm.trans owner), zero_add]
  | bought buyer optionId opt got =>
    have charged := (books.written optionId opt got).2.2
    have locks : ∀ read, (state.options.set opt.id { opt with holder := some buyer }).total
        (lockFor read) = state.locked read := by
      intro read
      rw [locked_set books got]
      exact sub_add_cancel _ _
    have before := pooled.backed opt.writer
    have backed := @backed_of_raised _ _ state pooled.backed state.locked opt.writer
      (state.margin opt.writer + opt.premium) (by omega) fun _ _ => le_rfl
    have same : (∀ found, state.options.get optionId = some found → found.premium = 0) ↔
        opt.premium = 0 := by
      rw [got]
      exact ⟨fun all => all opt rfl, fun free found equal => Option.some.inj equal ▸ free⟩
    refine Iff.trans ⟨fun kept => ?_, fun free => ⟨?_, fun read => ?_⟩⟩ same.symm
    · have equal : state.totalMargin =
          (state.margins.set opt.writer _).total (fun _ held => held) := kept.1
      rw [pool_set] at equal
      omega
    · change state.totalMargin = FiniteMap.total (state.margins.set opt.writer _) _
      rw [pool_set]
      omega
    · exact (locks read).trans_le (backed read)
  | exercised holder optionId settlementPrice opt payout got active eq =>
    have part := books.margin_le_pool opt.writer
    have same : Covered state (.exercise holder optionId settlementPrice) ↔
        min payout (state.margin opt.writer) + (state.locked opt.writer - minMarginOf opt) ≤
          state.margin opt.writer := by
      unfold Covered
      dsimp only
      rw [got]
      constructor
      · exact fun all => all opt payout rfl eq
      · rintro covered _ _ ⟨⟩ again
        obtain rfl := Except.ok.inj (eq.symm.trans again)
        exact covered
    have locks : ∀ read, (state.options.set opt.id
        { opt with status := .exercised, settlementPrice }).total (lockFor read) =
          state.locked read - if opt.writer = read then minMarginOf opt else 0 := by
      intro read
      have unlocked : lockFor read optionId
          { opt with status := .exercised, settlementPrice } = 0 :=
        if_neg fun active => OptionStatus.noConfusion active.1
      have lock : lockFor read optionId opt =
          if opt.writer = read then minMarginOf opt else 0 :=
        if_congr (and_iff_right active) rfl rfl
      rw [locked_set books got, unlocked, lock, add_zero]
    rw [same]
    constructor
    · rintro ⟨-, backed⟩
      have own : FiniteMap.total (state.options.set opt.id _) (lockFor opt.writer) ≤
          Option.getD _ 0 := backed opt.writer
      rw [margin_set, if_pos rfl, locks, if_pos rfl] at own
      omega
    · intro covered
      refine ⟨?_, fun read => ?_⟩
      · change max (state.totalMargin - _) 0 = FiniteMap.total (state.margins.set opt.writer _) _
        rw [pool_set]
        omega
      · refine (locks read).trans_le ?_
        apply backed_of_raised pooled.backed
        · rw [if_pos rfl]
          omega
        · intro other ne
          rw [if_neg ne.symm, sub_zero]
  | expired _ optionId opt got =>
    refine iff_of_true ⟨total, fun read => ?_⟩ trivial
    have before := pooled.backed read
    have lock := books.lock_nonneg read optionId opt got
    change FiniteMap.total (state.options.set opt.id _) (lockFor read) ≤ state.margin read
    rw [locked_set books got]
    have open_ended : lockFor read optionId { opt with status := .expired } = 0 :=
      if_neg fun active => OptionStatus.noConfusion active.1
    omega
  | deposited writer amount =>
    have before := pooled.backed writer
    refine iff_of_true ⟨?_, backed_of_raised pooled.backed ?_ fun _ _ => le_rfl⟩ trivial
    · change state.totalMargin + amount = FiniteMap.total (state.margins.set writer _) _
      rw [pool_set]
      omega
    · change state.locked writer ≤ _
      omega
  | withdrawn writer amount =>
    have part := books.margin_le_pool writer
    constructor
    · rintro ⟨-, backed⟩
      have own : state.locked writer ≤ Option.getD _ 0 := backed writer
      rw [margin_set, if_pos rfl] at own
      unfold Covered
      omega
    · intro covered
      unfold Covered at covered
      refine ⟨?_, backed_of_raised pooled.backed ?_ fun _ _ => le_rfl⟩
      · change max (state.totalMargin - amount) 0 = FiniteMap.total (state.margins.set writer _) _
        rw [pool_set]
        omega
      · change state.locked writer ≤ _
        omega

/-- Calls signed by the admin, the writer and a buyer. -/
def sampleEnv (timestamp : Nat) : Env Nat 0 where
  timestamp
  auths := [1, 2, 3]
  contract_silent := zero_notMem_three_signers

/-- The writer of a call sells it for a premium. -/
def soldCall (premium : Int) : List (Env Nat 0 × Operation Nat) :=
  [(sampleEnv 0, .initializeOptions 1),
    (sampleEnv 0, .writeOption 2 .call 10000000 10000000 100 premium 100 200),
    (sampleEnv 0, .buyOption 3 0)]

theorem books_empty : Books ({} : State Address) where
  named := fun id opt got => by cases got
  written := fun id opt got => by cases got
  nonneg := fun writer margin got => by cases got

/-- The total counts the margins and every writer's margin covers the active options in exactly the
runs in which no premium is paid and every exercise and withdrawal leaves the minimum margins of
the writer's other active options. -/
theorem pool_iff_covered (contract : Address)
    (calls : List (Env Address contract × Operation Address)) :
    (machine contract).Always Pooled {} calls ↔
      (machine contract).Meets (fun state call => Covered state call.2) {} calls := by
  have start : Books ({} : State Address) := books_empty
  refine always_iff_meets (fun _ _ _ books ran => ?_)
    (fun _ _ _ books pooled ran => ?_) start ?_
  · exact Books.step books (dispatch_effect ran)
  · exact Pooled.step_iff books pooled (dispatch_effect ran)
  · exact start.pooled_iff.mpr ⟨rfl, fun _ => le_rfl⟩

/-- A premium is missing from the total, and margin is withdrawn that an active option needs. -/
theorem premium_uncounted_margin_unlocked :
    ¬ Pooled ((machine (0 : Nat)).run {} (soldCall 5)) ∧
      ¬ Pooled ((machine (0 : Nat)).run {} (soldCall 0 ++ [(sampleEnv 0, .withdrawMargin 2 150)])) ∧
      ¬ Pooled ((machine (0 : Nat)).run {} (soldCall 0 ++
        [(sampleEnv 0, .writeOption 2 .call 10000000 10000000 100 0 300 200),
          (sampleEnv 100, .exercise 3 0 14000000)])) := by
  refine ⟨fun pooled => ?_, fun pooled => ?_, fun pooled => ?_⟩
  · exact absurd pooled.total (by decide)
  · exact absurd (pooled.backed 2) (by decide)
  · exact absurd (pooled.backed 2) (by decide)

end SorobanPlayground.OptionsContract
