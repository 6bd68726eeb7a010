import Mathlib.Tactic.Ring
import SorobanPlayground.Library.FiniteMap

/-! # Running totals of groups

Every entry of a store belongs to a group, and each group keeps a running total
that is meant to be the sum of its entries. An entry is written or removed
together with its group's total; the totals stay right exactly when both move by
the same amount (`FiniteMap.Tallied.put_iff`).
-/

namespace FiniteMap

section Put

variable {κ β : Type*} [DecidableEq κ]

/-- Write a value at a key, or remove the entry there. -/
def put (store : FiniteMap κ β) (key : κ) : Option β → FiniteMap κ β
  | some value => store.set key value
  | none => store.remove key

theorem get_put (store : FiniteMap κ β) (key other : κ) (value : Option β) :
    (store.put key value).get other = if other = key then value else store.get other := by
  cases value with
  | some value => exact get_set store key other value
  | none => exact get_remove store key other

theorem get_put_of_ne (store : FiniteMap κ β) {key other : κ} (value : Option β)
    (ne : other ≠ key) : (store.put key value).get other = store.get other := by
  rw [get_put, if_neg ne]

/-- What holds of all entries holds after a write of which it holds. -/
theorem forall_put {store : FiniteMap κ β} {holds : κ → β → Prop}
    (all : ∀ key value, store.get key = some value → holds key value) {key : κ}
    {value : Option β} (wrote : ∀ got, value = some got → holds key got) (other : κ)
    (got : β) (found : (store.put key value).get other = some got) : holds other got := by
  rw [get_put] at found
  split at found
  · next same =>
    rw [same]
    exact wrote got found
  · exact all other got found

end Put

variable {κ γ β σ : Type*} [DecidableEq κ] [DecidableEq γ] {store : FiniteMap κ β}
  {groupOf : κ → β → γ} {weight : β → Int} {group : γ}

omit [DecidableEq κ] in
/-- The entries of one group, added up. -/
def groupTotal (store : FiniteMap κ β) (groupOf : κ → β → γ) (weight : β → Int) (group : γ) : Int :=
  store.total fun key value => if groupOf key value = group then weight value else 0

/-- Maps that agree away from one key differ in its group's sum by their weights there. -/
theorem groupTotal_of_agree {first second : FiniteMap κ β} {key : κ}
    (agree : ∀ other, other ≠ key → second.get other = first.get other)
    (before : ∀ got, first.get key = some got → groupOf key got = group)
    (after : ∀ got, second.get key = some got → groupOf key got = group) (other : γ) :
    second.groupTotal groupOf weight other =
      first.groupTotal groupOf weight other +
        if other = group then (second.get key).elim 0 weight - (first.get key).elim 0 weight
        else 0 := by
  have sums :=
    total_of_agree (fun key value => if groupOf key value = other then weight value else 0) agree
  change second.groupTotal groupOf weight other = first.groupTotal groupOf weight other - _ + _
    at sums
  have weighed : ∀ entry : Option β, (∀ held, entry = some held → groupOf key held = group) →
      weightAt (fun key value => if groupOf key value = other then weight value else 0) key entry =
        if other = group then entry.elim 0 weight else 0 := by
    intro entry inGroup
    cases entry with
    | none => exact (ite_self _).symm
    | some held =>
      rw [weightAt_some, inGroup held rfl]
      exact if_congr eq_comm rfl rfl
  rw [sums, weighed _ before, weighed _ after]
  split <;> ring

/-- One entry changes its own group's sum by the change of its weight. -/
theorem groupTotal_put {key : κ} {value : Option β}
    (before : ∀ got, store.get key = some got → groupOf key got = group)
    (after : ∀ wrote, value = some wrote → groupOf key wrote = group) (other : γ) :
    (store.put key value).groupTotal groupOf weight other =
      store.groupTotal groupOf weight other +
        if other = group then value.elim 0 weight - (store.get key).elim 0 weight else 0 := by
  have wrote : (store.put key value).get key = value := by rw [get_put, if_pos rfl]
  have agree : ∀ index, index ≠ key → (store.put key value).get index = store.get index :=
    fun index ne => get_put_of_ne store value ne
  have sums : (store.put key value).groupTotal groupOf weight other = _ :=
    groupTotal_of_agree agree before (by rwa [wrote]) other
  rwa [wrote] at sums

/-- No entry weighs more than its group. -/
theorem weight_le_groupTotal
    (nonneg : ∀ key value, store.get key = some value → groupOf key value = group →
      0 ≤ weight value) {key : κ} {value : β} (got : store.get key = some value)
    (inGroup : groupOf key value = group) :
    weight value ≤ store.groupTotal groupOf weight group := by
  have weights : ∀ index held, store.get index = some held →
      (0 : Int) ≤ if groupOf index held = group then weight held else 0 := by
    intro index held found
    split
    · next same => exact nonneg index held found same
    · exact le_rfl
  have bound := weight_le_total weights got
  rwa [if_pos inGroup] at bound

/-- Weights that agree on a group's entries have the same sum there. -/
theorem groupTotal_congr {other : β → Int}
    (same : ∀ key value, store.get key = some value → groupOf key value = group →
      weight value = other value) :
    store.groupTotal groupOf weight group = store.groupTotal groupOf other group := by
  apply total_congr
  intro key value got
  split
  · next inGroup => exact same key value got inGroup
  · rfl

/-- A group's sum of smaller weights is smaller. -/
theorem groupTotal_mono {less : β → Int}
    (ordered : ∀ key value, store.get key = some value → groupOf key value = group →
      less value ≤ weight value) :
    store.groupTotal groupOf less group ≤ store.groupTotal groupOf weight group := by
  apply total_mono
  intro key value got
  split
  · next inGroup => exact ordered key value got inGroup
  · exact le_rfl

omit [DecidableEq κ] in
theorem groupTotal_sub (store : FiniteMap κ β) (groupOf : κ → β → γ) (first second : β → Int)
    (group : γ) :
    store.groupTotal groupOf (fun value => first value - second value) group =
      store.groupTotal groupOf first group - store.groupTotal groupOf second group := by
  unfold groupTotal
  rw [← total_sub]
  congr 1
  funext key value
  split <;> simp

/-- Parts of a whole by weight, rounded down, add up to no more than the group's part. -/
theorem groupTotal_parts_le (whole : Int) {divisor : Int} (pos : 0 < divisor) :
    store.groupTotal groupOf (fun value => whole * weight value / divisor) group ≤
      whole * store.groupTotal groupOf weight group / divisor := by
  have rounded : store.total (fun key value =>
      whole * (if groupOf key value = group then weight value else 0) / divisor) ≤
        store.total (fun key value =>
          whole * if groupOf key value = group then weight value else 0) / divisor :=
    total_ediv_le pos
  rw [total_mul_left] at rounded
  refine le_trans (le_of_eq ?_) rounded
  apply total_congr
  intro key value _
  split <;> simp

section

omit [DecidableEq κ]

theorem groupTotal_add (store : FiniteMap κ β) (groupOf : κ → β → γ) (first second : β → Int)
    (group : γ) :
    store.groupTotal groupOf (fun value => first value + second value) group =
      store.groupTotal groupOf first group + store.groupTotal groupOf second group := by
  unfold groupTotal
  rw [← total_add]
  congr 1
  funext key value
  split <;> simp

theorem groupTotal_mul_left (store : FiniteMap κ β) (groupOf : κ → β → γ) (factor : Int)
    (weight : β → Int) (group : γ) :
    store.groupTotal groupOf (fun value => factor * weight value) group =
      factor * store.groupTotal groupOf weight group := by
  unfold groupTotal
  rw [← total_mul_left]
  congr 1
  funext key value
  split <;> simp

end

/-- Parts of a whole by weight, rounded down, leave less than one for each entry of a group that
is not empty. -/
theorem lt_groupTotal_parts (whole : Int) {divisor : Int} (pos : 0 < divisor) {key : κ}
    {value : β} (got : store.get key = some value) (inGroup : groupOf key value = group) :
    whole * store.groupTotal groupOf weight group <
      divisor * (store.groupTotal groupOf (fun value => whole * weight value / divisor) group +
        store.groupTotal groupOf (fun _ => 1) group) := by
  have gap : ∀ value,
      0 < divisor * (whole * weight value / divisor + 1) - whole * weight value := by
    intro value
    rw [sub_pos, mul_comm divisor]
    exact Int.lt_ediv_add_one_mul_self (whole * weight value) pos
  have bound := weight_le_groupTotal (fun _ value _ _ => (gap value).le) got inGroup
  rw [groupTotal_sub, groupTotal_mul_left, groupTotal_add, groupTotal_mul_left] at bound
  have own := gap value
  omega

/-- A group without entries sums to zero. -/
theorem groupTotal_eq_zero
    (gone : ∀ key value, store.get key = some value → groupOf key value ≠ group) :
    store.groupTotal groupOf weight group = 0 :=
  total_eq_zero store fun key value got => if_neg (gone key value got)

omit [DecidableEq κ] in
/-- Every group's running total is the sum of its entries. -/
def Tallied (groups : FiniteMap γ σ) (running : σ → Int) (store : FiniteMap κ β)
    (groupOf : κ → β → γ) (weight : β → Int) : Prop :=
  ∀ group record, groups.get group = some record →
    running record = store.groupTotal groupOf weight group

namespace Tallied

variable {groups : FiniteMap γ σ} {running : σ → Int}

/-- Writing an entry with its group's record keeps the totals right exactly when both move by the
same amount. -/
theorem put_iff (tallied : Tallied groups running store groupOf weight) {record : σ}
    (got : groups.get group = some record) (updated : σ) {key : κ} {value : Option β}
    (before : ∀ held, store.get key = some held → groupOf key held = group)
    (after : ∀ wrote, value = some wrote → groupOf key wrote = group) :
    Tallied (groups.set group updated) running (store.put key value) groupOf weight ↔
      running updated - running record = value.elim 0 weight - (store.get key).elim 0 weight := by
  have tallyBefore := tallied group record got
  have tallyAfter : (store.put key value).groupTotal groupOf weight group = _ :=
    groupTotal_put before after group
  rw [if_pos rfl] at tallyAfter
  constructor
  · intro still
    have here := still group updated (get_set_self _ _ _)
    omega
  · intro moved other found atOther
    by_cases same : other = group
    · subst same
      obtain rfl := Option.some.inj ((get_set_self _ _ _).symm.trans atOther)
      omega
    · rw [get_set_of_ne _ _ same] at atOther
      rw [groupTotal_put before after, if_neg same, add_zero]
      exact tallied other found atOther

omit [DecidableEq κ] in
/-- A record may change in everything but its running total. -/
theorem set_same (tallied : Tallied groups running store groupOf weight) {record updated : σ}
    (got : groups.get group = some record) (same : running updated = running record) :
    Tallied (groups.set group updated) running store groupOf weight := by
  intro other found atOther
  rw [get_set] at atOther
  split at atOther
  · next here =>
    cases atOther
    rw [here, same]
    exact tallied group record got
  · exact tallied other found atOther

/-- A group without entries opens with a running total of zero. -/
theorem set_new (tallied : Tallied groups running store groupOf weight) {updated : σ}
    (gone : ∀ key value, store.get key = some value → groupOf key value ≠ group)
    (zero : running updated = 0) :
    Tallied (groups.set group updated) running store groupOf weight := by
  intro other found atOther
  rw [get_set] at atOther
  split at atOther
  · next here =>
    cases atOther
    rw [here, zero, groupTotal_eq_zero gone]
  · exact tallied other found atOther

end Tallied

end FiniteMap
