import Mathlib.Algebra.BigOperators.Intervals
import Mathlib.Algebra.BigOperators.Ring.Finset
import Mathlib.Algebra.Order.BigOperators.Group.Finset
import Mathlib.Algebra.Order.Ring.Int
import Mathlib.Tactic.Ring

/-! # Step functions sampled over time

A sample sets a value from its time on. At every moment the last sample that was
taken by then is in force; its values add up over the moments of an interval. A
record that accompanies each sample with a running total, raised by the value in
force times the time that has passed, integrates the values between any two of its
samples (`StepFunction.integral_eq_gain`).
-/

namespace StepFunction

open List

/-- A value in force from a time on. -/
structure Sample where
  time : Nat
  value : Int
  deriving DecidableEq, Repr

/-- The value of the last sample taken by a moment. -/
def inForce (samples : List Sample) (moment : Nat) : Int :=
  ((samples.filter fun sample => sample.time ≤ moment).getLast?.map Sample.value).getD 0

/-- The values in force, added up over the moments of an interval. -/
def integral (samples : List Sample) (first last : Nat) : Int :=
  ∑ moment ∈ Finset.Ico first last, inForce samples moment

/-- The samples are in the order of their times. -/
def Chronological (samples : List Sample) : Prop :=
  samples.Pairwise fun earlier later => earlier.time ≤ later.time

variable {before after : List Sample} {sample : Sample} {samples : List Sample}

/-- A sample is in force until the next. -/
theorem inForce_eq {moment : Nat} (taken : sample.time ≤ moment)
    (ahead : ∀ later ∈ after, moment < later.time) :
    inForce (before ++ sample :: after) moment = sample.value := by
  have none : (after.filter fun later => later.time ≤ moment) = [] := by
    rw [filter_eq_nil_iff]
    intro later mem
    simpa using ahead later mem
  unfold inForce
  rw [filter_append, filter_cons_of_pos (by simpa using taken), none,
    List.getLast?_append]
  rfl

theorem inForce_nonneg (nonneg : ∀ sample ∈ samples, 0 ≤ sample.value) (moment : Nat) :
    0 ≤ inForce samples moment := by
  unfold inForce
  cases found : (samples.filter fun sample => sample.time ≤ moment).getLast? with
  | none => exact le_rfl
  | some sample =>
    have mem := mem_of_getLast? found
    exact nonneg sample (mem_filter.mp mem).1

theorem integral_nonneg (nonneg : ∀ sample ∈ samples, 0 ≤ sample.value) (first last : Nat) :
    0 ≤ integral samples first last :=
  Finset.sum_nonneg fun moment _ => inForce_nonneg nonneg moment

/-- Adjoining intervals add up. -/
theorem integral_add {first middle last : Nat} (ordered : first ≤ middle) (rest : middle ≤ last) :
    integral samples first middle + integral samples middle last = integral samples first last :=
  Finset.sum_Ico_consecutive _ ordered rest

/-- A sample's value times the time it is in force. -/
theorem integral_steady {first last : Nat} (ordered : first ≤ last) (taken : sample.time ≤ first)
    (ahead : ∀ later ∈ after, last ≤ later.time) :
    integral (before ++ sample :: after) first last = sample.value * (last - first) := by
  have steady : ∀ moment ∈ Finset.Ico first last,
      inForce (before ++ sample :: after) moment = sample.value := by
    intro moment mem
    obtain ⟨begun, unfinished⟩ := Finset.mem_Ico.mp mem
    refine inForce_eq (taken.trans begun) ?_
    intro later here
    exact unfinished.trans_le (ahead later here)
  unfold integral
  rw [Finset.sum_congr rfl steady, Finset.sum_const, Nat.card_Ico, nsmul_eq_mul, Nat.cast_sub
    ordered, mul_comm]

/-- The total of a record is raised by the value in force times the time that has passed. -/
def Raised (earlier later : Sample × Int) : Prop :=
  later.2 = earlier.2 + earlier.1.value * (later.1.time - earlier.1.time)

/-- Between two samples the total gains the integral. -/
theorem integral_eq_gain {records : List (Sample × Int)} {start finish : Sample × Int}
    {rest : List (Sample × Int)}
    (chronological : Chronological ((records ++ start :: rest).map Prod.fst))
    (raised : (start :: rest).IsChain Raised) (last : (start :: rest).getLast? = some finish) :
    integral ((records ++ start :: rest).map Prod.fst) start.1.time finish.1.time =
      finish.2 - start.2 := by
  induction rest generalizing records start with
  | nil =>
    obtain rfl : start = finish := Option.some.inj last
    rw [sub_self]
    unfold integral
    rw [Finset.Ico_self, Finset.sum_empty]
  | cons next rest ih =>
    obtain ⟨first, later⟩ := isChain_cons_cons.mp raised
    have shifted : records ++ start :: next :: rest = (records ++ [start]) ++ next :: rest := by
      rw [append_assoc, singleton_append]
    have fromNext := ih (by rwa [← shifted]) later (by rwa [List.getLast?_cons_cons] at last)
    rw [← shifted] at fromNext
    rw [map_append, map_cons, map_cons] at chronological
    obtain ⟨-, ordered, -⟩ := pairwise_append.mp chronological
    obtain ⟨startFirst, rest⟩ := pairwise_cons.mp ordered
    obtain ⟨nextFirst, -⟩ := pairwise_cons.mp rest
    have mem : finish ∈ next :: _ :=
      mem_of_getLast? (by rwa [List.getLast?_cons_cons] at last)
    have toNext : start.1.time ≤ next.1.time := startFirst _ mem_cons_self
    have fromStart : next.1.time ≤ finish.1.time := by
      rcases mem_cons.mp mem with rfl | behind
      · exact le_rfl
      · exact nextFirst _ (mem_map_of_mem behind)
    rw [← integral_add toNext fromStart, fromNext, map_append, map_cons, map_cons,
      integral_steady toNext le_rfl, first]
    · ring
    · intro sample here
      rcases mem_cons.mp here with rfl | behind
      · exact le_rfl
      · exact nextFirst sample behind

/-- What is late enough in an ordered list ends it. -/
theorem exists_early {α : Type*} {order : α → α → Prop} {late : α → Bool} {items : List α}
    (ordered : items.Pairwise order)
    (upward : ∀ {earlier later}, order earlier later → late earlier = true → late later = true) :
    ∃ early, items = early ++ items.filter late := by
  induction items with
  | nil => exact ⟨[], rfl⟩
  | cons item items ih =>
    obtain ⟨first, rest⟩ := pairwise_cons.mp ordered
    by_cases now : late item = true
    · have all : (item :: items).filter late = item :: items := by
        rw [filter_eq_self]
        intro other mem
        rcases mem_cons.mp mem with rfl | behind
        · exact now
        · exact upward (first other behind) now
      exact ⟨[], all.symm⟩
    · obtain ⟨early, split⟩ := ih rest
      refine ⟨item :: early, ?_⟩
      rw [filter_cons_of_neg now, cons_append, ← split]

end StepFunction
