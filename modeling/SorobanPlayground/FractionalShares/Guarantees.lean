import SorobanPlayground.FractionalShares.Conservation
import SorobanPlayground.FractionalShares.Dividends
import SorobanPlayground.RealEstate.Properties
import SorobanPlayground.TokenizedReit.Trusts

/-! # What both contracts guarantee

The REIT and the real-estate contract are issuers, so what holds of the runs of any issuer
holds of theirs.
-/

namespace SorobanPlayground.FractionalShares

/-- Calls signed by the admin and two investors. -/
def sampleEnv : Env Nat 0 := { timestamp := 0, auths := [1, 2, 3], contract_silent := zero_notMem_three_signers }

/-- The admin opens a trust of a thousand shares; an investor buys some and dividends are
deposited. -/
def fundedTrust (bought : Nat) : List (Env Nat 0 × TokenizedReit.Operation Nat) :=
  [(sampleEnv, .initializeReit 1), (sampleEnv, .createTrust 1 "REIT" 1000 10),
    (sampleEnv, .buyShares 2 1 bought), (sampleEnv, .depositDividends 1 1 10000000)]

def fundedProperty (bought : Nat) : List (Env Nat 0 × RealEstate.Operation Nat) :=
  [(sampleEnv, .initializeEstate 1), (sampleEnv, .listProperty 1 "Villa" 1000 10),
    (sampleEnv, .buyShares 2 1 bought), (sampleEnv, .depositRental 1 1 10000000)]

/-- While claims are made from holdings in step with the deposits only and nobody transfers shares
to itself, what the holders of a trust or a property are paid is fair. -/
theorem dividends_fair {Address : Type} [DecidableEq Address] (contract : Address) (id : Nat) :
    (∀ calls,
      ((TokenizedReit.issuer contract).journaled id).Meets
          ((TokenizedReit.issuer contract).Regular id) ({}, {}) calls →
        ((TokenizedReit.issuer contract).journaled id).Always
          (fun state => Fair (TokenizedReit.bookOf id state.1) state.2) ({}, {}) calls) ∧
    ∀ calls,
      ((RealEstate.issuer contract).journaled id).Meets
          ((RealEstate.issuer contract).Regular id) ({}, {}) calls →
        ((RealEstate.issuer contract).journaled id).Always
          (fun state => Fair (RealEstate.bookOf id state.1) state.2) ({}, {}) calls :=
  ⟨fun _ meets => (TokenizedReit.issuer contract).always_fair id meets,
    fun _ meets => (RealEstate.issuer contract).always_fair id meets⟩

/-- The owner of all shares claims, sends some of them on, and the receiver claims from the next
deposit. -/
theorem regular_dividends_fair :
    ((TokenizedReit.issuer (0 : Nat)).journaled 1).Always
        (fun state => Fair (TokenizedReit.bookOf 1 state.1) state.2) ({}, {})
        (fundedTrust 1000 ++ [(sampleEnv, .claimDividends 2 1),
          (sampleEnv, .transferShares 2 3 1 400), (sampleEnv, .depositDividends 1 1 5000000),
          (sampleEnv, .claimDividends 3 1)]) ∧
      ((RealEstate.issuer (0 : Nat)).journaled 1).Always
        (fun state => Fair (RealEstate.bookOf 1 state.1) state.2) ({}, {})
        (fundedProperty 1000 ++ [(sampleEnv, .claimRental 2 1),
          (sampleEnv, .transferShares 2 3 1 400), (sampleEnv, .depositRental 1 1 5000000),
          (sampleEnv, .claimRental 3 1)]) := by
  have apart : (2 : Nat) ≠ 3 := by decide
  obtain ⟨trusts, properties⟩ := dividends_fair (0 : Nat) 1
  constructor
  · apply trusts
    exact ⟨fun _ => True.intro, fun _ => True.intro, fun _ => True.intro, fun _ => True.intro,
      fun _ => rfl, fun _ => apart, fun _ => True.intro, fun _ => rfl, True.intro⟩
  · apply properties
    exact ⟨fun _ => True.intro, fun _ => True.intro, fun _ => True.intro, fun _ => True.intro,
      fun _ => rfl, fun _ => apart, fun _ => True.intro, fun _ => rfl, True.intro⟩

/-- The owner of a tenth of the shares claims twice after one deposit and is paid for more than a
tenth of it. -/
theorem partial_holder_paid_twice :
    ¬ (∀ calls, ((TokenizedReit.issuer (0 : Nat)).journaled 1).Always
        (fun state => Fair (TokenizedReit.bookOf 1 state.1) state.2) ({}, {}) calls) ∧
    ¬ ∀ calls, ((RealEstate.issuer (0 : Nat)).journaled 1).Always
        (fun state => Fair (RealEstate.bookOf 1 state.1) state.2) ({}, {}) calls := by
  constructor
  · intro always
    have fair := (always (fundedTrust 100 ++
      [(sampleEnv, .claimDividends 2 1), (sampleEnv, .claimDividends 2 1)])).final
    exact absurd (fair.within _ rfl 2) (by decide)
  · intro always
    have fair := (always (fundedProperty 100 ++
      [(sampleEnv, .claimRental 2 1), (sampleEnv, .claimRental 2 1)])).final
    exact absurd (fair.within _ rfl 2) (by decide)

/-- The shares of each trust and property add up, and no transfer takes income from its sender, in
exactly the runs whose transfers are careful. -/
theorem shares_conserved {Address : Type} [DecidableEq Address] (contract : Address) :
    (∀ calls,
      (TokenizedReit.machine contract).Always (TokenizedReit.issuer contract).Conserved {} calls ∧
          (TokenizedReit.machine contract).Meets (TokenizedReit.issuer contract).Kept {} calls ↔
        (TokenizedReit.machine contract).Meets (TokenizedReit.issuer contract).Careful {} calls) ∧
    ∀ calls,
      (RealEstate.machine contract).Always (RealEstate.issuer contract).Conserved {} calls ∧
          (RealEstate.machine contract).Meets (RealEstate.issuer contract).Kept {} calls ↔
        (RealEstate.machine contract).Meets (RealEstate.issuer contract).Careful {} calls :=
  ⟨fun calls => (TokenizedReit.issuer contract).conserved_iff_careful calls,
    fun calls => (RealEstate.issuer contract).conserved_iff_careful calls⟩

/-- An investor sends shares to itself and has more than were sold; another sends all its shares
and loses what it could claim. -/
theorem transfers_break_conservation :
    (¬ ∀ calls, (TokenizedReit.machine (0 : Nat)).Always
        (TokenizedReit.issuer (0 : Nat)).Conserved {} calls) ∧
      (¬ ∀ calls, (TokenizedReit.machine (0 : Nat)).Meets
        (TokenizedReit.issuer (0 : Nat)).Kept {} calls) ∧
      (¬ ∀ calls, (RealEstate.machine (0 : Nat)).Always
        (RealEstate.issuer (0 : Nat)).Conserved {} calls) ∧
      ¬ ∀ calls, (RealEstate.machine (0 : Nat)).Meets
        (RealEstate.issuer (0 : Nat)).Kept {} calls := by
  refine ⟨fun always => ?_, fun meets => ?_, fun always => ?_, fun meets => ?_⟩
  · have conserved := (always (fundedTrust 100 ++ [(sampleEnv, .transferShares 2 2 1 50)])).final 1
    exact absurd (conserved.held _ rfl) (by decide)
  · have kept := (meets (fundedTrust 100 ++
      [(sampleEnv, .transferShares 2 3 1 100)])).of_append.2.1 ⟨_, rfl⟩ 1
    exact absurd kept (by decide : ¬ (1000000 : Int) ≤ 0)
  · have conserved := (always (fundedProperty 100 ++
      [(sampleEnv, .transferShares 2 2 1 50)])).final 1
    exact absurd (conserved.held _ rfl) (by decide)
  · have kept := (meets (fundedProperty 100 ++
      [(sampleEnv, .transferShares 2 3 1 100)])).of_append.2.1 ⟨_, rfl⟩ 1
    exact absurd kept (by decide : ¬ (1000000 : Int) ≤ 0)

end SorobanPlayground.FractionalShares
