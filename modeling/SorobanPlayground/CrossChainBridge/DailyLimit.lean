import SorobanPlayground.CrossChainBridge.Contract

/-! # The daily limit

The limit is meant for windows of a day, each from its first lock. The bridge
keeps the volume and the time of the last lock, so that its window ends only
when a day passes without a lock.
-/

namespace SorobanPlayground.CrossChainBridge

variable {Address : Type} {contract : Address}

/-- The current window: when its first lock was, and the gross volume locked in it. -/
structure DailyWindow where
  start : Option Nat := none
  volume : Int := 0

/-- The window lasts a day from its first lock. -/
def DailyWindow.Open (window : DailyWindow) (now : Nat) : Prop :=
  ∃ start, window.start = some start ∧ now < start + 86400

instance (window : DailyWindow) (now : Nat) : Decidable (window.Open now) :=
  decidable_of_iff (∃ start ∈ window.start, now < start + 86400) Iff.rfl

/-- The volume that counts against the limit at a time. -/
def DailyWindow.volumeAt (window : DailyWindow) (now : Nat) : Int :=
  if window.Open now then window.volume else 0

/-- A lock is counted in the open window or opens the next. -/
def DailyWindow.lock (window : DailyWindow) (now : Nat) (amount : Int) : DailyWindow where
  start := if window.Open now then window.start else some now
  volume := window.volumeAt now + amount

/-- Each successful lock is counted in its window. -/
def followWindow (_ : State Address) (call : Env Address contract × Operation Address)
    (_ : State Address) (window : DailyWindow) : DailyWindow :=
  match call.2 with
  | .lock _ _ amount _ => window.lock call.1.timestamp amount
  | _ => window

/-- The bridge's window and the current one end together: either both are open or a day has passed
since the last lock. -/
def EndsWithGap (state : State Address) (window : DailyWindow) (now : Nat) : Prop :=
  window.start = none ∨ (window.Open now ↔ now < state.dailyVolumeTs + 86400)

/-- Where there is no limit below the largest amount, the volumes stay representable. -/
def Representable (state : State Address) (window : DailyWindow) (now : Nat) (amount : Int) :
    Prop :=
  state.dailyLimit < i128Max ∨ window.volumeAt now + amount ≤ i128Max

/-- Each lock falls in the current window or comes a day after the last lock. -/
def LocksRegularly (windowed : State Address × DailyWindow)
    (call : Env Address contract × Operation Address) : Prop :=
  match call.2 with
  | .lock _ _ amount _ => EndsWithGap windowed.1 windowed.2 call.1.timestamp ∧
      Representable windowed.1 windowed.2 call.1.timestamp amount
  | _ => True

/-- The volume of the bridge is the one of the window. -/
def Follows (windowed : State Address × DailyWindow) : Prop :=
  windowed.1.dailyVolume = windowed.2.volume ∧ 0 ≤ windowed.2.volume ∧
    (windowed.2.start = none → windowed.2.volume = 0)

def State.countedAt (state : State Address) (now : Nat) : Int :=
  if 86400 ≤ now - state.dailyVolumeTs then 0 else state.dailyVolume

variable {now : Nat}

theorem Follows.counted {state : State Address} {window : DailyWindow}
    (follows : Follows (state, window)) (ends : EndsWithGap state window now) :
    state.countedAt now = window.volumeAt now := by
  obtain ⟨same, -, empty⟩ := follows
  unfold State.countedAt DailyWindow.volumeAt
  rcases ends with unopened | together
  · rw [same, empty unopened, ite_self, ite_self]
  · rw [same]
    by_cases inside : window.Open now
    · rw [if_pos inside, if_neg (by have := together.mp inside; omega)]
    · rw [if_neg inside, if_pos (by have := mt together.mpr inside; omega)]

theorem Follows.volumeAt_nonneg {windowed : State Address × DailyWindow}
    (follows : Follows windowed) (now : Nat) : 0 ≤ windowed.2.volumeAt now := by
  unfold DailyWindow.volumeAt
  split
  · exact follows.2.1
  · exact le_rfl

variable [DecidableEq Address] {env : Env Address contract} {state next : State Address}
  {window : DailyWindow}

/-- The checks of a lock before the limit. -/
structure Admitted (env : Env Address contract) (depositor : Address) (token : String)
    (amount : Int) (ethDestination : String) (state : State Address) : Prop where
  opened : state.admin.isSome = true
  running : state.paused = false
  signed : depositor ∈ env.auths
  positive : ¬ amount ≤ 0
  token : ¬ token.length = 0
  destination : ¬ ethDestination.length = 0

theorem lock_exceeded_iff {depositor : Address} {token ethDestination : String} {amount : Int}
    (admitted : Admitted env depositor token amount ethDestination state) :
    lock env depositor token amount ethDestination state =
        .error (.error .dailyLimitExceeded) ↔
      state.dailyLimit < saturateI128 (state.countedAt env.timestamp + amount) := by
  obtain ⟨opened, running, signed, pos, named, addressed⟩ := admitted
  simp only [lock, accumulateDailyVolume, assertInitialized, bind_eq_error,
    ensure_eq_error, requireAuth_eq_error, checkedMul_eq_error, checkedDiv_eq_error,
    checkedSub_eq_error, checkedAdd_eq_error, inUnsigned_eq_error, call_ok, opened, running,
    signed, pos, named, addressed]
  simp [State.countedAt]
  simp [pure_ne_error]

variable {call : Env Address contract × Operation Address}

theorem dispatch_volume (ran : dispatch state call = .ok next) : match call.2 with
    | .lock _ _ amount _ => 0 < amount ∧
        next.dailyVolume = saturateI128 (state.countedAt call.1.timestamp + amount) ∧
        next.dailyVolumeTs = call.1.timestamp ∧ next.dailyVolume ≤ state.dailyLimit
    | _ => next.dailyVolume = state.dailyVolume ∧ next.dailyVolumeTs = state.dailyVolumeTs := by
  obtain ⟨_, op⟩ := call
  cases op with
  | lock =>
    obtain ⟨⟨_, after⟩, locked, rfl⟩ := map_eq_ok.mp ran
    simp only [lock, assertInitialized, accumulateDailyVolume, call_ok, arith_ok] at locked
    obtain ⟨-, -, -, pos, -, -, _, within, _, -, _, -, _, -, _, -, _, -, _, -, _, -, _, -, -,
      rfl⟩ := locked
    exact ⟨not_le.mp pos, rfl, rfl, not_lt.mp (ensure_eq_ok.mp within)⟩
  | confirmMint =>
    simp only [dispatch, confirmMint, mintDeposit, call_ok] at ran
    obtain ⟨-, -, -, -, -, _, -, -, -, _, -, rfl⟩ := ran
    exact ⟨rfl, rfl⟩
  | confirmMintWithProof =>
    simp only [dispatch, confirmMintWithProof, mintDeposit, call_ok] at ran
    obtain ⟨-, -, -, -, -, -, -, -, _, -, -, -, _, -, rfl⟩ := ran
    exact ⟨rfl, rfl⟩
  | refund =>
    obtain ⟨⟨_, after⟩, refunded, rfl⟩ := map_eq_ok.mp ran
    simp only [refund, call_ok] at refunded
    obtain ⟨-, -, -, _, -, -, -, -, _, -, -, rfl⟩ := refunded
    exact ⟨rfl, rfl⟩
  | submitProof =>
    obtain ⟨⟨_, _⟩, submitted, rfl⟩ := map_eq_ok.mp ran
    simp only [submitProof, submitValidatorVote, call_ok] at submitted
    obtain ⟨-, -, -, -, -, -, -, -, -, -, -, -, _, -, -, rfl⟩ := submitted
    exact ⟨rfl, rfl⟩
  | initializeBridge =>
    simp only [dispatch, initializeBridge, call_ok] at ran
    obtain ⟨-, -, -, rfl⟩ := ran
    exact ⟨rfl, rfl⟩
  | setPaused admin setting | setExpiry admin setting | setRelayer admin account setting
  | setValidator =>
    simp only [dispatch, setPaused, setExpiry, setRelayer, setValidator, call_ok] at ran
    obtain ⟨-, -, rfl⟩ := ran
    exact ⟨rfl, rfl⟩
  | setFee admin setting | setDailyLimit admin setting | setValidatorQuorum admin setting =>
    simp only [dispatch, setFee, setDailyLimit, setValidatorQuorum, call_ok] at ran
    obtain ⟨-, -, -, rfl⟩ := ran
    exact ⟨rfl, rfl⟩

def windowedMachine (contract : Address) :
    CallMachine (State Address × DailyWindow) (Env Address contract × Operation Address)
      (Failure Error) :=
  (machine contract).withGhost followWindow

omit [DecidableEq Address] in
theorem saturates_below {state : State Address} {window : DailyWindow} {amount : Int}
    (counted : state.countedAt now = window.volumeAt now)
    (nonneg : 0 ≤ window.volumeAt now + amount) (fits : Representable state window now amount)
    (within : saturateI128 (state.countedAt now + amount) ≤ state.dailyLimit) :
    saturateI128 (state.countedAt now + amount) = window.volumeAt now + amount := by
  unfold Representable at fits
  unfold saturateI128 at *
  have lowest : i128Min ≤ 0 := by decide
  omega

theorem follows_step {windowed after : State Address × DailyWindow} (follows : Follows windowed)
    (regular : LocksRegularly windowed call)
    (ran : (windowedMachine contract).exec windowed call = .ok after) : Follows after := by
  refine withGhost_step ran fun next stepped => ?_
  have volume := dispatch_volume stepped
  obtain ⟨_, window⟩ := windowed
  obtain ⟨env, op⟩ := call
  cases op with
  | lock _ _ amount =>
    obtain ⟨pos, wrote, -, within⟩ := volume
    obtain ⟨ends, fits⟩ := regular
    have counted := follows.counted ends
    have nonneg : 0 ≤ window.volumeAt env.timestamp + amount :=
      add_nonneg (follows.volumeAt_nonneg _) pos.le
    rw [wrote] at within
    refine ⟨wrote.trans (saturates_below counted nonneg fits within), nonneg, ?_⟩
    intro never
    change (if window.Open env.timestamp then window.start else some env.timestamp) = none at never
    split at never
    · next isOpen =>
      obtain ⟨_, got, -⟩ := isOpen
      cases got.symm.trans never
    · cases never
  | _ => exact ⟨volume.1.trans follows.1, follows.2⟩

/-- After every run of regular locks, an admitted regular lock exceeds the limit exactly when its
amount does together with the gross volume locked in the current window. -/
theorem daily_limit_exact {calls : List (Env Address contract × Operation Address)}
    (regular : (windowedMachine contract).Meets LocksRegularly ({}, {}) calls)
    {env : Env Address contract} {depositor : Address} {token ethDestination : String}
    {amount : Int} {state : State Address} {window : DailyWindow}
    (reached : (windowedMachine contract).run ({}, {}) calls = (state, window))
    (next : LocksRegularly (state, window) (env, .lock depositor token amount ethDestination))
    (admitted : Admitted env depositor token amount ethDestination state) :
    lock env depositor token amount ethDestination state =
        .error (.error .dailyLimitExceeded) ↔
      state.dailyLimit < window.volumeAt env.timestamp + amount := by
  have follows : Follows (state, window) := by
    rw [← reached]
    exact (always_of_meets (fun _ _ _ follows locks ran => follows_step follows locks ran)
      ⟨rfl, le_rfl, fun _ => rfl⟩ regular).final
  have ends : EndsWithGap state window env.timestamp := next.1
  have fits : state.dailyLimit < i128Max ∨ window.volumeAt env.timestamp + amount ≤ i128Max :=
    next.2
  rw [lock_exceeded_iff admitted, follows.counted ends]
  have lowest : i128Min ≤ 0 := by decide
  have nonneg : 0 ≤ window.volumeAt env.timestamp := follows.volumeAt_nonneg _
  have pos := admitted.positive
  unfold saturateI128
  omega

/-- A call that user 1 authorizes. -/
def signedAt (timestamp : Nat) : Env Nat 0 :=
  { timestamp, auths := [1], contract_silent := by decide }

def steadyLocks : List (Env Nat 0 × Operation Nat) :=
  [(signedAt 0, .initializeBridge 1 0 86400 100), (signedAt 0, .lock 1 "USDC" 30 "0xabc"),
    (signedAt 43200, .lock 1 "USDC" 30 "0xabc"), (signedAt 86400, .lock 1 "USDC" 30 "0xabc")]

theorem steady_locks_rejected :
    let windowed := (windowedMachine 0).run ({}, {}) steadyLocks
    Admitted (signedAt 129600) 1 "USDC" 30 "0xabc" windowed.1 ∧
      windowed.2.start = some 86400 ∧ windowed.2.volumeAt 129600 + 30 ≤ windowed.1.dailyLimit ∧
      lock (signedAt 129600) 1 "USDC" 30 "0xabc" windowed.1 =
        .error (.error .dailyLimitExceeded) :=
  ⟨⟨rfl, rfl, by decide, by decide, by decide, by decide⟩, rfl, by decide, rfl⟩

theorem daily_limit_exact_within_a_day :
    let windowed := (windowedMachine 0).run ({}, {}) (steadyLocks.take 3)
    lock (signedAt 86399) 1 "USDC" 50 "0xabc" windowed.1 = .error (.error .dailyLimitExceeded) ↔
      windowed.1.dailyLimit < windowed.2.volumeAt 86399 + 50 := by
  have regular : (windowedMachine 0).Meets LocksRegularly ({}, {}) (steadyLocks.take 3) :=
    ⟨fun _ => trivial, fun _ => ⟨.inl rfl, .inl (by decide)⟩,
      fun _ => ⟨.inr (by decide), .inl (by decide)⟩, trivial⟩
  exact daily_limit_exact regular rfl ⟨.inr (by decide), .inl (by decide)⟩
    ⟨rfl, rfl, by decide, by decide, by decide, by decide⟩

end SorobanPlayground.CrossChainBridge
