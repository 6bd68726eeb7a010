import SorobanPlayground.CrossChainBridge.Contract

/-! # The validators' quorum

The first submission for a deposit sets the hash of its proof, and only later
submissions of the same hash are counted. While the committee stays as it is, the
proof is therefore a function of the attempts alone (`ballot`): the hash of the
first of them, the number of validators who ever attempted it, up to the quorum,
and whether that number reached it. No other hash can be verified, however many
validators attempt it.
-/

namespace SorobanPlayground.CrossChainBridge

open State List

variable {Address : Type} [DecidableEq Address] {contract : Address}

/-- The hash that a registered validator attempts to submit for a deposit by a call. -/
def attempt (state : State Address) (id : Nat)
    (call : Env Address contract × Operation Address) : Option (Address × Bytes) :=
  match call.2 with
  | .submitProof validator depositId proofHash =>
      if depositId = id ∧ validator ∈ call.1.auths ∧ state.isValidator validator = true ∧
          ¬ proofHash.length = 0 then
        some (validator, proofHash)
      else none
  | _ => none

/-- The attempts of a list of calls, in order. -/
def attempts (state : State Address) (id : Nat)
    (calls : List (Env Address contract × Operation Address)) : List (Address × Bytes) :=
  calls.filterMap (attempt state id)

def firstHash (past : List (Address × Bytes)) : Bytes := past.head?.elim [] Prod.snd

/-- The validators who attempted a hash. -/
def backers (proofHash : Bytes) (past : List (Address × Bytes)) : Finset Address :=
  ((past.filter fun vote => vote.2 = proofHash).map Prod.fst).toFinset

/-- The proof that a quorum makes of some attempts. -/
def ballot (quorum : Nat) (past : List (Address × Bytes)) : Option ValidatorProof :=
  if past = [] then none
  else
    let votes := (backers (firstHash past) past).card
    some { proofHash := firstHash past, voteCount := min quorum votes,
           status := if quorum ≤ votes then .verified else .pending }

/-- The calls that change neither the validators nor the quorum nor the pause. -/
def Operation.KeepsCommittee : Operation Address → Prop
  | .setPaused .. | .setValidator .. | .setValidatorQuorum .. => False
  | _ => True

theorem backers_append (proofHash : Bytes) (past : List (Address × Bytes))
    (vote : Address × Bytes) :
    backers proofHash (past ++ [vote]) =
      if vote.2 = proofHash then insert vote.1 (backers proofHash past)
      else backers proofHash past := by
  unfold backers
  split
  · next same => ext; simp [same]
  · next ne => simp [ne]

omit [DecidableEq Address] in
theorem firstHash_append {past : List (Address × Bytes)} (cast : past ≠ [])
    (vote : Address × Bytes) : firstHash (past ++ [vote]) = firstHash past := by
  cases past with
  | nil => exact absurd rfl cast
  | cons => rfl

theorem backers_firstHash_pos {past : List (Address × Bytes)} (cast : past ≠ []) :
    0 < (backers (firstHash past) past).card := by
  cases past with
  | nil => exact absurd rfl cast
  | cons =>
    simp [backers, firstHash]

structure Seated (state : State Address) : Prop where
  quorum : 0 < state.validatorQuorum
  opened : ∀ id deposit, state.deposits.get id = some deposit → state.admin.isSome = true
  unvoted : ∀ id, state.proofs.get id = none →
    ∀ validator, state.hasValidatorVoted id validator = false

/-- What a successful call does to the committee, the votes and the deposits. -/
inductive VotingEffect (state : State Address) (call : Env Address contract × Operation Address)
    (next : State Address) : Prop
  | quiet (running : next.paused = state.paused ∨ next.paused = false ∧ state.admin = none)
      (known : ∀ id deposit, state.deposits.get id = some deposit →
        ∃ kept, next.deposits.get id = some kept)
      (validators : next.validators = state.validators)
      (quorum : next.validatorQuorum = state.validatorQuorum)
      (proofs : next.proofs = state.proofs) (votes : next.validatorVotes = state.validatorVotes)
  | settings (changes : ¬ call.2.KeepsCommittee)
      (quorum : next.validatorQuorum = state.validatorQuorum ∨ 0 < next.validatorQuorum)
      (proofs : next.proofs = state.proofs) (votes : next.validatorVotes = state.validatorVotes)
  | voted (validator : Address) (depositId : Nat) (proofHash : Bytes) (proof : ValidatorProof)
      (attempted : attempt state depositId call = some (validator, proofHash))
      (next_eq : next = { state with
        validatorVotes := state.validatorVotes.set (depositId, validator) true
        proofs := state.proofs.set depositId proof })

variable {env : Env Address contract}

section

omit [DecidableEq Address]

theorem known_of_set {deposits : FiniteMap Nat (Deposit Address)} {key : Nat}
    {wrote : Deposit Address} (id : Nat) (deposit : Deposit Address)
    (got : deposits.get id = some deposit) :
    ∃ kept, (deposits.set key wrote).get id = some kept := by
  rw [get_set]
  split
  · exact ⟨wrote, rfl⟩
  · exact ⟨deposit, got⟩

theorem mintDeposit_next {depositId : Nat} {ethTxHash : Bytes} {state next : State Address}
    (ran : mintDeposit env depositId ethTxHash state = .ok next) :
    ∃ wrote stats, next = { state with
      deposits := state.deposits.set depositId wrote
      stats := stats } := by
  simp only [mintDeposit, getDeposit, setDeposit, call_ok, arith_ok] at ran
  obtain ⟨_, -, -, -, _, -, rfl⟩ := ran
  exact ⟨_, _, rfl⟩

end

theorem assertAdmin_opened {caller : Address} {result : Unit} {state : State Address}
    (checked : assertAdmin state env caller = .ok result) : state.admin.isSome = true := by
  simp only [assertAdmin, assertInitialized, call_ok] at checked
  exact checked.1

theorem dispatch_voting {state next : State Address}
    {call : Env Address contract × Operation Address} (ran : dispatch state call = .ok next) :
    next.admin.isSome = true ∧ VotingEffect state call next := by
  obtain ⟨_, op⟩ := call
  cases op with
  | initializeBridge =>
    simp only [dispatch, initializeBridge, call_ok] at ran
    obtain ⟨fresh, -, -, rfl⟩ := ran
    have none := Option.isNone_iff_eq_none.mp (Option.isSome_eq_false_iff.mp fresh)
    exact ⟨rfl, .quiet (.inr ⟨rfl, none⟩) (fun _ deposit got => ⟨deposit, got⟩) rfl rfl rfl
      rfl⟩
  | lock =>
    obtain ⟨⟨id, after⟩, locked, rfl⟩ := map_eq_ok.mp ran
    simp only [lock, assertInitialized, accumulateDailyVolume, call_ok, arith_ok] at locked
    obtain ⟨opened, -, -, -, -, -, -, -, -, -, -, -, -, -, -, -, -, -, rfl⟩ := locked
    exact ⟨opened, .quiet (.inl rfl) known_of_set rfl rfl rfl rfl⟩
  | confirmMint =>
    simp only [dispatch, confirmMint, assertInitialized, call_ok] at ran
    obtain ⟨opened, -, -, -, minted⟩ := ran
    obtain ⟨wrote, stats, rfl⟩ := mintDeposit_next minted
    exact ⟨opened, .quiet (.inl rfl) known_of_set rfl rfl rfl rfl⟩
  | confirmMintWithProof =>
    simp only [dispatch, confirmMintWithProof, assertInitialized, call_ok] at ran
    obtain ⟨opened, -, -, -, -, -, -, minted⟩ := ran
    obtain ⟨_, _, rfl⟩ := mintDeposit_next minted
    exact ⟨opened, .quiet (.inl rfl) known_of_set rfl rfl rfl rfl⟩
  | refund =>
    obtain ⟨⟨_, after⟩, refunded, rfl⟩ := map_eq_ok.mp ran
    simp only [refund, assertInitialized, getDeposit, setDeposit, call_ok,
      arith_ok] at refunded
    obtain ⟨opened, -, _, -, -, -, -, _, -, -, rfl⟩ := refunded
    exact ⟨opened, .quiet (.inl rfl) known_of_set rfl rfl rfl rfl⟩
  | submitProof validator depositId proofHash =>
    obtain ⟨⟨_, _⟩, submitted, rfl⟩ := map_eq_ok.mp ran
    simp only [submitProof, submitValidatorVote, assertInitialized, call_ok, arith_ok] at submitted
    obtain ⟨opened, -, signed, registered, nonempty, _, -, -, -, -, -, -, rfl⟩ :=
      submitted
    refine ⟨opened, .voted validator depositId proofHash _ ?_ rfl⟩
    exact if_pos ⟨rfl, signed, registered, nonempty⟩
  | setPaused admin setting | setValidator admin account setting =>
    simp only [dispatch, setPaused, setValidator, call_ok] at ran
    obtain ⟨_, checked, rfl⟩ := ran
    exact ⟨assertAdmin_opened checked, .settings id (.inl rfl) rfl rfl⟩
  | setExpiry admin setting | setRelayer admin account setting =>
    simp only [dispatch, setExpiry, setRelayer, call_ok] at ran
    obtain ⟨_, checked, rfl⟩ := ran
    exact ⟨assertAdmin_opened checked,
      .quiet (.inl rfl) (fun _ deposit got => ⟨deposit, got⟩) rfl rfl rfl rfl⟩
  | setFee admin setting | setDailyLimit admin setting =>
    simp only [dispatch, setFee, setDailyLimit, call_ok, exists_and_left] at ran
    obtain ⟨_, checked, -, rfl⟩ := ran
    exact ⟨assertAdmin_opened checked,
      .quiet (.inl rfl) (fun _ deposit got => ⟨deposit, got⟩) rfl rfl rfl rfl⟩
  | setValidatorQuorum =>
    simp only [dispatch, setValidatorQuorum, call_ok, exists_and_left] at ran
    obtain ⟨_, checked, pos, rfl⟩ := ran
    exact ⟨assertAdmin_opened checked, .settings id (.inr (Nat.pos_of_ne_zero pos)) rfl rfl⟩

omit [DecidableEq Address] in
theorem seated_empty [DecidableEq Address] : Seated ({} : State Address) where
  quorum := Nat.succ_pos 1
  opened _ _ got := nomatch got
  unvoted _ _ _ := rfl

theorem seated_step (state : State Address) (call : Env Address contract × Operation Address)
    (next : State Address) (seated : Seated state)
    (ran : (machine contract).exec state call = .ok next) : Seated next := by
  obtain ⟨opened, effect⟩ := dispatch_voting ran
  refine ⟨?_, fun _ _ _ => opened, ?_⟩
  · cases effect with
    | quiet _ _ _ quorum => exact quorum ▸ seated.quorum
    | settings _ quorum =>
      rcases quorum with same | pos
      · exact same ▸ seated.quorum
      · exact pos
    | voted _ _ _ _ _ next_eq => exact next_eq ▸ seated.quorum
  · intro id gone voter
    unfold hasValidatorVoted
    cases effect with
    | quiet _ _ _ _ proofs votes =>
      rw [votes]
      exact seated.unvoted id (proofs ▸ gone) voter
    | settings _ _ proofs votes =>
      rw [votes]
      exact seated.unvoted id (proofs ▸ gone) voter
    | voted validator depositId _ _ _ next_eq =>
      subst next_eq
      rw [get_set] at gone
      split at gone
      · cases gone
      · next ne =>
        have other : (id, voter) ≠ (depositId, validator) :=
          fun same => ne (congrArg Prod.fst same)
        rw [get_set_of_ne _ _ other]
        exact seated.unvoted id gone voter

theorem seated_run (calls : List (Env Address contract × Operation Address)) :
    Seated ((machine contract).run {} calls) :=
  run_invariant seated_step seated_empty calls

/-- The bridge is open for the votes on a deposit and has recorded some attempts. -/
structure Recorded (start : State Address) (id : Nat) (past : List (Address × Bytes))
    (state : State Address) : Prop where
  initialized : state.admin.isSome = true
  running : state.paused = false
  known : ∃ deposit, state.deposits.get id = some deposit
  validators : state.validators = start.validators
  quorum : state.validatorQuorum = start.validatorQuorum
  proof : state.proofs.get id = ballot start.validatorQuorum past
  voters : (backers (firstHash past) past).card < start.validatorQuorum → ∀ validator,
    state.hasValidatorVoted id validator = true ↔ validator ∈ backers (firstHash past) past

variable {start state : State Address} {id : Nat} {past : List (Address × Bytes)}
  {call : Env Address contract × Operation Address}

theorem Recorded.quiet (recorded : Recorded start id past state)
    (keeps : call.2.KeepsCommittee) (none : attempt start id call = none) :
    Recorded start id past ((machine contract).apply state call) := by
  rcases (machine contract).apply_cases state call with ran | unchanged
  · obtain ⟨opened, effect⟩ := dispatch_voting ran
    obtain ⟨deposit, got⟩ := recorded.known
    cases effect with
    | quiet running known validators quorum proofs votes =>
      refine ⟨opened, ?_, known id deposit got, validators.trans recorded.validators,
        quorum.trans recorded.quorum, ?_, fun few voter => ?_⟩
      · rcases running with same | ⟨cleared, -⟩
        · exact same.trans recorded.running
        · exact cleared
      · rw [proofs]
        exact recorded.proof
      · unfold hasValidatorVoted
        rw [votes]
        exact recorded.voters few voter
    | settings changes => exact absurd keeps changes
    | voted validator depositId _ _ attempted next_eq =>
      have ne : id ≠ depositId := by
        rintro rfl
        unfold attempt isValidator at none attempted
        rw [recorded.validators, none] at attempted
        cases attempted
      rw [next_eq]
      refine ⟨recorded.initialized, recorded.running, ⟨deposit, got⟩, recorded.validators,
        recorded.quorum, ?_, fun few voter => ?_⟩
      · rw [← recorded.proof]
        exact get_set_of_ne _ _ ne
      · have other : (id, voter) ≠ (depositId, validator) :=
          fun same => ne (congrArg Prod.fst same)
        rw [← recorded.voters few voter]
        unfold hasValidatorVoted
        rw [get_set_of_ne _ _ other]
  · rwa [unchanged]

variable {validator : Address} {proofHash : Bytes} {proof : ValidatorProof}

section

variable (recorded : Recorded start id past state)
include recorded

theorem dispatch_attempt (attempted : attempt start id call = some (validator, proofHash)) :
    (machine contract).exec state call =
      Prod.snd <$> submitValidatorVote id validator proofHash state := by
  obtain ⟨_, op⟩ := call
  cases op with
  | submitProof voter =>
    unfold attempt at attempted
    dsimp only at attempted
    split at attempted
    · next valid =>
      obtain ⟨rfl, signed, registered, nonempty⟩ := valid
      obtain ⟨rfl, rfl⟩ := Prod.mk.inj (Option.some.inj attempted)
      obtain ⟨_, got⟩ := recorded.known
      have registered : state.isValidator voter = true := by
        unfold isValidator
        rwa [recorded.validators]
      refine congrArg (Prod.snd <$> ·) ?_
      simp only [submitProof, assertInitialized, recorded.initialized, recorded.running,
        registered, nonempty, getDeposit, got, ensure, orError, requireAuth,
        signed, if_true, not_false_eq_true]
      rfl
    · cases attempted
  | _ => cases attempted

theorem Recorded.refused {vote : Address × Bytes}
    {failure : Failure Error} (attempted : attempt start id call = some vote)
    (refused : submitValidatorVote id vote.1 vote.2 state = .error failure)
    (proof : ballot start.validatorQuorum (past ++ [vote]) = ballot start.validatorQuorum past)
    (voters : (backers (firstHash (past ++ [vote])) (past ++ [vote])).card < start.validatorQuorum →
      backers (firstHash (past ++ [vote])) (past ++ [vote]) = backers (firstHash past) past) :
    Recorded start id (past ++ [vote]) ((machine contract).apply state call) := by
  have failed : (machine contract).exec state call = .error failure := by
    rw [dispatch_attempt recorded attempted, refused]
    rfl
  have same : (machine contract).apply state call = state := by
    rw [CallMachine.apply, failed]
  rw [same]
  refine ⟨recorded.initialized, recorded.running, recorded.known, recorded.validators,
    recorded.quorum, recorded.proof.trans proof.symm, fun few voter => ?_⟩
  rw [voters few]
  rw [voters few] at few
  exact recorded.voters few voter

theorem Recorded.counted {vote : Address × Bytes} (attempted : attempt start id call = some vote)
    (counted : submitValidatorVote id vote.1 vote.2 state = .ok (proof, { state with
      validatorVotes := state.validatorVotes.set (id, vote.1) true
      proofs := state.proofs.set id proof }))
    (tallied : ballot start.validatorQuorum (past ++ [vote]) = some proof)
    (few : (backers (firstHash past) past).card < start.validatorQuorum)
    (voters : backers (firstHash (past ++ [vote])) (past ++ [vote]) =
      insert vote.1 (backers (firstHash past) past)) :
    Recorded start id (past ++ [vote]) ((machine contract).apply state call) := by
  have ran := dispatch_attempt recorded attempted
  rw [counted] at ran
  rw [apply_of_ok _ ran]
  refine ⟨recorded.initialized, recorded.running, recorded.known, recorded.validators,
    recorded.quorum, ?_, fun _ voter => ?_⟩
  · rw [tallied]
    exact get_set_self _ _ _
  · rw [voters, Finset.mem_insert, ← recorded.voters few voter]
    unfold hasValidatorVoted
    by_cases same : voter = vote.1
    · rw [same, get_set_self]
      exact iff_of_true rfl (.inl rfl)
    · have other : (id, voter) ≠ (id, vote.1) := fun equal => same (congrArg Prod.snd equal)
      rw [get_set_of_ne _ _ other, or_iff_right same]

end

theorem ballot_of_ne {quorum : Nat} (cast : past ≠ []) :
    ballot quorum past = some
      { proofHash := firstHash past, voteCount := min quorum (backers (firstHash past) past).card,
        status := if quorum ≤ (backers (firstHash past) past).card then .verified else .pending } :=
  if_neg cast

theorem submitValidatorVote_counts {votes : Nat}
    (fresh : state.hasValidatorVoted id validator = false)
    (got : (state.proofs.get id).getD ⟨proofHash, 0, .pending⟩ = ⟨proofHash, votes, .pending⟩)
    (fits : votes + 1 ≤ u32Max) :
    ∃ proof, proof = ValidatorProof.mk proofHash (votes + 1)
        (if state.validatorQuorum ≤ votes + 1 then .verified else .pending) ∧
      submitValidatorVote id validator proofHash state = .ok (proof, { state with
        validatorVotes := state.validatorVotes.set (id, validator) true
        proofs := state.proofs.set id proof }) := by
  refine ⟨_, rfl, ?_⟩
  simp only [submitValidatorVote, call_ok, arith_ok, got]
  exact ⟨fresh, by simp, fun mismatch => mismatch.2 rfl, fits, trivial, trivial⟩

theorem submitValidatorVote_again (voted : state.hasValidatorVoted id validator = true) :
    submitValidatorVote id validator proofHash state = .error (.error .alreadyVoted) := by
  simp only [submitValidatorVote, bind_eq_error, ensure_eq_error]
  refine .inl ⟨?_, trivial⟩
  rw [voted]
  simp

theorem submitValidatorVote_refused (got : state.proofs.get id = some proof)
    (closed : proof.status = .verified ∨ 0 < proof.voteCount ∧ proof.proofHash ≠ proofHash) :
    ∃ failure, submitValidatorVote id validator proofHash state = .error failure := by
  cases outcome : submitValidatorVote id validator proofHash state with
  | error failure => exact ⟨failure, rfl⟩
  | ok =>
    simp only [submitValidatorVote, call_ok, got, Option.getD_some] at outcome
    obtain ⟨-, unverified, agrees, -⟩ := outcome
    rcases closed with verified | mismatch
    · exact absurd verified unverified
    · exact absurd mismatch agrees

theorem Recorded.vote (recorded : Recorded start id past state)
    (pos : 0 < start.validatorQuorum) (bound : start.validatorQuorum ≤ u32Max)
    {vote : Address × Bytes} (attempted : attempt start id call = some vote) :
    Recorded start id (past ++ [vote]) ((machine contract).apply state call) := by
  have appended := fun proofHash => backers_append proofHash past vote
  by_cases few : (backers (firstHash past) past).card < start.validatorQuorum
  · by_cases voted : vote.1 ∈ backers (firstHash past) past
    · have cast : past ≠ [] := by
        rintro rfl
        cases voted
      have same : backers (firstHash past) (past ++ [vote]) = backers (firstHash past) past := by
        rw [appended]
        split
        · exact Finset.insert_eq_of_mem voted
        · rfl
      refine recorded.refused attempted
        (submitValidatorVote_again ((recorded.voters few vote.1).mpr voted)) ?_ fun _ => ?_
      · rw [ballot_of_ne cast, ballot_of_ne (by simp), firstHash_append cast, same]
      · rw [firstHash_append cast, same]
    · by_cases agrees : vote.2 = firstHash (past ++ [vote])
      · -- The hash is new or the one that is voted on already.
        have same : backers vote.2 past = backers (firstHash past) past := by
          by_cases cast : past = []
          · rw [cast]
            rfl
          · rw [agrees, firstHash_append cast]
        have inserted : backers (firstHash (past ++ [vote])) (past ++ [vote]) =
            insert vote.1 (backers (firstHash past) past) := by
          rw [← agrees, appended, if_pos rfl, same]
        have fresh : state.hasValidatorVoted id vote.1 = false := by
          rw [Bool.eq_false_iff]
          exact mt (recorded.voters few vote.1).mp voted
        have got : (state.proofs.get id).getD ⟨vote.2, 0, .pending⟩ =
            ⟨vote.2, (backers (firstHash past) past).card, .pending⟩ := by
          rw [recorded.proof]
          by_cases cast : past = []
          · rw [cast]
            rfl
          · rw [ballot_of_ne cast, Option.getD_some, min_eq_right few.le, if_neg (not_le.mpr few),
              agrees, firstHash_append cast]
        obtain ⟨proof, proof_eq, counted⟩ :=
          submitValidatorVote_counts fresh got (Nat.le_trans few bound)
        refine recorded.counted attempted counted ?_ few inserted
        rw [ballot_of_ne (by simp), inserted, Finset.card_insert_of_notMem voted, ← agrees,
          min_eq_right (Nat.succ_le_of_lt few), proof_eq, recorded.quorum]
      · have cast : past ≠ [] := by
          rintro rfl
          exact agrees rfl
        rw [firstHash_append cast] at agrees
        have same : backers (firstHash past) (past ++ [vote]) = backers (firstHash past) past := by
          rw [appended, if_neg agrees]
        have votes : 0 < min start.validatorQuorum (backers (firstHash past) past).card :=
          lt_min pos (backers_firstHash_pos cast)
        obtain ⟨failure, refused⟩ := submitValidatorVote_refused
          (recorded.proof.trans (ballot_of_ne cast)) (.inr ⟨votes, Ne.symm agrees⟩)
        refine recorded.refused attempted refused ?_ fun _ => ?_
        · rw [ballot_of_ne cast, ballot_of_ne (by simp), firstHash_append cast, same]
        · rw [firstHash_append cast, same]
  · have cast : past ≠ [] := by
      rintro rfl
      exact few pos
    have enough := not_lt.mp few
    have more : start.validatorQuorum ≤ (backers (firstHash past) (past ++ [vote])).card := by
      refine enough.trans (Finset.card_le_card ?_)
      rw [appended]
      split
      · exact Finset.subset_insert _ _
      · exact subset_rfl
    obtain ⟨_, refused⟩ := submitValidatorVote_refused
      (recorded.proof.trans (ballot_of_ne cast)) (.inl (if_pos enough))
    refine recorded.refused attempted refused ?_ fun fewer => ?_
    · rw [ballot_of_ne cast, ballot_of_ne (by simp), firstHash_append cast, if_pos enough,
        if_pos more, min_eq_left enough, min_eq_left more]
    · rw [firstHash_append cast] at fewer
      exact absurd more (not_le.mpr fewer)

theorem Recorded.run (pos : 0 < start.validatorQuorum)
    (bound : start.validatorQuorum ≤ u32Max) (recorded : Recorded start id past state)
    {calls : List (Env Address contract × Operation Address)}
    (keeps : ∀ call ∈ calls, call.2.KeepsCommittee) :
    Recorded start id (past ++ attempts start id calls) ((machine contract).run state calls) := by
  induction calls generalizing past state with
  | nil =>
    rw [attempts, filterMap_nil, append_nil]
    exact recorded
  | cons call _ ih =>
    obtain ⟨first, others⟩ := forall_mem_cons.mp keeps
    rw [run_cons, attempts, filterMap_cons]
    cases attempted : attempt start id call with
    | none => exact ih (recorded.quiet first attempted) others
    | some =>
      have later := ih (recorded.vote pos bound attempted) others
      rwa [append_assoc, singleton_append] at later

/-- The first attempt sets the hash, everyone who attempts it is counted up to the quorum, and the
proof is verified once the quorum attempted it. So where a quorum attempts one hash and less than a
quorum any other, that hash is verified exactly if it came first, and no other is in any case. -/
theorem first_attempt_decides_quorum
    (setup calls : List (Env Address contract × Operation Address)) (id : Nat)
    (locked : ∃ deposit, ((machine contract).run {} setup).deposits.get id = some deposit)
    (running : ((machine contract).run {} setup).paused = false)
    (unvoted : ((machine contract).run {} setup).proofs.get id = none)
    (bounded : ((machine contract).run {} setup).validatorQuorum ≤ u32Max)
    (keeps : ∀ call ∈ calls, call.2.KeepsCommittee) :
    let start := (machine contract).run {} setup
    let proof := ((machine contract).run start calls).proofs.get id
    let cast := attempts start id calls
    proof = ballot start.validatorQuorum cast ∧
    ∀ proofHash, start.validatorQuorum ≤ (backers proofHash cast).card →
      (∀ other, other ≠ proofHash → (backers other cast).card < start.validatorQuorum) →
      ((∃ votes, proof = some ⟨proofHash, votes, .verified⟩) ↔ firstHash cast = proofHash) ∧
      ∀ other votes, proof = some ⟨other, votes, .verified⟩ → other = proofHash := by
  intro start proof cast
  have seated : Seated start := seated_run setup
  obtain ⟨deposit, got⟩ := locked
  have initial : Recorded start id [] start := by
    refine ⟨seated.opened id deposit got, running, ⟨deposit, got⟩, rfl, rfl, unvoted, ?_⟩
    intro _ voter
    rw [seated.unvoted id unvoted voter]
    exact iff_of_false nofun nofun
  have counted : proof = ballot start.validatorQuorum cast :=
    (Recorded.run seated.quorum bounded initial keeps).proof
  refine ⟨counted, fun proofHash quorate others => ?_⟩
  have nonempty : cast ≠ [] := by
    intro none
    have attempted := seated.quorum.trans_le quorate
    rw [none] at attempted
    exact lt_irrefl 0 attempted
  rw [ballot_of_ne nonempty] at counted
  -- A verified proof has a quorum of backers, and only the one hash does.
  have verified : ∀ other votes, proof = some ⟨other, votes, .verified⟩ →
      firstHash cast = other ∧ other = proofHash := by
    intro other votes final
    obtain ⟨same, -, status⟩ := ValidatorProof.mk.inj (Option.mem_unique counted final)
    refine ⟨same, ?_⟩
    by_contra ne
    rw [if_neg (not_le.mpr (same ▸ others other ne))] at status
    cases status
  refine ⟨⟨?_, ?_⟩, fun other votes final => (verified other votes final).2⟩
  · rintro ⟨votes, final⟩
    exact (verified proofHash votes final).1
  · rintro rfl
    exact ⟨_, counted.trans (by rw [if_pos quorate])⟩

/-- A call that the addresses 1, 2 and 3 authorize. -/
def signedCall : Env Nat 0 :=
  { timestamp := 0, auths := [1, 2, 3], contract_silent := zero_notMem_three_signers }

/-- Three validators with a quorum of two, and a deposit. -/
def committeeCalls : List (Env Nat 0 × Operation Nat) :=
  [(signedCall, .initializeBridge 1 30 86400 1000000),
    (signedCall, .setValidator 1 1 true), (signedCall, .setValidator 1 2 true),
    (signedCall, .setValidator 1 3 true), (signedCall, .setValidatorQuorum 1 2),
    (signedCall, .lock 1 "USDC" 1000 "0xabc")]

/-- Validator 3 submits another hash before validators 1 and 2, who try twice. -/
def dishonestFirst : List (Env Nat 0 × Operation Nat) :=
  [(signedCall, .submitProof 3 1 [9]), (signedCall, .submitProof 1 1 [7]),
    (signedCall, .submitProof 2 1 [7]), (signedCall, .submitProof 1 1 [7]),
    (signedCall, .submitProof 2 1 [7])]

/-- Two of the three validators attempt one hash, which is the quorum, and one attempts another;
the proof stays pending for that other hash. -/
theorem one_validator_blocks_quorum :
    let start := (machine 0).run {} committeeCalls
    let cast := attempts start 1 dishonestFirst
    start.validatorQuorum = 2 ∧ (backers [7] cast).card = 2 ∧
      (∀ other, other ≠ [7] → (backers other cast).card < 2) ∧
      ((machine 0).run start dishonestFirst).proofs.get 1 = some ⟨[9], 1, .pending⟩ := by
  refine ⟨by decide, by decide, fun other ne => ?_, by decide⟩
  have cast : attempts ((machine 0).run {} committeeCalls) 1 dishonestFirst =
      [(3, [9]), (1, [7]), (2, [7]), (1, [7]), (2, [7])] := by decide
  rw [cast]
  by_cases nine : other = [9]
  · rw [nine]
    decide
  · simp [backers, Ne.symm ne, Ne.symm nine]

/-- The same attempts with the honest validators first. -/
theorem first_attempt_decides_quorum_of_committee :
    let start := (machine 0).run {} committeeCalls
    let proof := ((machine 0).run start dishonestFirst.reverse).proofs.get 1
    let cast := attempts start 1 dishonestFirst.reverse
    proof = ballot start.validatorQuorum cast ∧
    ∀ proofHash, start.validatorQuorum ≤ (backers proofHash cast).card →
      (∀ other, other ≠ proofHash → (backers other cast).card < start.validatorQuorum) →
      ((∃ votes, proof = some ⟨proofHash, votes, .verified⟩) ↔ firstHash cast = proofHash) ∧
      ∀ other votes, proof = some ⟨other, votes, .verified⟩ → other = proofHash := by
  refine first_attempt_decides_quorum committeeCalls dishonestFirst.reverse 1 ⟨_, rfl⟩ rfl rfl
    (by decide) ?_
  intro call mem
  have listed : call.2 ∈ dishonestFirst.reverse.map Prod.snd := mem_map_of_mem mem
  rcases call with ⟨_, _⟩
  simp only [dishonestFirst, reverse_cons, reverse_nil, nil_append, cons_append,
    map_cons, map_nil, mem_cons, not_mem_nil, or_false] at listed
  rcases listed with rfl | rfl | rfl | rfl | rfl <;> trivial

end SorobanPlayground.CrossChainBridge
