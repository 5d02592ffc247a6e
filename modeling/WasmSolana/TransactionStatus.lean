import WasmSolana.Basic

/-!
# The commitment of a transaction status

A `TransactionStatus` reports how final a transaction is in two ways: a count of
confirmations, `None` once the slot is rooted, and, from newer nodes, a
`confirmation_status`. Two functions read them. `satisfies_commitment` answers whether the
status meets a `CommitmentConfig`; `confirmation_status()` returns the reported status or,
for older nodes, derives one from the count.

* `satisfiesCommitment_iff_rank`: on a status whose two fields agree as a node fills them,
  `satisfies_commitment` holds exactly when `confirmation_status()` is at least the level
  asked for, except at `Confirmed` for a status with no reported status and one
  confirmation: the fallback of `satisfies_commitment` asks for more than one
  confirmation, that of `confirmation_status()` for more than none;
* `satisfiesCommitment_mono`: on such a status, meeting a level means meeting every lower
  one.

The `slot`, `status` and `err` fields are read by neither function and are left out.
-/

namespace WasmSolana

/-- `TransactionConfirmationStatus`. -/
inductive TransactionConfirmationStatus
  | processed
  | confirmed
  | finalized
  deriving DecidableEq, Repr

/-- Position in the order `Processed < Confirmed < Finalized`. -/
def TransactionConfirmationStatus.rank : TransactionConfirmationStatus → Nat
  | .processed => 0
  | .confirmed => 1
  | .finalized => 2

/-- Position of a commitment level in the same order. -/
def CommitmentLevel.rank : CommitmentLevel → Nat
  | .processed => 0
  | .confirmed => 1
  | .finalized => 2

/-- The two fields of `TransactionStatus` that its commitment is read from. -/
structure TransactionStatus where
  confirmations : Option Nat
  confirmationStatus : Option TransactionConfirmationStatus
  deriving DecidableEq, Repr

namespace TransactionStatus

/-- `satisfies_commitment`. -/
def satisfiesCommitment (s : TransactionStatus) (commitmentConfig : CommitmentConfig) : Bool :=
  if commitmentConfig.isFinalized then s.confirmations.isNone
  else if commitmentConfig.isConfirmed then
    match s.confirmationStatus with
    | some status => status != .processed
    | none =>
      (match s.confirmations with
        | some n => decide (n > 1)
        | none => false) || s.confirmations.isNone
  else true

/-- `confirmation_status()`: the reported status, or one derived from the count. The prime
tells it from the field of the same name. -/
def confirmationStatus' (s : TransactionStatus) : TransactionConfirmationStatus :=
  match s.confirmationStatus with
  | some status => status
  | none =>
    match s.confirmations with
    | none => .finalized
    | some n => if n > 0 then .confirmed else .processed

/-- The fields as a node fills them: a finalized status has no count, a processed or
confirmed one has a count. -/
def Consistent : TransactionStatus → Prop
  | ⟨confirmations, some .finalized⟩ => confirmations = none
  | ⟨confirmations, some .confirmed⟩ => confirmations.isSome
  | ⟨confirmations, some .processed⟩ => confirmations.isSome
  | ⟨_, none⟩ => True

instance : DecidablePred Consistent
  | ⟨confirmations, some .finalized⟩ => inferInstanceAs (Decidable (confirmations = none))
  | ⟨confirmations, some .confirmed⟩ => inferInstanceAs (Decidable (confirmations.isSome))
  | ⟨confirmations, some .processed⟩ => inferInstanceAs (Decidable (confirmations.isSome))
  | ⟨_, none⟩ => instDecidableTrue

variable {s : TransactionStatus}

@[simp] theorem satisfiesCommitment_processed (s : TransactionStatus) :
    s.satisfiesCommitment ⟨.processed⟩ = true := rfl

@[simp] theorem satisfiesCommitment_finalized (s : TransactionStatus) :
    s.satisfiesCommitment ⟨.finalized⟩ = s.confirmations.isNone := rfl

/-! ## The two readings -/

/-- On a consistent status, `confirmation_status()` is `Finalized` exactly when the count
is `None`. -/
theorem rank_confirmationStatus'_eq_two (hs : s.Consistent) :
    s.confirmationStatus'.rank = 2 ↔ s.confirmations = none := by
  rcases s with ⟨_ | n, _ | status⟩
  · simp [confirmationStatus', TransactionConfirmationStatus.rank]
  · cases status <;> simp_all [Consistent, confirmationStatus', TransactionConfirmationStatus.rank]
  · simp only [confirmationStatus']
    split <;> simp [TransactionConfirmationStatus.rank]
  · cases status <;> simp_all [Consistent, confirmationStatus', TransactionConfirmationStatus.rank]

/-- At `Confirmed`, whatever the fields: `satisfies_commitment` holds exactly when
`confirmation_status()` is at least `Confirmed`, unless no status was reported and the
count is one. -/
theorem satisfiesCommitment_confirmed_iff (s : TransactionStatus) :
    s.satisfiesCommitment ⟨.confirmed⟩ = true ↔
      1 ≤ s.confirmationStatus'.rank ∧
        ¬ (s.confirmationStatus = none ∧ s.confirmations = some 1) := by
  rcases s with ⟨confirmations, _ | status⟩
  · rcases confirmations with _ | _ | _ | n <;> simp [satisfiesCommitment, confirmationStatus',
      TransactionConfirmationStatus.rank, CommitmentConfig.isFinalized,
      CommitmentConfig.isConfirmed]
  · cases status <;> simp [satisfiesCommitment, confirmationStatus',
      TransactionConfirmationStatus.rank, CommitmentConfig.isFinalized,
      CommitmentConfig.isConfirmed]

/-- On every consistent status and at every level, `satisfies_commitment` holds exactly
when `confirmation_status()` is at least that level, but for one pair: at `Confirmed`, a
status with no reported status and a count of one. -/
theorem satisfiesCommitment_iff_rank (s : TransactionStatus) (hs : s.Consistent)
    (c : CommitmentConfig) :
    s.satisfiesCommitment c = true ↔
      c.commitment.rank ≤ s.confirmationStatus'.rank ∧
        ¬ (c.commitment = .confirmed ∧ s.confirmationStatus = none ∧ s.confirmations = some 1) := by
  obtain ⟨_ | _ | _⟩ := c
  · simp [CommitmentLevel.rank]
  · simpa [CommitmentLevel.rank] using s.satisfiesCommitment_confirmed_iff
  · have hle : s.confirmationStatus'.rank ≤ 2 := by cases s.confirmationStatus' <;> decide
    rw [satisfiesCommitment_finalized, Option.isNone_iff_eq_none,
      ← rank_confirmationStatus'_eq_two hs]
    simp only [CommitmentLevel.rank, reduceCtorEq, false_and, not_false_eq_true, and_true]
    omega

theorem satisfiesCommitment_iff_rank_confirmed :
    (⟨some 10, some .confirmed⟩ : TransactionStatus).Consistent ∧
      ((⟨some 10, some .confirmed⟩ : TransactionStatus).satisfiesCommitment ⟨.confirmed⟩ = true ↔
        CommitmentLevel.rank .confirmed ≤
            (⟨some 10, some .confirmed⟩ : TransactionStatus).confirmationStatus'.rank ∧
          ¬ ((CommitmentLevel.confirmed = .confirmed) ∧
            (⟨some 10, some .confirmed⟩ : TransactionStatus).confirmationStatus = none ∧
            (⟨some 10, some .confirmed⟩ : TransactionStatus).confirmations = some 1)) :=
  ⟨by decide, satisfiesCommitment_iff_rank _ (by decide) ⟨.confirmed⟩⟩

/-- A status with no reported status and one confirmation, as an older node sends it:
`confirmation_status()` derives `Confirmed`, yet it does not satisfy `Confirmed`. -/
theorem single_confirmation_readings_differ :
    ¬ ∀ s : TransactionStatus, s.Consistent → ∀ c : CommitmentConfig,
      (s.satisfiesCommitment c = true ↔ c.commitment.rank ≤ s.confirmationStatus'.rank) :=
  fun h => absurd (h ⟨some 1, none⟩ trivial ⟨.confirmed⟩) (by decide)

/-- On a consistent status, a status that meets a level meets every lower one. -/
theorem satisfiesCommitment_mono (hs : s.Consistent) {c c' : CommitmentConfig}
    (hc : c.commitment.rank ≤ c'.commitment.rank) (h : s.satisfiesCommitment c' = true) :
    s.satisfiesCommitment c = true := by
  obtain ⟨_ | _ | _⟩ := c
  · rfl
  · obtain ⟨_ | _ | _⟩ := c'
    · simp [CommitmentLevel.rank] at hc
    · exact h
    · have hnone : s.confirmations = none := by simpa using h
      rw [satisfiesCommitment_confirmed_iff, (rank_confirmationStatus'_eq_two hs).2 hnone, hnone]
      simp
  · obtain ⟨_ | _ | _⟩ := c' <;> first | exact h | simp [CommitmentLevel.rank] at hc

theorem satisfiesCommitment_mono_finalized :
    (⟨none, some .finalized⟩ : TransactionStatus).Consistent ∧
      CommitmentLevel.rank .confirmed ≤ CommitmentLevel.rank .finalized ∧
      (⟨none, some .finalized⟩ : TransactionStatus).satisfiesCommitment ⟨.finalized⟩ = true ∧
      (⟨none, some .finalized⟩ : TransactionStatus).satisfiesCommitment ⟨.confirmed⟩ = true :=
  ⟨by decide, by decide, by decide,
    @satisfiesCommitment_mono _ (by decide) ⟨.confirmed⟩ ⟨.finalized⟩ (by decide) (by decide)⟩

end TransactionStatus

end WasmSolana
