import WasmSolana.Message

/-!
# `parse_accounts`: the account list of a message

`parse_legacy_message_accounts` and `parse_v0_message_accounts` walk the keys of a message
in order and record, for each, whether it is writable, whether it signs and where it comes
from. The legacy parser asks `is_maybe_writable` with the active set of
`ReservedAccountKeys::new_all_activated()`, a table of the `agave_reserved_account_keys`
crate that is a parameter here; the v0 parser reads the cache that `LoadedMessage::new`
filled with the reserved set it was given.

* `parse_v0_message_accounts_spec`: the entries of the v0 parser follow the three segments
  of the loaded keys, static, loaded writable and loaded readonly;
* `legacy_v0_parsers_agree`: on a message without lookups the two parsers give the same
  list, whatever the header, so the two writability rules coincide also on headers that
  their saturating subtractions clamp.
-/

namespace WasmSolana

/-- `ParsedAccountSource`. -/
inductive ParsedAccountSource
  | transaction
  | lookupTable
  deriving DecidableEq, Repr

/-- `ParsedAccount`. -/
structure ParsedAccount where
  pubkey : Pubkey
  writable : Bool
  signer : Bool
  source : Option ParsedAccountSource
  deriving DecidableEq, Repr

/-- `parse_legacy_message_accounts`. -/
def parseLegacyMessageAccounts (reservedAccountKeys : Finset Pubkey) (message : Message) :
    List ParsedAccount :=
  message.accountKeys.mapIdx fun i accountKey =>
    { pubkey := accountKey
      writable := message.isMaybeWritable i (some reservedAccountKeys)
      signer := message.isSigner i
      source := some .transaction }

/-- `parse_v0_message_accounts`. -/
def parseV0MessageAccounts (message : LoadedMessage) : List ParsedAccount :=
  message.accountKeys.mapIdx fun i accountKey =>
    let source :=
      if i < message.staticAccountKeys.length then ParsedAccountSource.transaction
      else .lookupTable
    { pubkey := accountKey
      writable := message.isWritable i
      signer := message.isSigner i
      source := some source }

theorem isUpgradeableLoaderPresent_iff {keys : List Pubkey} :
    isUpgradeableLoaderPresent keys = true ↔ bpfLoaderUpgradeableId ∈ keys := by
  simp [isUpgradeableLoaderPresent]

/-! ## The v0 parser -/

/-- An entry of the v0 parser, read off the loaded keys. -/
theorem getElem?_parseV0MessageAccounts {message : LoadedMessage} {i : Nat} {a : ParsedAccount}
    (h : (parseV0MessageAccounts message)[i]? = some a) :
    message.accountKeys[i]? = some a.pubkey ∧
      a.writable = message.isWritable i ∧ a.signer = message.isSigner i ∧
      a.source = some (if i < message.staticAccountKeys.length then .transaction else .lookupTable) := by
  simp only [parseV0MessageAccounts, List.getElem?_mapIdx, Option.map_eq_some'] at h
  obtain ⟨key, hkey, rfl⟩ := h
  exact ⟨hkey, rfl, rfl, rfl⟩

/-- A key is demoted when an instruction invokes it while the upgradeable loader is not
among the keys. -/
theorem demoteProgramId_iff {message : LoadedMessage} {i : Nat} :
    message.demoteProgramId i = true ↔
      (∃ ix ∈ message.message.instructions, ix.programIdIndex.toNat = i) ∧
        bpfLoaderUpgradeableId ∉ message.accountKeys := by
  rw [LoadedMessage.demoteProgramId, Bool.and_eq_true, isKeyCalledAsProgram_iff,
    Bool.not_eq_true', ← Bool.not_eq_true, isUpgradeableLoaderPresent_iff]

/-- The entries of `parse_v0_message_accounts` on a loaded message, for every size of
its three segments `S`, `W` and `R` and every header: entry `i` has the `i`-th key of
`S ++ W ++ R`; it comes from the transaction exactly when `i < |S|`; it signs exactly when
`i` is below `num_required_signatures`; a readonly loaded address is never writable; a
writable loaded address is writable unless it is reserved or invoked as a program while
the upgradeable loader is absent; and when the signers fit in `S`, no loaded address
signs. -/
theorem parse_v0_message_accounts_spec (message : V0Message) (loadedAddresses : LoadedAddresses)
    (reservedAccountKeys : Finset Pubkey) :
    (parseV0MessageAccounts (.new message loadedAddresses reservedAccountKeys)).length =
        message.accountKeys.length + loadedAddresses.writable.length +
          loadedAddresses.readonly.length ∧
    ∀ i a, (parseV0MessageAccounts (.new message loadedAddresses reservedAccountKeys))[i]? =
        some a →
      (message.accountKeys ++ loadedAddresses.writable ++ loadedAddresses.readonly)[i]? =
        some a.pubkey ∧
      (a.source = some .transaction ↔ i < message.accountKeys.length) ∧
      (a.source = some .lookupTable ↔ message.accountKeys.length ≤ i) ∧
      (a.signer = true ↔ i < message.header.numRequiredSignatures.toNat) ∧
      (message.accountKeys.length + loadedAddresses.writable.length ≤ i → a.writable = false) ∧
      (message.accountKeys.length ≤ i →
        i < message.accountKeys.length + loadedAddresses.writable.length →
        (a.writable = true ↔ ¬ (a.pubkey ∈ reservedAccountKeys ∨
          (∃ ix ∈ message.instructions, ix.programIdIndex.toNat = i) ∧
            bpfLoaderUpgradeableId ∉
              message.accountKeys ++ loadedAddresses.writable ++ loadedAddresses.readonly))) ∧
      (message.header.numRequiredSignatures.toNat ≤ message.accountKeys.length →
        message.accountKeys.length ≤ i → a.signer = false) := by
  refine ⟨by simp [parseV0MessageAccounts, LoadedMessage.accountKeys, Nat.add_assoc], ?_⟩
  intro i a h
  obtain ⟨hkey, hw, hs, hsrc⟩ := getElem?_parseV0MessageAccounts h
  rw [LoadedMessage.isWritable_new] at hw
  have hsig : a.signer = true ↔ i < message.header.numRequiredSignatures.toNat := by
    simp [hs, LoadedMessage.isSigner, MessageHeader.isSigner]
  have hstatic : (LoadedMessage.new message loadedAddresses reservedAccountKeys).staticAccountKeys =
      message.accountKeys := rfl
  refine ⟨hkey, ?_, ?_, hsig, fun hi => ?_, fun hi hi' => ?_, fun hn hi => ?_⟩
  · rw [hsrc, hstatic]; split <;> simp_all
  · rw [hsrc, hstatic]; split <;> simp <;> omega
  · rw [hw, LoadedMessage.isWritableInternal,
      LoadedMessage.isWritableIndex_of_le _ (hi.trans' (Nat.le_add_right _ _))]
    split
    · rename_i hlt; simp at hlt; omega
    · rfl
  · rw [hw, LoadedMessage.isWritableInternal, LoadedMessage.isWritableIndex_of_le _ hi, hkey]
    split
    · rw [Bool.not_eq_true', Bool.eq_false_iff, ne_eq, Bool.or_eq_true, decide_eq_true_eq,
        demoteProgramId_iff]
      rfl
    · rename_i hge; simp at hge; omega
  · rw [← Bool.not_eq_true, hsig]; omega

/-! ## Legacy and v0 agree -/

/-- On a message without lookups, the v0 writability index rule is the legacy one. -/
theorem isWritableIndex_lookupFree (message : Message) (reservedAccountKeys : Finset Pubkey)
    {i : Nat} (hi : i < message.accountKeys.length) :
    (LoadedMessage.new ⟨message.header, message.accountKeys, message.instructions⟩ ⟨[], []⟩
      reservedAccountKeys).isWritableIndex i = message.isWritableIndex i := by
  simp only [LoadedMessage.isWritableIndex, Message.isWritableIndex, LoadedMessage.message_new,
    LoadedMessage.loadedAddresses_new]
  split
  · omega
  · split <;> (rw [Bool.eq_iff_iff]; simp only [decide_eq_true_eq, Bool.or_eq_true,
      Bool.and_eq_true, ge_iff_le]; omega)

/-- The legacy and v0 parsers give the same list on every legacy message, loaded as a v0
message with the same header, keys and instructions, no loaded addresses and the same
reserved set. -/
theorem legacy_v0_parsers_agree (reservedAccountKeys : Finset Pubkey) (message : Message) :
    parseLegacyMessageAccounts reservedAccountKeys message =
      parseV0MessageAccounts (.new ⟨message.header, message.accountKeys, message.instructions⟩
        ⟨[], []⟩ reservedAccountKeys) := by
  apply List.ext_getElem?
  intro i
  have hkeys : (LoadedMessage.new ⟨message.header, message.accountKeys, message.instructions⟩
      ⟨[], []⟩ reservedAccountKeys).accountKeys = message.accountKeys := by
    simp [LoadedMessage.accountKeys]
  simp only [parseLegacyMessageAccounts, parseV0MessageAccounts, List.getElem?_mapIdx, hkeys]
  cases hk : message.accountKeys[i]? with
  | none => rfl
  | some key =>
    have hi : i < message.accountKeys.length := (List.getElem?_eq_some_iff.1 hk).1
    simp only [Option.map_some', Option.some.injEq, ParsedAccount.mk.injEq, true_and]
    refine ⟨?_, rfl, by simp [LoadedMessage.staticAccountKeys, hi]⟩
    rw [LoadedMessage.isWritable_new, LoadedMessage.isWritableInternal,
      isWritableIndex_lookupFree _ _ hi, hkeys, hk]
    simp only [Message.isMaybeWritable, Message.isAccountMaybeReserved, hk,
      Message.demoteProgramId, LoadedMessage.demoteProgramId, hkeys]
    cases message.isWritableIndex i <;> simp

end WasmSolana
