import WasmSolana.Basic

/-!
# Legacy and v0 messages

The part of `solana_message` that the account parsers call: which account of a message
signs, and which may be written. A legacy `Message` answers from its header and its
static keys; a v0 `LoadedMessage` also carries the addresses its lookup tables loaded,
writable ones first, and computes its writability once, in `LoadedMessage::new`, into a
cache that `is_writable` reads.

Both demote a key that an instruction invokes as a program, unless the upgradeable loader
is among the message's keys, and both refuse a key of the reserved set they are given.
The header arithmetic saturates, so it is `Nat` subtraction.

The address table lookups of a v0 message, the recent blockhash, and the account lists
and data of instructions are not read by these functions and are left out.
-/

namespace WasmSolana

/-! ## Messages -/

/-- `MessageHeader`. -/
structure MessageHeader where
  numRequiredSignatures : UInt8
  numReadonlySignedAccounts : UInt8
  numReadonlyUnsignedAccounts : UInt8
  deriving DecidableEq, Repr

/-- `CompiledInstruction`, by the index of the program it invokes. -/
structure CompiledInstruction where
  programIdIndex : UInt8
  deriving DecidableEq, Repr

/-- A legacy `Message`. -/
structure Message where
  header : MessageHeader
  accountKeys : List Pubkey
  instructions : List CompiledInstruction
  deriving DecidableEq, Repr

/-- A `v0::Message`. -/
structure V0Message where
  header : MessageHeader
  accountKeys : List Pubkey
  instructions : List CompiledInstruction
  deriving DecidableEq, Repr

/-- `LoadedAddresses`: the addresses the lookup tables loaded. -/
structure LoadedAddresses where
  writable : List Pubkey
  readonly : List Pubkey
  deriving DecidableEq, Repr

/-- `v0::LoadedMessage`. -/
structure LoadedMessage where
  message : V0Message
  loadedAddresses : LoadedAddresses
  isWritableAccountCache : List Bool
  deriving DecidableEq, Repr

/-! ## What both kinds share -/

/-- `is_signer`, the same in both: the first `num_required_signatures` keys sign. -/
def MessageHeader.isSigner (header : MessageHeader) (i : Nat) : Bool :=
  i < header.numRequiredSignatures.toNat

/-- `is_key_called_as_program`, the same in both: an index that does not fit `u8` is
never a program. -/
def isKeyCalledAsProgram (instructions : List CompiledInstruction) (keyIndex : Nat) : Bool :=
  if keyIndex < 256 then instructions.any fun ix => ix.programIdIndex == UInt8.ofNat keyIndex
  else false

/-- `is_upgradeable_loader_present`, over the keys each kind lists. -/
def isUpgradeableLoaderPresent (accountKeys : List Pubkey) : Bool :=
  accountKeys.any (· == bpfLoaderUpgradeableId)

theorem isKeyCalledAsProgram_iff {instructions : List CompiledInstruction} {i : Nat} :
    isKeyCalledAsProgram instructions i = true ↔ ∃ ix ∈ instructions, ix.programIdIndex.toNat = i := by
  unfold isKeyCalledAsProgram
  split
  · simp only [List.any_eq_true, beq_iff_eq]
    refine exists_congr fun ix => and_congr_right fun _ => ⟨fun h => ?_, fun h => ?_⟩
    · rw [h]; exact UInt8.toNat_ofNat_of_lt (by simpa [UInt8.size])
    · exact UInt8.toNat.inj (h.trans (UInt8.toNat_ofNat_of_lt (by simpa [UInt8.size])).symm)
  · simp only [Bool.false_eq_true, false_iff, not_exists, not_and]
    intro ix _ h
    have := ix.programIdIndex.toNat_lt_size
    simp [UInt8.size] at this; omega

/-! ## Legacy messages -/

namespace Message

variable (message : Message)

/-- `is_writable_index`. -/
def isWritableIndex (i : Nat) : Bool :=
  i < message.header.numRequiredSignatures.toNat - message.header.numReadonlySignedAccounts.toNat ||
    (i ≥ message.header.numRequiredSignatures.toNat &&
      i < message.accountKeys.length - message.header.numReadonlyUnsignedAccounts.toNat)

/-- `demote_program_id`. -/
def demoteProgramId (i : Nat) : Bool :=
  isKeyCalledAsProgram message.instructions i && !isUpgradeableLoaderPresent message.accountKeys

/-- `is_account_maybe_reserved`. -/
def isAccountMaybeReserved (keyIndex : Nat) (reservedAccountKeys : Option (Finset Pubkey)) :
    Bool :=
  match reservedAccountKeys, message.accountKeys[keyIndex]? with
  | some reservedAccountKeys, some key => decide (key ∈ reservedAccountKeys)
  | _, _ => false

/-- `is_maybe_writable`. -/
def isMaybeWritable (i : Nat) (reservedAccountKeys : Option (Finset Pubkey)) : Bool :=
  message.isWritableIndex i && !message.isAccountMaybeReserved i reservedAccountKeys &&
    !message.demoteProgramId i

/-- `is_signer`. -/
def isSigner (i : Nat) : Bool := message.header.isSigner i

end Message

/-! ## Loaded v0 messages -/

namespace LoadedMessage

variable (message : LoadedMessage)

/-- `account_keys`: the static keys, then the loaded writable and readonly addresses. -/
def accountKeys : List Pubkey :=
  message.message.accountKeys ++ message.loadedAddresses.writable ++
    message.loadedAddresses.readonly

/-- `static_account_keys`. -/
def staticAccountKeys : List Pubkey := message.message.accountKeys

/-- `is_writable_index`. -/
def isWritableIndex (keyIndex : Nat) : Bool :=
  let header := message.message.header
  let numAccountKeys := message.message.accountKeys.length
  let numSignedAccounts := header.numRequiredSignatures.toNat
  if keyIndex ≥ numAccountKeys then
    let loadedAddressesIndex := keyIndex - numAccountKeys
    loadedAddressesIndex < message.loadedAddresses.writable.length
  else if keyIndex ≥ numSignedAccounts then
    let numUnsignedAccounts := numAccountKeys - numSignedAccounts
    let numWritableUnsignedAccounts :=
      numUnsignedAccounts - header.numReadonlyUnsignedAccounts.toNat
    let unsignedAccountIndex := keyIndex - numSignedAccounts
    unsignedAccountIndex < numWritableUnsignedAccounts
  else
    let numWritableSignedAccounts :=
      numSignedAccounts - header.numReadonlySignedAccounts.toNat
    keyIndex < numWritableSignedAccounts

/-- `demote_program_id`: the loader is looked for among all keys, loaded ones included. -/
def demoteProgramId (i : Nat) : Bool :=
  isKeyCalledAsProgram message.message.instructions i &&
    !isUpgradeableLoaderPresent message.accountKeys

/-- `is_writable_internal`. -/
def isWritableInternal (keyIndex : Nat) (reservedAccountKeys : Finset Pubkey) : Bool :=
  if message.isWritableIndex keyIndex then
    match message.accountKeys[keyIndex]? with
    | some key => !(decide (key ∈ reservedAccountKeys) || message.demoteProgramId keyIndex)
    | none => false
  else false

/-- `LoadedMessage::new`: fills the writability cache, one entry per key. -/
def new (message : V0Message) (loadedAddresses : LoadedAddresses)
    (reservedAccountKeys : Finset Pubkey) : LoadedMessage :=
  let loaded : LoadedMessage := ⟨message, loadedAddresses, []⟩
  { loaded with
    isWritableAccountCache := (List.range loaded.accountKeys.length).map fun i =>
      loaded.isWritableInternal i reservedAccountKeys }

/-- `is_writable`: the cached answer, `false` past the end. -/
def isWritable (keyIndex : Nat) : Bool := (message.isWritableAccountCache[keyIndex]?).getD false

/-- `is_signer`. -/
def isSigner (i : Nat) : Bool := message.message.header.isSigner i

variable (m : V0Message) (la : LoadedAddresses) (r : Finset Pubkey)

@[simp] theorem message_new : (new m la r).message = m := rfl

@[simp] theorem loadedAddresses_new : (new m la r).loadedAddresses = la := rfl

/-- Past the static keys, an index is writable by index exactly when it falls among the
loaded writable addresses. -/
theorem isWritableIndex_of_le {i : Nat} (h : message.message.accountKeys.length ≤ i) :
    message.isWritableIndex i =
      decide (i - message.message.accountKeys.length < message.loadedAddresses.writable.length) := by
  unfold isWritableIndex
  exact if_pos h

/-- An index past the last key is never writable. -/
theorem isWritableInternal_of_le {i : Nat} (h : message.accountKeys.length ≤ i) :
    message.isWritableInternal i r = false := by
  unfold isWritableInternal
  rw [List.getElem?_eq_none h]
  split <;> rfl

/-- The cache holds `is_writable_internal` of every index, and an index past the end is
not writable either way. -/
theorem isWritable_new (i : Nat) :
    (new m la r).isWritable i = (new m la r).isWritableInternal i r := by
  show ((List.range (⟨m, la, []⟩ : LoadedMessage).accountKeys.length).map fun i =>
      (⟨m, la, []⟩ : LoadedMessage).isWritableInternal i r)[i]?.getD false =
    (⟨m, la, []⟩ : LoadedMessage).isWritableInternal i r
  by_cases hi : i < (⟨m, la, []⟩ : LoadedMessage).accountKeys.length
  · rw [List.getElem?_map, List.getElem?_range hi]; rfl
  · rw [List.getElem?_map, List.getElem?_eq_none (by simpa using hi),
      isWritableInternal_of_le _ _ (not_lt.1 hi)]
    rfl

end LoadedMessage

end WasmSolana
