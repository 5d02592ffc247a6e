import WasmSolana.Decode
import WasmSolana.Message
import WasmSolana.Base64
import WasmSolana.Base58

/-!
# Binary fields as text

The RPC types carry binary data as text. `UiTransactionReturnData::from` writes return data
in base64 and `UiCompiledInstruction::from` writes instruction data in base58;
`UiInnerInstructions::from` and `UiTransactionStatusMeta::from` apply them throughout a
status meta. In the other direction `UiAccountData::decode` and `EncodedTransaction::decode`
read base58 and base64 text with `bs58` and `BASE64_STANDARD`, the codecs of `Base58` and
`Base64`, which stand here for the decoders that `Decode` takes as parameters.

* `UiAccountData.decodes_exactly_canonical_texts`: account data decodes to `bytes` exactly
  when its text is the base58 or base64 encoding of `bytes`, or the base64 encoding of what
  zstd inflates to `bytes`;
* `EncodedTransaction.decodes_exactly_canonical_blobs`: a transaction decodes exactly from the
  base58 or base64 encoding of bytes that deserialize to it, when it passes `sanitize`;
* `UiTransactionStatusMeta.eq_of_from_eq`: the UI form of a status meta determines the
  meta, texts included.
-/

namespace WasmSolana

/-! ## Decoding with the crates' codecs -/

section AccountData

variable (zstdDecode : Option (List UInt8 → Option (List UInt8)))

/-- With `bs58` and `BASE64_STANDARD`, account data decodes to `bytes` exactly when it is
the base58 text of `bytes`, in the legacy form or not, their base64 text, or, with the
`zstd` feature, the base64 text of bytes that zstd inflates to `bytes`. -/
theorem UiAccountData.decodes_exactly_canonical_texts (data : UiAccountData)
    (bytes : List UInt8) :
    data.decode Base58.decode Base64.decode zstdDecode = some bytes ↔
      .legacyBinary (Base58.encode bytes) = data ∨
      .binary (Base58.encode bytes) .base58 = data ∨
      .binary (Base64.encode bytes) .base64 = data ∨
      ∃ zstd, zstdDecode = some zstd ∧
        ∃ raw, .binary (Base64.encode raw) .base64Zstd = data ∧ zstd raw = some bytes := by
  rcases data with blob | _ | ⟨blob, _ | _ | _ | _ | _⟩ <;>
    simp [UiAccountData.decode, Base58.decode_eq_some_iff_encode, Base64.decode_eq_some_iff]
  cases zstdDecode <;> simp [Option.bind_eq_some, Base64.decode_eq_some_iff]

end AccountData

section Transactions

variable {Tx : Type} (deserialize : List UInt8 → Option Tx) (sanitize : Tx → Bool)

/-- With `bs58` and `BASE64_STANDARD`, a transaction decodes exactly from the base58 text,
in the legacy form or not, or the base64 text of bytes that deserialize to it, when it
passes `sanitize`. -/
theorem EncodedTransaction.decodes_exactly_canonical_blobs (e : EncodedTransaction) (tx : Tx) :
    e.decode Base58.decode Base64.decode deserialize sanitize = some tx ↔
      sanitize tx = true ∧ ∃ bytes, deserialize bytes = some tx ∧
        (.legacyBinary (Base58.encode bytes) = e ∨ .binary (Base58.encode bytes) .base58 = e ∨
          .binary (Base64.encode bytes) .base64 = e) := by
  rcases e with blob | ⟨blob, _ | _⟩ | _ | _ <;>
    simp [EncodedTransaction.decode, Option.bind_eq_some, Base58.decode_eq_some_iff_encode,
      Base64.decode_eq_some_iff, and_comm, and_left_comm]

end Transactions

/-! ## Instructions and return data -/

/-- A `CompiledInstruction` with the two fields that the message model leaves out: the
indexes of its accounts and its data. -/
structure CompiledInstructionData where
  instruction : CompiledInstruction
  accounts : List UInt8
  data : List UInt8
  deriving DecidableEq, Repr

/-- `UiCompiledInstruction`. -/
structure UiCompiledInstruction where
  programIdIndex : UInt8
  accounts : List UInt8
  data : String
  stackHeight : Option UInt32
  deriving DecidableEq, Repr

/-- `UiCompiledInstruction::from`: the data in base58. -/
def UiCompiledInstruction.from (instruction : CompiledInstructionData)
    (stackHeight : Option UInt32) : UiCompiledInstruction :=
  { programIdIndex := instruction.instruction.programIdIndex
    accounts := instruction.accounts
    data := Base58.encode instruction.data
    stackHeight := stackHeight }

/-- `UiInstruction`. No conversion here builds the parsed form, which carries no payload. -/
inductive UiInstruction
  | compiled (instruction : UiCompiledInstruction)
  | parsed
  deriving DecidableEq, Repr

/-- `InnerInstruction`. -/
structure InnerInstruction where
  instruction : CompiledInstructionData
  stackHeight : Option UInt32
  deriving DecidableEq, Repr

/-- `InnerInstructions`: the instructions an instruction of the transaction invoked. -/
structure InnerInstructions where
  index : UInt8
  instructions : List InnerInstruction
  deriving DecidableEq, Repr

/-- `UiInnerInstructions`. -/
structure UiInnerInstructions where
  index : UInt8
  instructions : List UiInstruction
  deriving DecidableEq, Repr

/-- `UiInnerInstructions::from`: each inner instruction in its compiled UI form. -/
def UiInnerInstructions.from (innerInstructions : InnerInstructions) : UiInnerInstructions :=
  { index := innerInstructions.index
    instructions := innerInstructions.instructions.map fun ix =>
      .compiled (UiCompiledInstruction.from ix.instruction ix.stackHeight) }

/-- `TransactionReturnData`. -/
structure TransactionReturnData where
  programId : Pubkey
  data : List UInt8
  deriving DecidableEq, Repr

/-- `UiReturnDataEncoding`. -/
inductive UiReturnDataEncoding
  | base64
  deriving DecidableEq, Repr

/-- `UiTransactionReturnData`. -/
structure UiTransactionReturnData where
  programId : Pubkey
  data : String × UiReturnDataEncoding
  deriving DecidableEq, Repr

/-- `UiTransactionReturnData::from`: the data in base64. -/
def UiTransactionReturnData.from (returnData : TransactionReturnData) : UiTransactionReturnData :=
  { programId := returnData.programId
    data := (Base64.encode returnData.data, .base64) }

/-- `UiLoadedAddresses`. -/
structure UiLoadedAddresses where
  writable : List Pubkey
  readonly : List Pubkey
  deriving DecidableEq, Repr

/-- `UiLoadedAddresses::from`. -/
def UiLoadedAddresses.from (loadedAddresses : LoadedAddresses) : UiLoadedAddresses :=
  { writable := loadedAddresses.writable
    readonly := loadedAddresses.readonly }

/-- The UI form of an instruction determines the instruction and its stack height. -/
theorem UiCompiledInstruction.from_inj {a b : CompiledInstructionData} {ha hb : Option UInt32}
    (h : UiCompiledInstruction.from a ha = UiCompiledInstruction.from b hb) :
    a = b ∧ ha = hb := by
  obtain ⟨⟨ia⟩, accountsA, dataA⟩ := a
  obtain ⟨⟨ib⟩, accountsB, dataB⟩ := b
  simp only [UiCompiledInstruction.from, UiCompiledInstruction.mk.injEq] at h
  obtain ⟨rfl, rfl, hdata, rfl⟩ := h
  rw [Base58.encode_injective hdata]
  exact ⟨rfl, rfl⟩

/-- The UI form of inner instructions determines them. -/
theorem UiInnerInstructions.from_injective : Function.Injective UiInnerInstructions.from := by
  have hix : Function.Injective fun ix : InnerInstruction =>
      UiInstruction.compiled (UiCompiledInstruction.from ix.instruction ix.stackHeight) := by
    rintro ⟨a, ha⟩ ⟨b, hb⟩ h
    obtain ⟨rfl, rfl⟩ := UiCompiledInstruction.from_inj (UiInstruction.compiled.inj h)
    rfl
  rintro ⟨ia, xs⟩ ⟨ib, ys⟩ h
  simp only [UiInnerInstructions.from, UiInnerInstructions.mk.injEq] at h
  rw [h.1, List.map_injective_iff.2 hix h.2]

/-- The UI form of return data determines it. -/
theorem UiTransactionReturnData.from_injective :
    Function.Injective UiTransactionReturnData.from := by
  rintro ⟨pa, da⟩ ⟨pb, db⟩ h
  simp only [UiTransactionReturnData.from, UiTransactionReturnData.mk.injEq, Prod.mk.injEq,
    and_true] at h
  rw [h.1, Base64.encode_injective h.2]

/-- The UI form of loaded addresses determines them. -/
theorem UiLoadedAddresses.from_injective : Function.Injective UiLoadedAddresses.from := by
  rintro ⟨wa, ra⟩ ⟨wb, rb⟩ h
  simp only [UiLoadedAddresses.from, UiLoadedAddresses.mk.injEq] at h
  rw [h.1, h.2]

/-! ## Status metas -/

/-- `TransactionStatusMeta`. The types of transaction errors, token balances and rewards
pass through unread and are parameters. -/
structure TransactionStatusMeta (TransactionError TokenBalance Reward : Type) where
  status : Except TransactionError Unit
  fee : UInt64
  preBalances : List UInt64
  postBalances : List UInt64
  innerInstructions : Option (List InnerInstructions)
  logMessages : Option (List String)
  preTokenBalances : Option (List TokenBalance)
  postTokenBalances : Option (List TokenBalance)
  rewards : Option (List Reward)
  loadedAddresses : LoadedAddresses
  returnData : Option TransactionReturnData
  computeUnitsConsumed : Option UInt64
  costUnits : Option UInt64

/-- `UiTransactionStatusMeta`. -/
structure UiTransactionStatusMeta (TransactionError TokenBalance Reward : Type) where
  err : Option TransactionError
  status : Except TransactionError Unit
  fee : UInt64
  preBalances : List UInt64
  postBalances : List UInt64
  innerInstructions : Option (List UiInnerInstructions)
  logMessages : Option (List String)
  preTokenBalances : Option (List TokenBalance)
  postTokenBalances : Option (List TokenBalance)
  rewards : Option (List Reward)
  loadedAddresses : Option UiLoadedAddresses
  returnData : Option UiTransactionReturnData
  computeUnitsConsumed : Option UInt64
  costUnits : Option UInt64

variable {TransactionError TokenBalance Reward : Type}

/-- `TransactionStatusMeta::default()`. -/
def TransactionStatusMeta.default : TransactionStatusMeta TransactionError TokenBalance Reward :=
  { status := .ok ()
    fee := 0
    preBalances := []
    postBalances := []
    innerInstructions := none
    logMessages := none
    preTokenBalances := none
    postTokenBalances := none
    rewards := none
    loadedAddresses := ⟨[], []⟩
    returnData := none
    computeUnitsConsumed := none
    costUnits := none }

/-- `UiTransactionStatusMeta::from`: `err` is `status.err()`, inner instructions, loaded
addresses and return data in their UI forms, and the other fields as they are. -/
def UiTransactionStatusMeta.from
    (statusMeta : TransactionStatusMeta TransactionError TokenBalance Reward) :
    UiTransactionStatusMeta TransactionError TokenBalance Reward :=
  { err := match statusMeta.status with
      | .error err => some err
      | .ok _ => none
    status := statusMeta.status
    fee := statusMeta.fee
    preBalances := statusMeta.preBalances
    postBalances := statusMeta.postBalances
    innerInstructions := statusMeta.innerInstructions.map (·.map UiInnerInstructions.from)
    logMessages := statusMeta.logMessages
    preTokenBalances := statusMeta.preTokenBalances
    postTokenBalances := statusMeta.postTokenBalances
    rewards := statusMeta.rewards
    loadedAddresses := some (UiLoadedAddresses.from statusMeta.loadedAddresses)
    returnData := statusMeta.returnData.map UiTransactionReturnData.from
    computeUnitsConsumed := statusMeta.computeUnitsConsumed
    costUnits := statusMeta.costUnits }

/-- The UI form of a status meta loses nothing: two metas with the same UI form are equal,
instruction data and return data included, which the form holds only as base58 and base64
text. -/
theorem UiTransactionStatusMeta.eq_of_from_eq
    {m₁ m₂ : TransactionStatusMeta TransactionError TokenBalance Reward}
    (h : UiTransactionStatusMeta.from m₁ = UiTransactionStatusMeta.from m₂) : m₁ = m₂ := by
  cases m₁
  cases m₂
  simp only [UiTransactionStatusMeta.from, UiTransactionStatusMeta.mk.injEq, Option.some.injEq] at h
  obtain ⟨-, hstatus, hfee, hpre, hpost, hinner, hlogs, hpreToken, hpostToken, hrewards, hloaded,
    hreturn, hunits, hcost⟩ := h
  have hinner' := Option.map_injective (List.map_injective_iff.2 UiInnerInstructions.from_injective)
    hinner
  have hreturn' := Option.map_injective UiTransactionReturnData.from_injective hreturn
  rw [UiLoadedAddresses.from_injective hloaded]
  subst_vars
  rfl

/-- The default meta with return data `[1, 2, 3]`, against itself. -/
theorem eq_of_from_eq_returnData :
    let m : TransactionStatusMeta Unit Unit Unit :=
      { TransactionStatusMeta.default with returnData := some ⟨Pubkey.default, [1, 2, 3]⟩ }
    UiTransactionStatusMeta.from m = UiTransactionStatusMeta.from m ∧ m = m :=
  ⟨rfl, UiTransactionStatusMeta.eq_of_from_eq rfl⟩

end WasmSolana
