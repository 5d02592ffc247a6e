import WasmSolana.Basic

/-!
# Decoding account data and encoded transactions

`UiAccountData::decode` and `EncodedTransaction::decode` pick a decoder by the form of their
payload. The decoders belong to other crates (`bs58`, the standard engine of `base64`,
`zstd`, `bincode`, and the sanitizer of `VersionedTransaction`), so they are section
variables here; the dispatch is the code of this repository.

`UiAccount.decode_some_iff_data`: an account decodes exactly when its data does, and keeps
its other fields. `UiEncoding` puts the `bs58` and `BASE64_STANDARD` codecs in place of
their parameters.
-/

namespace WasmSolana

/-! ## Account data -/

/-- `UiAccountEncoding`. -/
inductive UiAccountEncoding
  | binary
  | base58
  | base64
  | jsonParsed
  | base64Zstd
  deriving DecidableEq, Repr

/-- `UiAccountData`. The parsed account of the `Json` form is not read by `decode` and is
left out. -/
inductive UiAccountData
  | legacyBinary (blob : String)
  | json
  | binary (blob : String) (encoding : UiAccountEncoding)
  deriving DecidableEq, Repr

/-- The fields of `UiAccount` that `decode` reads. -/
structure UiAccount where
  lamports : UInt64
  data : UiAccountData
  owner : Pubkey
  executable : Bool
  rentEpoch : UInt64

section AccountData

/- `bs58::decode(..).into_vec().ok()`, `BASE64_STANDARD.decode(..).ok()`, and the zstd
stream decoder, which is `none` when the crate is built without the `zstd` feature. -/
variable (bs58Decode base64Decode : String → Option (List UInt8))
  (zstdDecode : Option (List UInt8 → Option (List UInt8)))

/-- `UiAccountData::decode`. -/
def UiAccountData.decode : UiAccountData → Option (List UInt8)
  | .json => none
  | .legacyBinary blob => bs58Decode blob
  | .binary blob encoding =>
    match encoding with
    | .base58 => bs58Decode blob
    | .base64 => base64Decode blob
    | .base64Zstd =>
      match zstdDecode with
      | some zstd => (base64Decode blob).bind zstd
      | none => none
    | .binary | .jsonParsed => none

/-- `UiAccount::decode` into an `AccountSharedData` through `WritableAccount::create`. -/
def UiAccount.decode (account : UiAccount) : Option AccountSharedData := do
  let data ← account.data.decode bs58Decode base64Decode zstdDecode
  some ⟨account.lamports, data, account.owner, account.executable, account.rentEpoch⟩

/-- An account decodes exactly when its data does, into an account with its lamports,
owner, executable flag and rent epoch. -/
theorem UiAccount.decode_some_iff_data (account : UiAccount) (decoded : AccountSharedData) :
    account.decode bs58Decode base64Decode zstdDecode = some decoded ↔
      account.data.decode bs58Decode base64Decode zstdDecode = some decoded.data ∧
        decoded = ⟨account.lamports, decoded.data, account.owner, account.executable,
          account.rentEpoch⟩ := by
  simp only [UiAccount.decode, Option.bind_eq_bind, Option.bind_eq_some, Option.some.injEq]
  constructor
  · rintro ⟨data, h, rfl⟩
    exact ⟨h, rfl⟩
  · rintro ⟨h, hd⟩
    exact ⟨_, h, hd.symm⟩

end AccountData

/-! ## Encoded transactions -/

/-- `TransactionBinaryEncoding`. -/
inductive TransactionBinaryEncoding
  | base58
  | base64
  deriving DecidableEq, Repr

/-- `UiTransactionEncoding`. -/
inductive UiTransactionEncoding
  | binary
  | base64
  | base58
  | json
  | jsonParsed
  deriving DecidableEq, Repr

/-- `UiTransactionEncoding::into_binary_encoding`: the legacy `Binary` is base58. -/
def UiTransactionEncoding.intoBinaryEncoding : UiTransactionEncoding → Option TransactionBinaryEncoding
  | .binary | .base58 => some .base58
  | .base64 => some .base64
  | _ => none

/-- `EncodedTransaction`. The JSON forms are not read by `decode` and carry no payload
here. -/
inductive EncodedTransaction
  | legacyBinary (blob : String)
  | binary (blob : String) (encoding : TransactionBinaryEncoding)
  | json
  | accounts
  deriving DecidableEq, Repr

section Transactions

/- The two text decoders, `bincode::deserialize` into a `VersionedTransaction`, and its
`sanitize().is_ok()`. -/
variable {Tx : Type} (bs58Decode base64Decode : String → Option (List UInt8))
  (deserialize : List UInt8 → Option Tx) (sanitize : Tx → Bool)

/-- `EncodedTransaction::decode`. -/
def EncodedTransaction.decode (e : EncodedTransaction) : Option Tx :=
  let blobEncoding : Option (String × TransactionBinaryEncoding) :=
    match e with
    | .json | .accounts => none
    | .legacyBinary blob => some (blob, .base58)
    | .binary blob encoding => some (blob, encoding)
  blobEncoding.bind fun (blob, encoding) =>
    let transaction :=
      match encoding with
      | .base58 => (bs58Decode blob).bind deserialize
      | .base64 => (base64Decode blob).bind deserialize
    transaction.filter sanitize

end Transactions

end WasmSolana
