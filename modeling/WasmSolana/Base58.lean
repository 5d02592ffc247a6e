import WasmSolana.Alphabet
import Mathlib.Data.Nat.Digits

/-!
# `bs58`

The base58 codec of the `bs58` crate, with its default Bitcoin alphabet, that
`UiAccountData::decode` and `EncodedTransaction::decode` call to read base58 payloads and
`UiCompiledInstruction::from` calls to write instruction data.

The crate reads the bytes as one big-endian number and writes it in base 58, most
significant digit first, after one `1`, the character of digit zero, for each leading zero
byte. Decoding reads the characters as base-58 digits, writes their number in base 256,
and puts one zero byte in front for each leading `1`. The crate computes the number in a
buffer, a digit at a time; here it is `Nat.ofDigits`, and its digits are `Nat.digits`.

* `replicate_append_digits_value`: a list of digits is its leading zeros followed by the
  digits of its value;
* `decode_encode`: decoding an encoding gives the bytes back;
* `encode_of_decode`: a text that decodes is the encoding of what it decodes to, so no two
  texts decode to the same bytes;
* `decode_eq_some_iff_encode`: the two together.
-/

namespace WasmSolana

namespace Base58

/-- `Alphabet::BITCOIN`, the default of `bs58`. -/
def bitcoin : Alphabet 58 :=
  ⟨"123456789ABCDEFGHJKLMNPQRSTUVWXYZabcdefghijkmnopqrstuvwxyz".toList, rfl,
    List.Nodup.of_map Char.toNat (by decide)⟩

/-- The number a list of digits writes in base `b`, most significant digit first. -/
def value (b : Nat) (ds : List Nat) : Nat := Nat.ofDigits b ds.reverse

/-- The number of zero digits a list starts with. -/
def leadingZeros (ds : List Nat) : Nat := (ds.takeWhile (· == 0)).length

/-! ## The codec -/

/-- `bs58::encode(bytes).into_string()`: a `1` for each leading zero byte, then the digits
of the bytes' value in base 58. -/
def encode (bytes : List UInt8) : String :=
  let zeros := (bytes.takeWhile (· == 0)).length
  let n := value 256 (bytes.map UInt8.toNat)
  ⟨(List.replicate zeros 0 ++ (Nat.digits 58 n).reverse).map bitcoin.char⟩

/-- `bs58::decode(blob).into_vec().ok()`: `none` at a character outside the alphabet, else
a zero byte for each leading `1`, then the bytes of the value in base 256. The crate
refuses a character that is not ASCII before it looks it up; such a character is outside
the alphabet, so the answer is the same. -/
def decode (blob : String) : Option (List UInt8) := do
  let digits ← blob.data.mapM bitcoin.index
  let zeros := (blob.data.takeWhile (· == bitcoin.char 0)).length
  some ((List.replicate zeros 0 ++ (Nat.digits 256 (value 58 digits)).reverse).map UInt8.ofNat)

/-! ## Digits -/

section Digits

variable {b : Nat}

private theorem ofDigits_replicate_zero (k : Nat) : Nat.ofDigits b (List.replicate k 0) = 0 := by
  induction k with
  | zero => rfl
  | succ k ih => simp [List.replicate_succ, Nat.ofDigits_cons, ih]

/-- Leading zeros do not change the value. -/
@[simp] theorem value_replicate_append (k : Nat) (ds : List Nat) :
    value b (List.replicate k 0 ++ ds) = value b ds := by
  simp [value, Nat.ofDigits_append, ofDigits_replicate_zero]

/-- The digits of a number write that number. -/
@[simp] theorem value_digits (m : Nat) : value b (Nat.digits b m).reverse = m := by
  simp [value, Nat.ofDigits_digits]

/-- The digits of a number start with a nonzero digit, so the leading zeros in front of them
are all there are. -/
@[simp] theorem leadingZeros_replicate_append_digits (k m : Nat) :
    leadingZeros (List.replicate k 0 ++ (Nat.digits b m).reverse) = k := by
  have hhead : (Nat.digits b m).reverse.takeWhile (· == 0) = [] := by
    rcases Nat.eq_zero_or_pos m with rfl | hm
    · simp
    · rw [← List.dropLast_append_getLast (Nat.digits_ne_nil_iff_ne_zero.2 hm.ne'),
        List.reverse_append]
      simp [List.takeWhile_cons, Nat.getLast_digit_ne_zero b hm.ne']
  simp [leadingZeros, List.takeWhile_append_of_pos, hhead]

/-- A list of digits below `b` is its leading zeros followed by the digits of its value. -/
theorem replicate_append_digits_value (hb : 1 < b) {ds : List Nat} (hds : ∀ d ∈ ds, d < b) :
    List.replicate (leadingZeros ds) 0 ++ (Nat.digits b (value b ds)).reverse = ds := by
  have hzeros : ds.takeWhile (· == 0) = List.replicate (leadingZeros ds) 0 :=
    List.eq_replicate_iff.2 ⟨rfl, fun d hd => by simpa using List.mem_takeWhile_imp hd⟩
  have hsplit : ds = List.replicate (leadingZeros ds) 0 ++ ds.dropWhile (· == 0) := by
    rw [← hzeros, List.takeWhile_append_dropWhile]
  have hrest :
      Nat.digits b (value b (ds.dropWhile (· == 0))) = (ds.dropWhile (· == 0)).reverse := by
    refine Nat.digits_ofDigits b hb _ (fun d hd => hds d ?_) (fun hne => ?_)
    · exact (List.dropWhile_suffix _).subset (List.mem_reverse.1 hd)
    · rw [List.getLast_reverse]
      simpa using List.head_dropWhile_not (· == 0) ds _
  have hvalue : value b ds = value b (ds.dropWhile (· == 0)) := by
    conv_lhs => rw [hsplit]
    exact value_replicate_append _ _
  rw [hvalue, hrest, List.reverse_reverse, ← hsplit]

/-- The leading zeros and the digits of a number are digits below the base. -/
theorem lt_of_mem_replicate_append_digits (hb : 1 < b) {k m d : Nat}
    (hd : d ∈ List.replicate k 0 ++ (Nat.digits b m).reverse) : d < b := by
  simp only [List.mem_append, List.mem_replicate, List.mem_reverse] at hd
  rcases hd with ⟨-, rfl⟩ | hd
  · omega
  · exact Nat.digits_lt_base hb hd

end Digits

/-! ## Round trip -/

/-- A byte read as a number and written back is the same byte. -/
private theorem ofNat_toNat_byte (x : UInt8) : UInt8.ofNat x.toNat = x :=
  UInt8.toNat.inj (UInt8.toNat_ofNat_of_lt x.toNat_lt_size)

/-- `encode` counts the leading zero bytes as leading zero digits of the bytes in base 256. -/
private theorem length_takeWhile_bytes (bytes : List UInt8) :
    (bytes.takeWhile (· == 0)).length = leadingZeros (bytes.map UInt8.toNat) := by
  have hp : ((· == 0) ∘ UInt8.toNat) = (· == (0 : UInt8)) := by
    funext x
    rw [Function.comp_apply, Bool.eq_iff_iff, beq_iff_eq, beq_iff_eq]
    exact ⟨fun h => UInt8.toNat.inj h, fun h => h ▸ rfl⟩
  rw [leadingZeros, List.takeWhile_map, List.length_map, hp]

/-- `encode` in digits: the digits of the bytes' value in base 58 after the leading zeros of
the bytes. -/
theorem encode_eq (bytes : List UInt8) :
    encode bytes = ⟨(List.replicate (leadingZeros (bytes.map UInt8.toNat)) 0 ++
      (Nat.digits 58 (value 256 (bytes.map UInt8.toNat))).reverse).map bitcoin.char⟩ := by
  rw [encode, length_takeWhile_bytes]

/-- `decode` in digits: a text of digits `ds` decodes to the bytes of the value of `ds` in
base 256 after the leading zeros of `ds`. -/
theorem decode_eq_some_iff_digits {blob : String} {bytes : List UInt8} :
    decode blob = some bytes ↔ ∃ ds : List Nat, (∀ d ∈ ds, d < 58) ∧
      ds.map bitcoin.char = blob.data ∧
      (List.replicate (leadingZeros ds) 0 ++ (Nat.digits 256 (value 58 ds)).reverse).map
        UInt8.ofNat = bytes := by
  simp only [decode, Option.bind_eq_bind, Option.bind_eq_some, Option.some.injEq,
    bitcoin.mapM_index_eq_some_iff, and_assoc]
  refine exists_congr fun ds => and_congr_right fun hds => and_congr_right fun hblob => ?_
  rw [← hblob, bitcoin.takeWhile_map_char (by decide) hds, List.length_map, leadingZeros]

/-- Decoding an encoding gives the bytes back. -/
theorem decode_encode (bytes : List UInt8) : decode (encode bytes) = some bytes := by
  set ds := bytes.map UInt8.toNat with hds
  have hlt : ∀ d ∈ ds, d < 256 := by simp [hds, UInt8.toNat_lt_size]
  rw [encode_eq, decode_eq_some_iff_digits]
  refine ⟨_, fun d hd => lt_of_mem_replicate_append_digits (by decide) hd, rfl, ?_⟩
  rw [leadingZeros_replicate_append_digits, value_replicate_append, value_digits,
    replicate_append_digits_value (by decide) hlt, hds, List.map_map]
  exact List.map_id'' ofNat_toNat_byte bytes

/-- A text that decodes is the encoding of the bytes it decodes to. -/
theorem encode_of_decode {blob : String} {bytes : List UInt8} (h : decode blob = some bytes) :
    encode bytes = blob := by
  obtain ⟨ds, hds, hblob, rfl⟩ := decode_eq_some_iff_digits.1 h
  set zs := List.replicate (leadingZeros ds) 0 ++ (Nat.digits 256 (value 58 ds)).reverse
  have hbytes : (zs.map UInt8.ofNat).map UInt8.toNat = zs := by
    rw [List.map_map]
    exact (List.map_congr_left fun d hd => UInt8.toNat_ofNat_of_lt
      (lt_of_mem_replicate_append_digits (by decide) hd)).trans (List.map_id zs)
  rw [encode_eq, hbytes, leadingZeros_replicate_append_digits, value_replicate_append,
    value_digits, replicate_append_digits_value (by decide) hds, hblob]

/-- Distinct bytes have distinct encodings. -/
theorem encode_injective : Function.Injective encode := fun a b h =>
  Option.some.inj ((decode_encode a).symm.trans (h ▸ decode_encode b))

/-- `bs58` decodes exactly the texts it encodes: `decode blob` is `bytes` when `blob` is the
encoding of `bytes`, and only then. -/
theorem decode_eq_some_iff_encode (blob : String) (bytes : List UInt8) :
    decode blob = some bytes ↔ encode bytes = blob :=
  ⟨encode_of_decode, fun h => h ▸ decode_encode bytes⟩

end Base58

end WasmSolana
