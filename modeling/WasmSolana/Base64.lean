import WasmSolana.Alphabet

/-!
# `BASE64_STANDARD`

The engine `base64::prelude::BASE64_STANDARD` that `UiAccountData::decode`,
`EncodedTransaction::decode` and `UiTransactionReturnData::from` call: the standard
alphabet, `=` padding on encoding, and canonical decoding, which wants the padding and
refuses a last character with bits set below the last byte.

Each group of three bytes is four characters of six bits. A last group of one byte is two
characters and `==`, of two bytes three characters and `=`. `decode` reads the text four
characters at a time.

* `decodeChars_encodeChars`: decoding an encoding gives the bytes back;
* `encodeChars_of_decodeChars`: a text that decodes is the encoding of what it decodes to,
  so no two texts decode to the same bytes;
* `decode_eq_some_iff`: the two together, on texts.
-/

namespace WasmSolana

namespace Base64

/-- `alphabet::STANDARD`. -/
def standard : Alphabet 64 :=
  ⟨"ABCDEFGHIJKLMNOPQRSTUVWXYZabcdefghijklmnopqrstuvwxyz0123456789+/".toList, rfl,
    List.Nodup.of_map Char.toNat (by decide)⟩

/-- The padding character is not a digit. -/
theorem index_pad : standard.index '=' = none := by decide

/-! ## Encoding -/

/-- The characters of `encode`, group by group. -/
def encodeChars : List UInt8 → List Char
  | [] => []
  | [a] => [standard.char (a.toNat / 4), standard.char (a.toNat % 4 * 16), '=', '=']
  | [a, b] =>
    [standard.char (a.toNat / 4), standard.char (a.toNat % 4 * 16 + b.toNat / 16),
      standard.char (b.toNat % 16 * 4), '=']
  | a :: b :: c :: rest =>
    [standard.char (a.toNat / 4), standard.char (a.toNat % 4 * 16 + b.toNat / 16),
      standard.char (b.toNat % 16 * 4 + c.toNat / 64), standard.char (c.toNat % 64)] ++
      encodeChars rest

/-- `BASE64_STANDARD.encode(bytes)`. -/
def encode (bytes : List UInt8) : String := ⟨encodeChars bytes⟩

/-! ## Decoding -/

/-- One group of four characters; `last` when no character follows it. Only the last group
may be padded, and its padding leaves no bit set below its last byte. -/
def decodeGroup (c0 c1 c2 c3 : Char) (last : Bool) : Option (List UInt8) := do
  let s0 ← standard.index c0
  let s1 ← standard.index c1
  if last && c2 == '=' && c3 == '=' then
    if s1 % 16 = 0 then some [UInt8.ofNat (s0 * 4 + s1 / 16)] else none
  else if last && c3 == '=' then
    let s2 ← standard.index c2
    if s2 % 4 = 0 then
      some [UInt8.ofNat (s0 * 4 + s1 / 16), UInt8.ofNat (s1 % 16 * 16 + s2 / 4)]
    else none
  else
    let s2 ← standard.index c2
    let s3 ← standard.index c3
    some [UInt8.ofNat (s0 * 4 + s1 / 16), UInt8.ofNat (s1 % 16 * 16 + s2 / 4),
      UInt8.ofNat (s2 % 4 * 64 + s3)]

/-- The bytes of `decode`, group by group: a text whose length is not a multiple of four
does not decode. -/
def decodeChars : List Char → Option (List UInt8)
  | [] => some []
  | c0 :: c1 :: c2 :: c3 :: rest => do
    let group ← decodeGroup c0 c1 c2 c3 rest.isEmpty
    let tail ← decodeChars rest
    some (group ++ tail)
  | _ => none

/-- `BASE64_STANDARD.decode(blob).ok()`. The engine reads the UTF-8 bytes of `blob`; a
character outside ASCII is not in the alphabet, and none of its bytes is, so reading
characters gives the same answer. -/
def decode (blob : String) : Option (List UInt8) := decodeChars blob.data

/-! ## Digits and bytes -/

private theorem ofNat_eq {a : UInt8} {n : Nat} (h : n = a.toNat) : UInt8.ofNat n = a :=
  UInt8.toNat.inj (by rw [UInt8.toNat_ofNat_of_lt (by have := a.toNat_lt_size; omega)]; exact h)

@[simp] theorem index_char {i : Nat} (h : i < 64) : standard.index (standard.char i) = some i :=
  standard.index_char h

/-- No digit is written `=`. -/
@[simp] theorem char_beq_pad {i : Nat} (h : i < 64) : (standard.char i == '=') = false := by
  rw [beq_eq_false_iff_ne]
  intro hc
  have := index_char h
  rw [hc, index_pad] at this
  contradiction

/-! ## Round trip -/

private theorem decodeGroup_one (a : UInt8) :
    decodeGroup (standard.char (a.toNat / 4)) (standard.char (a.toNat % 4 * 16)) '=' '=' true =
      some [a] := by
  have ha : a.toNat < 256 := a.toNat_lt_size
  have h0 : a.toNat % 4 * 16 % 16 = 0 := by omega
  simp (disch := omega) only [decodeGroup, index_char, Option.bind_eq_bind, Option.some_bind,
    beq_self_eq_true, Bool.and_self, if_true, h0, Option.some.injEq, List.cons.injEq, and_true]
  exact ofNat_eq (by omega)

private theorem decodeGroup_two (a b : UInt8) :
    decodeGroup (standard.char (a.toNat / 4)) (standard.char (a.toNat % 4 * 16 + b.toNat / 16))
      (standard.char (b.toNat % 16 * 4)) '=' true = some [a, b] := by
  have ha : a.toNat < 256 := a.toNat_lt_size
  have hb : b.toNat < 256 := b.toNat_lt_size
  have h0 : b.toNat % 16 * 4 % 4 = 0 := by omega
  simp (disch := omega) only [decodeGroup, index_char, char_beq_pad, Option.bind_eq_bind,
    Option.some_bind, beq_self_eq_true, Bool.and_false, Bool.and_true, if_true, if_false, h0,
    Bool.false_eq_true, Option.some.injEq, List.cons.injEq, and_true]
  exact ⟨ofNat_eq (by omega), ofNat_eq (by omega)⟩

private theorem decodeGroup_three (a b c : UInt8) (last : Bool) :
    decodeGroup (standard.char (a.toNat / 4)) (standard.char (a.toNat % 4 * 16 + b.toNat / 16))
      (standard.char (b.toNat % 16 * 4 + c.toNat / 64)) (standard.char (c.toNat % 64)) last =
      some [a, b, c] := by
  have ha : a.toNat < 256 := a.toNat_lt_size
  have hb : b.toNat < 256 := b.toNat_lt_size
  have hc : c.toNat < 256 := c.toNat_lt_size
  simp (disch := omega) only [decodeGroup, index_char, char_beq_pad, Option.bind_eq_bind,
    Option.some_bind, Bool.and_false, if_false, Bool.false_eq_true, Option.some.injEq,
    List.cons.injEq, and_true]
  exact ⟨ofNat_eq (by omega), ofNat_eq (by omega), ofNat_eq (by omega)⟩

/-- Decoding the characters of an encoding gives the bytes back. -/
theorem decodeChars_encodeChars (bytes : List UInt8) :
    decodeChars (encodeChars bytes) = some bytes := by
  induction bytes using encodeChars.induct with
  | case1 => rfl
  | case2 a => simp [encodeChars, decodeChars, decodeGroup_one]
  | case3 a b => simp [encodeChars, decodeChars, decodeGroup_two]
  | case4 a b c rest ih => simp [encodeChars, decodeChars, decodeGroup_three, ih]

/-! ## Canonical decoding -/

/-- A group that decodes is written as `encode` writes the bytes it decodes to: a padded
group is the last one and encodes alone, a full group encodes in front of whatever
follows. -/
private theorem encodeChars_of_decodeGroup {c0 c1 c2 c3 : Char} {last : Bool} {g : List UInt8}
    (h : decodeGroup c0 c1 c2 c3 last = some g) :
    (last = true ∧ encodeChars g = [c0, c1, c2, c3]) ∨
      ∃ a b c, g = [a, b, c] ∧
        ∀ t, encodeChars (a :: b :: c :: t) = [c0, c1, c2, c3] ++ encodeChars t := by
  simp only [decodeGroup, Option.bind_eq_bind, Option.bind_eq_some] at h
  obtain ⟨s0, h0, s1, h1, h⟩ := h
  obtain ⟨hs0, rfl⟩ := standard.char_of_index h0
  obtain ⟨hs1, rfl⟩ := standard.char_of_index h1
  split at h
  · rename_i hpad
    simp only [Bool.and_eq_true, beq_iff_eq] at hpad
    obtain ⟨⟨rfl, rfl⟩, rfl⟩ := hpad
    split at h <;> simp only [Option.some.injEq, reduceCtorEq] at h
    subst h
    refine .inl ⟨rfl, ?_⟩
    simp (disch := unfold UInt8.size; omega) only [encodeChars, UInt8.toNat_ofNat_of_lt,
      List.cons.injEq, and_true]
    exact ⟨congrArg _ (by omega), congrArg _ (by omega)⟩
  · split at h
    · rename_i hpad2
      simp only [Bool.and_eq_true, beq_iff_eq] at hpad2
      obtain ⟨rfl, rfl⟩ := hpad2
      obtain ⟨s2, h2, hg⟩ := Option.bind_eq_some.1 h
      clear h
      obtain ⟨hs2, rfl⟩ := standard.char_of_index h2
      split at hg <;> simp only [Option.some.injEq, reduceCtorEq] at hg
      subst hg
      refine .inl ⟨rfl, ?_⟩
      simp (disch := unfold UInt8.size; omega) only [encodeChars, UInt8.toNat_ofNat_of_lt,
      List.cons.injEq, and_true]
      exact ⟨congrArg _ (by omega), congrArg _ (by omega), congrArg _ (by omega)⟩
    · obtain ⟨s2, h2, h'⟩ := Option.bind_eq_some.1 h
      obtain ⟨s3, h3, hg⟩ := Option.bind_eq_some.1 h'
      clear h h'
      obtain ⟨hs2, rfl⟩ := standard.char_of_index h2
      obtain ⟨hs3, rfl⟩ := standard.char_of_index h3
      simp only [Option.some.injEq] at hg
      subst hg
      refine .inr ⟨_, _, _, rfl, fun t => ?_⟩
      simp (disch := unfold UInt8.size; omega) only [encodeChars, UInt8.toNat_ofNat_of_lt,
        List.cons_append, List.nil_append,
        List.cons.injEq, and_true]
      exact ⟨congrArg _ (by omega), congrArg _ (by omega), congrArg _ (by omega),
        congrArg _ (by omega)⟩

/-- A text that decodes is the encoding of the bytes it decodes to. -/
theorem encodeChars_of_decodeChars {cs : List Char} {bytes : List UInt8}
    (h : decodeChars cs = some bytes) : encodeChars bytes = cs := by
  induction cs using decodeChars.induct generalizing bytes with
  | case1 => cases h; rfl
  | case2 c0 c1 c2 c3 rest ih =>
    simp only [decodeChars, Option.bind_eq_bind, Option.bind_eq_some, Option.some.injEq] at h
    obtain ⟨g, hg, tail, htail, rfl⟩ := h
    rcases encodeChars_of_decodeGroup hg with ⟨hlast, henc⟩ | ⟨a, b, c, rfl, henc⟩
    · rw [List.isEmpty_iff] at hlast
      subst hlast
      cases htail
      rw [List.append_nil, henc]
    · rw [List.cons_append, List.cons_append, List.cons_append, List.nil_append, henc, ih htail]
      rfl
  | case3 cs hcs => simp_all [decodeChars]

/-! ## Texts -/

/-- Decoding an encoding gives the bytes back. -/
theorem decode_encode (bytes : List UInt8) : decode (encode bytes) = some bytes :=
  decodeChars_encodeChars bytes

/-- Distinct bytes have distinct encodings. -/
theorem encode_injective : Function.Injective encode := fun a b h =>
  Option.some.inj ((decode_encode a).symm.trans (h ▸ decode_encode b))

/-- `BASE64_STANDARD` decodes exactly the texts it encodes: `decode blob` is `bytes` when
`blob` is the encoding of `bytes`, and only then. -/
theorem decode_eq_some_iff (blob : String) (bytes : List UInt8) :
    decode blob = some bytes ↔ encode bytes = blob := by
  constructor
  · intro h
    obtain ⟨cs⟩ := blob
    exact congrArg String.mk (encodeChars_of_decodeChars h)
  · rintro rfl
    exact decode_encode bytes

end Base64

end WasmSolana
