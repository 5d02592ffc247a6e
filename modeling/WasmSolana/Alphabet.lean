import Mathlib.Data.List.Nodup

/-!
# Alphabets of text codecs

The base64 and base58 codecs the RPC types call write each digit as one character of a
fixed alphabet. An `Alphabet n` is a list of `n` distinct characters; the two directions
between digits and characters are inverse on it:

* `index_char`: the digit of the `i`-th character is `i`;
* `char_of_index`: a character with a digit is the character of that digit;
* `mapM_index_eq_some_iff`: a text reads as a list of digits exactly when it is their
  characters.
-/

namespace WasmSolana

/-- `n` distinct characters, the `i`-th of which writes the digit `i`. -/
structure Alphabet (n : Nat) where
  chars : List Char
  length_chars : chars.length = n
  nodup : chars.Nodup

namespace Alphabet

variable {n : Nat} (a : Alphabet n)

/-- The character of digit `i`. -/
def char (i : Nat) : Char := a.chars.getD i ' '

/-- The digit of a character, `none` outside the alphabet. -/
def index (c : Char) : Option Nat := a.chars.indexOf? c

theorem lt_length {i : Nat} (h : i < n) : i < a.chars.length := by
  rw [a.length_chars]; exact h

theorem char_eq_getElem {i : Nat} (h : i < n) : a.char i = a.chars.get ⟨i, a.lt_length h⟩ := by
  simp [char, List.getD_eq_getElem?_getD, List.getElem?_eq_getElem (a.lt_length h)]

/-- The digit of the `i`-th character is `i`. -/
theorem index_char {i : Nat} (h : i < n) : a.index (a.char i) = some i := by
  rw [index, List.indexOf?, List.findIdx?_eq_some_iff_getElem, char_eq_getElem a h]
  refine ⟨a.lt_length h, beq_self_eq_true _, fun j hj heq => ?_⟩
  have := (a.nodup.getElem_inj_iff).1 (beq_iff_eq.1 heq)
  omega

/-- A character with a digit is the character of that digit. -/
theorem char_of_index {c : Char} {i : Nat} (h : a.index c = some i) : i < n ∧ a.char i = c := by
  rw [index, List.indexOf?, List.findIdx?_eq_some_iff_getElem] at h
  obtain ⟨hi, hc, -⟩ := h
  have hn : i < n := a.length_chars ▸ hi
  refine ⟨hn, ?_⟩
  rw [char_eq_getElem a hn]
  exact beq_iff_eq.1 hc

/-- Distinct digits have distinct characters. -/
theorem char_inj {i j : Nat} (hi : i < n) (hj : j < n) (h : a.char i = a.char j) : i = j := by
  have := a.index_char hi
  rwa [h, a.index_char hj, Option.some.injEq, eq_comm] at this

/-- The digit of a character is `i` exactly when it is the `i`-th character. -/
theorem index_eq_some_iff {c : Char} {i : Nat} : a.index c = some i ↔ i < n ∧ a.char i = c :=
  ⟨a.char_of_index, fun ⟨h, hc⟩ => hc ▸ a.index_char h⟩

/-- A text reads as a list of digits exactly when it is the characters of those digits. -/
theorem mapM_index_eq_some_iff {cs : List Char} {ds : List Nat} :
    cs.mapM a.index = some ds ↔ (∀ d ∈ ds, d < n) ∧ ds.map a.char = cs := by
  induction cs generalizing ds with
  | nil =>
    rw [List.mapM_nil]
    cases ds <;> simp [Option.pure_def]
  | cons c cs ih =>
    simp only [List.mapM_cons, Option.bind_eq_bind, Option.bind_eq_some, Option.pure_def,
      Option.some.injEq, ih, index_eq_some_iff]
    cases ds with
    | nil => simp
    | cons d ds => simp; tauto

/-- Leading characters of digit `0` are the characters of the leading zero digits. -/
theorem takeWhile_map_char {ds : List Nat} (hn : 0 < n) (hds : ∀ d ∈ ds, d < n) :
    (ds.map a.char).takeWhile (· == a.char 0) = (ds.takeWhile (· == 0)).map a.char := by
  induction ds with
  | nil => rfl
  | cons d ds ih =>
    have hd : (a.char d == a.char 0) = (d == 0) := by
      rw [Bool.eq_iff_iff, beq_iff_eq, beq_iff_eq]
      exact ⟨a.char_inj (hds d (List.mem_cons_self _ _)) hn, congrArg a.char⟩
    simp only [List.map_cons, List.takeWhile_cons, hd]
    split
    · rw [ih fun d h => hds d (List.mem_cons_of_mem _ h), List.map_cons]
    · rfl

end Alphabet

end WasmSolana
