import Mathlib.Data.Finset.Basic

/-!
# Basic types shared by the runner and the RPC types

The `solana_sdk` values that the modelled functions read or build:

* `Pubkey`, 32 bytes as one 256-bit word, and the two program ids the code names;
* `AccountSharedData`, the account record a genesis seeds;
* `CommitmentLevel` and `CommitmentConfig`;
* `HashMap`, as the list of its entries in iteration order, keys pairwise distinct.

`HashMap.insert` overwrites, so a fold of inserts is last-write-wins:
`get?_foldl_insert` says what a lookup sees after one.
-/

namespace WasmSolana

/-! ## Keys and accounts -/

/-- `Pubkey`: 32 bytes, read as one big-endian 256-bit word. -/
structure Pubkey where
  toBitVec : BitVec 256
  deriving DecidableEq, Repr

/-- `Pubkey::default()`, the all-zero key. -/
def Pubkey.default : Pubkey := ⟨0⟩

/-- `system_program::ID`, `11111111111111111111111111111111`: the all-zero key. -/
def systemProgramId : Pubkey := ⟨0⟩

/-- `bpf_loader_upgradeable::ID`, `BPFLoaderUpgradeab1e11111111111111111111111`. -/
def bpfLoaderUpgradeableId : Pubkey :=
  ⟨0x02a8f6914e88a1b0e210153ef763ae2b00c2b93d16c124d2c0537a1004800000⟩

/-- `AccountSharedData`: balance, data, owner, executable flag and rent epoch. -/
structure AccountSharedData where
  lamports : UInt64
  data : List UInt8
  owner : Pubkey
  executable : Bool
  rentEpoch : UInt64
  deriving DecidableEq, Repr

/-- `AccountSharedData::new(lamports, space, owner)`: `space` zero bytes, not executable. -/
def AccountSharedData.new (lamports : UInt64) (space : Nat) (owner : Pubkey) :
    AccountSharedData :=
  ⟨lamports, List.replicate space 0, owner, false, 0⟩

/-- `sol_to_lamports` at a whole number of SOL, which is all the runner passes it. -/
def solToLamports (sol : Nat) : UInt64 := UInt64.ofNat (sol * 1000000000)

/-! ## Commitment -/

/-- `CommitmentLevel`, in increasing order of finality. -/
inductive CommitmentLevel
  | processed
  | confirmed
  | finalized
  deriving DecidableEq, Repr

/-- `CommitmentLevel::default()` is `Finalized`. -/
instance : Inhabited CommitmentLevel := ⟨.finalized⟩

/-- `CommitmentConfig { commitment }`. -/
structure CommitmentConfig where
  commitment : CommitmentLevel
  deriving DecidableEq, Repr

/-- `CommitmentConfig::is_finalized`. -/
def CommitmentConfig.isFinalized (c : CommitmentConfig) : Bool := c.commitment == .finalized

/-- `CommitmentConfig::is_confirmed`. -/
def CommitmentConfig.isConfirmed (c : CommitmentConfig) : Bool := c.commitment == .confirmed

/-! ## `HashMap` -/

/-- `HashMap<K, V>` as the list of its entries in iteration order. Its keys are pairwise
distinct, so which order a caller iterates in cannot change what a key maps to. -/
structure HashMap (K V : Type) where
  entries : List (K × V)
  nodup : (entries.map Prod.fst).Nodup

namespace HashMap

variable {K V : Type} [DecidableEq K]

/-- `HashMap::new()`. -/
def empty : HashMap K V := ⟨[], List.nodup_nil⟩

/-- `HashMap::get`. -/
def get? (m : HashMap K V) (k : K) : Option V := m.entries.lookup k

/-- `HashMap::insert`: the new entry replaces any entry of the same key. -/
def insert (m : HashMap K V) (k : K) (v : V) : HashMap K V :=
  ⟨(k, v) :: m.entries.filter (·.1 != k), by
    refine List.nodup_cons.2 ⟨?_, ((List.filter_sublist _).map _).nodup m.nodup⟩
    simp [List.mem_filter]⟩

private theorem lookup_filter_ne (l : List (K × V)) {a k : K} (h : a ≠ k) :
    (l.filter (·.1 != k)).lookup a = l.lookup a := by
  induction l with
  | nil => rfl
  | cons e l ih =>
    obtain ⟨b, v⟩ := e
    by_cases hb : b = k
    · subst hb; simp [List.lookup_cons, beq_false_of_ne h, ih]
    · simp [List.filter_cons, hb, List.lookup_cons, ih]

@[simp] theorem get?_empty (a : K) : (empty : HashMap K V).get? a = none := rfl

@[simp] theorem get?_insert (m : HashMap K V) (k a : K) (v : V) :
    (m.insert k v).get? a = if a = k then some v else m.get? a := by
  by_cases h : a = k
  · subst h; simp [get?, insert, List.lookup_cons]
  · simp [get?, insert, List.lookup_cons, beq_false_of_ne h, lookup_filter_ne _ h, h]

/-- A lookup after inserting the pairs of `l` in order: when every pair of `l` with key `a`
carries `v`, the result is `v` if `a` is a key of `l`, and the old value otherwise. -/
theorem get?_foldl_insert (l : List (K × V)) (m : HashMap K V) (a : K) (v : V)
    (hv : ∀ e ∈ l, e.1 = a → e.2 = v) :
    (l.foldl (fun m e => m.insert e.1 e.2) m).get? a =
      if a ∈ l.map Prod.fst then some v else m.get? a := by
  induction l generalizing m with
  | nil => simp
  | cons e l ih =>
    rw [List.foldl_cons, ih _ fun e' he' => hv e' (List.mem_cons_of_mem _ he')]
    by_cases ha : e.1 = a
    · simp [ha, hv e (List.mem_cons_self _ _) ha]
    · simp only [List.map_cons, List.mem_cons, Ne.symm ha, false_or, HashMap.get?_insert,
        if_neg (Ne.symm ha), if_false]

/-- A lookup after inserting pairs none of which has key `a` is the old lookup. -/
theorem get?_foldl_insert_of_not_mem (l : List (K × V)) (m : HashMap K V) {a : K}
    (ha : a ∉ l.map Prod.fst) :
    (l.foldl (fun m e => m.insert e.1 e.2) m).get? a = m.get? a := by
  induction l generalizing m with
  | nil => rfl
  | cons e l ih =>
    simp only [List.map_cons, List.mem_cons, not_or] at ha
    rw [List.foldl_cons, ih _ ha.2, get?_insert, if_neg ha.1]

/-- Inserting the entries of `m` into `n`, in `m`'s iteration order: on its own keys `m`
wins, elsewhere `n` is unchanged. -/
theorem get?_foldl_insert_entries (m n : HashMap K V) (a : K) :
    (m.entries.foldl (fun n e => n.insert e.1 e.2) n).get? a = (m.get? a).or (n.get? a) := by
  cases h : m.get? a with
  | none =>
    rw [get?_foldl_insert_of_not_mem]
    · rfl
    simp only [get?, List.lookup_eq_none_iff, bne_iff_ne, ne_eq] at h
    simp only [List.mem_map, not_exists, not_and]
    exact fun e he hk => h e he hk.symm
  | some v =>
    obtain ⟨l₁, l₂, hl, -⟩ := List.lookup_eq_some_iff.1 h
    have hmem : (a, v) ∈ m.entries := hl ▸ by simp
    have hkey : ∀ e ∈ m.entries, e.1 = a → e.2 = v := fun e he hk =>
      (List.inj_on_of_nodup_map m.nodup he hmem hk) ▸ rfl
    rw [get?_foldl_insert _ _ _ v hkey, if_pos (List.mem_map.2 ⟨_, hmem, rfl⟩)]
    rfl

end HashMap

end WasmSolana
