import WasmSolana.Ports

/-!
# The genesis of a test validator

The part of `solana_test_validator::TestValidatorGenesis` that `run_internal` configures:
its rpc and gossip ports, its port range, the faucet address of its rpc service, the warp
slot and epoch schedule, the programs to deploy and the accounts to seed. The accounts are
a `HashMap`, filled by `add_account`, which overwrites, and `add_accounts`, which calls
`add_account` for each pair in turn.

* `get?_addAccounts`: a lookup after `add_accounts`, when all the pairs of one key carry
  the same account;
* `TestValidatorGenesis.boundPorts`: the ports a validator started from a genesis listens
  on.

Settings that `run_internal` does not write are not modelled.
-/

namespace WasmSolana

/-! ## Programs, schedule and rpc settings -/

/-- `TestProgramInfo`: a program to deploy at genesis. -/
structure TestProgramInfo where
  programId : Pubkey
  programPath : String
  upgradeAuthority : Pubkey
  loader : Pubkey
  deriving DecidableEq, Repr

/-- `UpgradeableProgramInfo` of `solana_test_validator`. -/
structure UpgradeableProgramInfo where
  programId : Pubkey
  loader : Pubkey
  upgradeAuthority : Pubkey
  programPath : String
  deriving DecidableEq, Repr

/-- `From<TestProgramInfo> for UpgradeableProgramInfo`. -/
def UpgradeableProgramInfo.ofTestProgramInfo : TestProgramInfo → UpgradeableProgramInfo
  | ⟨programId, programPath, upgradeAuthority, loader⟩ =>
    ⟨programId, loader, upgradeAuthority, programPath⟩

/-- `EpochSchedule`. -/
structure EpochSchedule where
  slotsPerEpoch : UInt64
  leaderScheduleSlotOffset : UInt64
  warmup : Bool
  firstNormalEpoch : UInt64
  firstNormalSlot : UInt64
  deriving DecidableEq, Repr

/-- `EpochSchedule::default()`: epochs of 432000 slots, with warmup. -/
def EpochSchedule.default : EpochSchedule := ⟨432000, 432000, true, 14, 524256⟩

/-- An IPv4 `SocketAddr`. -/
structure SocketAddr where
  ip : UInt32
  port : UInt16
  deriving DecidableEq, Repr

/-- `Ipv4Addr::LOCALHOST`, `127.0.0.1`. -/
def localhost : UInt32 := 0x7f000001

/-- The two fields of `JsonRpcConfig` that `run_internal` sets. -/
structure JsonRpcConfig where
  faucetAddr : Option SocketAddr
  enableRpcTransactionHistory : Bool
  deriving DecidableEq, Repr

/-- `JsonRpcConfig::default_for_test()`, on these two fields. -/
def JsonRpcConfig.defaultForTest : JsonRpcConfig := ⟨none, false⟩

/-! ## `TestValidatorGenesis` -/

/-- The settings of `TestValidatorGenesis` that `run_internal` writes. -/
structure TestValidatorGenesis where
  rpcPorts : UInt16 × UInt16
  gossipPort : UInt16
  portRange : UInt16 × UInt16
  rpcConfig : JsonRpcConfig
  warpSlot : UInt64
  epochSchedule : EpochSchedule
  upgradeablePrograms : List UpgradeableProgramInfo
  accounts : HashMap Pubkey AccountSharedData

namespace TestValidatorGenesis

/-- `add_account`: the account replaces any earlier one of the same address. -/
def addAccount (g : TestValidatorGenesis) (address : Pubkey) (account : AccountSharedData) :
    TestValidatorGenesis :=
  { g with accounts := g.accounts.insert address account }

/-- `add_accounts`: `add_account` for each pair, in iteration order. -/
def addAccounts (g : TestValidatorGenesis) (accounts : List (Pubkey × AccountSharedData)) :
    TestValidatorGenesis :=
  accounts.foldl (fun g e => g.addAccount e.1 e.2) g

@[simp] theorem accounts_addAccount (g : TestValidatorGenesis) (a : Pubkey)
    (acc : AccountSharedData) : (g.addAccount a acc).accounts = g.accounts.insert a acc := rfl

/-- `add_accounts` changes the accounts and nothing else. -/
theorem addAccounts_eq (g : TestValidatorGenesis) (l : List (Pubkey × AccountSharedData)) :
    g.addAccounts l = { g with accounts := l.foldl (fun m e => m.insert e.1 e.2) g.accounts } := by
  induction l generalizing g with
  | nil => rfl
  | cons e l ih => exact ih _

theorem accounts_addAccounts (g : TestValidatorGenesis) (l : List (Pubkey × AccountSharedData)) :
    (g.addAccounts l).accounts = l.foldl (fun m e => m.insert e.1 e.2) g.accounts := by
  rw [addAccounts_eq]

/-- A lookup after `add_accounts`, when every pair of `l` with address `a` carries `acc`:
`acc` if `a` is an address of `l`, the earlier account otherwise. -/
theorem get?_addAccounts (g : TestValidatorGenesis) (l : List (Pubkey × AccountSharedData))
    (a : Pubkey) (acc : AccountSharedData) (h : ∀ e ∈ l, e.1 = a → e.2 = acc) :
    (g.addAccounts l).accounts.get? a =
      if a ∈ l.map Prod.fst then some acc else g.accounts.get? a := by
  rw [accounts_addAccounts, HashMap.get?_foldl_insert _ _ _ _ h]

/-- The ports a validator started from `g` listens on: its rpc and pubsub ports, the
faucet its rpc service points at, and its port range, the gossip port among them. -/
def boundPorts (g : TestValidatorGenesis) : List UInt16 :=
  [g.rpcPorts.1, g.rpcPorts.2] ++ (g.rpcConfig.faucetAddr.elim [] fun addr => [addr.port]) ++
    rangeInclusive g.portRange.1 g.portRange.2

end TestValidatorGenesis

end WasmSolana
