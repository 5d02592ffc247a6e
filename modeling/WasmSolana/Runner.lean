import WasmSolana.FindPorts
import WasmSolana.Genesis

/-!
# `TestValidatorRunner::run_internal` and `Drop`

`run_internal` marks every port of its `TestValidatorPorts` in `USED_PORTS` first, and
then talks to its collaborators in a fixed order: it waits for the faucet thread's
acknowledgement, builds the genesis, starts the validator, builds the rpc client, and
warms the validator up with an airdrop to the mint. The answers of the collaborators are
inputs of the model (`RunEnv`). Building the genesis fails too, at `rpc = u16::MAX`:
`rpc_port` computes `rpc + 1`, which panics on overflow in the debug build tests run in.

* `runInternal_usedPorts`: whatever the collaborators answer, `run_internal` leaves
  `USED_PORTS` as the old registry plus the PortSet, so a failed start keeps its ports;
* `run_then_drop_restores`: a run adds exactly the PortSet, `Drop` removes exactly the
  PortSet, so a successful run followed by `Drop` gives back a registry that held none of
  the PortSet's ports;
* `runner_genesis_accounts`: the caller's accounts override the funded pubkeys, which
  override the faucet account;
* `pubsub_not_reserved`: the pubsub port the started validator and its client use is
  `rpc + 1`, which the reservation misses when an explicit PortSet has another `pubsub`.
-/

namespace WasmSolana

/-! ## Props -/

/-- `TestValidatorRunnerProps`. -/
structure TestValidatorRunnerProps where
  ports : TestValidatorPorts
  programs : List TestProgramInfo
  pubkeys : List Pubkey
  initialLamports : UInt64
  commitment : CommitmentLevel
  accounts : HashMap Pubkey AccountSharedData
  warpSlot : UInt64
  epochSchedule : EpochSchedule

/-- `TestValidatorRunnerProps::builder().ports(ports).build()`: every other field at its
default (5 SOL per funded pubkey, warp slot 1000). Without `.ports(..)` the builder calls
`TestValidatorPorts::random_ports()` for the default, which the search steps of `System`
model. -/
def TestValidatorRunnerProps.withPorts (ports : TestValidatorPorts) : TestValidatorRunnerProps :=
  ⟨ports, [], [], solToLamports 5, default, HashMap.empty, 1000, EpochSchedule.default⟩

/-! ## The genesis `run_internal` builds -/

/-- The faucet's own account: 1,000,000 SOL owned by the system program. -/
def faucetAccount : AccountSharedData := .new (solToLamports 1000000) 0 systemProgramId

/-- `funded_accounts`: each funded pubkey with `initial_lamports`, in the order of
`pubkeys`. -/
def fundedAccounts (pubkeys : List Pubkey) (initialLamports : UInt64) :
    List (Pubkey × AccountSharedData) :=
  pubkeys.map fun pubkey => (pubkey, .new initialLamports 0 Pubkey.default)

/-- The builder chain of `run_internal` on `TestValidatorGenesis::default()`. Its
`rpc_port(ports.rpc)` stores the pair `(rpc, rpc + 1)`: the pubsub port is derived, and
`ports.pubsub` is never passed on. At `rpc = u16::MAX` that addition panics instead, and
`startRunner` fails before it uses this genesis. -/
def runnerGenesis (props : TestValidatorRunnerProps) (faucetPubkey : Pubkey) :
    TestValidatorGenesis :=
  let ports := props.ports
  let genesis : TestValidatorGenesis :=
    { rpcPorts := (ports.rpc, ports.rpc + 1)
      gossipPort := ports.gossipRange.1
      portRange := ports.gossipRange
      rpcConfig := { JsonRpcConfig.defaultForTest with
        faucetAddr := some ⟨localhost, ports.faucet⟩
        enableRpcTransactionHistory := true }
      warpSlot := props.warpSlot
      epochSchedule := props.epochSchedule
      upgradeablePrograms := props.programs.map UpgradeableProgramInfo.ofTestProgramInfo
      accounts := HashMap.empty }
  ((genesis.addAccount faucetPubkey faucetAccount).addAccounts
    (fundedAccounts props.pubkeys props.initialLamports)).addAccounts props.accounts.entries

/-- The accounts of the genesis: an address the caller's `accounts` map holds gets that
account, otherwise a funded pubkey gets `initial_lamports`, otherwise the faucet gets its
own account, and no other address is seeded. -/
theorem runner_genesis_accounts (props : TestValidatorRunnerProps) (faucetPubkey a : Pubkey) :
    (runnerGenesis props faucetPubkey).accounts.get? a =
      match props.accounts.get? a with
      | some account => some account
      | none =>
        if a ∈ props.pubkeys then some (.new props.initialLamports 0 Pubkey.default)
        else if a = faucetPubkey then some faucetAccount else none := by
  have hfunded : (fundedAccounts props.pubkeys props.initialLamports).map Prod.fst =
      props.pubkeys := by
    simp [fundedAccounts, Function.comp_def]
  rw [runnerGenesis, TestValidatorGenesis.accounts_addAccounts,
    HashMap.get?_foldl_insert_entries, TestValidatorGenesis.get?_addAccounts _ _ _
      (.new props.initialLamports 0 Pubkey.default) (by simp [fundedAccounts]), hfunded]
  cases props.accounts.get? a <;> simp

/-! ## Collaborators -/

/-- The message `run_local_faucet_with_port` leaves on the channel. -/
inductive FaucetAck
  /-- `Ok(addr)`: the faucet is bound. -/
  | ok
  /-- `Err(reason)`. -/
  | err
  /-- The sender is dropped with no message, so `recv()` fails. -/
  | closed
  deriving DecidableEq, Repr

/-- What the collaborators of one `run_internal` answer. -/
structure RunEnv where
  /-- `Keypair::new().pubkey()` for the faucet. -/
  faucetPubkey : Pubkey
  faucetAck : FaucetAck
  /-- `start_async` returns rather than panics. -/
  validatorStarts : Bool
  /-- The mint keypair `start_async` returns, by its public key. -/
  mintPubkey : Pubkey
  /-- `request_airdrop(..).await` is `Ok`. -/
  airdropOk : Bool

/-- How `run_internal` ends without a runner. -/
inductive RunError
  /-- `recv()` fails: `.expect("run solana faucet")` panics. -/
  | faucetChannelClosed
  /-- The faucet reports an error: the second `.expect` panics. -/
  | faucetError
  /-- `genesis.rpc_port(ports.rpc)` computes `rpc + 1`, which overflows at `u16::MAX` and
  panics in a debug build. -/
  | rpcPortOverflow
  /-- `start_async` panics. -/
  | validatorStartFailed
  /-- `request_airdrop(..).await?` returns the error. -/
  | airdropFailed
  deriving DecidableEq, Repr

/-- A started `TestValidator`, by the ports of its `rpc_url()` and `rpc_pubsub_url()`. -/
structure TestValidator where
  rpcPort : UInt16
  rpcPubsubPort : UInt16
  deriving DecidableEq, Repr

/-- The validator `start_async` brings up from `genesis` serves on its `rpc_ports`. -/
def TestValidator.start (genesis : TestValidatorGenesis) : TestValidator :=
  ⟨genesis.rpcPorts.1, genesis.rpcPorts.2⟩

/-- `SolanaRpcClient::new_with_ws_and_commitment`, by the ports of its two urls and its
commitment. -/
structure SolanaRpcClient where
  rpcPort : UInt16
  wsPort : UInt16
  commitmentConfig : CommitmentConfig
  deriving DecidableEq, Repr

/-- `TestValidatorRunner`; the mint keypair is kept by its public key. -/
structure TestValidatorRunner where
  genesis : TestValidatorGenesis
  ports : TestValidatorPorts
  validator : TestValidator
  mintPubkey : Pubkey
  rpc : SolanaRpcClient

/-! ## `run_internal` -/

/-- Everything `run_internal` does after its marking loop. None of it touches
`USED_PORTS`. -/
def startRunner (props : TestValidatorRunnerProps) (env : RunEnv) :
    Except RunError TestValidatorRunner :=
  match env.faucetAck with
  | .closed => .error .faucetChannelClosed
  | .err => .error .faucetError
  | .ok =>
    if props.ports.rpc = 65535 then .error .rpcPortOverflow else
    let genesis := runnerGenesis props env.faucetPubkey
    if !env.validatorStarts then .error .validatorStartFailed else
    let validator := TestValidator.start genesis
    let rpc : SolanaRpcClient :=
      ⟨validator.rpcPort, validator.rpcPubsubPort, ⟨props.commitment⟩⟩
    if !env.airdropOk then .error .airdropFailed else
    .ok ⟨genesis, props.ports, validator, env.mintPubkey, rpc⟩

/-- `run_internal`: the result, and `USED_PORTS` afterwards. -/
def runInternal (props : TestValidatorRunnerProps) (env : RunEnv) (usedPorts : UsedPorts) :
    Except RunError TestValidatorRunner × UsedPorts :=
  let usedPorts := markPorts props.ports usedPorts
  (startRunner props env, usedPorts)

/-- `Drop for TestValidatorRunner`. -/
def TestValidatorRunner.drop (runner : TestValidatorRunner) (usedPorts : UsedPorts) :
    UsedPorts :=
  freePorts runner.ports usedPorts

/-- A successful start is the runner of `props`, over the genesis of the run. -/
theorem startRunner_eq_ok {props : TestValidatorRunnerProps} {env : RunEnv}
    {runner : TestValidatorRunner} (h : startRunner props env = .ok runner) :
    runner.ports = props.ports ∧ runner.genesis = runnerGenesis props env.faucetPubkey ∧
      runner.validator = TestValidator.start runner.genesis ∧
      runner.rpc = ⟨runner.validator.rpcPort, runner.validator.rpcPubsubPort,
        ⟨props.commitment⟩⟩ := by
  unfold startRunner at h
  split at h <;> try contradiction
  split at h; · contradiction
  split at h; · contradiction
  split at h; · contradiction
  cases h; exact ⟨rfl, rfl, rfl, rfl⟩

/-- Whatever the collaborators answer, `run_internal` leaves `USED_PORTS` as the old
registry plus every port of the PortSet: its only registry effect is the marking loop, and
no failure undoes it. So the registry is back where it started only if all those ports
were reserved already. -/
theorem runInternal_usedPorts (props : TestValidatorRunnerProps) (env : RunEnv)
    (usedPorts : UsedPorts) :
    (runInternal props env usedPorts).2 = usedPorts ∪ props.ports.ports.toFinset ∧
      ((runInternal props env usedPorts).2 = usedPorts ↔ ∀ x ∈ props.ports.ports, x ∈ usedPorts) := by
  refine ⟨markPorts_eq _ _, ?_⟩
  rw [runInternal, markPorts_eq, Finset.union_eq_left]
  constructor
  · intro h x hx; exact h (List.mem_toFinset.2 hx)
  · intro h x hx; exact h x (List.mem_toFinset.1 hx)

/-- A start whose faucet channel closes without a message fails and still leaves the
default PortSet reserved in a registry that was empty. -/
theorem failed_start_keeps_ports :
    ¬ ∀ (props : TestValidatorRunnerProps) (env : RunEnv) (usedPorts : UsedPorts) (e : RunError),
      (runInternal props env usedPorts).1 = .error e →
        (runInternal props env usedPorts).2 = usedPorts := fun h =>
  have hempty := h (.withPorts .default) ⟨⟨1⟩, .closed, true, ⟨2⟩, true⟩ ∅ .faucetChannelClosed rfl
  absurd (hempty ▸ show (8899 : UInt16) ∈
    (runInternal (.withPorts .default) ⟨⟨1⟩, .closed, true, ⟨2⟩, true⟩ ∅).2 by decide)
    (Finset.not_mem_empty _)

/-- A run adds exactly the PortSet to the registry, whatever the collaborators answer; the
`Drop` of its runner removes exactly the PortSet, from whatever registry it finds; so a
successful run followed by the drop of its runner gives back the registry it started from,
whenever that registry held none of the PortSet's ports. -/
theorem run_then_drop_restores (props : TestValidatorRunnerProps) (env : RunEnv)
    (usedPorts : UsedPorts) (runner : TestValidatorRunner)
    (hfree : ∀ x ∈ props.ports.ports, x ∉ usedPorts)
    (hrun : (runInternal props env usedPorts).1 = .ok runner) :
    (runInternal props env usedPorts).2 = usedPorts ∪ props.ports.ports.toFinset ∧
      (∀ u : UsedPorts, runner.drop u = u \ props.ports.ports.toFinset) ∧
      runner.drop (runInternal props env usedPorts).2 = usedPorts := by
  have hports := (startRunner_eq_ok hrun).1
  refine ⟨markPorts_eq _ _, fun u => by rw [TestValidatorRunner.drop, hports, freePorts_eq], ?_⟩
  rw [TestValidatorRunner.drop, hports]
  exact freePorts_markPorts hfree

/-- The default PortSet, run from an empty registry and dropped, leaves it empty. -/
theorem run_then_drop_restores_default :
    ∃ runner, (∀ x ∈ (TestValidatorRunnerProps.withPorts .default).ports.ports,
        x ∉ (∅ : UsedPorts)) ∧
      (runInternal (.withPorts .default) ⟨⟨1⟩, .ok, true, ⟨2⟩, true⟩ ∅).1 = .ok runner ∧
      ((runInternal (.withPorts .default) ⟨⟨1⟩, .ok, true, ⟨2⟩, true⟩ ∅).2 =
          ∅ ∪ (TestValidatorRunnerProps.withPorts .default).ports.ports.toFinset ∧
        (∀ u : UsedPorts,
          runner.drop u = u \ (TestValidatorRunnerProps.withPorts .default).ports.ports.toFinset) ∧
        runner.drop (runInternal (.withPorts .default) ⟨⟨1⟩, .ok, true, ⟨2⟩, true⟩ ∅).2 = ∅) :=
  ⟨_, fun _ _ => Finset.not_mem_empty _, rfl,
    run_then_drop_restores _ _ _ _ (fun _ _ => Finset.not_mem_empty _) rfl⟩

/-! ## The ports the validator binds -/

/-- At the explicit PortSet `rpc 8899, pubsub 9000, faucet 9900, gossip 8001..=8021`, the
started validator and its client use the pubsub port 8900, which the run leaves
unreserved. -/
theorem pubsub_not_reserved :
    ∃ runner, (runInternal (.withPorts ⟨8899, 9000, 9900, (8001, 8021)⟩)
        ⟨⟨1⟩, .ok, true, ⟨2⟩, true⟩ ∅).1 = .ok runner ∧
      runner.rpc.wsPort = 8900 ∧ (8900 : UInt16) ∈ runner.genesis.boundPorts ∧
      (8900 : UInt16) ∉ (runInternal (.withPorts ⟨8899, 9000, 9900, (8001, 8021)⟩)
        ⟨⟨1⟩, .ok, true, ⟨2⟩, true⟩ ∅).2 :=
  ⟨_, rfl, by decide, by decide, by decide⟩

end WasmSolana
