import WasmSolana.Basic

/-!
# Ports and the `USED_PORTS` registry

`test_validator_runner.rs` keeps one process-wide `HashSet<u16>` of reserved ports behind a
mutex. `run_internal` inserts every port of a runner's `TestValidatorPorts` into it, and
`Drop` removes them again, both through the same two loops over `rpc`, `pubsub`, `faucet`
and the inclusive gossip range.

* `rangeInclusive` is the iteration of `start..=end` over `u16`: empty when
  `start > end`, and ending at `u16::MAX` without wrapping;
* `markPorts` and `freePorts` are the two loops, and `markPorts_eq`, `freePorts_eq` say
  they add and remove exactly the set `TestValidatorPorts.ports`;
* `freePorts_markPorts`: marking then freeing a PortSet none of whose ports was reserved
  gives back the registry it started from.
-/

namespace WasmSolana

/-! ## Inclusive ranges of ports -/

/-- The ports `start..=stop` yields in order. -/
def rangeInclusive (start stop : UInt16) : List UInt16 :=
  (List.range' start.toNat (stop.toNat + 1 - start.toNat)).map UInt16.ofNat

/-- The ports of `start..=stop`, as numbers. -/
theorem map_toNat_rangeInclusive (s e : UInt16) :
    (rangeInclusive s e).map UInt16.toNat = List.range' s.toNat (e.toNat + 1 - s.toNat) := by
  rw [rangeInclusive, List.map_map, List.map_congr_left]
  · exact List.map_id _
  intro n hn
  have := e.toNat_lt_size
  rw [List.mem_range'_1] at hn
  exact UInt16.toNat_ofNat_of_lt (by omega)

theorem length_rangeInclusive (s e : UInt16) :
    (rangeInclusive s e).length = e.toNat + 1 - s.toNat := by
  simp [rangeInclusive]

/-! ## `TestValidatorPorts` -/

/-- `TestValidatorPorts`: the rpc, pubsub and faucet ports, and the inclusive gossip range. -/
structure TestValidatorPorts where
  rpc : UInt16
  pubsub : UInt16
  faucet : UInt16
  gossipRange : UInt16 × UInt16
  deriving DecidableEq, Repr

/-- `TestValidatorPorts::default()`: the builder's defaults. -/
def TestValidatorPorts.default : TestValidatorPorts := ⟨8899, 8900, 9900, (8001, 8021)⟩

/-- Every port the runner reserves, in the order `run_internal` marks them. -/
def TestValidatorPorts.ports (p : TestValidatorPorts) : List UInt16 :=
  [p.rpc, p.pubsub, p.faucet] ++ rangeInclusive p.gossipRange.1 p.gossipRange.2

/-! ## `USED_PORTS` -/

/-- The contents of `USED_PORTS`. -/
abbrev UsedPorts := Finset UInt16

/-- `is_port_available`: the OS probe says free and the registry does not hold the port. -/
def isPortAvailable (isLocalIpv4PortFree : UInt16 → Bool) (usedPorts : UsedPorts)
    (port : UInt16) : Bool :=
  isLocalIpv4PortFree port && !decide (port ∈ usedPorts)

/-- `mark_port_used`. -/
def markPortUsed (port : UInt16) (usedPorts : UsedPorts) : UsedPorts := insert port usedPorts

/-- `free_port`. -/
def freePort (port : UInt16) (usedPorts : UsedPorts) : UsedPorts := usedPorts.erase port

/-- The marking at the start of `run_internal`. -/
def markPorts (p : TestValidatorPorts) (usedPorts : UsedPorts) : UsedPorts :=
  (rangeInclusive p.gossipRange.1 p.gossipRange.2).foldl (fun u port => markPortUsed port u)
    (markPortUsed p.faucet (markPortUsed p.pubsub (markPortUsed p.rpc usedPorts)))

/-- `Drop for TestValidatorRunner`. -/
def freePorts (p : TestValidatorPorts) (usedPorts : UsedPorts) : UsedPorts :=
  (rangeInclusive p.gossipRange.1 p.gossipRange.2).foldl (fun u port => freePort port u)
    (freePort p.faucet (freePort p.pubsub (freePort p.rpc usedPorts)))

theorem foldl_markPortUsed (l : List UInt16) (u : UsedPorts) :
    l.foldl (fun u port => markPortUsed port u) u = u ∪ l.toFinset := by
  induction l generalizing u with
  | nil => simp
  | cons x l ih => rw [List.foldl_cons, ih]; ext; simp [markPortUsed]

theorem foldl_freePort (l : List UInt16) (u : UsedPorts) :
    l.foldl (fun u port => freePort port u) u = u \ l.toFinset := by
  induction l generalizing u with
  | nil => simp
  | cons x l ih =>
    rw [List.foldl_cons, ih, List.toFinset_cons, Finset.sdiff_insert, freePort,
      Finset.erase_sdiff_comm]

/-- The marking loop adds exactly the ports of `p`. -/
@[simp] theorem markPorts_eq (p : TestValidatorPorts) (u : UsedPorts) :
    markPorts p u = u ∪ p.ports.toFinset :=
  foldl_markPortUsed p.ports u

/-- The freeing loop removes exactly the ports of `p`. -/
@[simp] theorem freePorts_eq (p : TestValidatorPorts) (u : UsedPorts) :
    freePorts p u = u \ p.ports.toFinset :=
  foldl_freePort p.ports u

/-- Freeing a PortSet none of whose ports is reserved changes nothing. -/
theorem freePorts_of_not_mem {p : TestValidatorPorts} {u : UsedPorts}
    (h : ∀ x ∈ p.ports, x ∉ u) : freePorts p u = u := by
  rw [freePorts_eq]
  exact Finset.sdiff_eq_self_of_disjoint
    (Finset.disjoint_left.2 fun x hx hp => h x (List.mem_toFinset.1 hp) hx)

/-- Marking and then freeing a PortSet none of whose ports is reserved restores the
registry: the two loops cover the same ports, whatever the gossip range. -/
theorem freePorts_markPorts {p : TestValidatorPorts} {u : UsedPorts}
    (h : ∀ x ∈ p.ports, x ∉ u) : freePorts p (markPorts p u) = u := by
  rw [markPorts_eq, freePorts_eq, Finset.union_sdiff_right, ← freePorts_eq]
  exact freePorts_of_not_mem h

end WasmSolana
