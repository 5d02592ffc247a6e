import WasmSolana.Ports

/-!
# `find_ports`: the random port search

`find_ports` draws a base port in `1000..u16::MAX - 25` and proposes `base`, `base + 1`,
`base + 2` and the gossip range `base + 3 ..= base + 23`. It returns the first proposal
whose ports all pass `is_port_available`, and gives up once its counter of 100 attempts
runs out.

The generator and the probes are inputs of the model: `draw k` is the base the generator
returns in iteration `k`, and `available k` answers `is_port_available` in iteration `k`
(the OS and the registry may change from one iteration to the next).

* `findPorts_eq_find?`: the loop is a `List.find?` over the iterations `0..100`;
* `TestValidatorPorts.FromBase`: the shape of a proposal; a drawn base cannot make any of
  the additions wrap, so a proposal is 24 distinct ports (`candidate_fromBase`);
* `find_ports_spec`: only the first 100 iterations are consulted, `None` means that each
  of them met an unavailable port, and `Some` is an available proposal of that shape.
-/

namespace WasmSolana

/-! ## One iteration -/

/-- `u16::MAX - 25`, the exclusive end of the range the base port is drawn from. -/
def findPortsMax : UInt16 := 65535 - 25

/-- A value `rng.random_range(1000..max)` can return. -/
structure PortDraw where
  port : UInt16
  lo : 1000 ≤ port.toNat
  hi : port.toNat < findPortsMax.toNat

/-- The tuple `find_ports` proposes for the base `port`. -/
def candidate (port : UInt16) : UInt16 × UInt16 × UInt16 × (UInt16 × UInt16) :=
  let rangeStart := port + 3
  let rangeEnd := rangeStart + 20
  (port, port + 1, port + 2, (rangeStart, rangeEnd))

/-- The closure of `TestValidatorPorts::try_random_ports`. -/
def TestValidatorPorts.ofTuple :
    UInt16 × UInt16 × UInt16 × (UInt16 × UInt16) → TestValidatorPorts
  | (rpc, pubsub, faucet, gossipRange) => ⟨rpc, pubsub, faucet, gossipRange⟩

/-- The condition of the loop's `if`, evaluated left to right. -/
def candidateAvailable (available : UInt16 → Bool)
    (ports : UInt16 × UInt16 × UInt16 × (UInt16 × UInt16)) : Bool :=
  available ports.1 && available ports.2.1 && available ports.2.2.1 &&
    (rangeInclusive ports.2.2.2.1 ports.2.2.2.2).all available

theorem candidateAvailable_eq_all (available : UInt16 → Bool)
    (ports : UInt16 × UInt16 × UInt16 × (UInt16 × UInt16)) :
    candidateAvailable available ports = (TestValidatorPorts.ofTuple ports).ports.all available := by
  obtain ⟨a, b, c, s, e⟩ := ports
  simp [candidateAvailable, TestValidatorPorts.ofTuple, TestValidatorPorts.ports, Bool.and_assoc]

/-! ## The loop -/

/-- The `loop` of `find_ports` from iteration `k`, where `attempts` is the counter right
after that iteration's `attempts -= 1`. -/
def findPortsLoop (draw : Nat → PortDraw) (available : Nat → UInt16 → Bool) (k : Nat)
    (attempts : Nat) : Option (UInt16 × UInt16 × UInt16 × (UInt16 × UInt16)) :=
  let ports := candidate (draw k).port
  if candidateAvailable (available k) ports then some ports
  else match attempts with
    | 0 => none
    | attempts + 1 => findPortsLoop draw available (k + 1) attempts

/-- `find_ports`: the counter starts at `100`, so the first iteration runs with `99`. -/
def findPorts (draw : Nat → PortDraw) (available : Nat → UInt16 → Bool) :
    Option (UInt16 × UInt16 × UInt16 × (UInt16 × UInt16)) :=
  findPortsLoop draw available 0 99

/-- `TestValidatorPorts::try_random_ports`. -/
def TestValidatorPorts.tryRandomPorts (draw : Nat → PortDraw)
    (available : Nat → UInt16 → Bool) : Option TestValidatorPorts :=
  (findPorts draw available).map TestValidatorPorts.ofTuple

/-- The loop returns the proposal of the first iteration in `k ..= k + attempts` whose
ports are all available. -/
theorem findPortsLoop_eq_find? (draw : Nat → PortDraw) (available : Nat → UInt16 → Bool)
    (k attempts : Nat) :
    findPortsLoop draw available k attempts =
      ((List.range' k (attempts + 1)).find? fun j =>
        candidateAvailable (available j) (candidate (draw j).port)).map
        fun j => candidate (draw j).port := by
  induction attempts generalizing k with
  | zero =>
    rw [findPortsLoop]
    by_cases hc : candidateAvailable (available k) (candidate (draw k).port) <;> simp [hc]
  | succ a ih =>
    rw [findPortsLoop, List.range'_succ]
    by_cases hc : candidateAvailable (available k) (candidate (draw k).port) <;> simp [hc, ih]

/-- The loop reads the draws and probes of its iterations `k ..= k + attempts` only. -/
theorem findPortsLoop_congr {draw draw' : Nat → PortDraw}
    {available available' : Nat → UInt16 → Bool} {k attempts : Nat}
    (h : ∀ j, k ≤ j → j ≤ k + attempts → draw' j = draw j ∧ available' j = available j) :
    findPortsLoop draw' available' k attempts = findPortsLoop draw available k attempts := by
  induction attempts generalizing k with
  | zero =>
    obtain ⟨hd, ha⟩ := h k le_rfl (by omega)
    unfold findPortsLoop; rw [hd, ha]
  | succ a ih =>
    obtain ⟨hd, ha⟩ := h k le_rfl (by omega)
    unfold findPortsLoop
    simp only [hd, ha, ih (k := k + 1) fun j h1 h2 => h j (by omega) (by omega)]

theorem findPorts_eq_find? (draw : Nat → PortDraw) (available : Nat → UInt16 → Bool) :
    findPorts draw available =
      ((List.range 100).find? fun j =>
        candidateAvailable (available j) (candidate (draw j).port)).map
        fun j => candidate (draw j).port := by
  rw [findPorts, findPortsLoop_eq_find?, List.range_eq_range']

/-- What `find_ports` returns is the proposal of one of its first 100 iterations, every
port of which was available in that iteration. -/
theorem findPorts_eq_some {draw : Nat → PortDraw} {available : Nat → UInt16 → Bool}
    {ports : UInt16 × UInt16 × UInt16 × (UInt16 × UInt16)}
    (h : findPorts draw available = some ports) : ∃ k < 100, ports = candidate (draw k).port ∧
      ∀ x ∈ (TestValidatorPorts.ofTuple ports).ports, available k x = true := by
  rw [findPorts_eq_find?, Option.map_eq_some'] at h
  obtain ⟨k, hk, rfl⟩ := h
  have hall := List.find?_some hk
  rw [candidateAvailable_eq_all, List.all_eq_true] at hall
  exact ⟨k, List.mem_range.1 (List.mem_of_find?_eq_some hk), rfl, hall⟩

/-! ## The shape of a proposal -/

/-- A PortSet of base `b`: `b`, `b + 1`, `b + 2` and the gossip range `b + 3 ..= b + 23`,
each without wrapping. -/
structure TestValidatorPorts.FromBase (p : TestValidatorPorts) (b : Nat) : Prop where
  rpc : p.rpc.toNat = b
  pubsub : p.pubsub.toNat = b + 1
  faucet : p.faucet.toNat = b + 2
  rangeStart : p.gossipRange.1.toNat = b + 3
  rangeEnd : p.gossipRange.2.toNat = b + 23

/-- A drawn base leaves room for all 24 ports. -/
theorem candidate_fromBase (d : PortDraw) :
    (TestValidatorPorts.ofTuple (candidate d.port)).FromBase d.port.toNat := by
  have h := d.hi
  have hmax : findPortsMax.toNat = 65510 := rfl
  have h3 : (d.port + 3).toNat = d.port.toNat + 3 :=
    BitVec.toNat_add_of_lt (show d.port.toNat + 3 < 65536 by omega)
  have h23 : (d.port + 3 + 20).toNat = (d.port + 3).toNat + 20 :=
    BitVec.toNat_add_of_lt (show (d.port + 3).toNat + 20 < 65536 by omega)
  refine ⟨rfl, BitVec.toNat_add_of_lt (show d.port.toNat + 1 < 65536 by omega),
    BitVec.toNat_add_of_lt (show d.port.toNat + 2 < 65536 by omega), h3, ?_⟩
  show (d.port + 3 + 20).toNat = _
  rw [h23, h3]

namespace TestValidatorPorts.FromBase

variable {p : TestValidatorPorts} {b : Nat}

/-- The ports of a PortSet of base `b` are the numbers `b .. b + 23`. -/
theorem map_toNat_ports (h : p.FromBase b) : p.ports.map UInt16.toNat = List.range' b 24 := by
  rw [TestValidatorPorts.ports, List.map_append, map_toNat_rangeInclusive, h.rangeStart,
    h.rangeEnd, show b + 23 + 1 - (b + 3) = 21 by omega]
  simp [h.rpc, h.pubsub, h.faucet, List.range'_succ]

theorem nodup (h : p.FromBase b) : p.ports.Nodup :=
  List.Nodup.of_map _ (h.map_toNat_ports ▸ List.nodup_range' _ _)

theorem length_ports (h : p.FromBase b) : p.ports.length = 24 := by
  rw [← List.length_map _ UInt16.toNat, h.map_toNat_ports, List.length_range']

theorem length_gossip (h : p.FromBase b) :
    (rangeInclusive p.gossipRange.1 p.gossipRange.2).length = 21 := by
  rw [length_rangeInclusive, h.rangeStart, h.rangeEnd]; omega

end TestValidatorPorts.FromBase

/-! ## `find_ports` -/

/-- Everything `find_ports` can do, for every stream of draws and every pattern of probe
answers: it consults only its first 100 iterations; it returns `None` exactly when each of
them met an unavailable port; and what it returns otherwise is the proposal of one of those
iterations, 24 distinct ports whose gossip range `s ..= s + 20` holds 21 ports, each of
them available in that iteration. -/
theorem find_ports_spec (draw : Nat → PortDraw) (available : Nat → UInt16 → Bool) :
    (∀ draw' available', (∀ k < 100, draw' k = draw k ∧ available' k = available k) →
      findPorts draw' available' = findPorts draw available) ∧
    (findPorts draw available = none ↔ ∀ k < 100,
      ∃ x ∈ (TestValidatorPorts.ofTuple (candidate (draw k).port)).ports,
        available k x = false) ∧
    ∀ ports, findPorts draw available = some ports → ∃ k < 100,
      ports = candidate (draw k).port ∧
      (TestValidatorPorts.ofTuple ports).FromBase (draw k).port.toNat ∧
      (TestValidatorPorts.ofTuple ports).ports.Nodup ∧
      (TestValidatorPorts.ofTuple ports).ports.length = 24 ∧
      ports.2.2.2.2.toNat = ports.2.2.2.1.toNat + 20 ∧
      (rangeInclusive ports.2.2.2.1 ports.2.2.2.2).length = 21 ∧
      ∀ x ∈ (TestValidatorPorts.ofTuple ports).ports, available k x = true := by
  refine ⟨fun draw' available' h => ?_, ?_, fun ports hp => ?_⟩
  · exact findPortsLoop_congr fun j _ hj => h j (by omega)
  · rw [findPorts_eq_find?]
    simp [candidateAvailable_eq_all]
  · obtain ⟨k, hk, rfl, hall⟩ := findPorts_eq_some hp
    have hb := candidate_fromBase (draw k)
    exact ⟨k, hk, rfl, hb, hb.nodup, hb.length_ports, hb.rangeEnd.trans (hb.rangeStart ▸ rfl),
      hb.length_gossip, hall⟩

end WasmSolana
