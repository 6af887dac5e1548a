import VxlanMtd.Engine.Reachability

/-!
# The way of a packet

What a packet meets on its way through the overlay of a reconfiguration.

* `exists_group_of_next` — a hop stays in one group, whatever the addresses;
* `Sound.next_gateway` — only the destination itself is reached without being a
  gateway;
* **`transit_crosses`** — every hop is inside a group, only gateways pass a
  packet on, there are at most two more nodes on the way than there are groups,
  and inside its group a packet needs one hop.
-/

namespace VxlanMtd

open Forwarding

-- addresses are opaque here; unfolding them would make Lean render templates
attribute [local irreducible] networkText macText PlaceMarker.arg

/-- Two participants are in one group. -/
def VMTDEngine.SameGroup (engine : VMTDEngine) (p q : Nat) : Prop :=
  ∃ G ∈ engine.groups, p ∈ G.participants ∧ q ∈ G.participants

/-- The participant at a position is a gateway. -/
def VMTDEngine.IsGateway (engine : VMTDEngine) (p : Nat) : Prop :=
  ∃ r, engine.participants[p]? = some r ∧ r.role = .gateway

/-- The way of a packet across the groups. -/
structure VMTDEngine.Crosses (engine : VMTDEngine) (p q : Nat) (path : List Nat) : Prop where
  starts : path.head? = some p
  arrives : path.getLast? = some q
  hops : path.IsChain engine.SameGroup
  transit : ∀ x ∈ path, x ≠ p → x ≠ q → engine.IsGateway x
  bound : path.length ≤ engine.groups.length + 2
  /-- Members of one group are at most one hop apart. -/
  direct : ∀ r r', engine.participants[p]? = some r → engine.participants[q]? = some r' →
    r.interface1.vlanId = r'.interface1.vlanId → path.length ≤ 2

namespace Plan

variable {manager : VMTDDeviceManager} {π : Plan manager.participants.length}
  {p q : Nat} {b b' : VMTDParticipant} {dest : Nat}

-- ---------------------------------------------------------------------------
-- Hops
-- ---------------------------------------------------------------------------

theorem length_groups : π.engine.groups.length = π.groupCount := by
  have hGroups : π.engine.groups = (List.range π.groupCount).map π.group := rfl
  rw [hGroups, List.length_map, List.length_range]

/-- An existing interface is in the VLAN of a group the participant is in. -/
theorem exists_group_of_interface (hp : p < manager.participants.length) {i : VMTDInterface}
    (hi : i ∈ (π.participant p b).existingInterfaces) :
    ∃ g < π.groupCount, p ∈ (π.group g).participants ∧ i.vlanId = π.vlanId g := by
  have hMap := @existing_participant _ π _ VMTDInterface.vlanId (fun _ _ => rfl) p hp b
  have hMem := List.mem_map_of_mem (f := VMTDInterface.vlanId) hi
  rw [hMap] at hMem
  obtain ⟨k, hk, hVlan⟩ := List.mem_map.mp hMem
  have hg := lt_of_mem_allKeys (mem_allKeys hp hk)
  refine ⟨k.1, hg, (mem_participants_group hg hp).mpr ?_, hVlan.symm⟩
  rcases mem_keys.mp hk with rfl | ⟨h, hLink, rfl⟩
  · exact Or.inl rfl
  · exact Or.inr hLink

/-- Whoever can send to a participant without a router shares a group with
it. -/
theorem exists_group_of_reaches (hp : p < manager.participants.length)
    (hq : q < manager.participants.length)
    (h : (π.participant p b).reaches (π.participant q b') dest = true) :
    π.engine.SameGroup p q := by
  unfold VMTDParticipant.reaches at h
  obtain ⟨i, hi, h⟩ := List.any_eq_true.mp h
  obtain ⟨i', hi', h⟩ := List.any_eq_true.mp h
  have hVlans : i.vlanId = i'.vlanId := by
    rw [Bool.and_eq_true, Bool.and_eq_true] at h
    exact beq_iff_eq.mp h.1.1
  obtain ⟨g, hg, hMem, hVlan⟩ := exists_group_of_interface hp hi
  obtain ⟨g', hg', hMem', hVlan'⟩ := exists_group_of_interface hq hi'
  have hSame : g = g' := π.vlanId_inj g hg g' hg' (by rw [← hVlan, hVlans, hVlan'])
  exact ⟨π.group g, mem_groups.mpr ⟨g, hg, rfl⟩, hMem, hSame ▸ hMem'⟩

/-- **A hop stays in one group**, also where addresses collide. -/
theorem exists_group_of_next (hNext : π.engine.overlay.next dest p = some q) :
    q < manager.participants.length ∧ π.engine.SameGroup p q := by
  obtain ⟨e, -, hFind⟩ := Option.bind_eq_some_iff.mp hNext
  unfold VMTDEngine.overlay at hFind
  dsimp only at hFind
  have hLength : π.engine.participants.length = manager.participants.length := by
    rw [participants_engine, List.length_mapIdx]
  have hq := List.mem_range.mp (List.mem_of_find?_eq_some hFind)
  rw [hLength] at hq
  have hFound := List.find?_some hFind
  obtain ⟨r, hr, hFound⟩ := Option.any_eq_true _ _ |>.mp hFound
  obtain ⟨r', hr', hReaches⟩ := Option.any_eq_true _ _ |>.mp hFound
  obtain ⟨b, hb, rfl⟩ := getElem?_participants.mp hr
  obtain ⟨b', -, rfl⟩ := getElem?_participants.mp hr'
  exact ⟨hq, exists_group_of_reaches (List.getElem?_eq_some_iff.mp hb).1 hq hReaches⟩

/-- The next hop is the destination, or the gateway of a group. -/
theorem Sound.next_gateway (hSound : π.Sound) (hp : p < manager.participants.length)
    (hq : q < manager.participants.length) {p' : Nat}
    (hNext : π.engine.overlay.next (π.keyAddress (π.homeKey q)) p = some p') :
    p' = q ∨ p' = π.gateway (π.home p') := by
  have hGatewayOf : ∀ g < π.groupCount, π.gateway g = π.gateway (π.home (π.gateway g)) := by
    intro g hg
    rw [π.home_gateway g hg]
  have hHome := π.home_lt p hp
  by_cases hAttached : ∃ k ∈ π.keys p, k.1 = π.home q
  · obtain ⟨k, hk, hGroup⟩ := hAttached
    rw [hSound.next_attached hp hq hk hGroup] at hNext
    exact Or.inl (Option.some_inj.mp hNext).symm
  have hOther : ∀ k ∈ π.keys p, k.1 ≠ π.home q := fun k hk hGroup => hAttached ⟨k, hk, hGroup⟩
  right
  by_cases hGateway : p = π.gateway (π.home p)
  · have hPlaces : π.place (π.home p) ≠ π.place (π.home q) := fun hEq =>
      hOther _ homeKey_mem (List.idxOf_inj (home_mem_chain hp) |>.mp hEq)
    rcases lt_or_gt_of_ne hPlaces with hLt | hGt
    · have hLater := (Chain.mem_after_iff chain_nodup (home_mem_chain hp)).mpr
        ⟨home_mem_chain hq, hLt⟩
      obtain ⟨h, rest, hSplit⟩ := List.exists_cons_of_ne_nil (List.ne_nil_of_mem hLater)
      rw [hSound.next_forward hp hq hOther hGateway hLater hSplit] at hNext
      obtain rfl := Option.some_inj.mp hNext
      exact hGatewayOf h (mem_after hHome (hSplit ▸ List.mem_cons_self)).1
    · have hEarlier := (Chain.mem_before_iff chain_nodup (home_mem_chain hp)).mpr
        ⟨home_mem_chain hq, hGt⟩
      obtain ⟨h, rest, hSplit⟩ := List.exists_cons_of_ne_nil (List.ne_nil_of_mem hEarlier)
      have hLink : π.linkedGroup p = some h := by
        rw [linkedGroup, if_pos hGateway, hSplit, List.head?_cons]
      have hRest : π.home q ∈ rest := by
        rw [hSplit] at hEarlier
        refine (List.mem_cons.mp hEarlier).resolve_left fun hEq => ?_
        exact hOther _ (linkKey_mem hLink) hEq.symm
      rw [hSound.next_back hp hq hOther hGateway hSplit hRest] at hNext
      obtain rfl := Option.some_inj.mp hNext
      exact hGatewayOf h (mem_before hHome (hSplit ▸ List.mem_cons_self)).1
  · rw [hSound.next_plain hp hq hOther hGateway] at hNext
    obtain rfl := Option.some_inj.mp hNext
    exact hGatewayOf _ hHome

theorem place_lt (hp : p < manager.participants.length) : π.place (π.home p) < π.groupCount := by
  have hLt := List.idxOf_lt_length_of_mem (home_mem_chain (π := π) hp)
  rwa [π.chain_perm.length_eq, List.length_range] at hLt

/-- No rank is higher than one more than the number of groups. -/
theorem rank_le (hp : p < manager.participants.length) (hq : q < manager.participants.length) :
    π.rank q p ≤ π.groupCount + 1 := by
  have hPlace := place_lt (π := π) hp
  have hPlace' := place_lt (π := π) hq
  have hChain : chainRank (π.place (π.home q)) (π.place (π.home p)) ≤ π.groupCount := by
    unfold chainRank
    split <;> omega
  unfold rank
  split
  · omega
  · split
    · omega
    · split <;> omega

-- ---------------------------------------------------------------------------
-- Ways
-- ---------------------------------------------------------------------------

/-- What a hop towards another participant does, in a sound plan. -/
theorem Sound.hop_spec (hSound : π.Sound) (hq : q < manager.participants.length) {a a' : Nat}
    (ha : a < manager.participants.length)
    (hOther : π.engine.overlay.owns a (π.keyAddress (π.homeKey q)) = false)
    (hNext : π.engine.overlay.next (π.keyAddress (π.homeKey q)) a = some a') :
    a' < manager.participants.length ∧ π.rank q a' < π.rank q a ∧
      (a' = q ∨ a' = π.gateway (π.home a')) := by
  have hne : a ≠ q := by
    intro hEq
    rw [(hSound.owns_iff hq).mpr hEq] at hOther
    exact Bool.false_ne_true hOther.symm
  obtain ⟨next, hNext', hLt, hLower⟩ := hSound.next_hop ha hq hne
  obtain rfl := Option.some_inj.mp (hNext.symm.trans hNext')
  exact ⟨hLt, hLower, hSound.next_gateway ha hq hNext⟩

theorem isGateway_engine (hp : p < manager.participants.length)
    (hGateway : p = π.gateway (π.home p)) : π.engine.IsGateway p := by
  obtain ⟨b, hb⟩ := exists_base hp
  refine ⟨π.participant p b, getElem?_participants.mpr ⟨b, hb, rfl⟩, ?_⟩
  rw [role_participant, if_pos hGateway]

/-- Every way of a packet in a sound plan. -/
theorem Sound.crosses (hSound : π.Sound) (hp : p < manager.participants.length)
    (hq : q < manager.participants.length) {path : List Nat}
    (hPath : π.engine.overlay.HopSequence (π.keyAddress (π.homeKey q)) p path) :
    π.engine.Crosses p q path := by
  have hStep := fun a a' ha => @Sound.hop_spec _ _ _ hSound hq a a' ha
  constructor
  · exact hPath.head
  · obtain ⟨owner, hLast, hOwns⟩ := hPath.getLast
    rw [hLast, (hSound.owns_iff hq).mp hOwns]
  · exact hPath.isChain fun a b hNext => (exists_group_of_next hNext).2
  · have hTail := hPath.forall_tail
      (P := fun x => x < manager.participants.length ∧ (x = q ∨ x = π.gateway (π.home x)))
      (fun a a' ha hOther hNext => by
        obtain ⟨hLt, -, hGateway⟩ := hStep a a' ha hOther hNext
        exact ⟨hLt, hLt, hGateway⟩) hp
    intro x hx hxp hxq
    obtain ⟨rest, hCons⟩ := List.head?_eq_some_iff.mp hPath.head
    rw [hCons] at hx hTail
    obtain ⟨hLt, hGateway⟩ := hTail x ((List.mem_cons.mp hx).resolve_left hxp)
    exact isGateway_engine hLt (hGateway.resolve_left hxq)
  · have hHop : ∀ a a', a < manager.participants.length →
        π.engine.overlay.owns a (π.keyAddress (π.homeKey q)) = false →
          π.engine.overlay.next (π.keyAddress (π.homeKey q)) a = some a' →
            a' < manager.participants.length ∧ π.rank q a' < π.rank q a := by
      intro a a' ha hOther hNext
      obtain ⟨hLt, hLower, -⟩ := hStep a a' ha hOther hNext
      exact ⟨hLt, hLower⟩
    have hLength := hPath.length_le hHop hp
    have hRank := rank_le (π := π) hp hq
    rw [length_groups]
    omega
  · intro r r' hr hr' hVlan
    obtain ⟨b, -, rfl⟩ := getElem?_participants.mp hr
    obtain ⟨b', -, rfl⟩ := getElem?_participants.mp hr'
    rw [interface1_participant hp, interface1_participant hq] at hVlan
    have hHome : π.home p = π.home q :=
      π.vlanId_inj _ (π.home_lt p hp) _ (π.home_lt q hq) hVlan
    have hNext := hSound.next_attached hp hq homeKey_mem hHome
    have hOwner : ∀ {path}, π.engine.overlay.HopSequence (π.keyAddress (π.homeKey q)) q path →
        path = [q] := fun h => h.unique (.arrived ((hSound.owns_iff hq).mpr rfl))
    cases hPath with
    | arrived => exact Nat.le_of_lt Nat.one_lt_two
    | hop _ hNext' hPath =>
      obtain rfl := Option.some_inj.mp (hNext.symm.trans hNext')
      rw [hOwner hPath]
      exact le_rfl

end Plan

/-- **Transit.** Whatever way a packet takes from a participant to the first
address of another: consecutive nodes are in one group, only gateways pass it
on, and it makes at most one hop for each group and one more. -/
theorem transit_crosses {settings : VMTDSettings} {rows : List DeviceRow} {draws : Draws}
    {engine engine' : VMTDEngine}
    (h : VMTDEngine.generate settings rows draws engine = some engine')
    (hTwo : 2 ≤ engine'.participants.length)
    (hOctets : ∀ i ∈ engine'.existingInterfaces, (readAddress i.ip).isSome = true)
    (hDistinct : (engine'.existingInterfaces.map (·.ip)).Nodup)
    (hReserved : ∀ G ∈ engine'.groups, G.network ≠ "100.100.17.0" ∧ G.network ≠ "100.100.18.0") :
    ∀ p < engine'.participants.length, ∀ (q : Nat) (r : VMTDParticipant),
      engine'.participants[q]? = some r → ∀ dest, readAddress r.interface1.ip = some dest →
        ∀ path, engine'.overlay.HopSequence dest p path → engine'.Crosses p q path := by
  rw [length_participants_generate h] at hTwo
  obtain ⟨π, -, rfl⟩ := generate_refines h hTwo
  have hSound := π.sound_of_engine hOctets hDistinct hReserved
  intro p hp q r hr dest hDest path hPath
  rw [Plan.participants_engine, List.length_mapIdx] at hp
  obtain ⟨b, hb, rfl⟩ := Plan.getElem?_participants.mp hr
  have hq := (List.getElem?_eq_some_iff.mp hb).1
  have hRead := hSound.readAddress_key (Plan.mem_allKeys hq Plan.homeKey_mem)
  obtain rfl : π.keyAddress (π.homeKey q) = dest := Option.some_inj.mp (hRead.symm.trans hDest)
  exact hSound.crosses hp hq hPath

/-- Four hosts on one switch. -/
def fourRows : List DeviceRow :=
  twoRows ++ [⟨3, "Node-3", "node3", "10.0.0.3", "eth0", "1/3", "leaf", "http://leaf"⟩,
    ⟨4, "Node-4", "node4", "10.0.0.4", "eth0", "1/4", "leaf", "http://leaf"⟩]

/-- Two groups of two hosts: from the second host to the third by way of the
gateways of both groups. -/
theorem transit_crosses_fourRows :
    ∃ engine', VMTDEngine.generate {} fourRows (twoGroups 1) {} = some engine' ∧
      engine'.participants.length = 4 ∧
      (∃ dest, engine'.participants[2]?.bind (fun r => readAddress r.interface1.ip) = some dest ∧
        engine'.overlay.HopSequence dest 1 [1, 0, 3, 2]) ∧
      ∀ p < engine'.participants.length, ∀ (q : Nat) (r : VMTDParticipant),
        engine'.participants[q]? = some r → ∀ dest, readAddress r.interface1.ip = some dest →
          ∀ path, engine'.overlay.HopSequence dest p path → engine'.Crosses p q path := by
  have hRun : (VMTDEngine.generate {} fourRows (twoGroups 1) {}).any (fun engine' =>
      decide (engine'.participants.length = 4 ∧
        (∀ i ∈ engine'.existingInterfaces, (readAddress i.ip).isSome = true) ∧
        (engine'.existingInterfaces.map (·.ip)).Nodup ∧
        (∀ G ∈ engine'.groups, G.network ≠ "100.100.17.0" ∧ G.network ≠ "100.100.18.0") ∧
        (engine'.participants[2]?.bind fun r => readAddress r.interface1.ip).any fun dest =>
          decide (([1, 0, 3].map fun p => (engine'.overlay.owns p dest,
              engine'.overlay.next dest p)) =
            [(false, some 0), (false, some 3), (false, some 2)] ∧
          engine'.overlay.owns 2 dest = true))) = true := by
    decide +kernel
  obtain ⟨engine', hEngine, hAll⟩ := Option.any_eq_true _ _ |>.mp hRun
  obtain ⟨hFour, hOctets, hDistinct, hReserved, hWay⟩ := of_decide_eq_true hAll
  obtain ⟨dest, hDest, hHops⟩ := Option.any_eq_true _ _ |>.mp hWay
  obtain ⟨hHops, hOwns⟩ := of_decide_eq_true hHops
  simp only [List.map_cons, List.map_nil, List.cons.injEq, Prod.mk.injEq, and_true] at hHops
  obtain ⟨⟨hOther₁, hNext₁⟩, ⟨hOther₀, hNext₀⟩, hOther₃, hNext₃⟩ := hHops
  have hPath : engine'.overlay.HopSequence dest 1 [1, 0, 3, 2] :=
    .hop hOther₁ hNext₁ (.hop hOther₀ hNext₀ (.hop hOther₃ hNext₃ (.arrived hOwns)))
  exact ⟨engine', hEngine, hFour, ⟨dest, hDest, hPath⟩,
    transit_crosses hEngine (by omega) hOctets hDistinct hReserved⟩

end VxlanMtd
