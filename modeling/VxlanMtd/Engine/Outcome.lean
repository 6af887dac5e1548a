import VxlanMtd.Refine.Gateways

/-!
# What a reconfiguration leaves behind

The participants and groups of `Plan.engine`, read off the plan.

* `linkedGroup` — the group whose link a gateway holds, with the two ways to
  find it (`linkedGroup_eq_some`, `exists_linkedGroup`);
* `interface1_participant`, `interface2_participant` — both interfaces of a
  participant, with their routes;
* `mem_participants`, `mem_groups`, `mem_participants_group` — the lists of the
  engine and of its groups;
* `generate_of_lt_two` — the case without a plan.
-/

namespace VxlanMtd

-- addresses are opaque here; unfolding them would make Lean render templates
attribute [local irreducible] networkText macText PlaceMarker.arg

namespace Plan

variable {n : Nat} (π : Plan n)

/-- The group whose link participant `p` holds. -/
def linkedGroup (p : Nat) : Option Nat :=
  if p = π.gateway (π.home p) then (Chain.before π.chain (π.home p)).head? else none

/-- The routes on the first interface of a participant. -/
def routes1 (p : Nat) : List VMTDRoute :=
  if p = π.gateway (π.home p) then π.forwardRoutes p else [π.defaultRoute (π.home p)]

variable {π} {p : Nat} {b : VMTDParticipant}

/-- Only the gateway of a group is linked into another one, right before its own
in the chain. -/
theorem linkedGroup_eq_some {h : Nat} (hp : p < n) (hLink : π.linkedGroup p = some h) :
    h < π.groupCount ∧ h ≠ π.home p ∧ p = π.gateway (π.home p) ∧
      (Chain.after π.chain h).head? = some (π.home p) := by
  unfold linkedGroup at hLink
  split at hLink
  · rename_i hGateway
    have hMem := mem_before (π.home_lt p hp) (List.mem_of_head? hLink)
    refine ⟨hMem.1, fun hEq => ?_, hGateway, ?_⟩
    · rw [hEq] at hMem
      omega
    · exact (Chain.after_head_iff chain_nodup (mem_chain.mpr hMem.1) (home_mem_chain hp)).mpr hLink
  · simp at hLink

/-- The gateway of the next group holds the link of a group. -/
theorem linkedGroup_gateway {g h : Nat} {rest : List Nat} (hg : g < π.groupCount)
    (hAfter : Chain.after π.chain g = h :: rest) :
    h < π.groupCount ∧ h ≠ g ∧ π.linkedGroup (π.gateway h) = some g := by
  obtain ⟨hh, hlt⟩ := mem_after hg (hAfter ▸ List.mem_cons_self)
  refine ⟨hh, fun hEq => absurd hlt (hEq ▸ lt_irrefl _), ?_⟩
  rw [linkedGroup, π.home_gateway h hh, if_pos rfl]
  refine (Chain.after_head_iff chain_nodup (mem_chain.mpr hg) (mem_chain.mpr hh)).mp ?_
  rw [hAfter, List.head?_cons]

/-- Every group but the last has a link, held by the next gateway. -/
theorem exists_linkedGroup {g : Nat} (hg : g < π.groupCount) (hAfter : Chain.after π.chain g ≠ []) :
    ∃ p < n, π.linkedGroup p = some g ∧ π.home p ≠ g := by
  obtain ⟨h, rest, hSplit⟩ := List.exists_cons_of_ne_nil hAfter
  obtain ⟨hh, hne, hLink⟩ := linkedGroup_gateway hg hSplit
  exact ⟨π.gateway h, π.gateway_lt h hh, hLink, (π.home_gateway h hh).symm ▸ hne⟩

-- ---------------------------------------------------------------------------
-- Participants
-- ---------------------------------------------------------------------------

/-- The first interface is in the group of the participant. -/
theorem interface1_participant (hp : p < n) (b : VMTDParticipant) :
    (π.participant p b).interface1 = { π.homeInterface p with routes := π.routes1 p } := by
  have hHome : π.home p ∈ π.chain := home_mem_chain hp
  change π.interface1At π.chain π.chain p = _
  unfold interface1At routes1
  by_cases hGateway : p = π.gateway (π.home p)
  · rw [if_neg (not_not.mpr hGateway), if_pos hHome, if_pos hGateway]
  · rw [if_pos hGateway, if_pos hHome, if_neg hGateway]

/-- The second is in the group it is linked into, or stays new. -/
theorem interface2_participant (hp : p < n) (b : VMTDParticipant) :
    (π.participant p b).interface2 =
      match π.linkedGroup p with
      | none => {}
      | some h => { π.interface h (π.link4 h) with routes := π.backRoutes p } := by
  change π.interface2At π.chain π.chain p = _
  cases hLink : π.linkedGroup p with
  | none =>
    unfold linkedGroup at hLink
    unfold interface2At
    split at hLink
    · rename_i hGateway
      rw [if_pos hGateway, hLink]
    · rename_i hGateway
      rw [if_neg hGateway]
  | some h =>
    obtain ⟨hh, -, hGateway, hAfter⟩ := linkedGroup_eq_some hp hLink
    have hBefore := (Chain.after_head_iff chain_nodup (mem_chain.mpr hh) (home_mem_chain hp)).mp hAfter
    unfold interface2At
    rw [if_pos hGateway, hBefore]
    dsimp only
    rw [if_pos (mem_chain.mpr hh), if_pos (home_mem_chain hp)]

theorem role_participant : (π.participant p b).role =
    if p = π.gateway (π.home p) then .gateway else .endpoint := rfl

/-- Only gateways have a second interface. -/
theorem isExist_interface2 (hp : p < n) (b : VMTDParticipant) :
    (π.participant p b).interface2.isExist = (π.linkedGroup p).isSome := by
  rw [interface2_participant hp]
  cases π.linkedGroup p <;> rfl

-- ---------------------------------------------------------------------------
-- The lists of the engine
-- ---------------------------------------------------------------------------

variable {manager : VMTDDeviceManager} {π : Plan manager.participants.length}

theorem participants_engine :
    π.engine.participants = manager.participants.mapIdx π.participant := rfl

/-- The participants are the hosts, each in its place. -/
theorem mem_participants {q : VMTDParticipant} :
    q ∈ π.engine.participants ↔
      ∃ p b, manager.participants[p]? = some b ∧ π.participant p b = q := by
  rw [participants_engine, List.mem_mapIdx]
  constructor
  · rintro ⟨p, hp, rfl⟩
    exact ⟨p, _, List.getElem?_eq_getElem hp, rfl⟩
  · rintro ⟨p, b, hb, rfl⟩
    obtain ⟨hp, rfl⟩ := List.getElem?_eq_some_iff.mp hb
    exact ⟨p, hp, rfl⟩

/-- Each host keeps its position. -/
theorem getElem?_participants {q : VMTDParticipant} :
    π.engine.participants[p]? = some q ↔
      ∃ b, manager.participants[p]? = some b ∧ π.participant p b = q := by
  rw [participants_engine, List.getElem?_mapIdx, Option.map_eq_some_iff]

/-- The groups are those of the plan. -/
theorem mem_groups {G : VMTDGroup} :
    G ∈ π.engine.groups ↔ ∃ g < π.groupCount, π.group g = G := by
  have hGroups : π.engine.groups = (List.range π.groupCount).map π.group := rfl
  simp only [hGroups, List.mem_map, List.mem_range]

@[simp] theorem vlanId_group {n : Nat} {π : Plan n} (g : Nat) :
    (π.group g).vlanId = π.vlanId g := by
  unfold Plan.group Plan.groupAt
  split <;> rfl

@[simp] theorem octet3_group {n : Nat} {π : Plan n} (g : Nat) :
    (π.group g).octet3 = π.octet3 g := by
  unfold Plan.group Plan.groupAt
  split <;> rfl

/-- Who is in a group: its members and the gateway of the next group. -/
theorem mem_participants_group {g : Nat} (hg : g < π.groupCount)
    (hp : p < manager.participants.length) :
    p ∈ (π.group g).participants ↔ π.home p = g ∨ π.linkedGroup p = some g := by
  have hLink : π.nextGateway g = some p ↔ π.linkedGroup p = some g := by
    rw [nextGateway_eq_some hg hp, linkedGroup]
    by_cases hGateway : p = π.gateway (π.home p)
    · simp [← hGateway]
    · simp [hGateway]
  have hGroup : (π.group g).participants = π.members g ++ (π.nextGateway g).toList := by
    unfold Plan.group Plan.groupAt
    rw [if_pos (mem_chain.mpr hg)]
  rw [hGroup, List.mem_append, Layout.mem_members hg, Option.mem_toList, hLink]
  exact or_congr_left (and_iff_right hp)

end Plan

/-- With fewer than two participants `generate` only builds them. -/
theorem generate_of_lt_two {settings : VMTDSettings} {rows : List DeviceRow} {draws : Draws}
    {engine engine' : VMTDEngine}
    (h : VMTDEngine.generate settings rows draws engine = some engine')
    (hOne : (engine.manager.buildParticipants settings rows).participants.length < 2) :
    engine' = { engine with manager := engine.manager.buildParticipants settings rows } := by
  unfold VMTDEngine.generate at h
  dsimp only at h
  have hFew : (VMTDEngine.participants { engine with
      manager := engine.manager.buildParticipants settings rows }).length < 2 := hOne
  rw [if_pos hFew, Option.some_inj] at h
  exact h.symm

/-- `generate` assigns addresses; it neither adds nor drops participants. -/
theorem length_participants_generate {settings : VMTDSettings} {rows : List DeviceRow}
    {draws : Draws} {engine engine' : VMTDEngine}
    (h : VMTDEngine.generate settings rows draws engine = some engine') :
    engine'.participants.length =
      (engine.manager.buildParticipants settings rows).participants.length := by
  rcases Nat.lt_or_ge (engine.manager.buildParticipants settings rows).participants.length 2
    with hOne | hTwo
  · rw [generate_of_lt_two h hOne]
    rfl
  · obtain ⟨π, -, rfl⟩ := generate_refines h hTwo
    rw [Plan.participants_engine, List.length_mapIdx]

end VxlanMtd
