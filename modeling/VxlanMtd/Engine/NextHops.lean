import VxlanMtd.Engine.Addresses

/-!
# Next hops are on the link

**`nextHops_onLink`**: every route `generate` leaves behind is on an interface
that exists, and its gateway is the address of another participant's interface
in the same group.

A plain member has its route through the first interface of its gateway. A
gateway's forward routes leave by the first interface for the second one of the
next gateway, its back routes by the second interface for the first one of the
previous gateway.
-/

namespace VxlanMtd

-- addresses are opaque here; unfolding them would make Lean render templates
attribute [local irreducible] networkText macText PlaceMarker.arg

/-- An existing interface in a group: it has the group's index, VLAN and mask
and an address of its network. -/
structure VMTDGroup.Attached (group : VMTDGroup) (i : VMTDInterface) : Prop where
  isExist : i.isExist = true
  groupIndex_eq : i.groupIndex = group.index
  vlanId_eq : i.vlanId = group.vlanId
  mask_eq : i.mask = group.mask
  ip_eq : ∃ octet4, i.ip = networkText group.octet3 octet4

/-- Every route of every participant goes out by an interface of some group to
an interface another participant has in that group. -/
def VMTDEngine.RoutesOnLink (engine : VMTDEngine) : Prop :=
  ∀ (p : Nat) (q : VMTDParticipant), engine.participants[p]? = some q →
    ∀ i ∈ [q.interface1, q.interface2], ∀ route ∈ i.routes,
      ∃ group ∈ engine.groups, group.Attached i ∧
        ∃ (p' : Nat) (q' : VMTDParticipant), p' ≠ p ∧ engine.participants[p']? = some q' ∧
          ∃ i' ∈ [q'.interface1, q'.interface2], group.Attached i' ∧ i'.ip = route.gateway

namespace Plan

variable {n : Nat} {π : Plan n} {p g : Nat} {route : VMTDRoute}

/-- An interface of group `g`, whatever its routes. -/
theorem attached_interface (g : Nat) (octet4 : Int) (routes : List VMTDRoute) :
    (π.group g).Attached { π.interface g octet4 with routes := routes } := by
  have hFields : (π.group g).index = g ∧ (π.group g).mask = 24 := by
    unfold Plan.group Plan.groupAt
    split <;> exact ⟨rfl, rfl⟩
  obtain ⟨hIndex, hMask⟩ := hFields
  have hVlan : (π.group g).vlanId = π.vlanId g := vlanId_group g
  refine ⟨rfl, hIndex.symm, hVlan.symm, hMask.symm, octet4, ?_⟩
  rw [octet3_group]
  rfl

/-- Forward routes go through the link in the gateway's own group. -/
theorem gateway_of_mem_forwardRoutes (hRoute : route ∈ π.forwardRoutes p) :
    route.gateway = π.linkIp (π.home p) ∧
      ∃ h rest, Chain.after π.chain (π.home p) = h :: rest := by
  unfold forwardRoutes at hRoute
  cases hAfter : Chain.after π.chain (π.home p) with
  | nil =>
    rw [hAfter] at hRoute
    exact absurd hRoute List.not_mem_nil
  | cons h rest =>
    rw [hAfter] at hRoute
    refine ⟨?_, h, rest, rfl⟩
    rcases List.mem_cons.mp hRoute with rfl | hRoute
    · rfl
    rcases List.mem_append.mp hRoute with hRoute | hRoute
    · split at hRoute
      · rw [List.mem_singleton.mp hRoute]
      · exact absurd hRoute List.not_mem_nil
    · obtain ⟨r, -, rfl⟩ := List.mem_map.mp hRoute
      rfl

/-- Back routes go through the gateway of the group before. -/
theorem gateway_of_mem_backRoutes (hRoute : route ∈ π.backRoutes p) :
    ∃ h rest, Chain.before π.chain (π.home p) = h :: rest ∧ route.gateway = π.gatewayIp h := by
  unfold backRoutes at hRoute
  cases hBefore : Chain.before π.chain (π.home p) with
  | nil =>
    rw [hBefore] at hRoute
    exact absurd hRoute List.not_mem_nil
  | cons h rest =>
    rw [hBefore] at hRoute
    refine ⟨h, rest, rfl, ?_⟩
    rcases List.mem_append.mp hRoute with hRoute | hRoute
    · split at hRoute
      · rw [List.mem_singleton.mp hRoute]
      · exact absurd hRoute List.not_mem_nil
    · obtain ⟨r, -, rfl⟩ := List.mem_map.mp hRoute
      rfl

variable {manager : VMTDDeviceManager} {π : Plan manager.participants.length} {b : VMTDParticipant}

/-- A participant's first interface is in its own group. -/
theorem attached_interface1 (hp : p < manager.participants.length) :
    (π.group (π.home p)).Attached (π.participant p b).interface1 := by
  rw [interface1_participant hp]
  exact attached_interface _ _ _

/-- A second interface that exists is in the group whose link it is. -/
theorem attached_interface2 (hp : p < manager.participants.length)
    (hLink : π.linkedGroup p = some g) :
    (π.group g).Attached (π.participant p b).interface2 ∧
      (π.participant p b).interface2.ip = π.linkIp g := by
  rw [interface2_participant hp, hLink]
  exact ⟨attached_interface _ _ _, rfl⟩

/-- Where the routes of a participant are, and what they go through. -/
theorem routes_cases (hp : p < manager.participants.length) {i : VMTDInterface}
    (hi : i ∈ [(π.participant p b).interface1, (π.participant p b).interface2])
    (hRoute : route ∈ i.routes) :
    (i = (π.participant p b).interface1 ∧ p ≠ π.gateway (π.home p) ∧
      route.gateway = π.gatewayIp (π.home p)) ∨
    (i = (π.participant p b).interface1 ∧ route.gateway = π.linkIp (π.home p) ∧
      ∃ h rest, Chain.after π.chain (π.home p) = h :: rest) ∨
    (i = (π.participant p b).interface2 ∧
      ∃ h, π.linkedGroup p = some h ∧ route.gateway = π.gatewayIp h) := by
  rcases List.mem_cons.mp hi with rfl | hi
  · rw [interface1_participant hp] at hRoute
    dsimp only [routes1] at hRoute
    split at hRoute
    · exact Or.inr (Or.inl ⟨rfl, gateway_of_mem_forwardRoutes hRoute⟩)
    · rename_i hPlain
      rw [List.mem_singleton.mp hRoute]
      exact Or.inl ⟨rfl, hPlain, rfl⟩
  · obtain rfl := List.mem_singleton.mp hi
    rw [interface2_participant hp] at hRoute
    cases hLink : π.linkedGroup p with
    | none =>
      rw [hLink] at hRoute
      exact absurd hRoute List.not_mem_nil
    | some g =>
      rw [hLink] at hRoute
      obtain ⟨h, rest, hBefore, hGateway⟩ := gateway_of_mem_backRoutes hRoute
      have hHead : (Chain.before π.chain (π.home p)).head? = some g := by
        unfold linkedGroup at hLink
        split at hLink
        · exact hLink
        · simp at hLink
      rw [hBefore, List.head?_cons, Option.some_inj] at hHead
      exact Or.inr (Or.inr ⟨rfl, g, rfl, hHead ▸ hGateway⟩)

/-- **The routes of a plan are on the link.** -/
theorem routesOnLink : π.engine.RoutesOnLink := by
  intro p q hq i hi route hRoute
  obtain ⟨b, hb, rfl⟩ := getElem?_participants.mp hq
  have hp := (List.getElem?_eq_some_iff.mp hb).1
  have hHome := π.home_lt p hp
  have hAt : ∀ p' < manager.participants.length,
      ∃ b', π.engine.participants[p']? = some (π.participant p' b') := by
    intro p' hp'
    obtain ⟨b', hb'⟩ := exists_base hp'
    exact ⟨b', getElem?_participants.mpr ⟨b', hb', rfl⟩⟩
  -- the first interface of the gateway of a group is in that group
  have hFirst : ∀ g < π.groupCount, ∃ b', π.engine.participants[π.gateway g]? =
      some (π.participant (π.gateway g) b') ∧
        (π.group g).Attached (π.participant (π.gateway g) b').interface1 ∧
        (π.participant (π.gateway g) b').interface1.ip = π.gatewayIp g := by
    intro g hg
    obtain ⟨b', hb'⟩ := hAt _ (π.gateway_lt g hg)
    have hAttached := @attached_interface1 _ _ π b' (π.gateway_lt g hg)
    rw [π.home_gateway g hg] at hAttached
    exact ⟨b', hb', hAttached, rfl⟩
  rcases routes_cases hp hi hRoute with
    ⟨rfl, hPlain, hGateway⟩ | ⟨rfl, hGateway, h, rest, hAfter⟩ | ⟨rfl, g, hLink, hGateway⟩
  · obtain ⟨b', hb', hAttached, hIp⟩ := hFirst _ hHome
    refine ⟨_, mem_groups.mpr ⟨_, hHome, rfl⟩, attached_interface1 hp, _, _, hPlain.symm, hb',
      _, List.mem_cons_self, hAttached, hIp.trans hGateway.symm⟩
  · obtain ⟨hh, hne, hLink⟩ := linkedGroup_gateway hHome hAfter
    obtain ⟨b', hb'⟩ := hAt _ (π.gateway_lt h hh)
    obtain ⟨hAttached, hIp⟩ := @attached_interface2 _ _ _ π b' (π.gateway_lt h hh) hLink
    have hOther : π.gateway h ≠ p := fun hEq => hne (by rw [← hEq, π.home_gateway h hh])
    exact ⟨_, mem_groups.mpr ⟨_, hHome, rfl⟩, attached_interface1 hp, _, _, hOther, hb',
      _, by simp, hAttached, hIp.trans hGateway.symm⟩
  · obtain ⟨hg, hne, -, -⟩ := linkedGroup_eq_some hp hLink
    obtain ⟨b', hb', hAttached, hIp⟩ := hFirst g hg
    have hOther : π.gateway g ≠ p := fun hEq => hne (by rw [← hEq, π.home_gateway g hg])
    exact ⟨_, mem_groups.mpr ⟨_, hg, rfl⟩, (attached_interface2 hp hLink).1, _, _, hOther, hb',
      _, List.mem_cons_self, hAttached, hIp.trans hGateway.symm⟩

end Plan

/-- **Next hops are on the link**, whatever was drawn. -/
theorem nextHops_onLink {settings : VMTDSettings} {rows : List DeviceRow} {draws : Draws}
    {engine engine' : VMTDEngine}
    (h : VMTDEngine.generate settings rows draws engine = some engine') :
    engine'.RoutesOnLink := by
  rcases Nat.lt_or_ge (engine.manager.buildParticipants settings rows).participants.length 2
    with hOne | hTwo
  · rw [generate_of_lt_two h hOne]
    intro p q hq i hi route hRoute
    obtain ⟨h₁, h₂, -⟩ :=
      VMTDDeviceManager.buildParticipants_interfaces q (List.mem_of_getElem? hq)
    have hNone : i.routes = [] := by
      rw [h₁, h₂] at hi
      rcases List.mem_cons.mp hi with rfl | hi
      · rfl
      · rw [List.mem_singleton.mp hi]
    rw [hNone] at hRoute
    exact absurd hRoute List.not_mem_nil
  · obtain ⟨π, -, rfl⟩ := generate_refines h hTwo
    exact π.routesOnLink

/-- Two hosts, each with a route by way of the other. -/
theorem nextHops_onLink_twoRows :
    ∃ engine', VMTDEngine.generate { shouldRandomizeNetwork := true } twoRows (twoGroups 1) {} =
        some engine' ∧ engine'.participants.length = 2 ∧
      (∀ q ∈ engine'.participants, q.interface1.routes ++ q.interface2.routes ≠ []) ∧
      engine'.RoutesOnLink := by
  have hRun : (VMTDEngine.generate { shouldRandomizeNetwork := true } twoRows (twoGroups 1)
      {}).any (fun engine' => decide (engine'.participants.length = 2 ∧
        ∀ q ∈ engine'.participants, q.interface1.routes ++ q.interface2.routes ≠ [])) = true := by
    decide +kernel
  obtain ⟨engine', hEngine, hAll⟩ := Option.any_eq_true _ _ |>.mp hRun
  obtain ⟨hTwo, hRoutes⟩ := of_decide_eq_true hAll
  exact ⟨engine', hEngine, hTwo, hRoutes, nextHops_onLink hEngine⟩

end VxlanMtd
