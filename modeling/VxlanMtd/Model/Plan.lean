import VxlanMtd.Model.Engine
import VxlanMtd.Lib.Chain
import Mathlib.Data.List.Perm.Subperm

/-!
# Plans

What one reconfiguration decides, apart from how the loops get there.

* `Layout` — which group each participant sits in and where, and the VLAN and
  the octets of every address;
* `Plan` — a layout together with the gateway of each group, the order the
  groups are chained in and the addresses of the links between them.

A group's gateway has its second interface in the group *before* its own in
the chain. A member reaches other groups through its group's gateway, a
gateway the later groups through the next gateway (`forwardRoutes`) and the
earlier ones through the previous gateway (`backRoutes`).

The fields carry what makes a plan sound: seats are taken once, and no two
groups share a VLAN or a network. `Plan.participant` and `Plan.group` say what
the engine's objects look like under a plan.
-/

namespace VxlanMtd

-- ---------------------------------------------------------------------------
-- What the draws stand for
-- ---------------------------------------------------------------------------

/-- The VLAN of group `i`. -/
def vlanIdOf (settings : VMTDSettings) (draws : Draws) (i : Nat) : Int :=
  if settings.shouldRandomizeVlan then draws.vlanId i
  else Int.bmod (settings.minVlanId + i) (2 ^ 32)

/-- The third octet of group `i`. -/
def octet3Of (settings : VMTDSettings) (draws : Draws) (i : Nat) : Int :=
  if settings.shouldRandomizeNetwork then draws.octet3 i else vlanIdOf settings draws i

/-- The last octet at place `t` of group `g`. -/
def octet4Of (settings : VMTDSettings) (draws : Draws) (g t : Nat) : Int :=
  if settings.shouldRandomizeNetwork then draws.octet4 g t else t + 1

/-- The number of members of group `i`. -/
def sizeOf (draws : Draws) (size i : Nat) : Nat :=
  size / draws.groupCount + if i = 0 then size % draws.groupCount else 0

-- ---------------------------------------------------------------------------
-- Layouts and plans
-- ---------------------------------------------------------------------------

/-- The seating of `n` participants, with the numbers of the addresses. -/
structure Layout (n : Nat) where
  groupCount : Nat
  /-- The group of a participant. -/
  home : Nat → Nat
  /-- The participant's place in its group. -/
  seat : Nat → Nat
  members : Nat → List Nat
  vlanId : Nat → Int
  octet3 : Nat → Int
  /-- The last octet of the address at a place of a group. -/
  octet4 : Nat → Nat → Int
  two_le_groupCount : 2 ≤ groupCount
  home_lt : ∀ p < n, home p < groupCount
  members_iff : ∀ g < groupCount, ∀ t p,
    (members g)[t]? = some p ↔ p < n ∧ home p = g ∧ seat p = t
  vlanId_int : ∀ g < groupCount, IsInt (vlanId g)
  vlanId_inj : ∀ g < groupCount, ∀ h < groupCount, vlanId g = vlanId h → g = h
  octet3_inj : ∀ g < groupCount, ∀ h < groupCount, octet3 g = octet3 h → g = h
  octet4_inj : ∀ g < groupCount, ∀ t < (members g).length, ∀ u < (members g).length,
    octet4 g t = octet4 g u → t = u

/-- A layout whose groups are chained. `node1` and `node10` are the two
participants the routes make an exception for. -/
structure Plan (n : Nat) extends Layout n where
  gateway : Nat → Nat
  chain : List Nat
  /-- The last octet of the address the next gateway gets in a group. -/
  link4 : Nat → Int
  node1 : Option Nat
  node10 : Option Nat
  gateway_lt : ∀ g < groupCount, gateway g < n
  home_gateway : ∀ g < groupCount, home (gateway g) = g
  chain_perm : chain.Perm (List.range groupCount)

namespace Layout

variable {n : Nat} (L : Layout n)

/-- The interface group `g` gives to the holder of that last octet. -/
def interface (g : Nat) (octet4 : Int) : VMTDInterface where
  isExist := true
  groupIndex := g
  mac := macText (L.octet3 g) octet4
  ip := networkText (L.octet3 g) octet4
  mask := 24
  vlanId := L.vlanId g

/-- The first interface of a participant, without routes. -/
def homeInterface (p : Nat) : VMTDInterface :=
  L.interface (L.home p) (L.octet4 (L.home p) (L.seat p))

/-- A participant in its seat. -/
def participant (p : Nat) (base : VMTDParticipant) : VMTDParticipant :=
  { base with role := .endpoint, interface1 := L.homeInterface p }

/-- A group with its members. -/
def group (g : Nat) : VMTDGroup where
  index := g
  maxParticipantCount := (L.members g).length
  octet3 := L.octet3 g
  mask := 24
  vlanId := L.vlanId g
  participants := L.members g
  octets4 := ((List.range (L.members g).length).map (L.octet4 g)).reverse

/-- How a layout depends on the settings and the draws. -/
structure Follows (settings : VMTDSettings) (draws : Draws) : Prop where
  groupCount_eq : L.groupCount = draws.groupCount
  vlanId_eq : L.vlanId = vlanIdOf settings draws
  octet3_eq : L.octet3 = octet3Of settings draws
  octet4_eq : L.octet4 = octet4Of settings draws
  length_members : ∀ g < L.groupCount, (L.members g).length = sizeOf draws n g
  size_lt : n < 2 ^ 31
  octet3_range : settings.shouldRandomizeNetwork = true →
    ∀ g < L.groupCount, 1 ≤ L.octet3 g ∧ L.octet3 g < 253
  octet4_range : settings.shouldRandomizeNetwork = true →
    ∀ g < L.groupCount, ∀ t < (L.members g).length, 1 ≤ L.octet4 g t ∧ L.octet4 g t < 253

end Layout

namespace Plan

variable {n : Nat} (π : Plan n)

/-- The network of a group. -/
def network (g : Nat) : String := networkText (π.octet3 g) 0

/-- The address of the link in group `g`: the second interface of the gateway
of the next group. -/
def linkIp (g : Nat) : String := networkText (π.octet3 g) (π.link4 g)

/-- The address of the gateway of group `g` in its own group. -/
def gatewayIp (g : Nat) : String := (π.homeInterface (π.gateway g)).ip

/-- The routes of gateway `p` to the groups after its own. -/
def forwardRoutes (p : Nat) : List VMTDRoute :=
  match Chain.after π.chain (π.home p) with
  | [] => []
  | h :: rest =>
    ⟨π.network h, 24, π.linkIp (π.home p), 100⟩ ::
      ((if some p ≠ π.node10 then [⟨"100.100.18.0", 24, π.linkIp (π.home p), 100⟩] else []) ++
        rest.map fun r => ⟨π.network r, 24, π.linkIp (π.home p), 100⟩)

/-- The routes of gateway `p` to the groups before the one it is linked to. -/
def backRoutes (p : Nat) : List VMTDRoute :=
  match Chain.before π.chain (π.home p) with
  | [] => []
  | h :: rest =>
    (if some p ≠ π.node1 then [⟨"100.100.17.0", 24, π.gatewayIp h, 100⟩] else []) ++
      rest.map fun r => ⟨π.network r, 24, π.gatewayIp h, 100⟩

/-- The route of a plain member. -/
def defaultRoute (g : Nat) : VMTDRoute := ⟨networkText 0 0, 16, π.gatewayIp g, 100⟩

/-- The first interface of a participant once the groups `linked` have their
gateways and the gateways of the groups `forward` their forward routes. -/
def interface1At (linked forward : List Nat) (p : Nat) : VMTDInterface :=
  { π.homeInterface p with
    routes :=
      if p ≠ π.gateway (π.home p) then
        if π.home p ∈ linked then [π.defaultRoute (π.home p)] else []
      else if π.home p ∈ forward then π.forwardRoutes p else [] }

/-- The second interface of a participant once the groups `linked` have their
gateways and the gateways of the groups `back` their back routes. -/
def interface2At (linked back : List Nat) (p : Nat) : VMTDInterface :=
  if p = π.gateway (π.home p) then
    match (Chain.before π.chain (π.home p)).head? with
    | none => {}
    | some h =>
      if h ∈ linked then
        { π.interface h (π.link4 h) with
          routes := if π.home p ∈ back then π.backRoutes p else [] }
      else {}
  else {}

/-- A participant while the chain is being linked and routed. -/
def participantAt (linked forward back : List Nat) (p : Nat) (base : VMTDParticipant) :
    VMTDParticipant :=
  { base with
    role := if p = π.gateway (π.home p) then .gateway else .endpoint
    interface1 := π.interface1At linked forward p
    interface2 := π.interface2At linked back p }

/-- The gateway of the group after `g`. -/
def nextGateway (g : Nat) : Option Nat := (Chain.after π.chain g).head?.map π.gateway

/-- A group while the chain is being linked. -/
def groupAt (linked : List Nat) (g : Nat) : VMTDGroup :=
  if g ∈ linked then
    { π.toLayout.group g with
      participants := π.members g ++ (π.nextGateway g).toList
      octets4 := ((π.nextGateway g).map fun _ => π.link4 g).toList ++
        (π.toLayout.group g).octets4
      internalGateway := some (π.gateway g)
      externalGateway := π.nextGateway g }
  else π.toLayout.group g

/-- The engine while the chain is being linked and routed. -/
def state {manager : VMTDDeviceManager} (π : Plan manager.participants.length)
    (linked forward back : List Nat) : VMTDEngine where
  manager :=
    { manager with
      participants := manager.participants.mapIdx (π.participantAt linked forward back) }
  groups := (List.range π.groupCount).map (π.groupAt linked)

/-- The engine a plan ends in. -/
def engine {manager : VMTDDeviceManager} (π : Plan manager.participants.length) : VMTDEngine :=
  π.state π.chain π.chain π.chain

/-- What a participant is in the end. -/
def participant (p : Nat) (base : VMTDParticipant) : VMTDParticipant :=
  π.participantAt π.chain π.chain π.chain p base

/-- What a group is in the end. -/
def group (g : Nat) : VMTDGroup := π.groupAt π.chain g

/-- How the gateways of a plan depend on the settings and the draws. -/
structure Follows (settings : VMTDSettings) (draws : Draws) : Prop
    extends π.toLayout.Follows settings draws where
  chain_eq : settings.shouldRandomizeGateway = false → π.chain = List.range π.groupCount
  link4_eq : ∀ g < π.groupCount, Chain.after π.chain g ≠ [] → π.link4 g =
    if settings.shouldRandomizeGateway then draws.link4 g else (π.members g).length + 1
  link4_range : settings.shouldRandomizeGateway = true →
    ∀ g < π.groupCount, Chain.after π.chain g ≠ [] → 1 ≤ π.link4 g ∧ π.link4 g < 253
  link4_fresh : settings.shouldRandomizeGateway = true →
    ∀ g < π.groupCount, Chain.after π.chain g ≠ [] →
      ∀ t < (π.members g).length, π.link4 g ≠ π.octet4 g t

end Plan

-- ---------------------------------------------------------------------------
-- Consequences of the fields
-- ---------------------------------------------------------------------------

namespace Layout

variable {n : Nat} {L : Layout n} {g p q t : Nat}

/-- The members of a group are those that live in it. -/
theorem mem_members (hg : g < L.groupCount) : p ∈ L.members g ↔ p < n ∧ L.home p = g := by
  constructor
  · intro h
    obtain ⟨t, ht⟩ := List.mem_iff_getElem?.mp h
    obtain ⟨hp, hHome, _⟩ := (L.members_iff g hg t p).mp ht
    exact ⟨hp, hHome⟩
  · rintro ⟨hp, hHome⟩
    exact List.mem_iff_getElem?.mpr ⟨L.seat p, (L.members_iff g hg _ p).mpr ⟨hp, hHome, rfl⟩⟩

/-- A participant has a seat in its own group. -/
theorem seat_lt (hp : p < n) : L.seat p < (L.members (L.home p)).length := by
  have hAt := (L.members_iff (L.home p) (L.home_lt p hp) (L.seat p) p).mpr ⟨hp, rfl, rfl⟩
  exact (List.getElem?_eq_some_iff.mp hAt).1

/-- A seat is taken once. -/
theorem eq_of_seat (hp : p < n) (hq : q < n) (hHome : L.home p = L.home q)
    (hSeat : L.seat p = L.seat q) : p = q := by
  have hp' := (L.members_iff _ (L.home_lt p hp) (L.seat p) p).mpr ⟨hp, rfl, rfl⟩
  have hq' := (L.members_iff _ (L.home_lt p hp) (L.seat p) q).mpr ⟨hq, hHome.symm, hSeat.symm⟩
  rw [hp'] at hq'
  exact Option.some_injective _ hq'

/-- Nobody is in a group twice. -/
theorem members_nodup (hg : g < L.groupCount) : (L.members g).Nodup := by
  rw [List.nodup_iff_getElem?_ne_getElem?]
  intro t u htu hu hEq
  obtain ⟨p, hp⟩ : ∃ p, (L.members g)[t]? = some p :=
    ⟨_, List.getElem?_eq_getElem (htu.trans hu)⟩
  obtain ⟨-, -, hSeat⟩ := (L.members_iff g hg t p).mp hp
  obtain ⟨-, -, hSeat'⟩ := (L.members_iff g hg u p).mp (hEq ▸ hp)
  omega

end Layout

namespace Plan

variable {n : Nat} {π : Plan n} {g h p : Nat}

/-- No group is in the chain twice. -/
theorem chain_nodup : π.chain.Nodup := π.chain_perm.nodup_iff.mpr List.nodup_range

/-- Every group is in the chain. -/
@[simp] theorem mem_chain : g ∈ π.chain ↔ g < π.groupCount := by
  rw [π.chain_perm.mem_iff, List.mem_range]

/-- The group of a participant is in the chain. -/
theorem home_mem_chain (hp : p < n) : π.home p ∈ π.chain := mem_chain.mpr (π.home_lt p hp)

/-- A group has its gateway as a member. -/
theorem gateway_mem_members (hg : g < π.groupCount) : π.gateway g ∈ π.members g :=
  (Layout.mem_members hg).mpr ⟨π.gateway_lt g hg, π.home_gateway g hg⟩

/-- The gateway of a group is a member of no other. -/
theorem gateway_notMem_members (hg : g < π.groupCount) (hh : h < π.groupCount) (hne : h ≠ g) :
    π.gateway h ∉ π.members g := by
  intro hMem
  exact hne ((π.home_gateway h hh).symm.trans ((Layout.mem_members hg).mp hMem).2)

/-- A group leaves out at least the gateway of another one. -/
theorem length_members_lt (hg : g < π.groupCount) : (π.members g).length < n := by
  obtain ⟨h, hh, hne⟩ : ∃ h, h < π.groupCount ∧ h ≠ g := by
    have := π.two_le_groupCount
    by_cases hZero : g = 0
    · exact ⟨1, by omega, by omega⟩
    · exact ⟨0, by omega, by omega⟩
  have hNodup : (π.gateway h :: π.members g).Nodup :=
    List.nodup_cons.mpr ⟨gateway_notMem_members hg hh hne, Layout.members_nodup hg⟩
  have hSub : π.gateway h :: π.members g ⊆ List.range n := by
    intro p hp
    rcases List.mem_cons.mp hp with rfl | hp
    · exact List.mem_range.mpr (π.gateway_lt h hh)
    · exact List.mem_range.mpr ((Layout.mem_members hg).mp hp).1
  have hLength := (List.subperm_of_subset hNodup hSub).length_le
  rwa [List.length_cons, List.length_range] at hLength

/-- The groups after a group have a later place in the chain. -/
theorem mem_after (hg : g < π.groupCount) (h' : h ∈ Chain.after π.chain g) :
    h < π.groupCount ∧ π.chain.idxOf g < π.chain.idxOf h := by
  obtain ⟨hMem, hlt⟩ := (Chain.mem_after_iff chain_nodup (mem_chain.mpr hg)).mp h'
  exact ⟨mem_chain.mp hMem, hlt⟩

/-- The groups before a group have an earlier place in the chain. -/
theorem mem_before (hg : g < π.groupCount) (h' : h ∈ Chain.before π.chain g) :
    h < π.groupCount ∧ π.chain.idxOf h < π.chain.idxOf g := by
  obtain ⟨hMem, hlt⟩ := (Chain.mem_before_iff chain_nodup (mem_chain.mpr hg)).mp h'
  exact ⟨mem_chain.mp hMem, hlt⟩

end Plan

end VxlanMtd
