import VxlanMtd.Engine.Reachability
import VxlanMtd.Refine.Selection

/-!
# Which routing tables are unambiguous

The routes of a gateway lead to the groups it is not attached to, one for
each, and to the two fixed networks. The groups have different networks, but
nothing keeps them off 100.100.17.0 and 100.100.18.0.

* `Plan.unambiguous_iff` — a gateway's table is unambiguous unless it has a
  fixed route to the network of a group;
* **`unambiguous_iff`** — no table is ambiguous exactly when no group is given
  one of the two networks whose fixed route some gateway has
  (`FixedNetworksFree`).
-/

namespace VxlanMtd

-- addresses are opaque here; unfolding them would make Lean render templates
attribute [local irreducible] networkText macText PlaceMarker.arg

/-- The network and mask a route leads to. -/
def VMTDRoute.destination (route : VMTDRoute) : String × Nat := (route.network, route.mask)

/-- The network and mask of an interface: its address with 0 for the last
octet. -/
def VMTDInterface.attached (i : VMTDInterface) : Option (String × Nat) :=
  (Text.splitLast '.' i.ip.toList).map fun parts => (String.ofList (parts.1 ++ ['.', '0']), i.mask)

/-- The routes over both interfaces. -/
def VMTDParticipant.routes (q : VMTDParticipant) : List VMTDRoute :=
  q.interface1.routes ++ q.interface2.routes

/-- No destination twice, and none that is attached. -/
structure VMTDParticipant.Unambiguous (q : VMTDParticipant) : Prop where
  distinct : (q.routes.map VMTDRoute.destination).Nodup
  elsewhere : ∀ i ∈ q.existingInterfaces, ∀ route ∈ q.routes,
    i.attached ≠ some route.destination

instance (q : VMTDParticipant) : Decidable q.Unambiguous :=
  decidable_of_iff ((q.routes.map VMTDRoute.destination).Nodup ∧
      ∀ i ∈ q.existingInterfaces, ∀ route ∈ q.routes, i.attached ≠ some route.destination)
    ⟨fun h => ⟨h.1, h.2⟩, fun h => ⟨h.distinct, h.elsewhere⟩⟩

/-- The network with that third octet. -/
def octetNetwork (octet3 : Int) : String × Nat := (networkText octet3 0, 24)

theorem octetNetwork_injective : Function.Injective octetNetwork := by
  intro a b h
  exact (networkText_inj (Prod.mk.inj h).1).1

theorem octetNetwork_fixed :
    octetNetwork 17 = ("100.100.17.0", 24) ∧ octetNetwork 18 = ("100.100.18.0", 24) := by
  decide +kernel

namespace Plan

variable {n : Nat} (π : Plan n) {p : Nat}

/-- The groups a gateway has routes to. -/
def remote (p : Nat) : List Nat :=
  Chain.after π.chain (π.home p) ++ (Chain.before π.chain (π.home p)).tail

/-- The third octets of the fixed routes of a gateway. -/
def fixedOctets (p : Nat) : List Int :=
  (if Chain.after π.chain (π.home p) ≠ [] ∧ some p ≠ π.node10 then [18] else []) ++
    if Chain.before π.chain (π.home p) ≠ [] ∧ some p ≠ π.node1 then [17] else []

variable {π}

/-- The destinations of a gateway, up to their order. -/
theorem destinations_perm :
    ((π.forwardRoutes p ++ π.backRoutes p).map VMTDRoute.destination).Perm
      ((π.fixedOctets p ++ (π.remote p).map π.octet3).map octetNetwork) := by
  have hNetwork : ∀ (l : List Nat) (via : String),
      (l.map fun r => (⟨π.network r, 24, via, 100⟩ : VMTDRoute)).map VMTDRoute.destination =
        (l.map π.octet3).map octetNetwork := by
    intro l via
    rw [List.map_map, List.map_map]
    rfl
  obtain ⟨h17, h18⟩ := octetNetwork_fixed
  have hForward : ((π.forwardRoutes p).map VMTDRoute.destination).Perm
      ((if Chain.after π.chain (π.home p) ≠ [] ∧ some p ≠ π.node10 then [octetNetwork 18]
        else []) ++ ((Chain.after π.chain (π.home p)).map π.octet3).map octetNetwork) := by
    unfold forwardRoutes
    cases Chain.after π.chain (π.home p) with
    | nil => simp
    | cons h rest =>
      dsimp only
      rw [List.map_cons, List.map_append, hNetwork]
      by_cases h10 : some p ≠ π.node10
      · rw [if_pos h10, if_pos ⟨List.cons_ne_nil _ _, h10⟩, List.map_singleton, h18]
        exact List.Perm.swap _ _ _
      · rw [if_neg h10, if_neg fun h => h10 h.2]
        exact List.Perm.refl _
  have hBack : (π.backRoutes p).map VMTDRoute.destination =
      (if Chain.before π.chain (π.home p) ≠ [] ∧ some p ≠ π.node1 then [octetNetwork 17]
        else []) ++ ((Chain.before π.chain (π.home p)).tail.map π.octet3).map octetNetwork := by
    unfold backRoutes
    cases Chain.before π.chain (π.home p) with
    | nil => simp
    | cons h rest =>
      dsimp only
      rw [List.map_append, hNetwork, List.tail_cons]
      by_cases h1 : some p ≠ π.node1
      · rw [if_pos h1, if_pos ⟨List.cons_ne_nil _ _, h1⟩, List.map_singleton, h17]
        rfl
      · rw [if_neg h1, if_neg fun h => h1 h.2]
        rfl
  rw [List.map_append, hBack, fixedOctets, remote, List.map_append, List.map_append,
    List.map_append, List.map_append, apply_ite (List.map octetNetwork),
    apply_ite (List.map octetNetwork)]
  refine (hForward.append_right _).trans ?_
  rw [List.append_assoc, List.append_assoc]
  refine List.Perm.append_left _ ?_
  rw [← List.append_assoc, ← List.append_assoc]
  exact List.perm_append_comm.append_right _

/-- The fixed networks a gateway has routes to. -/
theorem mem_fixedOctets {o : Int} : o ∈ π.fixedOctets p ↔
    (o = 18 ∧ Chain.after π.chain (π.home p) ≠ [] ∧ some p ≠ π.node10) ∨
      (o = 17 ∧ Chain.before π.chain (π.home p) ≠ [] ∧ some p ≠ π.node1) := by
  have hIte : ∀ (P : Prop) [Decidable P] (x : Int),
      o ∈ (if P then [x] else []) ↔ o = x ∧ P := by
    intro P _ x
    by_cases hP : P <;> simp [hP]
  rw [fixedOctets, List.mem_append, hIte, hIte]

theorem fixedOctets_nodup : (π.fixedOctets p).Nodup := by
  unfold fixedOctets
  split <;> split <;> decide

/-- A gateway routes to the groups it is not attached to. -/
theorem mem_remote_iff (hp : p < n) (hGateway : p = π.gateway (π.home p)) {g : Nat}
    (hg : g < π.groupCount) : g ∈ π.remote p ↔ g ≠ π.home p ∧ π.linkedGroup p ≠ some g := by
  have hHome : π.home p ∈ π.chain := home_mem_chain hp
  have hAfter := @Chain.mem_after_iff _ _ π.chain (π.home p) g chain_nodup hHome
  have hBefore := @Chain.mem_before_iff _ _ π.chain (π.home p) g chain_nodup hHome
  have hIdx : g = π.home p ↔ π.chain.idxOf g = π.chain.idxOf (π.home p) :=
    (List.idxOf_inj (mem_chain.mpr hg)).symm
  have hNodup := @Chain.before_nodup _ _ π.chain (π.home p) chain_nodup
  have hg' := mem_chain.mpr hg
  rw [remote, List.mem_append, hAfter, linkedGroup, if_pos hGateway]
  cases hSplit : Chain.before π.chain (π.home p) with
  | nil =>
    rw [hSplit] at hBefore
    simp only [List.not_mem_nil, false_iff, not_and, not_lt] at hBefore
    have hLe := hBefore hg'
    simp only [List.tail_nil, List.not_mem_nil, or_false, List.head?_nil, ne_eq, reduceCtorEq,
      not_false_eq_true, and_true, hIdx]
    exact ⟨fun h => (Nat.ne_of_gt h.2), fun h => ⟨hg', by omega⟩⟩
  | cons h rest =>
    rw [hSplit] at hBefore hNodup
    rw [List.tail_cons, List.head?_cons]
    have hh : h ∉ rest := (List.nodup_cons.mp hNodup).1
    constructor
    · rintro (⟨-, hLt⟩ | hRest)
      · refine ⟨fun hEq => ?_, fun hEq => ?_⟩
        · exact absurd (hIdx.mp hEq) (Nat.ne_of_gt hLt)
        · have hLow := (hBefore.mp (Option.some_inj.mp hEq ▸ List.mem_cons_self)).2
          omega
      · have hLow := (hBefore.mp (List.mem_cons_of_mem h hRest)).2
        refine ⟨fun hEq => absurd (hIdx.mp hEq) (Nat.ne_of_lt hLow), fun hEq => ?_⟩
        exact hh (Option.some_inj.mp hEq ▸ hRest)
    · rintro ⟨hOther, hNotLinked⟩
      rcases Nat.lt_or_ge (π.chain.idxOf (π.home p)) (π.chain.idxOf g) with hLt | hGe
      · exact Or.inl ⟨hg', hLt⟩
      · have hLow : π.chain.idxOf g < π.chain.idxOf (π.home p) :=
          Nat.lt_of_le_of_ne hGe fun hEq => hOther (hIdx.mpr hEq)
        rcases List.mem_cons.mp (hBefore.mpr ⟨hg', hLow⟩) with rfl | hRest
        · exact absurd rfl hNotLinked
        · exact Or.inr hRest

theorem remote_lt (hp : p < n) {g : Nat} (hg : g ∈ π.remote p) : g < π.groupCount := by
  rcases List.mem_append.mp hg with hg | hg
  · exact (mem_after (π.home_lt p hp) hg).1
  · exact (mem_before (π.home_lt p hp) (List.mem_of_mem_tail hg)).1

/-- No group is reached by two routes. -/
theorem remote_nodup (hp : p < n) : (π.remote p).Nodup := by
  have hHome : π.home p ∈ π.chain := home_mem_chain hp
  obtain ⟨pre, suf, hSplit, hPre, hSuf, hDisj⟩ := Chain.exists_split (@chain_nodup _ π) hHome
  have hAfter := Chain.after_eq_of_split chain_nodup hSplit
  have hBefore : Chain.before π.chain (π.home p) = pre.reverse := by
    rw [hSplit]
    exact Chain.before_split hPre
  have hChain := @chain_nodup _ π
  rw [hSplit] at hChain
  obtain ⟨hPreNodup, hSufNodup, -⟩ := List.nodup_append.mp hChain
  rw [remote, hAfter, hBefore]
  refine List.nodup_append.mpr ⟨(List.nodup_cons.mp hSufNodup).2,
    (List.nodup_reverse.mpr hPreNodup).sublist (List.tail_sublist _), ?_⟩
  rintro a ha b hb rfl
  exact hDisj (List.mem_reverse.mp (List.mem_of_mem_tail hb)) ha

variable {manager : VMTDDeviceManager} {π : Plan manager.participants.length}

/-- The network of an interface is that of its group. -/
theorem attached_interface_eq (g : Nat) (octet4 : Int) :
    (π.interface g octet4).attached = some (octetNetwork (π.octet3 g)) := by
  have hDot : '.' ∉ octet4.repr.toList := Text.notMem_repr (by decide) (by decide)
  have hZero : (0 : Int).repr.toList = ['0'] := by decide
  have hText : ∀ o : Int, (networkText (π.octet3 g) o).toList =
      ("100.100.".toList ++ (π.octet3 g).repr.toList) ++ '.' :: o.repr.toList := by
    intro o
    rw [networkText_eq, String.toList_ofList, List.append_assoc]
  have hIp : (π.interface g octet4).ip = networkText (π.octet3 g) octet4 := rfl
  rw [VMTDInterface.attached, hIp, hText, Text.splitLast_append _ hDot, Option.map_some,
    Option.some_inj]
  refine Prod.ext (String.toList_injective ?_) rfl
  rw [String.toList_ofList, octetNetwork, hText, hZero]

/-- The attached networks of a participant. -/
theorem attached_participant {p : Nat} (hp : p < manager.participants.length)
    (b : VMTDParticipant) : (π.participant p b).existingInterfaces.map VMTDInterface.attached =
      (π.keys p).map fun k => some (octetNetwork (π.octet3 k.1)) := by
  rw [existing_participant (fun _ _ => rfl) hp b]
  exact List.map_congr_left fun k _ => attached_interface_eq k.1 k.2

/-- The groups a participant is attached to. -/
theorem exists_key_iff {p g : Nat} :
    (∃ k ∈ π.keys p, k.1 = g) ↔ g = π.home p ∨ π.linkedGroup p = some g := by
  constructor
  · rintro ⟨k, hk, rfl⟩
    rcases mem_keys.mp hk with rfl | ⟨h, hLink, rfl⟩
    · exact Or.inl rfl
    · exact Or.inr hLink
  · rintro (rfl | hLink)
    · exact ⟨_, homeKey_mem, rfl⟩
    · exact ⟨_, linkKey_mem hLink, rfl⟩

/-- No attached network is among these. -/
theorem attached_notMem_iff {p : Nat} (hp : p < manager.participants.length)
    (b : VMTDParticipant) {l : List (String × Nat)} :
    (∀ i ∈ (π.participant p b).existingInterfaces, ∀ d ∈ l, i.attached ≠ some d) ↔
      ∀ k ∈ π.keys p, octetNetwork (π.octet3 k.1) ∉ l := by
  have hMap : (π.participant p b).existingInterfaces.map VMTDInterface.attached =
      (π.keys p).map fun k => some (octetNetwork (π.octet3 k.1)) := attached_participant hp b
  calc (∀ i ∈ (π.participant p b).existingInterfaces, ∀ d ∈ l, i.attached ≠ some d)
      ↔ ∀ x ∈ (π.participant p b).existingInterfaces.map VMTDInterface.attached,
          ∀ d ∈ l, x ≠ some d :=
        (@List.forall_mem_map _ _ VMTDInterface.attached _ fun x => ∀ d ∈ l, x ≠ some d).symm
    _ ↔ ∀ k ∈ π.keys p, ∀ d ∈ l, some (octetNetwork (π.octet3 k.1)) ≠ some d := by
        rw [hMap]
        exact List.forall_mem_map
    _ ↔ ∀ k ∈ π.keys p, octetNetwork (π.octet3 k.1) ∉ l :=
        forall₂_congr fun k _ =>
          ⟨fun h hIn => h _ hIn rfl, fun h d hd hEq => h (Option.some_inj.mp hEq ▸ hd)⟩

/-- **A table is unambiguous** unless a fixed route leads to a group. -/
theorem unambiguous_iff {p : Nat} (hp : p < manager.participants.length) (b : VMTDParticipant) :
    (π.participant p b).Unambiguous ↔
      (p = π.gateway (π.home p) → ∀ g < π.groupCount, π.octet3 g ∉ π.fixedOctets p) := by
  have hRoutes : (π.participant p b).routes =
      π.routes1 p ++ if p = π.gateway (π.home p) then π.backRoutes p else [] := by
    rw [VMTDParticipant.routes, interface1_participant hp, routes2_participant hp]
  have hSplit : (π.participant p b).Unambiguous ↔
      ((π.participant p b).routes.map VMTDRoute.destination).Nodup ∧
        ∀ k ∈ π.keys p, octetNetwork (π.octet3 k.1) ∉
          (π.participant p b).routes.map VMTDRoute.destination := by
    rw [← attached_notMem_iff hp b]
    simp only [List.forall_mem_map]
    exact ⟨fun h => ⟨h.distinct, h.elsewhere⟩, fun h => ⟨h.1, h.2⟩⟩
  rw [hSplit, hRoutes, routes1]
  by_cases hGateway : p = π.gateway (π.home p)
  · rw [if_pos hGateway, if_pos hGateway, destinations_perm.nodup_iff,
      List.nodup_map_iff octetNetwork_injective]
    simp only [destinations_perm.mem_iff, List.mem_map_of_injective octetNetwork_injective]
    have hOctet : ∀ g < π.groupCount, π.octet3 g ∈ (π.remote p).map π.octet3 → g ∈ π.remote p := by
      intro g hg hIn
      obtain ⟨r, hr, hEq⟩ := List.mem_map.mp hIn
      exact π.octet3_inj r (remote_lt hp hr) g hg hEq ▸ hr
    constructor
    · rintro ⟨hNodup, hElsewhere⟩ - g hg hFixed
      by_cases hRemote : g ∈ π.remote p
      · exact (List.nodup_append.mp hNodup).2.2 _ hFixed _ (List.mem_map_of_mem hRemote) rfl
      · rw [mem_remote_iff hp hGateway hg] at hRemote
        obtain ⟨k, hk, rfl⟩ := exists_key_iff.mpr (by tauto : g = π.home p ∨ π.linkedGroup p = some g)
        exact hElsewhere k hk (List.mem_append_left _ hFixed)
    · intro hFree
      refine ⟨List.nodup_append.mpr ⟨fixedOctets_nodup, ?_, ?_⟩, ?_⟩
      · refine (remote_nodup hp).map_on fun g hg h hh hEq => ?_
        exact π.octet3_inj g (remote_lt hp hg) h (remote_lt hp hh) hEq
      · rintro o ho o' ho' rfl
        obtain ⟨r, hr, rfl⟩ := List.mem_map.mp ho'
        exact hFree hGateway r (remote_lt hp hr) ho
      · intro k hk hIn
        have hg := lt_of_mem_allKeys (mem_allKeys hp hk)
        rcases List.mem_append.mp hIn with hFixed | hRemote
        · exact hFree hGateway _ hg hFixed
        · obtain ⟨hHome, hLink⟩ := (mem_remote_iff hp hGateway hg).mp (hOctet _ hg hRemote)
          exact (exists_key_iff.mp ⟨k, hk, rfl⟩).elim hHome hLink
  · -- the default route has a shorter prefix
    rw [if_neg hGateway, if_neg hGateway, List.append_nil, List.map_singleton]
    refine iff_of_true ⟨List.nodup_singleton _, fun k _ hIn => ?_⟩ fun h => absurd h hGateway
    have hMask : 24 = 16 := (Prod.mk.inj (List.mem_singleton.mp hIn)).2
    exact absurd hMask (by decide)

/-- The tables of a plan, by its gateways. -/
theorem forall_unambiguous_iff :
    (∀ q ∈ π.engine.participants, q.Unambiguous) ↔
      ((∃ g < π.groupCount, π.octet3 g = 18) →
        ∀ g ∈ π.chain, Chain.after π.chain g ≠ [] → some (π.gateway g) = π.node10) ∧
      ((∃ g < π.groupCount, π.octet3 g = 17) →
        ∀ g ∈ π.chain, Chain.before π.chain g ≠ [] → some (π.gateway g) = π.node1) := by
  have hGateways : (∀ q ∈ π.engine.participants, q.Unambiguous) ↔
      ∀ h ∈ π.chain, ∀ g < π.groupCount, π.octet3 g ∉ π.fixedOctets (π.gateway h) := by
    constructor
    · intro hAll h hh
      have hLt := mem_chain.mp hh
      obtain ⟨b, hb⟩ := exists_base (π.gateway_lt h hLt)
      have hOne := hAll _ (mem_participants.mpr ⟨_, b, hb, rfl⟩)
      refine (unambiguous_iff (π.gateway_lt h hLt) b).mp hOne ?_
      rw [π.home_gateway h hLt]
    · intro hAll q hq
      obtain ⟨p, b, hb, rfl⟩ := mem_participants.mp hq
      have hp := (List.getElem?_eq_some_iff.mp hb).1
      refine (unambiguous_iff hp b).mpr fun hGateway => ?_
      rw [hGateway]
      exact hAll _ (home_mem_chain hp)
  rw [hGateways]
  have hHome : ∀ h ∈ π.chain, π.home (π.gateway h) = h :=
    fun h hh => π.home_gateway h (mem_chain.mp hh)
  constructor
  · intro hFree
    constructor
    · rintro ⟨g, hg, h18⟩ h hh hAfter
      by_contra hOther
      refine hFree h hh g hg (mem_fixedOctets.mpr (Or.inl ⟨h18, ?_, hOther⟩))
      rwa [hHome h hh]
    · rintro ⟨g, hg, h17⟩ h hh hBefore
      by_contra hOther
      refine hFree h hh g hg (mem_fixedOctets.mpr (Or.inr ⟨h17, ?_, hOther⟩))
      rwa [hHome h hh]
  · rintro ⟨h18, h17⟩ h hh g hg hFixed
    rcases mem_fixedOctets.mp hFixed with ⟨hOctet, hAfter, hOther⟩ | ⟨hOctet, hBefore, hOther⟩
    · rw [hHome h hh] at hAfter
      exact hOther (h18 ⟨g, hg, hOctet⟩ h hh hAfter)
    · rw [hHome h hh] at hBefore
      exact hOther (h17 ⟨g, hg, hOctet⟩ h hh hBefore)

theorem gateway_inj {g h : Nat} (hg : g ∈ π.chain) (hh : h ∈ π.chain)
    (hEq : π.gateway g = π.gateway h) : g = h := by
  rw [← π.home_gateway g (mem_chain.mp hg), hEq, π.home_gateway h (mem_chain.mp hh)]

theorem length_chain : π.chain.length = π.groupCount := by
  rw [π.chain_perm.length_eq, List.length_range]

end Plan

-- ---------------------------------------------------------------------------
-- When all are
-- ---------------------------------------------------------------------------

/-- No group has a fixed network for which there is a route: all gateways but
the last have one to 100.100.18.0, all but the first one to 100.100.17.0. Only
the named nodes have none, so in a chain of two there need not be any. -/
structure FixedNetworksFree (settings : VMTDSettings) (draws : Draws)
    (participants : List VMTDParticipant) : Prop where
  network18 : (∃ g < draws.groupCount, octet3Of settings draws g = 18) →
    draws.groupCount = 2 ∧ nodeOf settings draws participants "Node-10" =
      firstGateway settings draws participants.length
  network17 : (∃ g < draws.groupCount, octet3Of settings draws g = 17) →
    draws.groupCount = 2 ∧ nodeOf settings draws participants "Node-1" =
      lastGateway settings draws participants.length

/-- The plan's fixed networks are free exactly when the draws leave them. -/
theorem Plan.Selects.forall_unambiguous_iff {settings : VMTDSettings} {draws : Draws}
    {manager : VMTDDeviceManager} {π : Plan manager.participants.length}
    (h : π.Selects settings draws) :
    (∀ q ∈ π.engine.participants, q.Unambiguous) ↔
      FixedNetworksFree settings draws manager.participants := by
  have hTwo : 2 ≤ π.chain.length := Plan.length_chain.symm ▸ π.two_le_groupCount
  have hOne : ∀ node : Option Nat, ∀ a ∈ π.chain, ∀ b ∈ π.chain,
      some (π.gateway a) = node → some (π.gateway b) = node → a = b :=
    fun node a ha b hb hA hB => Plan.gateway_inj ha hb (Option.some_inj.mp (hA.trans hB.symm))
  have hEnd : ∀ (l node : Option Nat),
      (∃ a, l = some a ∧ some (π.gateway a) = node) ↔ l.isSome = true ∧ node = l.map π.gateway := by
    intro l node
    cases l with
    | none => simp
    | some a => simp [eq_comm]
  have hNonempty : π.chain ≠ [] := List.ne_nil_of_length_pos (by omega)
  have hFirst : π.chain.head?.isSome = true :=
    Option.isSome_iff_ne_none.mpr fun hNone => hNonempty (List.head?_eq_none_iff.mp hNone)
  have hLast : π.chain.getLast?.isSome = true :=
    Option.isSome_iff_ne_none.mpr fun hNone => hNonempty (List.getLast?_eq_none_iff.mp hNone)
  have hOctets : π.octet3 = octet3Of settings draws := h.follows.octet3_eq
  have hCount : π.groupCount = draws.groupCount := h.follows.groupCount_eq
  rw [Plan.forall_unambiguous_iff, Chain.forall_after_iff Plan.chain_nodup hTwo (hOne π.node10),
    Chain.forall_before_iff Plan.chain_nodup hTwo (hOne π.node1), hEnd, hEnd, hFirst, hLast,
    h.first_eq, h.last_eq, h.node1_eq, h.node10_eq, Plan.length_chain, hOctets, hCount]
  simp only [true_and]
  exact ⟨fun h => ⟨h.1, h.2⟩, fun h => ⟨h.1, h.2⟩⟩

/-- **Unambiguous routing tables**, exactly: whatever was drawn, no participant
has two routes to one network or a route to a network it is attached to if and
only if the fixed networks are free. -/
theorem routesUnambiguous_iff {settings : VMTDSettings} {rows : List DeviceRow} {draws : Draws}
    {engine engine' : VMTDEngine}
    (h : VMTDEngine.generate settings rows draws engine = some engine') :
    (∀ q ∈ engine'.participants, q.Unambiguous) ↔
      (2 ≤ (engine.manager.buildParticipants settings rows).participants.length →
        FixedNetworksFree settings draws
          (engine.manager.buildParticipants settings rows).participants) := by
  by_cases hTwo : 2 ≤ (engine.manager.buildParticipants settings rows).participants.length
  · obtain ⟨π, hSelects, rfl⟩ := generate_selects h hTwo
    rw [hSelects.forall_unambiguous_iff]
    exact ⟨fun hFree _ => hFree, fun hFree => hFree hTwo⟩
  · rw [generate_of_lt_two h (not_le.mp hTwo)]
    refine iff_of_true (fun q hq => ?_) fun hMany => absurd hMany hTwo
    obtain ⟨h₁, h₂, -⟩ := VMTDDeviceManager.buildParticipants_interfaces q hq
    have hNone : q.routes = [] := by
      rw [VMTDParticipant.routes, h₁, h₂]
      rfl
    exact ⟨by simp [hNone], fun i _ => by simp [hNone]⟩

/-- Two groups on 100.100.1.0 and 100.100.2.0. -/
theorem routesUnambiguous_twoRows :
    ∃ engine', VMTDEngine.generate { shouldRandomizeNetwork := true } twoRows (twoGroups 1) {} =
        some engine' ∧ ∀ q ∈ engine'.participants, q.Unambiguous := by
  have hRun : (VMTDEngine.generate { shouldRandomizeNetwork := true } twoRows (twoGroups 1)
      {}).isSome = true := by decide +kernel
  obtain ⟨engine', hEngine⟩ := Option.isSome_iff_exists.mp hRun
  refine ⟨engine', hEngine, (routesUnambiguous_iff hEngine).mpr fun _ => ⟨?_, ?_⟩⟩
  · rintro ⟨g, hg, hOctet⟩
    have hNumber : (g : Int) + 1 = 18 := hOctet
    have hFew : g < 2 := hg
    omega
  · rintro ⟨g, hg, hOctet⟩
    have hNumber : (g : Int) + 1 = 17 := hOctet
    have hFew : g < 2 := hg
    omega

/-- The second group draws 100.100.18.0: the first gateway has two routes
there. -/
theorem fixed_network_drawn :
    ¬ ∀ (settings : VMTDSettings) (rows : List DeviceRow) (draws : Draws)
        (engine engine' : VMTDEngine),
        VMTDEngine.generate settings rows draws engine = some engine' →
          ∀ q ∈ engine'.participants, q.Unambiguous := by
  intro hClaim
  have hRun : (VMTDEngine.generate { shouldRandomizeNetwork := true } twoRows
      { twoGroups 1 with octet3 := fun i => i + 17 } {}).any (fun engine' =>
        engine'.participants.any fun q => !decide q.Unambiguous) = true := by
    decide +kernel
  obtain ⟨engine', hEngine, hAmbiguous⟩ := Option.any_eq_true _ _ |>.mp hRun
  obtain ⟨q, hq, hNot⟩ := List.any_eq_true.mp hAmbiguous
  exact of_decide_eq_false (by simpa using hNot) (hClaim _ _ _ _ _ hEngine q hq)

end VxlanMtd
