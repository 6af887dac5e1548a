import VxlanMtd.Engine.Outcome
import VxlanMtd.Engine.AddressText

/-!
# Which addresses are in use

An address of an existing interface is named by its group and its last octet,
its *key*. `Plan.keys` lists the keys of a participant: one for the first
interface, and one for the link a gateway has to the group before its own.

* `keys_nodup_iff` — the keys of a plan are distinct exactly when no link
  shares its last octet with a member of the group it is in;
* **`addresses_nodup_iff`** — so the addresses `generate` hands out are
  distinct exactly when the draws meet `LinkOctetsFree`: with random networks
  and fixed gateways, the octet of a link (`participants().count() + 1`) is not
  looked up among the octets drawn before.
-/

namespace VxlanMtd

-- addresses are opaque here; unfolding them would make Lean render templates
attribute [local irreducible] networkText macText PlaceMarker.arg

/-- The interfaces of a participant that exist. -/
def VMTDParticipant.existingInterfaces (p : VMTDParticipant) : List VMTDInterface :=
  [p.interface1, p.interface2].filter (·.isExist)

/-- All interfaces that exist. -/
def VMTDEngine.existingInterfaces (engine : VMTDEngine) : List VMTDInterface :=
  engine.participants.flatMap VMTDParticipant.existingInterfaces

namespace Plan

variable {n : Nat} {π : Plan n}

/-- The keys of a participant's addresses. -/
def keys (π : Plan n) (p : Nat) : List (Nat × Int) :=
  (π.home p, π.octet4 (π.home p) (π.seat p)) ::
    ((π.linkedGroup p).map fun h => (h, π.link4 h)).toList

/-- All keys of a plan. -/
def allKeys (π : Plan n) : List (Nat × Int) := (List.range n).flatMap π.keys

/-- No link has the last octet of a member of the group it is in. -/
def LinksFree (π : Plan n) : Prop :=
  ∀ g < π.groupCount, Chain.after π.chain g ≠ [] →
    ∀ t < (π.members g).length, π.octet4 g t ≠ π.link4 g

/-- The places of a participant: in its own group and, for a linked gateway, in
one more. -/
theorem mem_keys {p : Nat} {k : Nat × Int} :
    k ∈ π.keys p ↔ k = (π.home p, π.octet4 (π.home p) (π.seat p)) ∨
      ∃ h, π.linkedGroup p = some h ∧ k = (h, π.link4 h) := by
  rw [keys, List.mem_cons, Option.mem_toList, Option.map_eq_some_iff]
  simp only [eq_comm]

/-- The key of a link meets no key of a member when the links are free. -/
theorem link_ne_home (hFree : π.LinksFree) {p q h : Nat} (hp : p < n) (hq : q < n)
    (hLink : π.linkedGroup p = some h) :
    (h, π.link4 h) ≠ (π.home q, π.octet4 (π.home q) (π.seat q)) := by
  intro hEq
  obtain ⟨rfl, hOctet⟩ := Prod.mk.inj hEq
  obtain ⟨hh, -, -, hAfter⟩ := linkedGroup_eq_some hp hLink
  have hNonempty : Chain.after π.chain (π.home q) ≠ [] := by
    intro hNil
    rw [hNil] at hAfter
    simp at hAfter
  exact hFree _ hh hNonempty _ (Layout.seat_lt hq) hOctet.symm

/-- Participants have no key in common when the links are free. -/
theorem keys_disjoint (hFree : π.LinksFree) {p q : Nat} (hp : p < n) (hq : q < n) (hne : p ≠ q) :
    List.Disjoint (π.keys p) (π.keys q) := by
  intro k hkp hkq
  rcases mem_keys.mp hkp with rfl | ⟨h, hLink, rfl⟩
  · rcases mem_keys.mp hkq with hEq | ⟨h, hLink, hEq⟩
    · -- two members of one group sit at different places
      obtain ⟨hHome, hOctet⟩ := Prod.mk.inj hEq
      rw [← hHome] at hOctet
      have hSeat := π.octet4_inj _ (π.home_lt p hp) _ (Layout.seat_lt hp) _
        (hHome ▸ Layout.seat_lt hq) hOctet
      exact hne (Layout.eq_of_seat hp hq hHome hSeat)
    · exact link_ne_home hFree hq hp hLink hEq.symm
  · rcases mem_keys.mp hkq with hEq | ⟨h', hLink', hEq⟩
    · exact link_ne_home hFree hp hq hLink hEq
    · -- a link is held by the gateway of the next group only
      obtain ⟨rfl, -⟩ := Prod.mk.inj hEq
      obtain ⟨-, -, hpGateway, hpAfter⟩ := linkedGroup_eq_some hp hLink
      obtain ⟨-, -, hqGateway, hqAfter⟩ := linkedGroup_eq_some hq hLink'
      have hHome : π.home p = π.home q := Option.some_injective _ (hpAfter.symm.trans hqAfter)
      exact hne (by rw [hpGateway, hqGateway, hHome])

/-- They differ where no link took the place of a member. -/
theorem keys_nodup (hFree : π.LinksFree) {p : Nat} (hp : p < n) : (π.keys p).Nodup := by
  rw [keys, List.nodup_cons]
  refine ⟨fun hMem => ?_, ?_⟩
  · rw [Option.mem_toList, Option.map_eq_some_iff] at hMem
    obtain ⟨h, hLink, hEq⟩ := hMem
    exact link_ne_home hFree hp hp hLink hEq
  · cases π.linkedGroup p <;> simp

/-- **The keys of a plan are distinct exactly when its links are free.** -/
theorem keys_nodup_iff : π.allKeys.Nodup ↔ π.LinksFree := by
  rw [allKeys, List.nodup_flatMap]
  constructor
  · rintro ⟨-, hDisjoint⟩ g hg hAfter t ht hEq
    obtain ⟨p, hp, hLink, hHome⟩ := exists_linkedGroup hg hAfter
    obtain ⟨q, hq⟩ : ∃ q, (π.members g)[t]? = some q := ⟨_, List.getElem?_eq_getElem ht⟩
    obtain ⟨hqn, hqHome, hqSeat⟩ := (π.members_iff g hg t q).mp hq
    have hne : p ≠ q := fun hpq => hHome (hpq ▸ hqHome)
    have hSymm : Std.Symm (Function.onFun List.Disjoint π.keys) := ⟨fun _ _ h => h.symm⟩
    have hApart := hDisjoint.forall (List.mem_range.mpr hp) (List.mem_range.mpr hqn) hne
    refine hApart (mem_keys.mpr (Or.inr ⟨g, hLink, rfl⟩)) (mem_keys.mpr (Or.inl ?_))
    rw [hqHome, hqSeat, hEq]
  · intro hFree
    refine ⟨fun p hp => keys_nodup hFree (List.mem_range.mp hp), ?_⟩
    refine List.nodup_range.pairwise_of_forall_ne fun p hp q hq hne => ?_
    exact keys_disjoint hFree (List.mem_range.mp hp) (List.mem_range.mp hq) hne

-- ---------------------------------------------------------------------------
-- The addresses of the engine
-- ---------------------------------------------------------------------------

variable {manager : VMTDDeviceManager} {π : Plan manager.participants.length}

/-- A participant's existing interfaces: its own and the link. -/
theorem existingInterfaces_participant {p : Nat} (hp : p < manager.participants.length)
    (b : VMTDParticipant) : (π.participant p b).existingInterfaces =
      { π.homeInterface p with routes := π.routes1 p } ::
        ((π.linkedGroup p).map fun h =>
          { π.interface h (π.link4 h) with routes := π.backRoutes p }).toList := by
  have h₁ := π.interface1_participant hp b
  have h₂ := π.interface2_participant hp b
  have hExist₁ : (π.participant p b).interface1.isExist = true := rfl
  have hExist₂ := π.isExist_interface2 hp b
  unfold VMTDParticipant.existingInterfaces
  rw [List.filter_cons_of_pos hExist₁, h₁]
  cases hLink : π.linkedGroup p with
  | none =>
    rw [hLink, Option.isSome_none] at hExist₂
    simp [hExist₂]
  | some h =>
    rw [hLink, Option.isSome_some] at hExist₂
    rw [hLink] at h₂
    rw [List.filter_cons_of_pos hExist₂, h₂]
    rfl

/-- What does not depend on routes can be read off the keys. -/
theorem existing_participant {β : Type*} {f : VMTDInterface → β}
    (hRoutes : ∀ i routes, f { i with routes := routes } = f i) {p : Nat}
    (hp : p < manager.participants.length) (b : VMTDParticipant) :
    (π.participant p b).existingInterfaces.map f =
      (π.keys p).map fun k => f (π.interface k.1 k.2) := by
  rw [existingInterfaces_participant hp, List.map_cons, hRoutes]
  unfold keys
  cases π.linkedGroup p with
  | none => rfl
  | some h =>
    have hLinkRoutes := hRoutes (π.interface h (π.link4 h)) (π.backRoutes p)
    rw [Option.map_some, Option.map_some, Option.toList_some, Option.toList_some, List.map_singleton]
    exact congrArg (fun x => [f (π.homeInterface p), x]) hLinkRoutes

/-- The engine's existing interfaces, one for each key. -/
theorem map_existingInterfaces {β : Type*} {f : VMTDInterface → β}
    (hRoutes : ∀ i routes, f { i with routes := routes } = f i) :
    π.engine.existingInterfaces.map f = π.allKeys.map fun k => f (π.interface k.1 k.2) := by
  rw [VMTDEngine.existingInterfaces, participants_engine, List.map_flatMap, allKeys,
    List.map_flatMap]
  refine Indexed.flatMap_mapIdx fun p b hb => ?_
  exact existing_participant hRoutes (List.getElem?_eq_some_iff.mp hb).1 b

-- ---------------------------------------------------------------------------
-- Distinct keys, distinct addresses
-- ---------------------------------------------------------------------------

variable {settings : VMTDSettings} {draws : Draws}

theorem exists_of_mem_allKeys {k : Nat × Int} (hk : k ∈ π.allKeys) :
    k.1 < π.groupCount ∧
      ((∃ t < (π.members k.1).length, k.2 = π.octet4 k.1 t) ∨
        (Chain.after π.chain k.1 ≠ [] ∧ k.2 = π.link4 k.1)) := by
  obtain ⟨p, hp, hk⟩ := List.mem_flatMap.mp hk
  have hp := List.mem_range.mp hp
  rcases mem_keys.mp hk with rfl | ⟨h, hLink, rfl⟩
  · exact ⟨π.home_lt p hp, Or.inl ⟨_, Layout.seat_lt hp, rfl⟩⟩
  · obtain ⟨hh, -, -, hAfter⟩ := linkedGroup_eq_some hp hLink
    refine ⟨hh, Or.inr ⟨fun hNil => ?_, rfl⟩⟩
    rw [hNil] at hAfter
    simp at hAfter

theorem lt_of_mem_allKeys {k : Nat × Int} (hk : k ∈ π.allKeys) : k.1 < π.groupCount :=
  (exists_of_mem_allKeys hk).1

/-- The octets of a plan are `int`s, so a MAC address shows them in full. -/
theorem Follows.isInt_octet3 (hF : π.Follows settings draws) {g : Nat} (hg : g < π.groupCount) :
    IsInt (π.octet3 g) := by
  cases hNetwork : settings.shouldRandomizeNetwork with
  | true =>
    have := hF.octet3_range hNetwork g hg
    unfold IsInt
    omega
  | false =>
    have hVlan := π.vlanId_int g hg
    rw [hF.vlanId_eq] at hVlan
    rwa [hF.octet3_eq, octet3Of, hNetwork, if_neg Bool.false_ne_true]

theorem Follows.isInt_octet4 (hF : π.Follows settings draws) {g t : Nat} (hg : g < π.groupCount)
    (ht : t < (π.members g).length) : IsInt (π.octet4 g t) := by
  have hSize := hF.size_lt
  have hLength := length_members_lt hg
  cases hNetwork : settings.shouldRandomizeNetwork with
  | true =>
    have := hF.octet4_range hNetwork g hg t ht
    unfold IsInt
    omega
  | false =>
    rw [hF.octet4_eq, octet4Of, hNetwork, if_neg Bool.false_ne_true]
    unfold IsInt
    omega

theorem Follows.isInt_link4 (hF : π.Follows settings draws) {g : Nat} (hg : g < π.groupCount)
    (hAfter : Chain.after π.chain g ≠ []) : IsInt (π.link4 g) := by
  have hSize := hF.size_lt
  have hLength := length_members_lt hg
  cases hGateway : settings.shouldRandomizeGateway with
  | true =>
    have := hF.link4_range hGateway g hg hAfter
    unfold IsInt
    omega
  | false =>
    rw [hF.link4_eq g hg hAfter, hGateway, if_neg Bool.false_ne_true]
    unfold IsInt
    omega

/-- The octets of an address are `int`s. -/
theorem Follows.isInt_key (hF : π.Follows settings draws) {k : Nat × Int} (hk : k ∈ π.allKeys) :
    IsInt (π.octet3 k.1) ∧ IsInt k.2 := by
  obtain ⟨hg, hOctet⟩ := exists_of_mem_allKeys hk
  refine ⟨hF.isInt_octet3 hg, ?_⟩
  rcases hOctet with ⟨t, ht, hEq⟩ | ⟨hAfter, hEq⟩
  · rw [hEq]
    exact hF.isInt_octet4 hg ht
  · rw [hEq]
    exact hF.isInt_link4 hg hAfter

/-- Addresses differ exactly as the places do. -/
theorem nodup_ips_iff :
    (π.engine.existingInterfaces.map (·.ip)).Nodup ↔ π.allKeys.Nodup := by
  rw [map_existingInterfaces fun _ _ => rfl]
  refine ⟨List.Nodup.of_map _, fun hNodup => hNodup.map_on fun k hk k' hk' hEq => ?_⟩
  obtain ⟨h₃, h₄⟩ := networkText_inj hEq
  have hGroup := π.octet3_inj _ (lt_of_mem_allKeys hk) _ (lt_of_mem_allKeys hk') h₃
  exact Prod.ext hGroup h₄

theorem nodup_macs_iff (hF : π.Follows settings draws) :
    (π.engine.existingInterfaces.map (·.mac)).Nodup ↔ π.allKeys.Nodup := by
  rw [map_existingInterfaces fun _ _ => rfl]
  refine ⟨List.Nodup.of_map _, fun hNodup => hNodup.map_on fun k hk k' hk' hEq => ?_⟩
  obtain ⟨hk₃, hk₄⟩ := hF.isInt_key hk
  obtain ⟨hk₃', hk₄'⟩ := hF.isInt_key hk'
  obtain ⟨h₃, h₄⟩ := macText_inj hk₃ hk₄ hk₃' hk₄' hEq
  have hGroup := π.octet3_inj _ (lt_of_mem_allKeys hk) _ (lt_of_mem_allKeys hk') h₃
  exact Prod.ext hGroup h₄

end Plan

-- ---------------------------------------------------------------------------
-- The draws that collide
-- ---------------------------------------------------------------------------

/-- With random networks and fixed gateways, no group but the last has drawn
the octet its link is going to get. -/
def LinkOctetsFree (settings : VMTDSettings) (draws : Draws) (size : Nat) : Prop :=
  2 ≤ size → settings.shouldRandomizeNetwork = true → settings.shouldRandomizeGateway = false →
    ∀ g, g + 1 < draws.groupCount →
      ∀ t < sizeOf draws size g, draws.octet4 g t ≠ sizeOf draws size g + 1

/-- The links of a plan are free exactly when the draws say so. -/
theorem linksFree_iff {settings : VMTDSettings} {draws : Draws} {n : Nat} {π : Plan n}
    (hF : π.Follows settings draws) (hTwo : 2 ≤ n) :
    π.LinksFree ↔ LinkOctetsFree settings draws n := by
  cases hGateway : settings.shouldRandomizeGateway with
  | true =>
    have hFree : π.LinksFree := fun g hg hAfter t ht =>
      (hF.link4_fresh hGateway g hg hAfter t ht).symm
    exact ⟨fun _ _ _ hFixed => absurd (hGateway.symm.trans hFixed) (by decide), fun _ => hFree⟩
  | false =>
    have hAfter : ∀ g < π.groupCount, Chain.after π.chain g ≠ [] ↔ g + 1 < π.groupCount := by
      intro g hg
      rw [hF.chain_eq hGateway]
      exact Chain.after_range_ne_nil hg
    have hLink : ∀ g < π.groupCount, Chain.after π.chain g ≠ [] →
        π.link4 g = sizeOf draws n g + 1 := by
      intro g hg hNonempty
      rw [hF.link4_eq g hg hNonempty, hGateway, if_neg Bool.false_ne_true,
        hF.length_members g hg]
    cases hNetwork : settings.shouldRandomizeNetwork with
    | true =>
      have hOctet : ∀ g t, π.octet4 g t = draws.octet4 g t := by
        intro g t
        rw [hF.octet4_eq, octet4Of, hNetwork, if_pos rfl]
      constructor
      · intro hFree _ _ _ g hg t ht
        rw [← hF.groupCount_eq] at hg
        have hNonempty := (hAfter g (by omega)).mpr hg
        rw [← hF.length_members g (by omega)] at ht
        rw [← hOctet, ← hLink g (by omega) hNonempty]
        exact hFree g (by omega) hNonempty t ht
      · intro hFree g hg hNonempty t ht
        rw [hOctet, hLink g hg hNonempty]
        rw [hF.length_members g hg] at ht
        refine hFree hTwo hNetwork hGateway g ?_ t ht
        rw [← hF.groupCount_eq]
        exact (hAfter g hg).mp hNonempty
    | false =>
      -- both octets are counted, and the link comes after the members
      have hFree : π.LinksFree := by
        intro g hg hNonempty t ht
        rw [hF.length_members g hg] at ht
        rw [hLink g hg hNonempty, hF.octet4_eq, octet4Of, hNetwork, if_neg Bool.false_ne_true]
        omega
      exact ⟨fun _ _ hRandom => absurd (hNetwork.symm.trans hRandom) (by decide), fun _ => hFree⟩

/-- Fewer than two participants get no address. -/
theorem existingInterfaces_of_lt_two {settings : VMTDSettings} {rows : List DeviceRow}
    {draws : Draws} {engine engine' : VMTDEngine}
    (h : VMTDEngine.generate settings rows draws engine = some engine')
    (hOne : (engine.manager.buildParticipants settings rows).participants.length < 2) :
    engine'.existingInterfaces = [] := by
  rw [generate_of_lt_two h hOne]
  refine List.flatMap_eq_nil_iff.mpr fun p hp => ?_
  obtain ⟨h₁, h₂, -⟩ := VMTDDeviceManager.buildParticipants_interfaces p hp
  rw [VMTDParticipant.existingInterfaces, h₁, h₂]
  rfl

/-- **Which outcomes of `generate` have distinct addresses**: exactly those
whose draws leave the links free. -/
theorem addresses_nodup_iff {settings : VMTDSettings} {rows : List DeviceRow} {draws : Draws}
    {engine engine' : VMTDEngine}
    (h : VMTDEngine.generate settings rows draws engine = some engine') :
    ((engine'.existingInterfaces.map (·.ip)).Nodup ∧
      (engine'.existingInterfaces.map (·.mac)).Nodup) ↔
    LinkOctetsFree settings draws
      (engine.manager.buildParticipants settings rows).participants.length := by
  rcases Nat.lt_or_ge (engine.manager.buildParticipants settings rows).participants.length 2
    with hOne | hTwo
  · rw [existingInterfaces_of_lt_two h hOne]
    refine ⟨fun _ hTwo => ?_, fun _ => ⟨List.nodup_nil, List.nodup_nil⟩⟩
    omega
  · obtain ⟨π, hF, rfl⟩ := generate_refines h hTwo
    rw [Plan.nodup_ips_iff, Plan.nodup_macs_iff hF, and_self, Plan.keys_nodup_iff,
      linksFree_iff hF hTwo]

-- ---------------------------------------------------------------------------
-- Two hosts, one address
-- ---------------------------------------------------------------------------

/-- Two hosts on one switch. -/
def twoRows : List DeviceRow :=
  [⟨1, "Node-1", "node1", "10.0.0.1", "eth0", "1/1", "leaf", "http://leaf"⟩,
    ⟨2, "Node-2", "node2", "10.0.0.2", "eth0", "1/2", "leaf", "http://leaf"⟩]

/-- Two groups of one member each, both with the same last octet. -/
def twoGroups (octet4 : Int) : Draws where
  groupCount := 2
  vlanId _ := 0
  octet3 i := i + 1
  participants := []
  groups := []
  octet4 _ _ := octet4
  gateway _ := 0
  gateways := []
  link4 _ := 0

/-- The members drew the octet 2, and the link in the first group is its second
address: both get 100.100.1.2. -/
theorem addresses_collide :
    ¬ ∀ (settings : VMTDSettings) (rows : List DeviceRow) (draws : Draws)
        (engine engine' : VMTDEngine),
        VMTDEngine.generate settings rows draws engine = some engine' →
          (engine'.existingInterfaces.map (·.ip)).Nodup ∧
            (engine'.existingInterfaces.map (·.mac)).Nodup := by
  intro hClaim
  have hRun : (VMTDEngine.generate { shouldRandomizeNetwork := true } twoRows (twoGroups 2) {}).any
      (fun engine' => !decide (engine'.existingInterfaces.map (·.ip)).Nodup) = true := by
    decide +kernel
  obtain ⟨engine', hEngine, hTwice⟩ := Option.any_eq_true _ _ |>.mp hRun
  exact of_decide_eq_false (by simpa using hTwice) (hClaim _ _ _ _ _ hEngine).1

/-- With the octet 1 for the members, the link gets 2 and all is well. -/
theorem addresses_nodup_twoRows :
    ∃ engine', VMTDEngine.generate { shouldRandomizeNetwork := true } twoRows (twoGroups 1) {} =
        some engine' ∧
      (engine'.existingInterfaces.map (·.ip)).Nodup ∧
      (engine'.existingInterfaces.map (·.mac)).Nodup := by
  have hRun : (VMTDEngine.generate { shouldRandomizeNetwork := true } twoRows (twoGroups 1)
      {}).isSome = true := by decide +kernel
  obtain ⟨engine', hEngine⟩ := Option.isSome_iff_exists.mp hRun
  refine ⟨engine', hEngine, (addresses_nodup_iff hEngine).mpr ?_⟩
  intro _ _ _ g hg t _
  obtain rfl : g = 0 := by
    have : g + 1 < 2 := hg
    omega
  decide +kernel +revert

end VxlanMtd
