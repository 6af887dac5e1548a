import VxlanMtd.Engine.Overlay

/-!
# Every participant reaches every other

The tables of `Plan.engine` are the rows of `Plan.Row`. A packet for a member
of group `H` is one hop away from the nodes attached to `H`; the gateways on
either side of them pass it on along the chain, forward through their links and
back through their neighbours' own addresses; plain members hand it to their
gateway. `Plan.rank` counts these hops.

* `mem_table` — the rows of a node's table;
* `next_hop` — from each node, the next one has a lower rank;
* **`overlay_delivers`** — every packet to a first address arrives at its owner,
  without visiting a node twice.
-/

namespace VxlanMtd

open Forwarding

-- addresses are opaque here; unfolding them would make Lean render templates
attribute [local irreducible] networkText macText PlaceMarker.arg

namespace Plan

variable {n : Nat} (π : Plan n)

/-- A plan whose addresses can be routed to: octets that fit, no address twice
and none of the two reserved networks. -/
structure Sound : Prop where
  octet3 : ∀ g < π.groupCount, IsOctet (π.octet3 g)
  key : ∀ k ∈ π.allKeys, IsOctet k.2
  nodup : π.allKeys.Nodup
  reserved : ∀ g < π.groupCount, π.octet3 g ≠ 17 ∧ π.octet3 g ≠ 18

/-- The address of a key. -/
def keyAddress (k : Nat × Int) : Nat := addressOf (π.octet3 k.1) k.2

/-- The key of a participant's first interface. -/
def homeKey (p : Nat) : Nat × Int := (π.home p, π.octet4 (π.home p) (π.seat p))

/-- The key of the link in a group. -/
def linkKey (g : Nat) : Nat × Int := (g, π.link4 g)

/-- The rows of a participant's table. -/
inductive Row (p : Nat) : Entry → Prop where
  | connected {k : Nat × Int} (hk : k ∈ π.keys p) : Row p ⟨π.keyAddress k, 24, none⟩
  | default (hPlain : p ≠ π.gateway (π.home p)) :
      Row p ⟨addressOf 0 0, 16, some (π.keyAddress (π.homeKey (π.gateway (π.home p))))⟩
  | forward (hGateway : p = π.gateway (π.home p)) {h : Nat}
      (hh : h ∈ Chain.after π.chain (π.home p)) :
      Row p ⟨addressOf (π.octet3 h) 0, 24, some (π.keyAddress (π.linkKey (π.home p)))⟩
  | forward18 (hGateway : p = π.gateway (π.home p)) (hNext : Chain.after π.chain (π.home p) ≠ [])
      (h10 : some p ≠ π.node10) :
      Row p ⟨addressOf 18 0, 24, some (π.keyAddress (π.linkKey (π.home p)))⟩
  | back (hGateway : p = π.gateway (π.home p)) {h r : Nat} {rest : List Nat}
      (hSplit : Chain.before π.chain (π.home p) = h :: rest) (hr : r ∈ rest) :
      Row p ⟨addressOf (π.octet3 r) 0, 24, some (π.keyAddress (π.homeKey (π.gateway h)))⟩
  | back17 (hGateway : p = π.gateway (π.home p)) {h : Nat} {rest : List Nat}
      (hSplit : Chain.before π.chain (π.home p) = h :: rest) (h1 : some p ≠ π.node1) :
      Row p ⟨addressOf 17 0, 24, some (π.keyAddress (π.homeKey (π.gateway h)))⟩

variable {π} {p q : Nat} {k k' : Nat × Int}

theorem mem_allKeys (hp : p < n) (hk : k ∈ π.keys p) : k ∈ π.allKeys :=
  List.mem_flatMap.mpr ⟨p, List.mem_range.mpr hp, hk⟩

theorem homeKey_mem : π.homeKey p ∈ π.keys p := List.mem_cons_self

theorem linkKey_mem {g : Nat} (hLink : π.linkedGroup p = some g) : π.linkKey g ∈ π.keys p :=
  mem_keys.mpr (Or.inr ⟨g, hLink, rfl⟩)

/-- A key has one holder. -/
theorem Sound.eq_of_mem_keys (hSound : π.Sound) (hp : p < n) (hq : q < n) (hkp : k ∈ π.keys p)
    (hkq : k ∈ π.keys q) : p = q := by
  by_contra hne
  exact keys_disjoint (keys_nodup_iff.mp hSound.nodup) hp hq hne hkp hkq

/-- In a sound plan places differ as addresses do. -/
theorem Sound.keyAddress_inj {manager : VMTDDeviceManager}
    {π : Plan manager.participants.length} (hSound : π.Sound) {k k' : Nat × Int}
    (hk : k ∈ π.allKeys) (hk' : k' ∈ π.allKeys) (h : π.keyAddress k = π.keyAddress k') : k = k' := by
  have hg := lt_of_mem_allKeys hk
  have hg' := lt_of_mem_allKeys hk'
  obtain ⟨h₃, h₄⟩ := addressOf_inj (hSound.octet3 _ hg) (hSound.key _ hk) (hSound.octet3 _ hg')
    (hSound.key _ hk') h
  exact Prod.ext (π.octet3_inj _ hg _ hg' h₃) h₄

end Plan

-- ---------------------------------------------------------------------------
-- Tables
-- ---------------------------------------------------------------------------

theorem VMTDRoute.entry_eq {network gateway : String} {mask : Nat} {metric : Int} {x y : Nat}
    (hx : readAddress network = some x) (hy : readAddress gateway = some y) :
    (⟨network, mask, gateway, metric⟩ : VMTDRoute).entry = some ⟨x, mask, some y⟩ := by
  unfold VMTDRoute.entry
  dsimp only
  rw [hx, hy]
  rfl

namespace Plan

variable {manager : VMTDDeviceManager} {π : Plan manager.participants.length}
  {p q : Nat} {b : VMTDParticipant} {k k' : Nat × Int}

/-- The address of a place is read back. -/
theorem Sound.readAddress_key (hSound : π.Sound) (hk : k ∈ π.allKeys) :
    readAddress (π.interface k.1 k.2).ip = some (π.keyAddress k) := by
  have hText : (π.interface k.1 k.2).ip = networkText (π.octet3 k.1) k.2 := rfl
  rw [hText, readAddress_networkText, if_pos]
  · rfl
  · exact ⟨hSound.octet3 _ (lt_of_mem_allKeys hk), hSound.key _ hk⟩

/-- So is the network of a group. -/
theorem Sound.readAddress_network (hSound : π.Sound) {g : Nat} (hg : g < π.groupCount) :
    readAddress (π.network g) = some (addressOf (π.octet3 g) 0) := by
  unfold Plan.network
  rw [readAddress_networkText, if_pos]
  exact ⟨hSound.octet3 g hg, by decide⟩

/-- The rows of the connected networks. -/
theorem Sound.connected_rows (hSound : π.Sound) (hp : p < manager.participants.length)
    (b : VMTDParticipant) :
    (π.participant p b).existingInterfaces.filterMap VMTDInterface.connected =
      (π.keys p).map fun k => ⟨π.keyAddress k, 24, none⟩ := by
  have hMap : ∀ l : List VMTDInterface,
      l.filterMap VMTDInterface.connected = (l.map VMTDInterface.connected).filterMap id := by
    intro l
    rw [List.filterMap_map]
    rfl
  rw [hMap, existing_participant (fun _ _ => rfl) hp, List.filterMap_map]
  rw [← List.filterMap_eq_map]
  refine List.filterMap_congr fun k hk => ?_
  have hAddress := hSound.readAddress_key (mem_allKeys hp hk)
  simp only [Function.comp_apply, id_eq, VMTDInterface.connected, hAddress, Option.map_some]
  rfl

/-- The routes on the second interface of a participant. -/
theorem routes2_participant (hp : p < manager.participants.length) (b : VMTDParticipant) :
    (π.participant p b).interface2.routes =
      if p = π.gateway (π.home p) then π.backRoutes p else [] := by
  rw [interface2_participant hp]
  by_cases hGateway : p = π.gateway (π.home p)
  · rw [linkedGroup, if_pos hGateway, if_pos hGateway]
    cases hBefore : Chain.before π.chain (π.home p) with
    | nil => simp [backRoutes, hBefore]
    | cons h rest => rfl
  · rw [linkedGroup, if_neg hGateway, if_neg hGateway]

/-- The address of the link in a group that has one. -/
theorem Sound.readAddress_link (hSound : π.Sound) {g : Nat} (hg : g < π.groupCount)
    (hAfter : Chain.after π.chain g ≠ []) :
    readAddress (π.linkIp g) = some (π.keyAddress (π.linkKey g)) := by
  obtain ⟨p, hp, hLink, -⟩ := exists_linkedGroup hg hAfter
  have hRead := hSound.readAddress_key (mem_allKeys hp (linkKey_mem hLink))
  exact hRead

theorem Sound.readAddress_gateway (hSound : π.Sound) {g : Nat} (hg : g < π.groupCount) :
    readAddress (π.gatewayIp g) = some (π.keyAddress (π.homeKey (π.gateway g))) := by
  have hRead := hSound.readAddress_key (mem_allKeys (π.gateway_lt g hg) homeKey_mem)
  exact hRead

/-- The rows of the forward routes. -/
theorem Sound.row_of_forwardRoutes (hSound : π.Sound) (hp : p < manager.participants.length)
    (hGateway : p = π.gateway (π.home p)) {route : VMTDRoute} (hRoute : route ∈ π.forwardRoutes p)
    {e : Entry} (he : route.entry = some e) : π.Row p e := by
  have hHome := π.home_lt p hp
  unfold forwardRoutes at hRoute
  cases hAfter : Chain.after π.chain (π.home p) with
  | nil =>
    rw [hAfter] at hRoute
    exact absurd hRoute List.not_mem_nil
  | cons h rest =>
    have hNext : Chain.after π.chain (π.home p) ≠ [] := by simp [hAfter]
    have hLink := hSound.readAddress_link hHome hNext
    have hNetwork : ∀ r ∈ h :: rest, readAddress (π.network r) = some (addressOf (π.octet3 r) 0) := by
      intro r hr
      exact hSound.readAddress_network (mem_after hHome (hAfter ▸ hr)).1
    rw [hAfter] at hRoute
    rcases List.mem_cons.mp hRoute with rfl | hRoute
    · rw [VMTDRoute.entry_eq (hNetwork h List.mem_cons_self) hLink, Option.some_inj] at he
      rw [← he]
      exact .forward hGateway (hAfter ▸ List.mem_cons_self)
    rcases List.mem_append.mp hRoute with hRoute | hRoute
    · split at hRoute
      · rename_i h10
        obtain rfl := List.mem_singleton.mp hRoute
        have h18 : readAddress "100.100.18.0" = some (addressOf 18 0) := by decide +kernel
        rw [VMTDRoute.entry_eq h18 hLink, Option.some_inj] at he
        rw [← he]
        exact .forward18 hGateway hNext h10
      · exact absurd hRoute List.not_mem_nil
    · obtain ⟨r, hr, rfl⟩ := List.mem_map.mp hRoute
      have hr' := List.mem_cons_of_mem h hr
      rw [VMTDRoute.entry_eq (hNetwork r hr') hLink, Option.some_inj] at he
      rw [← he]
      exact .forward hGateway (hAfter ▸ hr')

/-- The rows of the back routes. -/
theorem Sound.row_of_backRoutes (hSound : π.Sound) (hp : p < manager.participants.length)
    (hGateway : p = π.gateway (π.home p)) {route : VMTDRoute} (hRoute : route ∈ π.backRoutes p)
    {e : Entry} (he : route.entry = some e) : π.Row p e := by
  have hHome := π.home_lt p hp
  unfold backRoutes at hRoute
  cases hBefore : Chain.before π.chain (π.home p) with
  | nil =>
    rw [hBefore] at hRoute
    exact absurd hRoute List.not_mem_nil
  | cons h rest =>
    have hMem : ∀ r ∈ h :: rest, r < π.groupCount := fun r hr => (mem_before hHome (hBefore ▸ hr)).1
    have hVia := hSound.readAddress_gateway (hMem h List.mem_cons_self)
    rw [hBefore] at hRoute
    rcases List.mem_append.mp hRoute with hRoute | hRoute
    · split at hRoute
      · rename_i h1
        obtain rfl := List.mem_singleton.mp hRoute
        have h17 : readAddress "100.100.17.0" = some (addressOf 17 0) := by decide +kernel
        rw [VMTDRoute.entry_eq h17 hVia, Option.some_inj] at he
        rw [← he]
        exact .back17 hGateway hBefore h1
      · exact absurd hRoute List.not_mem_nil
    · obtain ⟨r, hr, rfl⟩ := List.mem_map.mp hRoute
      have hNetwork := hSound.readAddress_network (hMem r (List.mem_cons_of_mem h hr))
      rw [VMTDRoute.entry_eq hNetwork hVia, Option.some_inj] at he
      rw [← he]
      exact .back hGateway hBefore hr

theorem Sound.entry_defaultRoute (hSound : π.Sound) {g : Nat} (hg : g < π.groupCount) :
    (π.defaultRoute g).entry =
      some ⟨addressOf 0 0, 16, some (π.keyAddress (π.homeKey (π.gateway g)))⟩ := by
  have hNetwork : readAddress (networkText 0 0) = some (addressOf 0 0) := by
    rw [readAddress_networkText, if_pos (by decide)]
  exact VMTDRoute.entry_eq hNetwork (hSound.readAddress_gateway hg)

/-- Every row of a table is one of `Row`. -/
theorem Sound.row_of_mem_table (hSound : π.Sound) (hp : p < manager.participants.length)
    {e : Entry} (he : e ∈ (π.participant p b).table) : π.Row p e := by
  unfold VMTDParticipant.table at he
  rw [hSound.connected_rows hp, interface1_participant hp, routes2_participant hp] at he
  rcases List.mem_append.mp he with he | he
  · obtain ⟨k, hk, rfl⟩ := List.mem_map.mp he
    exact .connected hk
  obtain ⟨route, hRoute, he⟩ := List.mem_filterMap.mp he
  dsimp only [routes1] at hRoute
  by_cases hGateway : p = π.gateway (π.home p)
  · rw [if_pos hGateway, if_pos hGateway] at hRoute
    rcases List.mem_append.mp hRoute with hRoute | hRoute
    · exact hSound.row_of_forwardRoutes hp hGateway hRoute he
    · exact hSound.row_of_backRoutes hp hGateway hRoute he
  · rw [if_neg hGateway, if_neg hGateway, List.append_nil] at hRoute
    obtain rfl := List.mem_singleton.mp hRoute
    rw [hSound.entry_defaultRoute (π.home_lt p hp), Option.some_inj] at he
    rw [← he]
    exact .default hGateway

/-! The rows a packet needs are there. -/

/-- A participant reaches its own groups directly. -/
theorem Sound.mem_table_connected (hSound : π.Sound) (hp : p < manager.participants.length)
    (hk : k ∈ π.keys p) : ⟨π.keyAddress k, 24, none⟩ ∈ (π.participant p b).table := by
  unfold VMTDParticipant.table
  rw [hSound.connected_rows hp]
  exact List.mem_append_left _ (List.mem_map.mpr ⟨k, hk, rfl⟩)

theorem Sound.mem_table_route (hp : p < manager.participants.length) {route : VMTDRoute}
    {e : Entry} (hRoute : route ∈ π.routes1 p ∨
      p = π.gateway (π.home p) ∧ route ∈ π.backRoutes p) (he : route.entry = some e) :
    e ∈ (π.participant p b).table := by
  unfold VMTDParticipant.table
  refine List.mem_append_right _ (List.mem_filterMap.mpr ⟨route, ?_, he⟩)
  rw [interface1_participant hp, routes2_participant hp, List.mem_append]
  rcases hRoute with hRoute | ⟨hGateway, hRoute⟩
  · exact Or.inl hRoute
  · rw [if_pos hGateway]
    exact Or.inr hRoute

/-- A plain participant sends the rest to its gateway. -/
theorem Sound.mem_table_default (hSound : π.Sound) (hp : p < manager.participants.length)
    (hPlain : p ≠ π.gateway (π.home p)) :
    ⟨addressOf 0 0, 16, some (π.keyAddress (π.homeKey (π.gateway (π.home p))))⟩ ∈
      (π.participant p b).table := by
  refine Sound.mem_table_route hp (Or.inl ?_) (hSound.entry_defaultRoute (π.home_lt p hp))
  rw [routes1, if_neg hPlain]
  exact List.mem_singleton_self _

/-- A gateway sends what is for later groups to the next gateway. -/
theorem Sound.mem_table_forward (hSound : π.Sound) (hp : p < manager.participants.length)
    (hGateway : p = π.gateway (π.home p)) {h : Nat} (hh : h ∈ Chain.after π.chain (π.home p)) :
    ⟨addressOf (π.octet3 h) 0, 24, some (π.keyAddress (π.linkKey (π.home p)))⟩ ∈
      (π.participant p b).table := by
  have hHome := π.home_lt p hp
  have hNetwork := hSound.readAddress_network (mem_after hHome hh).1
  have hLink := hSound.readAddress_link hHome (List.ne_nil_of_mem hh)
  have hEntry := @VMTDRoute.entry_eq _ _ 24 100 _ _ hNetwork hLink
  refine Sound.mem_table_route hp (Or.inl ?_) hEntry
  rw [routes1, if_pos hGateway, forwardRoutes]
  cases hAfter : Chain.after π.chain (π.home p) with
  | nil => simp [hAfter] at hh
  | cons first rest =>
    rw [hAfter] at hh
    rcases List.mem_cons.mp hh with rfl | hh
    · exact List.mem_cons_self
    · exact List.mem_cons_of_mem _ (List.mem_append_right _ (List.mem_map_of_mem hh))

/-- And what is for earlier groups, but the one it is linked into, to the
gateway before. -/
theorem Sound.mem_table_back (hSound : π.Sound) (hp : p < manager.participants.length)
    (hGateway : p = π.gateway (π.home p)) {h r : Nat} {rest : List Nat}
    (hSplit : Chain.before π.chain (π.home p) = h :: rest) (hr : r ∈ rest) :
    ⟨addressOf (π.octet3 r) 0, 24, some (π.keyAddress (π.homeKey (π.gateway h)))⟩ ∈
      (π.participant p b).table := by
  have hHome := π.home_lt p hp
  have hMem : ∀ x ∈ h :: rest, x < π.groupCount := fun x hx => (mem_before hHome (hSplit ▸ hx)).1
  have hNetwork := hSound.readAddress_network (hMem r (List.mem_cons_of_mem h hr))
  have hVia := hSound.readAddress_gateway (hMem h List.mem_cons_self)
  have hEntry := @VMTDRoute.entry_eq _ _ 24 100 _ _ hNetwork hVia
  refine Sound.mem_table_route hp (Or.inr ⟨hGateway, ?_⟩) hEntry
  rw [backRoutes, hSplit]
  exact List.mem_append_right _ (List.mem_map_of_mem hr)

-- ---------------------------------------------------------------------------
-- Neighbours
-- ---------------------------------------------------------------------------

/-- The addresses of a participant are those of its keys. -/
theorem Sound.hasAddress_iff (hSound : π.Sound) (hp : p < manager.participants.length)
    {address : Nat} : (π.participant p b).hasAddress address = true ↔
      ∃ k ∈ π.keys p, π.keyAddress k = address := by
  have hMap := @existing_participant _ π _ (fun i => readAddress i.ip == some address)
    (fun _ _ => rfl) p hp b
  have hAny : (π.participant p b).hasAddress address =
      (((π.participant p b).existingInterfaces.map
        fun i => readAddress i.ip == some address).any id) := by
    rw [List.any_map]
    rfl
  rw [hAny, hMap, List.any_map, List.any_eq_true]
  refine exists_congr fun k => and_congr_right fun hk => ?_
  rw [Function.comp_apply, id_eq, hSound.readAddress_key (mem_allKeys hp hk), beq_iff_eq,
    Option.some_inj]

/-- Participants with keys in one group are neighbours. -/
theorem Sound.reaches_of_keys (hSound : π.Sound) (hp : p < manager.participants.length)
    (hq : q < manager.participants.length) {b' : VMTDParticipant} (hk : k ∈ π.keys p)
    (hk' : k' ∈ π.keys q) (hGroup : k.1 = k'.1) :
    (π.participant p b).reaches (π.participant q b') (π.keyAddress k') = true := by
  have hHolder : ∀ {p : Nat} {b : VMTDParticipant} {k : Nat × Int},
      p < manager.participants.length → k ∈ π.keys p →
        ∃ i ∈ (π.participant p b).existingInterfaces,
          readAddress i.ip = some (π.keyAddress k) ∧ i.vlanId = π.vlanId k.1 ∧ i.mask = 24 := by
    intro p b k hp hk
    have hMap := @existing_participant _ π _ (fun i => (i.ip, i.vlanId, i.mask))
      (fun _ _ => rfl) p hp b
    have hMem : ((π.interface k.1 k.2).ip, π.vlanId k.1, 24) ∈
        (π.participant p b).existingInterfaces.map fun i => (i.ip, i.vlanId, i.mask) := by
      rw [hMap]
      exact List.mem_map.mpr ⟨k, hk, rfl⟩
    obtain ⟨i, hi, hEq⟩ := List.mem_map.mp hMem
    obtain ⟨hIp, hVlan, hMask⟩ : i.ip = (π.interface k.1 k.2).ip ∧ i.vlanId = π.vlanId k.1 ∧
        i.mask = 24 := by simpa using hEq
    exact ⟨i, hi, hIp ▸ hSound.readAddress_key (mem_allKeys hp hk), hVlan, hMask⟩
  obtain ⟨i, hi, hAddress, hVlan, hMask⟩ := @hHolder p b k hp hk
  obtain ⟨i', hi', hAddress', hVlan', -⟩ := @hHolder q b' k' hq hk'
  have hCovers : covers (π.keyAddress k) 24 (π.keyAddress k') = true := by
    have hg := lt_of_mem_allKeys (mem_allKeys hp hk)
    have hg' := lt_of_mem_allKeys (mem_allKeys hq hk')
    refine (covers_24 (hSound.octet3 _ hg) (hSound.key _ (mem_allKeys hp hk))
      (hSound.octet3 _ hg') (hSound.key _ (mem_allKeys hq hk'))).mpr ?_
    rw [hGroup]
  unfold VMTDParticipant.reaches
  rw [List.any_eq_true]
  refine ⟨i, hi, ?_⟩
  rw [List.any_eq_true]
  refine ⟨i', hi', ?_⟩
  simp [hAddress, hAddress', hVlan, hVlan', hMask, hGroup, hCovers]

/-- What is reached under an address has that address. -/
theorem hasAddress_of_reaches {q q' : VMTDParticipant} {address : Nat}
    (h : q.reaches q' address = true) : q'.hasAddress address = true := by
  unfold VMTDParticipant.reaches at h
  obtain ⟨i, -, h⟩ := List.any_eq_true.mp h
  obtain ⟨i', hi', h⟩ := List.any_eq_true.mp h
  refine List.any_eq_true.mpr ⟨i', hi', ?_⟩
  rw [Bool.and_eq_true] at h
  exact h.2

/-- The neighbour under the address of a key is the key's holder. -/
theorem Sound.neighbour_eq (hSound : π.Sound) (hp : p < manager.participants.length)
    (hq : q < manager.participants.length) (hk : k ∈ π.keys p) (hk' : k' ∈ π.keys q)
    (hGroup : k.1 = k'.1) : π.engine.overlay.neighbour p (π.keyAddress k') = some q := by
  have hAt : ∀ p < manager.participants.length,
      ∃ b, π.engine.participants[p]? = some (π.participant p b) := by
    intro p hp
    obtain ⟨b, hb⟩ := exists_base hp
    exact ⟨b, getElem?_participants.mpr ⟨b, hb, rfl⟩⟩
  obtain ⟨b, hb⟩ := hAt p hp
  obtain ⟨b', hb'⟩ := hAt q hq
  have hLength : π.engine.participants.length = manager.participants.length := by
    rw [participants_engine, List.length_mapIdx]
  unfold VMTDEngine.overlay
  dsimp only
  rw [hLength, hb]
  have hReaches := @Sound.reaches_of_keys _ _ _ _ b _ _ hSound hp hq b' hk hk' hGroup
  -- the search finds someone, and whoever it finds holds the address
  cases hFind : (List.range manager.participants.length).find? fun p' =>
      (some (π.participant p b)).any fun q =>
        (π.engine.participants[p']?).any fun q' => q.reaches q' (π.keyAddress k') with
  | none =>
    have hNone := List.find?_eq_none.mp hFind q (List.mem_range.mpr hq)
    rw [hb'] at hNone
    exact absurd hReaches hNone
  | some found =>
    have hFound := List.mem_range.mp (List.mem_of_find?_eq_some hFind)
    have hProp := List.find?_some hFind
    obtain ⟨b'', hb''⟩ := hAt found hFound
    rw [hb''] at hProp
    obtain ⟨k'', hk'', hEq⟩ := (hSound.hasAddress_iff hFound).mp (hasAddress_of_reaches hProp)
    have hSame := hSound.keyAddress_inj (mem_allKeys hFound hk'') (mem_allKeys hq hk') hEq
    rw [hSound.eq_of_mem_keys hFound hq hk'' (hSame ▸ hk')]

-- ---------------------------------------------------------------------------
-- Hops
-- ---------------------------------------------------------------------------

/-- Which rows cover an address of group `k.1`. -/
theorem Sound.covering_row (hSound : π.Sound) (hp : p < manager.participants.length)
    (hk : k ∈ π.allKeys) {e : Entry} (hRow : π.Row p e)
    (hCovers : covers e.network e.length (π.keyAddress k) = true) :
    ((∃ k' ∈ π.keys p, k'.1 = k.1) ∧ e.length = 24 ∧ e.gateway = none) ∨
    (p ≠ π.gateway (π.home p) ∧ e.length = 16 ∧
      e.gateway = some (π.keyAddress (π.homeKey (π.gateway (π.home p))))) ∨
    (p = π.gateway (π.home p) ∧ k.1 ∈ Chain.after π.chain (π.home p) ∧ e.length = 24 ∧
      e.gateway = some (π.keyAddress (π.linkKey (π.home p)))) ∨
    (p = π.gateway (π.home p) ∧ ∃ h rest, Chain.before π.chain (π.home p) = h :: rest ∧
      k.1 ∈ rest ∧ e.length = 24 ∧
      e.gateway = some (π.keyAddress (π.homeKey (π.gateway h)))) := by
  have hg := lt_of_mem_allKeys hk
  have hZero : IsOctet 0 := by decide
  have hNetwork : ∀ {x y : Int}, IsOctet x → IsOctet y →
      covers (addressOf x y) 24 (π.keyAddress k) = true → x = π.octet3 k.1 := fun hx hy =>
    (covers_24 hx hy (hSound.octet3 _ hg) (hSound.key _ hk)).mp
  have hGroup : ∀ {h : Nat} {y : Int}, h < π.groupCount → IsOctet y →
      covers (addressOf (π.octet3 h) y) 24 (π.keyAddress k) = true → h = k.1 := fun hh hy hc =>
    π.octet3_inj _ hh _ hg (hNetwork (hSound.octet3 _ hh) hy hc)
  have hHome := π.home_lt p hp
  cases hRow with
  | @connected k' hk' =>
    have hKey := mem_allKeys hp hk'
    exact Or.inl ⟨⟨k', hk', hGroup (lt_of_mem_allKeys hKey) (hSound.key _ hKey) hCovers⟩,
      rfl, rfl⟩
  | default hPlain => exact Or.inr (Or.inl ⟨hPlain, rfl, rfl⟩)
  | forward hGateway hh =>
    obtain rfl := hGroup (mem_after hHome hh).1 hZero hCovers
    exact Or.inr (Or.inr (Or.inl ⟨hGateway, hh, rfl, rfl⟩))
  | forward18 =>
    exact absurd (hNetwork (by decide) hZero hCovers).symm (hSound.reserved _ hg).2
  | @back hGateway h r rest hSplit hr =>
    have hMem : r ∈ Chain.before π.chain (π.home p) := hSplit ▸ List.mem_cons_of_mem h hr
    obtain rfl := hGroup (mem_before hHome hMem).1 hZero hCovers
    exact Or.inr (Or.inr (Or.inr ⟨hGateway, h, rest, hSplit, hr, rfl, rfl⟩))
  | back17 =>
    exact absurd (hNetwork (by decide) hZero hCovers).symm (hSound.reserved _ hg).1

/-- The next hop, from the row that decides it. -/
theorem Sound.next_eq (hSound : π.Sound) (hp : p < manager.participants.length)
    (hq : q < manager.participants.length) {dest : Nat} {e : Entry}
    (he : ∀ b, e ∈ (π.participant p b).table) (hCovers : covers e.network e.length dest = true)
    (hLongest : ∀ e', π.Row p e' → covers e'.network e'.length dest = true →
      e'.length ≤ e.length ∧ (e'.length = e.length → e'.gateway = e.gateway))
    (hk : k ∈ π.keys p) (hk' : k' ∈ π.keys q) (hGroup : k.1 = k'.1)
    (hVia : e.gateway.getD dest = π.keyAddress k') :
    π.engine.overlay.next dest p = some q := by
  obtain ⟨b, hb⟩ := exists_base hp
  have hTable : π.engine.overlay.table p = (π.participant p b).table := by
    have hAt : π.engine.participants[p]? = some (π.participant p b) :=
      getElem?_participants.mpr ⟨b, hb, rfl⟩
    unfold VMTDEngine.overlay
    dsimp only
    rw [hAt]
    rfl
  have hHop := lookup_hop (he b) hCovers fun e' he' => hLongest e' (hSound.row_of_mem_table hp he')
  unfold Network.next
  rw [hTable]
  obtain ⟨best, hBest, hEq⟩ := Option.map_eq_some_iff.mp hHop
  rw [hBest, Option.bind_some, hEq, hVia]
  exact hSound.neighbour_eq hp hq hk hk' hGroup

/-- The place of a group in the chain. -/
def place {n : Nat} (π : Plan n) (g : Nat) : Nat := π.chain.idxOf g

/-- The hops from the gateway at place `a` of the chain to a member of the group
at place `b`. -/
def chainRank (b a : Nat) : Nat := if a ≤ b then b - a + 1 else a - b

/-- The hops from `p` to `q`. -/
def rank {n : Nat} (π : Plan n) (q p : Nat) : Nat :=
  if p = q then 0
  else if p = π.gateway (π.home p) then chainRank (π.place (π.home q)) (π.place (π.home p))
  else if π.home p = π.home q then 1
  else chainRank (π.place (π.home q)) (π.place (π.home p)) + 1

theorem one_le_chainRank (b a : Nat) : 1 ≤ chainRank b a := by
  unfold chainRank
  split <;> omega

theorem rank_pos (hne : p ≠ q) : 0 < π.rank q p := by
  have := one_le_chainRank (π.place (π.home q)) (π.place (π.home p))
  rw [rank, if_neg hne]
  split
  · omega
  · split <;> omega

theorem rank_gateway_le {g : Nat} (hg : g < π.groupCount) :
    π.rank q (π.gateway g) ≤ chainRank (π.place (π.home q)) (π.place g) := by
  rw [rank, π.home_gateway g hg]
  split
  · omega
  · rw [if_pos rfl]

theorem rank_of_gateway (hne : p ≠ q) (hGateway : p = π.gateway (π.home p)) :
    π.rank q p = chainRank (π.place (π.home q)) (π.place (π.home p)) := by
  rw [rank, if_neg hne, if_pos hGateway]

/-- A participant has no address in a group that comes after its own. -/
theorem notMem_after_of_mem_keys (hp : p < manager.participants.length) (hk : k ∈ π.keys p) :
    k.1 ∉ Chain.after π.chain (π.home p) := by
  intro hAfter
  have hPlace := (mem_after (π.home_lt p hp) hAfter).2
  rcases mem_keys.mp hk with rfl | ⟨h, hLink, rfl⟩
  · exact absurd hPlace (lt_irrefl _)
  · unfold linkedGroup at hLink
    split at hLink
    · have hBefore := (mem_before (π.home_lt p hp) (List.mem_of_head? hLink)).2
      exact absurd hBefore (not_lt_of_gt hPlace)
    · simp at hLink

/-- Nor in one that comes before the group it is linked to. -/
theorem notMem_rest_of_mem_keys (hp : p < manager.participants.length) (hk : k ∈ π.keys p)
    {h : Nat} {rest : List Nat} (hSplit : Chain.before π.chain (π.home p) = h :: rest) :
    k.1 ∉ rest := by
  intro hRest
  rcases mem_keys.mp hk with rfl | ⟨h', hLink, rfl⟩
  · have hMem := mem_before (π.home_lt p hp) (hSplit ▸ List.mem_cons_of_mem h hRest)
    exact absurd hMem.2 (lt_irrefl _)
  · unfold linkedGroup at hLink
    split at hLink
    · rw [hSplit, List.head?_cons, Option.some_inj] at hLink
      have hNodup := @Chain.before_nodup _ _ π.chain (π.home p) chain_nodup
      rw [hSplit] at hNodup
      exact (List.nodup_cons.mp hNodup).1 (hLink ▸ hRest)
    · simp at hLink

/-- From a node with an interface in the group of the destination, the
destination is one hop away. -/
theorem Sound.next_attached (hSound : π.Sound) (hp : p < manager.participants.length)
    (hq : q < manager.participants.length) (hk : k ∈ π.keys p) (hGroup : k.1 = π.home q) :
    π.engine.overlay.next (π.keyAddress (π.homeKey q)) p = some q := by
  have hDest : π.homeKey q ∈ π.allKeys := mem_allKeys hq homeKey_mem
  have hKey : k ∈ π.allKeys := mem_allKeys hp hk
  have hg := lt_of_mem_allKeys hKey
  refine hSound.next_eq hp hq (fun b => hSound.mem_table_connected hp hk) ?_ ?_ hk homeKey_mem
    hGroup rfl
  · refine (covers_24 (hSound.octet3 _ hg) (hSound.key _ hKey)
      (hSound.octet3 _ (lt_of_mem_allKeys hDest)) (hSound.key _ hDest)).mpr ?_
    rw [hGroup]
    rfl
  · intro e hRow hCovers
    rcases hSound.covering_row hp hDest hRow hCovers with
      ⟨-, hLength, hVia⟩ | ⟨-, hLength, -⟩ | ⟨-, hAfter, -⟩ | ⟨-, h, rest, hSplit, hRest, -⟩
    · exact ⟨hLength.le, fun _ => hVia⟩
    · -- a default route is shorter
      dsimp only
      omega
    · exact absurd (hGroup ▸ hAfter) (notMem_after_of_mem_keys hp hk)
    · exact absurd (hGroup ▸ hRest) (notMem_rest_of_mem_keys hp hk hSplit)

/-- A plain member hands a packet for another group to its gateway. -/
theorem Sound.next_plain (hSound : π.Sound) (hp : p < manager.participants.length)
    (hq : q < manager.participants.length) (hOther : ∀ k ∈ π.keys p, k.1 ≠ π.home q)
    (hPlain : p ≠ π.gateway (π.home p)) :
    π.engine.overlay.next (π.keyAddress (π.homeKey q)) p = some (π.gateway (π.home p)) := by
  have hHome := π.home_lt p hp
  have hDest : π.homeKey q ∈ π.allKeys := mem_allKeys hq homeKey_mem
  refine hSound.next_eq hp (π.gateway_lt _ hHome) (fun b => hSound.mem_table_default hp hPlain) ?_
    ?_ homeKey_mem homeKey_mem (π.home_gateway _ hHome).symm rfl
  · exact covers_16 (hSound.octet3 _ (lt_of_mem_allKeys hDest)) (hSound.key _ hDest)
  · intro e hRow hCovers
    rcases hSound.covering_row hp hDest hRow hCovers with
      ⟨⟨k, hk, hGroup⟩, -⟩ | ⟨-, hLength, hVia⟩ | ⟨hGateway, -⟩ | ⟨hGateway, -⟩
    · exact absurd hGroup (hOther k hk)
    · exact ⟨hLength.le, fun _ => hVia⟩
    · exact absurd hGateway hPlain
    · exact absurd hGateway hPlain

/-- A gateway passes a packet for a later group to the next gateway. -/
theorem Sound.next_forward (hSound : π.Sound) (hp : p < manager.participants.length)
    (hq : q < manager.participants.length) (hOther : ∀ k ∈ π.keys p, k.1 ≠ π.home q)
    (hGateway : p = π.gateway (π.home p)) (hLater : π.home q ∈ Chain.after π.chain (π.home p))
    {h : Nat} {rest : List Nat} (hSplit : Chain.after π.chain (π.home p) = h :: rest) :
    π.engine.overlay.next (π.keyAddress (π.homeKey q)) p = some (π.gateway h) := by
  have hHome := π.home_lt p hp
  have hDest : π.homeKey q ∈ π.allKeys := mem_allKeys hq homeKey_mem
  obtain ⟨hh, -, hLink⟩ := linkedGroup_gateway hHome hSplit
  refine hSound.next_eq hp (π.gateway_lt h hh)
    (fun b => hSound.mem_table_forward hp hGateway hLater) ?_ ?_ homeKey_mem (linkKey_mem hLink)
    rfl rfl
  · exact (covers_24 (hSound.octet3 _ (π.home_lt q hq)) (by decide)
      (hSound.octet3 _ (π.home_lt q hq)) (hSound.key _ hDest)).mpr rfl
  · intro e hRow hCovers
    rcases hSound.covering_row hp hDest hRow hCovers with
      ⟨⟨k, hk, hGroup⟩, -⟩ | ⟨hPlain, -⟩ | ⟨-, -, hLength, hVia⟩ |
        ⟨-, h', rest', hBefore, hRest, -⟩
    · exact absurd hGroup (hOther k hk)
    · exact absurd hGateway hPlain
    · exact ⟨hLength.le, fun _ => hVia⟩
    · -- no group is on both sides
      have hAfter := (mem_after hHome hLater).2
      have hBefore := (mem_before hHome (hBefore ▸ List.mem_cons_of_mem h' hRest)).2
      exact absurd hBefore (not_lt_of_gt hAfter)

/-- A gateway passes a packet for an earlier group to the previous gateway. -/
theorem Sound.next_back (hSound : π.Sound) (hp : p < manager.participants.length)
    (hq : q < manager.participants.length) (hOther : ∀ k ∈ π.keys p, k.1 ≠ π.home q)
    (hGateway : p = π.gateway (π.home p)) {h : Nat} {rest : List Nat}
    (hSplit : Chain.before π.chain (π.home p) = h :: rest) (hEarlier : π.home q ∈ rest) :
    π.engine.overlay.next (π.keyAddress (π.homeKey q)) p = some (π.gateway h) := by
  have hHome := π.home_lt p hp
  have hDest : π.homeKey q ∈ π.allKeys := mem_allKeys hq homeKey_mem
  have hh := (mem_before hHome (hSplit ▸ List.mem_cons_self)).1
  have hLink : π.linkedGroup p = some h := by
    rw [linkedGroup, if_pos hGateway, hSplit, List.head?_cons]
  refine hSound.next_eq hp (π.gateway_lt h hh)
    (fun b => hSound.mem_table_back hp hGateway hSplit hEarlier) ?_ ?_ (linkKey_mem hLink)
    homeKey_mem (π.home_gateway h hh).symm rfl
  · exact (covers_24 (hSound.octet3 _ (π.home_lt q hq)) (by decide)
      (hSound.octet3 _ (π.home_lt q hq)) (hSound.key _ hDest)).mpr rfl
  · intro e hRow hCovers
    rcases hSound.covering_row hp hDest hRow hCovers with
      ⟨⟨k, hk, hGroup⟩, -⟩ | ⟨hPlain, -⟩ | ⟨-, hAfter, -⟩ |
        ⟨-, h', rest', hBefore, -, hLength, hVia⟩
    · exact absurd hGroup (hOther k hk)
    · exact absurd hGateway hPlain
    · have hAfter := (mem_after hHome hAfter).2
      have hBefore := (mem_before hHome (hSplit ▸ List.mem_cons_of_mem h hEarlier)).2
      exact absurd hBefore (not_lt_of_gt hAfter)
    · obtain ⟨rfl, -⟩ := List.cons.inj (hSplit.symm.trans hBefore)
      exact ⟨hLength.le, fun _ => hVia⟩

/-- **From every node, the next hop is one closer to the destination.** -/
theorem Sound.next_hop (hSound : π.Sound) (hp : p < manager.participants.length)
    (hq : q < manager.participants.length) (hne : p ≠ q) :
    ∃ p', π.engine.overlay.next (π.keyAddress (π.homeKey q)) p = some p' ∧
      p' < manager.participants.length ∧ π.rank q p' < π.rank q p := by
  have hHome := π.home_lt p hp
  have hDestGroup := π.home_lt q hq
  by_cases hAttached : ∃ k ∈ π.keys p, k.1 = π.home q
  · obtain ⟨k, hk, hGroup⟩ := hAttached
    refine ⟨q, hSound.next_attached hp hq hk hGroup, hq, ?_⟩
    rw [show π.rank q q = 0 from if_pos rfl]
    exact rank_pos hne
  have hOther : ∀ k ∈ π.keys p, k.1 ≠ π.home q := fun k hk hGroup => hAttached ⟨k, hk, hGroup⟩
  have hHomeOther : π.home p ≠ π.home q := hOther _ homeKey_mem
  by_cases hGateway : p = π.gateway (π.home p)
  · rw [rank_of_gateway hne hGateway]
    have hPlaces : π.place (π.home p) ≠ π.place (π.home q) := fun hEq =>
      hHomeOther (List.idxOf_inj (home_mem_chain hp) |>.mp hEq)
    rcases lt_or_gt_of_ne hPlaces with hLt | hGt
    · have hLater := (Chain.mem_after_iff chain_nodup (home_mem_chain hp)).mpr
        ⟨home_mem_chain hq, hLt⟩
      obtain ⟨h, rest, hSplit⟩ := List.exists_cons_of_ne_nil (List.ne_nil_of_mem hLater)
      have hh := (mem_after hHome (hSplit ▸ List.mem_cons_self)).1
      refine ⟨π.gateway h, hSound.next_forward hp hq hOther hGateway hLater hSplit,
        π.gateway_lt h hh, ?_⟩
      have hPlace : π.place h = π.place (π.home p) + 1 :=
        Chain.idxOf_after_head chain_nodup (home_mem_chain hp) hSplit
      have hRank := @rank_gateway_le _ π q h hh
      rw [hPlace] at hRank
      unfold chainRank at hRank ⊢
      split at hRank <;> split <;> omega
    · have hEarlier := (Chain.mem_before_iff chain_nodup (home_mem_chain hp)).mpr
        ⟨home_mem_chain hq, hGt⟩
      obtain ⟨h, rest, hSplit⟩ := List.exists_cons_of_ne_nil (List.ne_nil_of_mem hEarlier)
      have hh := (mem_before hHome (hSplit ▸ List.mem_cons_self)).1
      have hLink : π.linkedGroup p = some h := by
        rw [linkedGroup, if_pos hGateway, hSplit, List.head?_cons]
      have hRest : π.home q ∈ rest := by
        rw [hSplit] at hEarlier
        rcases List.mem_cons.mp hEarlier with hEq | hRest
        · exact absurd hEq.symm (hOther _ (linkKey_mem hLink))
        · exact hRest
      refine ⟨π.gateway h, hSound.next_back hp hq hOther hGateway hSplit hRest,
        π.gateway_lt h hh, ?_⟩
      -- the previous gateway is one place nearer, and still after the destination's
      have hAfter := (Chain.after_head_iff chain_nodup (mem_chain.mpr hh) (home_mem_chain hp)).mpr
        (by rw [hSplit, List.head?_cons])
      obtain ⟨rest', hSplit'⟩ := List.head?_eq_some_iff.mp hAfter
      have hPlace : π.place (π.home p) = π.place h + 1 :=
        Chain.idxOf_after_head chain_nodup (mem_chain.mpr hh) hSplit'
      have hNotLast : π.place h ≠ π.place (π.home q) := by
        intro hEq
        have hSame := List.idxOf_inj (mem_chain.mpr hh) |>.mp hEq
        exact hOther _ (linkKey_mem hLink) hSame
      have hRank := @rank_gateway_le _ π q h hh
      unfold chainRank at hRank ⊢
      split at hRank <;> split <;> omega
  · refine ⟨π.gateway (π.home p), hSound.next_plain hp hq hOther hGateway,
      π.gateway_lt _ hHome, ?_⟩
    have hRank := @rank_gateway_le _ π q _ hHome
    have hPlain : π.rank q p = chainRank (π.place (π.home q)) (π.place (π.home p)) + 1 := by
      rw [rank, if_neg hne, if_neg hGateway, if_neg hHomeOther]
    omega

/-- Groups outside the two reserved networks. -/
theorem octet3_ne_of_engine (hReserved : ∀ G ∈ π.engine.groups,
    G.network ≠ "100.100.17.0" ∧ G.network ≠ "100.100.18.0") :
    ∀ g < π.groupCount, π.octet3 g ≠ 17 ∧ π.octet3 g ≠ 18 := by
  intro g hg
  have hNetwork : (π.group g).network = networkText (π.octet3 g) 0 := by
    rw [VMTDGroup.network, octet3_group]
  have hText : networkText 17 0 = "100.100.17.0" ∧ networkText 18 0 = "100.100.18.0" := by
    decide +kernel
  obtain ⟨h17, h18⟩ := hReserved _ (mem_groups.mpr ⟨g, hg, rfl⟩)
  rw [hNetwork] at h17 h18
  refine ⟨fun hEq => h17 ?_, fun hEq => h18 ?_⟩
  · rw [hEq]
    exact hText.1
  · rw [hEq]
    exact hText.2

/-- What the engine shows of a plan decides whether it is sound. -/
theorem sound_of_engine
    (hOctets : ∀ i ∈ π.engine.existingInterfaces, (readAddress i.ip).isSome = true)
    (hDistinct : (π.engine.existingInterfaces.map (·.ip)).Nodup)
    (hReserved : ∀ G ∈ π.engine.groups,
      G.network ≠ "100.100.17.0" ∧ G.network ≠ "100.100.18.0") : π.Sound := by
  have hKeys : ∀ k ∈ π.allKeys, IsOctet (π.octet3 k.1) ∧ IsOctet k.2 := by
    intro k hk
    have hMem : networkText (π.octet3 k.1) k.2 ∈ π.engine.existingInterfaces.map (·.ip) := by
      rw [map_existingInterfaces fun _ _ => rfl]
      exact List.mem_map.mpr ⟨k, hk, rfl⟩
    obtain ⟨i, hi, hIp⟩ := List.mem_map.mp hMem
    have hRead := hOctets i hi
    rw [hIp, readAddress_networkText] at hRead
    by_contra hOutside
    rw [if_neg hOutside] at hRead
    simp at hRead
  constructor
  · intro g hg
    have hKey := hKeys _ (mem_allKeys (π.gateway_lt g hg) homeKey_mem)
    rw [homeKey, π.home_gateway g hg] at hKey
    exact hKey.1
  · exact fun k hk => (hKeys k hk).2
  · exact nodup_ips_iff.mp hDistinct
  · exact octet3_ne_of_engine hReserved

/-- The first address of a participant is its own alone. -/
theorem Sound.owns_iff (hSound : π.Sound) (hq : q < manager.participants.length) :
    π.engine.overlay.owns p (π.keyAddress (π.homeKey q)) = true ↔ p = q := by
  have hAt : ∀ {p b}, manager.participants[p]? = some b →
      π.engine.participants[p]? = some (π.participant p b) := fun hb =>
    getElem?_participants.mpr ⟨_, hb, rfl⟩
  unfold VMTDEngine.overlay
  dsimp only
  constructor
  · intro hOwns
    obtain ⟨r, hr, hAddress⟩ := Option.any_eq_true _ _ |>.mp hOwns
    obtain ⟨b, hb, rfl⟩ := getElem?_participants.mp hr
    have hp := (List.getElem?_eq_some_iff.mp hb).1
    obtain ⟨k, hk, hEq⟩ := (hSound.hasAddress_iff hp).mp hAddress
    have hSame : k = π.homeKey q :=
      hSound.keyAddress_inj (mem_allKeys hp hk) (mem_allKeys hq homeKey_mem) hEq
    exact hSound.eq_of_mem_keys hp hq hk (hSame ▸ homeKey_mem)
  · rintro rfl
    obtain ⟨b, hb⟩ := exists_base hq
    rw [hAt hb, Option.any_some]
    exact (hSound.hasAddress_iff hq).mpr ⟨_, homeKey_mem, rfl⟩

/-- Packets are delivered in a sound plan. -/
theorem Sound.delivers (hSound : π.Sound) (hp : p < manager.participants.length)
    (hq : q < manager.participants.length) :
    ∃ path, π.engine.overlay.HopSequence (π.keyAddress (π.homeKey q)) p path ∧ path.Nodup ∧
      path.getLast? = some q := by
  have hStep : ∀ p < manager.participants.length,
      π.engine.overlay.owns p (π.keyAddress (π.homeKey q)) = false →
        ∃ p', π.engine.overlay.next (π.keyAddress (π.homeKey q)) p = some p' ∧
          p' < manager.participants.length ∧ π.rank q p' < π.rank q p := by
    intro p hp hOther
    refine hSound.next_hop hp hq fun hEq => ?_
    rw [(hSound.owns_iff hq).mpr hEq] at hOther
    exact absurd hOther (by decide)
  obtain ⟨path, hPath, hNodup⟩ := Network.exists_hopSequence hStep hp
  obtain ⟨owner, hLast, hOwns⟩ := hPath.getLast
  exact ⟨path, hPath, hNodup, (hSound.owns_iff hq).mp hOwns ▸ hLast⟩

end Plan

/-- **Overlay reachability.** Whatever `generate` makes of at least two
participants, if its addresses are dotted quads, pairwise distinct and outside
the two reserved networks, a packet from any participant to the first address
of any other arrives there and visits no node twice. -/
theorem overlay_delivers {settings : VMTDSettings} {rows : List DeviceRow} {draws : Draws}
    {engine engine' : VMTDEngine}
    (h : VMTDEngine.generate settings rows draws engine = some engine')
    (hTwo : 2 ≤ engine'.participants.length)
    (hOctets : ∀ i ∈ engine'.existingInterfaces, (readAddress i.ip).isSome = true)
    (hDistinct : (engine'.existingInterfaces.map (·.ip)).Nodup)
    (hReserved : ∀ G ∈ engine'.groups, G.network ≠ "100.100.17.0" ∧ G.network ≠ "100.100.18.0") :
    ∀ p < engine'.participants.length, ∀ (q : Nat) (r : VMTDParticipant),
      engine'.participants[q]? = some r →
        ∃ dest path, readAddress r.interface1.ip = some dest ∧
          engine'.overlay.HopSequence dest p path ∧ path.Nodup ∧ path.getLast? = some q := by
  rw [length_participants_generate h] at hTwo
  obtain ⟨π, -, rfl⟩ := generate_refines h hTwo
  have hSound := π.sound_of_engine hOctets hDistinct hReserved
  intro p hp q r hr
  rw [Plan.participants_engine, List.length_mapIdx] at hp
  obtain ⟨b, hb, rfl⟩ := Plan.getElem?_participants.mp hr
  have hq := (List.getElem?_eq_some_iff.mp hb).1
  obtain ⟨path, hPath, hNodup, hLast⟩ := hSound.delivers hp hq
  have hRead := hSound.readAddress_key (Plan.mem_allKeys hq Plan.homeKey_mem)
  exact ⟨π.keyAddress (π.homeKey q), path, hRead, hPath, hNodup, hLast⟩

/-- Between two hosts under the default settings. -/
theorem overlay_delivers_twoRows :
    ∃ engine', VMTDEngine.generate {} twoRows (twoGroups 1) {} = some engine' ∧
      engine'.participants.length = 2 ∧
      ∀ p < engine'.participants.length, ∀ (q : Nat) (r : VMTDParticipant),
        engine'.participants[q]? = some r →
          ∃ dest path, readAddress r.interface1.ip = some dest ∧
            engine'.overlay.HopSequence dest p path ∧ path.Nodup ∧ path.getLast? = some q := by
  have hRun : (VMTDEngine.generate {} twoRows (twoGroups 1) {}).any (fun engine' =>
      decide (engine'.participants.length = 2 ∧
        (∀ i ∈ engine'.existingInterfaces, (readAddress i.ip).isSome = true) ∧
        (engine'.existingInterfaces.map (·.ip)).Nodup ∧
        ∀ G ∈ engine'.groups, G.network ≠ "100.100.17.0" ∧ G.network ≠ "100.100.18.0")) = true := by
    decide +kernel
  obtain ⟨engine', hEngine, hAll⟩ := Option.any_eq_true _ _ |>.mp hRun
  obtain ⟨hTwo, hOctets, hDistinct, hReserved⟩ := of_decide_eq_true hAll
  exact ⟨engine', hEngine, hTwo, overlay_delivers hEngine hTwo.ge hOctets hDistinct hReserved⟩

end VxlanMtd
