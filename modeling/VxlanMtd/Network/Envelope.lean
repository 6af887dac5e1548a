import VxlanMtd.Engine.Identifiers
import VxlanMtd.Network.Delivery
import Mathlib.Tactic.Ring

/-!
# Settings that always work

Which settings make every reconfiguration deliver, whatever is drawn.

With networks that follow the VLANs, the third octet of a group is its VLAN:
from 19 on, past the two reserved networks, and small enough for an octet.

* `SafeSettings` — the conditions, for a number of participants;
* `RegisteredRows` — what the device tables have to hold;
* `sizeOf_bound` — the largest group has about half of the participants at
  most;
* **`safe_settings_deliver`** — then every outcome of `generate` has valid
  identifiers and delivers.
-/

namespace VxlanMtd

open Forwarding

-- addresses are opaque here; unfolding them would make Lean render templates
attribute [local irreducible] networkText macText PlaceMarker.arg

/-- Settings under which the numbers of `size` participants always fit. -/
structure SafeSettings (settings : VMTDSettings) (size : Nat) : Prop where
  range : AdmittedRange settings
  network : settings.shouldRandomizeNetwork = false
  low : 19 ≤ settings.minVlanId
  /-- The last of the consecutive VLANs; there are fewer groups than
  participants, unless there are just two. -/
  counted : settings.shouldRandomizeVlan = false →
    settings.minVlanId + max 2 (size - 1 : Nat) - 1 ≤ min settings.maxVlanId 254
  drawn : settings.shouldRandomizeVlan = true → settings.maxVlanId ≤ 254
  size_le : size ≤ 506

/-- Rows of hosts with texts the renderers reproduce, each with an address, a
name and a switch port of its own. -/
structure RegisteredRows (rows : List DeviceRow) : Prop where
  names : ∀ row ∈ rows, Plain row.hostInterface ∧ Plain row.hostDomainName
  noBlank : ∀ row ∈ rows, ' ' ∉ row.hostDomainName.toList
  domainNames : (rows.map (·.hostDomainName)).Nodup
  hostIps : (rows.map (·.hostIp)).Nodup
  plugs : (rows.map fun row => (row.switchUrl, row.switchPort)).Nodup

-- ---------------------------------------------------------------------------
-- Numbers
-- ---------------------------------------------------------------------------

/-- How many groups are drawn. -/
theorem groupCount_le {settings : VMTDSettings} {rows : List DeviceRow} {draws : Draws}
    {engine engine' : VMTDEngine}
    (h : VMTDEngine.generate settings rows draws engine = some engine')
    (hTwo : 2 ≤ (engine.manager.buildParticipants settings rows).participants.length) :
    2 ≤ draws.groupCount ∧ draws.groupCount ≤
      max 2 ((engine.manager.buildParticipants settings rows).participants.length - 1) := by
  obtain ⟨engine₁, hGroups, -⟩ := generate_steps h hTwo
  have hBounded := (createGroups_steps hGroups).1
  dsimp only [VMTDEngine.participants] at hBounded
  generalize (engine.manager.buildParticipants settings rows).participants.length = size at *
  rcases eq_or_lt_of_le hTwo with hEq | hLt
  · have := hBounded.single (by omega)
    omega
  · have := hBounded.range (by omega)
    omega

/-- The first group has at most half of the participants, rounded up. -/
theorem sizeOf_bound {draws : Draws} {size : Nat} (hTwo : 2 ≤ draws.groupCount)
    (hLe : draws.groupCount ≤ size) : 2 * sizeOf draws size 0 ≤ size + 1 := by
  have hRest := Nat.mod_lt size (show 0 < draws.groupCount by omega)
  have hWhole : 1 ≤ size / draws.groupCount := Nat.div_pos hLe (by omega)
  have hSplit := Nat.div_add_mod size draws.groupCount
  have hSize : sizeOf draws size 0 = size / draws.groupCount + size % draws.groupCount := by
    rw [sizeOf, if_pos rfl]
  rw [hSize]
  generalize size / draws.groupCount = a at *
  generalize size % draws.groupCount = r at *
  generalize draws.groupCount = k at *
  obtain ⟨a, rfl⟩ : ∃ b, a = b + 1 := ⟨a - 1, by omega⟩
  obtain ⟨k, rfl⟩ : ∃ j, k = j + 2 := ⟨k - 2, by omega⟩
  have hProduct : (k + 2) * (a + 1) = k * a + 2 * a + k + 2 := by ring
  have hNonneg := Nat.zero_le (k * a)
  omega

namespace Plan

variable {manager : VMTDDeviceManager} {π : Plan manager.participants.length}
  {settings : VMTDSettings} {draws : Draws}

/-- Numbers in range make a plan sound. -/
theorem sound_of_ranges (hFree : π.LinksFree)
    (hOctets3 : ∀ g < π.groupCount, 19 ≤ π.octet3 g ∧ π.octet3 g ≤ 254)
    (hOctets4 : ∀ g < π.groupCount, ∀ t < (π.members g).length, OctetInRange (π.octet4 g t))
    (hLinks : ∀ g < π.groupCount, Chain.after π.chain g ≠ [] → OctetInRange (π.link4 g)) :
    π.Sound := by
  have hOctet : ∀ {x : Int}, OctetInRange x → IsOctet x := fun hx => ⟨by
    unfold OctetInRange at hx; omega, by unfold OctetInRange at hx; omega⟩
  constructor
  · intro g hg
    have := hOctets3 g hg
    exact ⟨by omega, by omega⟩
  · intro k hk
    obtain ⟨hg, ⟨t, ht, hEq⟩ | ⟨hAfter, hEq⟩⟩ := exists_of_mem_allKeys hk
    · rw [hEq]
      exact hOctet (hOctets4 _ hg t ht)
    · rw [hEq]
      exact hOctet (hLinks _ hg hAfter)
  · exact keys_nodup_iff.mpr hFree
  · intro g hg
    have := hOctets3 g hg
    omega

end Plan

/-- **The ranges of every outcome.** -/
theorem ranges_of_safe {settings : VMTDSettings} {rows : List DeviceRow} {draws : Draws}
    {engine engine' : VMTDEngine}
    (h : VMTDEngine.generate settings rows draws engine = some engine')
    (hTwo : 2 ≤ (engine.manager.buildParticipants settings rows).participants.length)
    (hSafe : SafeSettings settings
      (engine.manager.buildParticipants settings rows).participants.length)
    {π : Plan (engine.manager.buildParticipants settings rows).participants.length}
    (hF : π.Follows settings draws) :
    (∀ g < π.groupCount, settings.minVlanId ≤ π.vlanId g ∧ π.vlanId g ≤ settings.maxVlanId) ∧
    (∀ g < π.groupCount, 19 ≤ π.octet3 g ∧ π.octet3 g ≤ 254) ∧
    (∀ g < π.groupCount, ∀ t < (π.members g).length, OctetInRange (π.octet4 g t)) ∧
    ∀ g < π.groupCount, Chain.after π.chain g ≠ [] → OctetInRange (π.link4 g) := by
  obtain ⟨hTwoGroups, hCount⟩ := groupCount_le h hTwo
  have hSize := sizeOf_bound hTwoGroups (show draws.groupCount ≤
    (engine.manager.buildParticipants settings rows).participants.length by omega)
  have hSizeLe := hSafe.size_le
  have hLow := hSafe.low
  -- the VLANs
  have hVlans : ∀ g < π.groupCount, settings.minVlanId ≤ π.vlanId g ∧
      π.vlanId g ≤ settings.maxVlanId ∧ π.vlanId g ≤ 254 := by
    cases hRandom : settings.shouldRandomizeVlan with
    | true =>
      have hMax := hSafe.drawn hRandom
      intro g hg
      have hBounded := bounded_vlanId h hTwo hRandom (hF.groupCount_eq ▸ hg)
      rw [hF.vlanId_eq, vlanIdOf, hRandom, if_pos rfl]
      rcases eq_or_lt_of_le hSafe.range.le with hEq | hLt
      · have := hBounded.single hEq
        omega
      · have := hBounded.range hLt
        omega
    | false =>
      have hCounted := hSafe.counted hRandom
      intro g hg
      have hCases := vlanIdOf_cases draws hRandom hSafe.range.min_int
        (hF.lt_of_lt_groupCount hg)
      rw [hF.groupCount_eq] at hg
      rw [hF.vlanId_eq]
      omega
  have hOctet3 : ∀ g, π.octet3 g = π.vlanId g := by
    intro g
    rw [hF.octet3_eq, octet3Of, hSafe.network, if_neg Bool.false_ne_true, hF.vlanId_eq]
  refine ⟨fun g hg => ⟨(hVlans g hg).1, (hVlans g hg).2.1⟩, fun g hg => ?_,
    (hF.octets4_iff hSafe.network).mpr (by omega), ?_⟩
  · have := hVlans g hg
    rw [hOctet3]
    omega
  · cases hGateway : settings.shouldRandomizeGateway with
    | true =>
      intro g hg hAfter
      have := hF.link4_range hGateway g hg hAfter
      exact ⟨this.1, by omega⟩
    | false => exact (hF.links_iff hGateway).mpr (by omega)

/-- Safe settings make sound plans. -/
theorem sound_of_safe {settings : VMTDSettings} {rows : List DeviceRow} {draws : Draws}
    {engine engine' : VMTDEngine}
    (h : VMTDEngine.generate settings rows draws engine = some engine')
    (hTwo : 2 ≤ (engine.manager.buildParticipants settings rows).participants.length)
    (hSafe : SafeSettings settings
      (engine.manager.buildParticipants settings rows).participants.length)
    {π : Plan (engine.manager.buildParticipants settings rows).participants.length}
    (hF : π.Follows settings draws) : π.Sound := by
  obtain ⟨-, hOctets3, hOctets4, hLinks⟩ := ranges_of_safe h hTwo hSafe hF
  refine π.sound_of_ranges ((linksFree_iff hF hTwo).mpr fun _ hNetwork => ?_) hOctets3 hOctets4
    hLinks
  rw [hSafe.network] at hNetwork
  exact absurd hNetwork Bool.false_ne_true

/-- The participants of registered rows. -/
theorem registered_of_rows {settings : VMTDSettings} {rows : List DeviceRow}
    {engine : VMTDEngine} (h : RegisteredRows rows)
    {π : Plan (engine.manager.buildParticipants settings rows).participants.length} :
    π.engine.Registered := by
  -- the rows that are not skipped, in order
  obtain ⟨kept, hKept, hBuilt⟩ : ∃ kept : List DeviceRow, kept.Sublist rows ∧
      (engine.manager.buildParticipants settings rows).participants =
        kept.map (DeviceRow.participant settings) := ⟨_, List.filter_sublist, rfl⟩
  -- what an assignment of addresses leaves alone
  have hMap : ∀ {β : Type} (f : VMTDParticipant → β) (g : DeviceRow → β),
      (∀ p b, f (π.participant p b) = f b) → (∀ row, f (row.participant settings) = g row) →
        π.engine.participants.map f = kept.map g := by
    intro β f g hf hg
    refine List.ext_getElem? fun p => ?_
    have hBase := congrArg (fun bases => bases[p]?) hBuilt
    rw [List.getElem?_map, Plan.participants_engine, List.getElem?_mapIdx, hBase,
      List.getElem?_map, List.getElem?_map, Option.map_map, Option.map_map]
    refine congrArg (fun f => Option.map f kept[p]?) (funext fun row => ?_)
    rw [Function.comp_apply, Function.comp_apply, hf, hg]
  have hRow : ∀ {β : Type} (f : VMTDParticipant → β) (g : DeviceRow → β),
      (∀ p b, f (π.participant p b) = f b) → (∀ row, f (row.participant settings) = g row) →
        ∀ q ∈ π.engine.participants, ∃ row ∈ rows, f q = g row := by
    intro β f g hf hg q hq
    have hMem := List.mem_map_of_mem (f := f) hq
    rw [hMap f g hf hg] at hMem
    obtain ⟨row, hIn, hEq⟩ := List.mem_map.mp hMem
    exact ⟨row, hKept.subset hIn, hEq.symm⟩
  constructor
  · intro q hq
    obtain ⟨row, hIn, hEq⟩ := hRow (fun q => (q.hostInterface, q.hostDomainName))
      (fun row => (row.hostInterface, row.hostDomainName)) (fun _ _ => rfl) (fun _ => rfl) q hq
    obtain ⟨hInterface, hName⟩ := Prod.mk.inj hEq
    rw [hInterface, hName]
    exact h.names row hIn
  · intro q hq
    obtain ⟨row, hIn, hEq⟩ := hRow (·.hostDomainName) (·.hostDomainName) (fun _ _ => rfl)
      (fun _ => rfl) q hq
    rw [hEq]
    exact h.noBlank row hIn
  · rw [hMap (·.hostDomainName) (·.hostDomainName) (fun _ _ => rfl) fun _ => rfl]
    exact h.domainNames.sublist (hKept.map _)
  · rw [hMap (·.hostIp) (·.hostIp) (fun _ _ => rfl) fun _ => rfl]
    exact h.hostIps.sublist (hKept.map _)
  · rw [hMap (·.plug) (fun row => (row.switchUrl, row.switchPort)) (fun _ _ => rfl) fun _ => rfl]
    exact h.plugs.sublist (hKept.map _)

/-- **Settings that always work.** Under safe settings, whatever the tables of
registered hosts hold and whatever is drawn, an outcome of `generate` for at
least two participants has valid identifiers and no address twice, and delivers
by name. -/
theorem safe_settings_deliver {settings : VMTDSettings} {rows : List DeviceRow} {draws : Draws}
    {engine engine' : VMTDEngine} {urls : List String}
    (h : VMTDEngine.generate settings rows draws engine = some engine')
    (hTwo : 2 ≤ engine'.participants.length)
    (hSafe : SafeSettings settings engine'.participants.length) (hRows : RegisteredRows rows)
    (hUrls : engine'.UrlSet urls) :
    IdentifiersValid settings engine' ∧
      (engine'.existingInterfaces.map (·.ip)).Nodup ∧
      (engine'.existingInterfaces.map (·.mac)).Nodup ∧
      ∀ ports commandCounter configurators,
        engine'.Delivers urls ports commandCounter configurators := by
  rw [length_participants_generate h] at hTwo hSafe
  obtain ⟨π, hF, rfl⟩ := generate_refines h hTwo
  obtain ⟨hVlans, hOctets3, hOctets4, hLinks⟩ := ranges_of_safe h hTwo hSafe hF
  have hSound := sound_of_safe h hTwo hSafe hF
  refine ⟨Plan.inRange_iff.mpr ⟨hVlans, fun g hg => ?_, hOctets4, hLinks⟩,
    Plan.nodup_ips_iff.mpr hSound.nodup, (Plan.nodup_macs_iff hF).mpr hSound.nodup, ?_⟩
  · have := hOctets3 g hg
    exact ⟨by omega, by omega⟩
  · exact π.delivers_engine hSound hTwo (registered_of_rows hRows) hUrls

/-- Two hosts on one switch under the default settings. -/
theorem safe_settings_deliver_twoRows :
    ∃ engine', VMTDEngine.generate {} twoRows (twoGroups 1) {} = some engine' ∧
      IdentifiersValid {} engine' ∧ (engine'.existingInterfaces.map (·.ip)).Nodup ∧
      (engine'.existingInterfaces.map (·.mac)).Nodup ∧
      ∀ ports commandCounter configurators,
        engine'.Delivers ["http://leaf"] ports commandCounter configurators := by
  have hRun : (VMTDEngine.generate {} twoRows (twoGroups 1) {}).any (fun engine' =>
      decide (engine'.participants.length = 2 ∧
        ∀ q ∈ engine'.participants, q.switchUrl = "http://leaf")) = true := by
    decide +kernel
  obtain ⟨engine', hEngine, hAll⟩ := Option.any_eq_true _ _ |>.mp hRun
  obtain ⟨hTwo, hUrl⟩ := of_decide_eq_true hAll
  have hSome : engine'.participants ≠ [] := List.ne_nil_of_length_pos (by omega)
  refine ⟨engine', hEngine, safe_settings_deliver hEngine hTwo.ge ?_ ?_
    (urlSet_singleton hSome hUrl)⟩
  · rw [hTwo]
    exact ⟨⟨by decide, by decide, by decide⟩, rfl, by decide, fun _ => by decide,
      fun hRandom => absurd hRandom (by decide), by decide⟩
  · exact ⟨by decide, by decide, by decide, by decide, by decide⟩

end VxlanMtd
