import VxlanMtd.Engine.Addresses
import VxlanMtd.Engine.DrawFeasibility

/-!
# Which identifiers are in range

A VLAN that is not drawn is `minVlanId` plus the index of its group, a network
that is not drawn is the VLAN, and an octet that is not drawn counts the
members of the group. Nothing compares the numbers with a bound.

* `octet3_networkText`, `octet4_networkText`, `isMac_macText` — when the texts
  of an address are in range;
* `Plan.inRange_iff` — the texts are in range exactly when the numbers
  of the plan are;
* **`identifiersValid_iff`** — and these are exactly when the settings and the
  draws leave enough room (`IdentifiersFit`).
-/

namespace VxlanMtd

-- addresses are opaque here; unfolding them would make Lean render templates
attribute [local irreducible] networkText macText PlaceMarker.arg

-- ---------------------------------------------------------------------------
-- Reading addresses
-- ---------------------------------------------------------------------------

/-- The octet of an address at that place, counted from one. -/
def octetAt (place : Nat) (ip : String) : Option Int :=
  ((Text.splitOnChar '.' ip.toList)[place - 1]?).bind Text.readInt

/-- An octet of a host or of one of the networks. -/
def OctetInRange (octet : Int) : Prop := 1 ≤ octet ∧ octet ≤ 254

/-- The octet at that place is there and in range. -/
def OctetValid (place : Nat) (ip : String) : Prop :=
  ∃ octet, octetAt place ip = some octet ∧ OctetInRange octet

/-- Two hexadecimal digits. -/
def IsHexByte (byte : List Char) : Prop :=
  byte.length = 2 ∧ ∀ c ∈ byte, c ∈ "0123456789abcdef".toList

/-- Six bytes, with colons between them. -/
def IsMac (mac : String) : Prop :=
  (Text.splitOnChar ':' mac.toList).length = 6 ∧
    ∀ byte ∈ Text.splitOnChar ':' mac.toList, IsHexByte byte

instance (octet : Int) : Decidable (OctetInRange octet) :=
  inferInstanceAs (Decidable (_ ∧ _))

instance (byte : List Char) : Decidable (IsHexByte byte) :=
  -- by the characters of the text, not by all there are
  have : Decidable (∀ c ∈ byte, c ∈ "0123456789abcdef".toList) := List.decidableBAll _ _
  inferInstanceAs (Decidable (_ ∧ _))

instance (mac : String) : Decidable (IsMac mac) :=
  inferInstanceAs (Decidable (_ ∧ _))

theorem splitOnChar_networkText (octet3 octet4 : Int) :
    Text.splitOnChar '.' (networkText octet3 octet4).toList =
      ["100".toList, "100".toList, octet3.repr.toList, octet4.repr.toList] := by
  have hDot : ∀ x : Int, '.' ∉ x.repr.toList := fun x => Text.notMem_repr (by decide) (by decide)
  have hStart : "100.100.".toList = "100".toList ++ '.' :: ("100".toList ++ '.' :: []) := by decide
  have hPlain : '.' ∉ "100".toList := by decide
  rw [networkText_eq, String.toList_ofList, hStart]
  simp only [List.append_assoc, List.cons_append, List.nil_append]
  rw [Text.splitOnChar_append hPlain, Text.splitOnChar_append hPlain,
    Text.splitOnChar_append (hDot octet3), Text.splitOnChar_of_notMem (hDot octet4)]

@[simp] theorem octet3_networkText (octet3 octet4 : Int) :
    OctetValid 3 (networkText octet3 octet4) ↔ OctetInRange octet3 := by
  have hRead : octetAt 3 (networkText octet3 octet4) = some octet3 := by
    rw [octetAt, splitOnChar_networkText]
    exact Text.readInt_repr octet3
  simp [OctetValid, hRead]

@[simp] theorem octet4_networkText (octet3 octet4 : Int) :
    OctetValid 4 (networkText octet3 octet4) ↔ OctetInRange octet4 := by
  have hRead : octetAt 4 (networkText octet3 octet4) = some octet4 := by
    rw [octetAt, splitOnChar_networkText]
    exact Text.readInt_repr octet4
  simp [OctetValid, hRead]

/-- An octet takes two hexadecimal digits. -/
theorem isHexByte_hexDigits {octet : Int} (h : OctetInRange octet) :
    IsHexByte (hexDigits octet) := by
  have hDigits : ∀ d < 16, d.digitChar ∈ "0123456789abcdef".toList := by decide
  refine ⟨?_, fun c hc => ?_⟩
  · obtain ⟨m, rfl⟩ : ∃ m : Nat, octet = m := ⟨octet.toNat, by unfold OctetInRange at h; omega⟩
    have hLt : m < 16 ^ 2 := by
      unfold OctetInRange at h
      omega
    have hSelf : ((m : Int) % 2 ^ 64).toNat = m := by omega
    rw [hexDigits, hSelf, List.length_leftpad, max_eq_left]
    exact (Nat.length_toDigits_le_iff (by decide) (by decide)).mpr hLt
  · obtain ⟨d, hd, rfl⟩ := mem_hexDigits hc
    exact hDigits d hd

theorem isMac_macText {octet3 octet4 : Int} (h₃ : OctetInRange octet3) (h₄ : OctetInRange octet4) :
    IsMac (macText octet3 octet4) := by
  have hColon : ∀ x : Int, ':' ∉ hexDigits x := notMem_hexDigits (by decide)
  have hStart : "aa:bb:cc:dd:".toList = "aa".toList ++ ':' :: ("bb".toList ++ ':' ::
      ("cc".toList ++ ':' :: ("dd".toList ++ ':' :: []))) := by decide
  have hSplit : Text.splitOnChar ':' (macText octet3 octet4).toList =
      ["aa".toList, "bb".toList, "cc".toList, "dd".toList, hexDigits octet3,
        hexDigits octet4] := by
    rw [macText_eq, String.toList_ofList, hStart]
    simp only [List.append_assoc, List.cons_append, List.nil_append]
    rw [Text.splitOnChar_append (by decide), Text.splitOnChar_append (by decide),
      Text.splitOnChar_append (by decide), Text.splitOnChar_append (by decide),
      Text.splitOnChar_append (hColon octet3), Text.splitOnChar_of_notMem (hColon octet4)]
  have hFixed : ∀ byte ∈ ["aa".toList, "bb".toList, "cc".toList, "dd".toList],
      IsHexByte byte := by decide
  rw [IsMac, hSplit]
  refine ⟨rfl, fun byte hByte => ?_⟩
  have hCases : byte ∈ ["aa".toList, "bb".toList, "cc".toList, "dd".toList] ∨
      byte = hexDigits octet3 ∨ byte = hexDigits octet4 := by
    simpa only [List.mem_cons, List.not_mem_nil, or_false, or_assoc] using hByte
  rcases hCases with hMem | rfl | rfl
  · exact hFixed byte hMem
  · exact isHexByte_hexDigits h₃
  · exact isHexByte_hexDigits h₄

-- ---------------------------------------------------------------------------
-- The numbers of a plan
-- ---------------------------------------------------------------------------

/-- A group's VLAN and network are in range. -/
def VMTDGroup.InRange (settings : VMTDSettings) (group : VMTDGroup) : Prop :=
  (settings.minVlanId ≤ group.vlanId ∧ group.vlanId ≤ settings.maxVlanId) ∧
    OctetValid 3 group.network

/-- An interface has a host address and a MAC address. -/
def VMTDInterface.InRange (i : VMTDInterface) : Prop :=
  OctetValid 3 i.ip ∧ OctetValid 4 i.ip ∧ IsMac i.mac

/-- The identifiers of a configured system are in range. -/
structure IdentifiersValid (settings : VMTDSettings) (engine : VMTDEngine) : Prop where
  groups : ∀ group ∈ engine.groups, group.InRange settings
  interfaces : ∀ i ∈ engine.existingInterfaces, i.InRange

namespace Plan

variable {manager : VMTDDeviceManager} {π : Plan manager.participants.length}
  {settings : VMTDSettings} {draws : Draws}

/-- Every seat and every link of a plan has a key. -/
theorem mem_allKeys_iff {k : Nat × Int} :
    k ∈ π.allKeys ↔ k.1 < π.groupCount ∧
      ((∃ t < (π.members k.1).length, k.2 = π.octet4 k.1 t) ∨
        (Chain.after π.chain k.1 ≠ [] ∧ k.2 = π.link4 k.1)) := by
  refine ⟨exists_of_mem_allKeys, ?_⟩
  obtain ⟨g, octet⟩ := k
  rintro ⟨hg, ⟨t, ht, hOctet⟩ | ⟨hAfter, hOctet⟩⟩
  all_goals
    dsimp only at hg hOctet
    rw [hOctet, allKeys, List.mem_flatMap]
  · -- the member at that place
    obtain ⟨p, hp⟩ : ∃ p, (π.members g)[t]? = some p := ⟨_, List.getElem?_eq_getElem ht⟩
    obtain ⟨hpn, hHome, hSeat⟩ := (π.members_iff g hg t p).mp hp
    refine ⟨p, List.mem_range.mpr hpn, mem_keys.mpr (Or.inl ?_)⟩
    rw [hHome, hSeat]
  · obtain ⟨p, hpn, hLink, -⟩ := exists_linkedGroup hg hAfter
    exact ⟨p, List.mem_range.mpr hpn, mem_keys.mpr (Or.inr ⟨g, hLink, rfl⟩)⟩

theorem inRange_group (g : Nat) :
    (π.group g).InRange settings ↔
      (settings.minVlanId ≤ π.vlanId g ∧ π.vlanId g ≤ settings.maxVlanId) ∧
        OctetInRange (π.octet3 g) := by
  rw [VMTDGroup.InRange, vlanId_group, VMTDGroup.network, octet3_group, octet3_networkText]

theorem inRange_interface (g : Nat) (octet4 : Int) :
    (π.interface g octet4).InRange ↔ OctetInRange (π.octet3 g) ∧ OctetInRange octet4 := by
  have hIp : (π.interface g octet4).ip = networkText (π.octet3 g) octet4 := rfl
  have hMac : (π.interface g octet4).mac = macText (π.octet3 g) octet4 := rfl
  rw [VMTDInterface.InRange, hIp, hMac, octet3_networkText, octet4_networkText]
  exact ⟨fun ⟨h₃, h₄, _⟩ => ⟨h₃, h₄⟩, fun ⟨h₃, h₄⟩ => ⟨h₃, h₄, isMac_macText h₃ h₄⟩⟩

/-- The interfaces are in range when the octets of every key are. -/
theorem inRange_interfaces_iff :
    (∀ i ∈ π.engine.existingInterfaces, i.InRange) ↔
      ∀ k ∈ π.allKeys, OctetInRange (π.octet3 k.1) ∧ OctetInRange k.2 := by
  have hMap : π.engine.existingInterfaces.map VMTDInterface.InRange =
      π.allKeys.map fun k => (π.interface k.1 k.2).InRange :=
    map_existingInterfaces fun _ _ => rfl
  have hAll : (∀ i ∈ π.engine.existingInterfaces, i.InRange) ↔
      ∀ x ∈ π.engine.existingInterfaces.map VMTDInterface.InRange, x := by
    simp only [List.mem_map, forall_exists_index, and_imp, forall_apply_eq_imp_iff₂]
  rw [hAll, hMap]
  simp only [List.mem_map, forall_exists_index, and_imp, forall_apply_eq_imp_iff₂,
    inRange_interface]

/-- **The texts of a plan are in range exactly when its numbers are.** -/
theorem inRange_iff :
    IdentifiersValid settings π.engine ↔
      (∀ g < π.groupCount, settings.minVlanId ≤ π.vlanId g ∧ π.vlanId g ≤ settings.maxVlanId) ∧
      (∀ g < π.groupCount, OctetInRange (π.octet3 g)) ∧
      (∀ g < π.groupCount, ∀ t < (π.members g).length, OctetInRange (π.octet4 g t)) ∧
      ∀ g < π.groupCount, Chain.after π.chain g ≠ [] → OctetInRange (π.link4 g) := by
  constructor
  · rintro ⟨hGroups, hInterfaces⟩
    have hGroup : ∀ g < π.groupCount, _ := fun g hg =>
      (inRange_group g).mp (hGroups _ (mem_groups.mpr ⟨g, hg, rfl⟩))
    have hKey := inRange_interfaces_iff.mp hInterfaces
    refine ⟨fun g hg => (hGroup g hg).1, fun g hg => (hGroup g hg).2, fun g hg t ht => ?_,
      fun g hg hAfter => ?_⟩
    · exact (hKey (g, π.octet4 g t) (mem_allKeys_iff.mpr ⟨hg, Or.inl ⟨t, ht, rfl⟩⟩)).2
    · exact (hKey (g, π.link4 g) (mem_allKeys_iff.mpr ⟨hg, Or.inr ⟨hAfter, rfl⟩⟩)).2
  · rintro ⟨hVlans, hOctets3, hOctets4, hLinks⟩
    refine ⟨fun G hG => ?_, inRange_interfaces_iff.mpr fun k hk => ?_⟩
    · obtain ⟨g, hg, rfl⟩ := mem_groups.mp hG
      exact (inRange_group g).mpr ⟨hVlans g hg, hOctets3 g hg⟩
    · obtain ⟨hg, ⟨t, ht, hOctet⟩ | ⟨hAfter, hOctet⟩⟩ := mem_allKeys_iff.mp hk
      · exact ⟨hOctets3 _ hg, hOctet ▸ hOctets4 _ hg t ht⟩
      · exact ⟨hOctets3 _ hg, hOctet ▸ hLinks _ hg hAfter⟩

end Plan

-- ---------------------------------------------------------------------------
-- Enough room
-- ---------------------------------------------------------------------------

/-- The numbers that are not drawn from a fixed range have room: consecutive
VLANs in the VLAN range, VLANs in an octet where they stand in for one, and the
members of the largest group, the first, in another; with fixed gateways that
group also has a link. -/
structure IdentifiersFit (settings : VMTDSettings) (draws : Draws) (size : Nat) : Prop where
  vlans : settings.shouldRandomizeVlan = false →
    settings.minVlanId + draws.groupCount - 1 ≤ settings.maxVlanId
  counted : settings.shouldRandomizeNetwork = false → settings.shouldRandomizeVlan = false →
    1 ≤ settings.minVlanId ∧ settings.minVlanId + draws.groupCount - 1 ≤ 254
  drawn : settings.shouldRandomizeNetwork = false → settings.shouldRandomizeVlan = true →
    ∀ g < draws.groupCount, OctetInRange (draws.vlanId g)
  members : settings.shouldRandomizeNetwork = false → sizeOf draws size 0 ≤ 254
  link : settings.shouldRandomizeGateway = false → sizeOf draws size 0 + 1 ≤ 254

/-- VLANs that are drawn are in the VLAN range. -/
theorem bounded_vlanId {settings : VMTDSettings} {rows : List DeviceRow} {draws : Draws}
    {engine engine' : VMTDEngine}
    (h : VMTDEngine.generate settings rows draws engine = some engine')
    (hTwo : 2 ≤ (engine.manager.buildParticipants settings rows).participants.length)
    (hRandom : settings.shouldRandomizeVlan = true) {g : Nat} (hg : g < draws.groupCount) :
    Bounded settings.minVlanId settings.maxVlanId (draws.vlanId g) := by
  obtain ⟨engine₁, hGroups, -⟩ := generate_steps h hTwo
  obtain ⟨-, _, _, _, _, _, hLoop, -⟩ := createGroups_steps hGroups
  obtain ⟨⟨groups, vlanIds, octets3⟩, _, hPass⟩ :=
    Indexed.exists_pass_of_foldlM hLoop (List.mem_range.mpr hg)
  obtain ⟨vlanId, hVlan, -⟩ := Option.bind_eq_some_iff.mp hPass
  obtain ⟨rfl, hDraw⟩ := drawIf_eq_some hVlan
  have hBounded := (hDraw hRandom).1
  rwa [hRandom, if_pos rfl] at hBounded

/-- A consecutive VLAN is the sum, or has wrapped around to a negative one. -/
theorem vlanIdOf_cases {settings : VMTDSettings} (draws : Draws) {g : Nat}
    (hFixed : settings.shouldRandomizeVlan = false) (hMin : IsInt settings.minVlanId)
    (hg : g < 2 ^ 31) :
    vlanIdOf settings draws g = settings.minVlanId + g ∨
      (2 ^ 31 ≤ settings.minVlanId + g ∧ vlanIdOf settings draws g < settings.minVlanId ∧
        vlanIdOf settings draws g < 0) := by
  unfold IsInt at hMin
  rw [vlanIdOf, hFixed, if_neg Bool.false_ne_true]
  rcases lt_or_ge (settings.minVlanId + (g : Int)) (2 ^ 31) with hlt | hge
  · exact Or.inl (Int.bmod_eq_of_le (by omega) (by omega))
  · have hWrap : Int.bmod (settings.minVlanId + g) (2 ^ 32) =
        settings.minVlanId + g - 2 ^ 32 := by
      have hShift := Int.sub_mul_bmod_self_right (settings.minVlanId + g) 1 (2 ^ 32)
      rw [← hShift, one_mul]
      exact Int.bmod_eq_of_le (by omega) (by omega)
    rw [hWrap]
    exact Or.inr ⟨hge, by omega, by omega⟩

/-- The first group is the largest. -/
theorem sizeOf_le_first (draws : Draws) (size g : Nat) :
    sizeOf draws size g ≤ sizeOf draws size 0 := by
  unfold sizeOf
  split <;> simp

namespace Plan

variable {n : Nat} {π : Plan n} {settings : VMTDSettings} {draws : Draws}

theorem Follows.lt_of_lt_groupCount (hF : π.Follows settings draws) {g : Nat}
    (hg : g < π.groupCount) : g < 2 ^ 31 := by
  have hSize := hF.size_lt
  have hCount : π.groupCount ≤ n := by
    have hSub : (List.range π.groupCount).map π.gateway ⊆ List.range n := by
      intro p hp
      obtain ⟨h, hh, rfl⟩ := List.mem_map.mp hp
      exact List.mem_range.mpr (π.gateway_lt h (List.mem_range.mp hh))
    have hNodup : ((List.range π.groupCount).map π.gateway).Nodup :=
      List.nodup_range.map_on fun h hh h' hh' hEq => by
        rw [← π.home_gateway h (List.mem_range.mp hh), hEq,
          π.home_gateway h' (List.mem_range.mp hh')]
    have hLe := (List.subperm_of_subset hNodup hSub).length_le
    rwa [List.length_map, List.length_range, List.length_range] at hLe
  omega

/-- Consecutive VLANs stay in the VLAN range exactly when the last one does. -/
theorem Follows.vlans_iff (hF : π.Follows settings draws) (hRange : AdmittedRange settings)
    (hFixed : settings.shouldRandomizeVlan = false) :
    (∀ g < π.groupCount, settings.minVlanId ≤ π.vlanId g ∧ π.vlanId g ≤ settings.maxVlanId) ↔
      settings.minVlanId + draws.groupCount - 1 ≤ settings.maxVlanId := by
  have hTwo := π.two_le_groupCount
  have hMax := hRange.max_int.2
  rw [hF.vlanId_eq, ← hF.groupCount_eq]
  constructor
  · intro h
    have hLast := h (π.groupCount - 1) (by omega)
    have hCases := vlanIdOf_cases draws hFixed hRange.min_int
      (hF.lt_of_lt_groupCount (by omega : π.groupCount - 1 < π.groupCount))
    omega
  · intro h g hg
    have hCases := vlanIdOf_cases draws hFixed hRange.min_int (hF.lt_of_lt_groupCount hg)
    omega

/-- Where VLANs stand in for networks, they fit an octet exactly when the first
and the last do. -/
theorem Follows.octets3_iff (hF : π.Follows settings draws) (hRange : AdmittedRange settings)
    (hNetwork : settings.shouldRandomizeNetwork = false)
    (hFixed : settings.shouldRandomizeVlan = false) :
    (∀ g < π.groupCount, OctetInRange (π.octet3 g)) ↔
      1 ≤ settings.minVlanId ∧ settings.minVlanId + draws.groupCount - 1 ≤ 254 := by
  have hTwo := π.two_le_groupCount
  have hVlan : ∀ g, π.octet3 g = vlanIdOf settings draws g := by
    intro g
    rw [hF.octet3_eq, octet3Of, hNetwork, if_neg Bool.false_ne_true]
  have hCases : ∀ g < π.groupCount, _ := fun g hg =>
    vlanIdOf_cases draws hFixed hRange.min_int (hF.lt_of_lt_groupCount hg)
  simp only [hVlan, OctetInRange]
  rw [← hF.groupCount_eq]
  constructor
  · intro h
    have hFirst := h 0 (by omega)
    have hFirst' := hCases 0 (by omega)
    have hLast := h (π.groupCount - 1) (by omega)
    have hLast' := hCases (π.groupCount - 1) (by omega)
    omega
  · intro h g hg
    have hAt := hCases g hg
    omega

/-- Counted members fit an octet exactly when those of the first group do. -/
theorem Follows.octets4_iff (hF : π.Follows settings draws)
    (hNetwork : settings.shouldRandomizeNetwork = false) :
    (∀ g < π.groupCount, ∀ t < (π.members g).length, OctetInRange (π.octet4 g t)) ↔
      sizeOf draws n 0 ≤ 254 := by
  have hTwo := π.two_le_groupCount
  have hCount : ∀ g t, π.octet4 g t = t + 1 := by
    intro g t
    rw [hF.octet4_eq, octet4Of, hNetwork, if_neg Bool.false_ne_true]
  simp only [hCount, OctetInRange]
  constructor
  · intro h
    have hLength := hF.length_members 0 (by omega)
    have hPos := List.length_pos_of_mem (gateway_mem_members (π := π) (g := 0) (by omega))
    have hLast := h 0 (by omega) ((π.members 0).length - 1) (by omega)
    omega
  · intro h g hg t ht
    have hLe := sizeOf_le_first draws n g
    rw [hF.length_members g hg] at ht
    omega

/-- A link that is not drawn comes after the members. -/
theorem Follows.links_iff (hF : π.Follows settings draws)
    (hGateway : settings.shouldRandomizeGateway = false) :
    (∀ g < π.groupCount, Chain.after π.chain g ≠ [] → OctetInRange (π.link4 g)) ↔
      sizeOf draws n 0 + 1 ≤ 254 := by
  have hTwo := π.two_le_groupCount
  have hLink : ∀ g < π.groupCount, Chain.after π.chain g ≠ [] →
      π.link4 g = sizeOf draws n g + 1 := by
    intro g hg hAfter
    rw [hF.link4_eq g hg hAfter, hGateway, if_neg Bool.false_ne_true, hF.length_members g hg]
  constructor
  · intro h
    have hAfter : Chain.after π.chain 0 ≠ [] := by
      rw [hF.chain_eq hGateway]
      exact (Chain.after_range_ne_nil (by omega)).mpr (by omega)
    have hFirst := h 0 (by omega) hAfter
    rw [hLink 0 (by omega) hAfter] at hFirst
    unfold OctetInRange at hFirst
    omega
  · intro h g hg hAfter
    have hLe := sizeOf_le_first draws n g
    rw [hLink g hg hAfter]
    unfold OctetInRange
    omega

end Plan

/-- **Which outcomes of `generate` have valid identifiers**: those with enough
room. With fewer than two participants the groups are the ones from before. -/
theorem identifiersValid_iff {settings : VMTDSettings} {rows : List DeviceRow} {draws : Draws}
    {engine engine' : VMTDEngine} (hRange : AdmittedRange settings)
    (h : VMTDEngine.generate settings rows draws engine = some engine') :
    IdentifiersValid settings engine' ↔
      if (engine.manager.buildParticipants settings rows).participants.length < 2 then
        ∀ group ∈ engine.groups, group.InRange settings
      else
        IdentifiersFit settings draws
          (engine.manager.buildParticipants settings rows).participants.length := by
  split
  · next hOne =>
    have hNone := existingInterfaces_of_lt_two h hOne
    have hGroups : engine'.groups = engine.groups := by rw [generate_of_lt_two h hOne]
    refine ⟨fun hValid => hGroups ▸ hValid.groups, fun hValid => ⟨hGroups ▸ hValid, ?_⟩⟩
    rw [hNone]
    exact fun i hi => absurd hi List.not_mem_nil
  · next hTwo =>
    have hVlan : settings.shouldRandomizeVlan = true → ∀ g < draws.groupCount, _ :=
      fun hRandom g hg => bounded_vlanId h (not_lt.mp hTwo) hRandom hg
    obtain ⟨π, hF, rfl⟩ := generate_refines h (not_lt.mp hTwo)
    rw [Plan.inRange_iff]
    constructor
    · rintro ⟨hVlans, hOctets3, hOctets4, hLinks⟩
      refine ⟨fun hFixed => (hF.vlans_iff hRange hFixed).mp hVlans, fun hNetwork hFixed =>
        (hF.octets3_iff hRange hNetwork hFixed).mp hOctets3, fun hNetwork hRandom g hg => ?_,
        fun hNetwork => (hF.octets4_iff hNetwork).mp hOctets4,
        fun hGateway => (hF.links_iff hGateway).mp hLinks⟩
      have hOctet := hOctets3 g (hF.groupCount_eq ▸ hg)
      rwa [hF.octet3_eq, octet3Of, hNetwork, if_neg Bool.false_ne_true, vlanIdOf, hRandom,
        if_pos rfl] at hOctet
    · intro hFit
      refine ⟨?_, ?_, ?_, ?_⟩
      · cases hR : settings.shouldRandomizeVlan with
        | true =>
          intro g hg
          have hBounded := hVlan hR g (hF.groupCount_eq ▸ hg)
          rw [hF.vlanId_eq, vlanIdOf, hR, if_pos rfl]
          rcases eq_or_lt_of_le hRange.le with hEq | hLt
          · rw [hBounded.single hEq]
            exact ⟨le_rfl, hRange.le⟩
          · exact ⟨(hBounded.range hLt).1, (hBounded.range hLt).2.le⟩
        | false => exact (hF.vlans_iff hRange hR).mpr (hFit.vlans hR)
      · cases hN : settings.shouldRandomizeNetwork with
        | true =>
          intro g hg
          have hOctet := hF.octet3_range hN g hg
          exact ⟨hOctet.1, by omega⟩
        | false =>
          cases hR : settings.shouldRandomizeVlan with
          | true =>
            intro g hg
            rw [hF.octet3_eq, octet3Of, hN, if_neg Bool.false_ne_true, vlanIdOf, hR, if_pos rfl]
            exact hFit.drawn hN hR g (hF.groupCount_eq ▸ hg)
          | false => exact (hF.octets3_iff hRange hN hR).mpr (hFit.counted hN hR)
      · cases hN : settings.shouldRandomizeNetwork with
        | true =>
          intro g hg t ht
          have hOctet := hF.octet4_range hN g hg t ht
          exact ⟨hOctet.1, by omega⟩
        | false => exact (hF.octets4_iff hN).mpr (hFit.members hN)
      · cases hG : settings.shouldRandomizeGateway with
        | true =>
          intro g hg hAfter
          have hOctet := hF.link4_range hG g hg hAfter
          exact ⟨hOctet.1, by omega⟩
        | false => exact (hF.links_iff hG).mpr (hFit.link hG)

/-- Two participants in the default VLAN range. -/
theorem identifiersValid_twoRows :
    ∃ engine', VMTDEngine.generate { shouldRandomizeNetwork := true } twoRows (twoGroups 1) {} =
        some engine' ∧ IdentifiersValid { shouldRandomizeNetwork := true } engine' := by
  have hRun : (VMTDEngine.generate { shouldRandomizeNetwork := true } twoRows (twoGroups 1)
      {}).isSome = true := by decide +kernel
  obtain ⟨engine', hEngine⟩ := Option.isSome_iff_exists.mp hRun
  refine ⟨engine', hEngine,
    (identifiersValid_iff ⟨by decide, by decide, by decide⟩ hEngine).mpr ?_⟩
  exact ⟨fun _ => by decide, fun hNo => by simp at hNo, fun hNo => by simp at hNo,
    fun hNo => by simp at hNo, fun _ => by decide⟩

/-- A VLAN range of one value, and two groups: the second VLAN is outside. -/
theorem not_identifiersValid :
    ¬ ∀ (settings : VMTDSettings) (rows : List DeviceRow) (draws : Draws)
        (engine engine' : VMTDEngine), AdmittedRange settings →
        VMTDEngine.generate settings rows draws engine = some engine' →
          IdentifiersValid settings engine' := by
  intro hClaim
  have hRun : (VMTDEngine.generate { shouldRandomizeNetwork := true, maxVlanId := 20 } twoRows
      (twoGroups 1) {}).any (fun engine' =>
        engine'.groups.any fun group => group.vlanId == 21) = true := by
    decide +kernel
  obtain ⟨engine', hEngine, hOutside⟩ := Option.any_eq_true _ _ |>.mp hRun
  obtain ⟨group, hGroup, hVlan⟩ := List.any_eq_true.mp hOutside
  have hValid := hClaim _ _ _ _ _ ⟨by decide, by decide, by decide⟩ hEngine
  have hMax := ((hValid.groups group hGroup).1).2
  rw [beq_iff_eq.mp hVlan] at hMax
  exact absurd hMax (by decide)

end VxlanMtd
