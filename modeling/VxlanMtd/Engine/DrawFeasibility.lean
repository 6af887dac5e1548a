import VxlanMtd.Engine.Partition
import VxlanMtd.Model.SettingsObject
import Mathlib.Data.Int.Interval

/-!
# When the draws can be made

Each `do … while` loop of a reconfiguration waits for a value that is not used
yet. Whether there always is one depends on the number of participants and on
the VLAN range: `drawable_iff` is the exact condition.

That it is enough follows from what the loops ask for (`Asked`). That it is
needed follows from what they return: the used values of a range are all
different, so there are no more of them than the range has.
-/

namespace VxlanMtd

open VMTDEngine

variable {settings : VMTDSettings} {n : Nat}

-- ---------------------------------------------------------------------------
-- Values of a range
-- ---------------------------------------------------------------------------

/-- A range with more values than are used has one that is not. -/
theorem exists_unused {lowest highest : Int} {used : List Int}
    (h : used.length < (highest - lowest).toNat) :
    ∃ value, lowest ≤ value ∧ value < highest ∧ value ∉ used := by
  have hCard : used.toFinset.card < (Finset.Ico lowest highest).card := by
    rw [Int.card_Ico]
    exact Nat.lt_of_le_of_lt (List.toFinset_card_le used) h
  obtain ⟨value, hIn, hNot⟩ := Finset.exists_mem_notMem_of_card_lt_card hCard
  rw [Finset.mem_Ico] at hIn
  rw [List.mem_toFinset] at hNot
  exact ⟨value, hIn.1, hIn.2, hNot⟩

/-- Different values of a range are no more than it has; a range without width
gives one value. -/
theorem length_le_of_bounded {lowest highest : Int} {used : List Int} (hLe : lowest ≤ highest)
    (hNodup : used.Nodup) (hAll : ∀ v ∈ used, Bounded lowest highest v) :
    used.length ≤ max 1 (highest - lowest).toNat := by
  rcases eq_or_lt_of_le hLe with rfl | hlt
  · have hSub : used ⊆ [lowest] := fun v hv => List.mem_singleton.mpr ((hAll v hv).single rfl)
    have hLength := (List.subperm_of_subset hNodup hSub).length_le
    rw [List.length_singleton] at hLength
    omega
  · have hSub : used.toFinset ⊆ Finset.Ico lowest highest := fun v hv =>
      Finset.mem_Ico.mpr ((hAll v (List.mem_toFinset.mp hv)).range hlt)
    have hCard := Finset.card_le_card hSub
    rw [List.toFinset_card_of_nodup hNodup, Int.card_Ico] at hCard
    omega

-- ---------------------------------------------------------------------------
-- The promise
-- ---------------------------------------------------------------------------

/-- `bounded` is called with a range that is not empty, and the loop around it
is entered with a value of the range left. -/
def Drawable : Question → Prop
  | .bounded _ lowest highest used =>
    lowest < highest ∧ ∃ value, lowest ≤ value ∧ value < highest ∧ value ∉ used
  | .shuffle _ _ | .qrand _ => True

/-- Every call can be answered, and `generate` can always finish, whatever was
drawn before. -/
def Finishes (settings : VMTDSettings) (rows : List DeviceRow) (engine : VMTDEngine) : Prop :=
  ((Drawing.generate settings rows engine).Always Accepts Drawable True fun _ => True) ∧
    (Drawing.generate settings rows engine).CanFinish Accepts

/-- A VLAN range the setters admit: two `int`s in order. -/
structure AdmittedRange (settings : VMTDSettings) : Prop where
  min_int : IsInt settings.minVlanId
  max_int : IsInt settings.maxVlanId
  le : settings.minVlanId ≤ settings.maxVlanId

/-- Enough participants for a draw of the number of groups, and few enough for
the values of each range. -/
structure Feasible (settings : VMTDSettings) (n : Nat) : Prop where
  three_le : 3 ≤ n
  vlans : settings.shouldRandomizeVlan = true →
    (n : Int) - 1 ≤ settings.maxVlanId - settings.minVlanId
  networks : settings.shouldRandomizeNetwork = true → n ≤ 253
  gateways : settings.shouldRandomizeGateway = true → n ≤ 502

/-- The setters admit exactly such ranges: they keep the order, and take any
bound that is in order with the other one. -/
theorem admittedRange_setMinVlanId {o : SettingsObject} (h : AdmittedRange o.fields) {m : Int}
    (hm : IsInt m) : AdmittedRange (o.setMinVlanId m).fields := by
  unfold SettingsObject.setMinVlanId
  split
  · exact h
  · exact ⟨hm, h.max_int, by change m ≤ o.fields.maxVlanId; omega⟩

theorem admittedRange_setMaxVlanId {o : SettingsObject} (h : AdmittedRange o.fields) {m : Int}
    (hm : IsInt m) : AdmittedRange (o.setMaxVlanId m).fields := by
  unfold SettingsObject.setMaxVlanId
  split
  · exact h
  · exact ⟨h.min_int, hm, by change o.fields.minVlanId ≤ m; omega⟩

-- ---------------------------------------------------------------------------
-- The condition is enough
-- ---------------------------------------------------------------------------

theorem answerable_of_drawable {q : Question} (hAsked : Asked settings n q)
    (hRange : AdmittedRange settings) (hn : IsInt n) (h : Drawable q) :
    Asking.Answerable Accepts q := by
  have hBounded : ∀ (place : Place) (lowest highest : Int) (used : List Int), IsInt lowest →
      IsInt highest → Drawable (.bounded place lowest highest used) →
      Asking.Answerable Accepts (.bounded place lowest highest used) := by
    rintro place lowest highest used hLow hHigh ⟨hlt, value, hle, hValue, hNew⟩
    have hInt : IsInt value := ⟨hLow.1.trans hle, hValue.trans hHigh.2⟩
    exact ⟨value, ⟨hLow, hHigh, hInt, fun _ => ⟨hle, hValue⟩, fun hEq => by omega⟩, hNew⟩
  cases hAsked with
  | groupCount => exact hBounded _ _ _ _ (by decide) hn h
  | vlanId => exact hBounded _ _ _ _ hRange.min_int hRange.max_int h
  | octet3 => exact hBounded _ _ _ _ (by decide) (by decide) h
  | octet4 => exact hBounded _ _ _ _ (by decide) (by decide) h
  | link4 => exact hBounded _ _ _ _ (by decide) (by decide) h
  | shuffle => exact ⟨_, List.Perm.refl _⟩
  | qrand => exact ⟨0, trivial⟩

theorem Feasible.drawable (h : Feasible settings n) {q : Question} (hAsked : Asked settings n q) :
    Drawable q := by
  have hThree := h.three_le
  have hEnough : ∀ (place : Place) (lowest highest : Int) (used : List Int),
      used.length < (highest - lowest).toNat → Drawable (.bounded place lowest highest used) :=
    fun _ _ _ _ hUsed => ⟨by omega, exists_unused hUsed⟩
  cases hAsked with
  | groupCount =>
    refine hEnough _ _ _ _ ?_
    rw [List.length_nil]
    omega
  | vlanId hRandom hUsed =>
    have hVlans := h.vlans hRandom
    exact hEnough _ _ _ _ (by omega)
  | octet3 hRandom hUsed =>
    have hNetworks := h.networks hRandom
    exact hEnough _ _ _ _ (by omega)
  | octet4 hRandom hUsed =>
    have hNetworks := h.networks hRandom
    exact hEnough _ _ _ _ (by omega)
  | link4 hRandom hUsed =>
    have hGateways := h.gateways hRandom
    exact hEnough _ _ _ _ (by omega)
  | shuffle => trivial
  | qrand => trivial

/-- With enough participants `generate` draws their number of groups, makes the
groups and picks the gateways. -/
theorem generate_always_iff {rows : List DeviceRow} {engine start : VMTDEngine}
    {asked : Question → Prop} {fails : Prop} {post : VMTDEngine → Prop}
    (hStart : start = { engine with manager := engine.manager.buildParticipants settings rows })
    (hTwo : 2 ≤ start.participants.length) :
    (Drawing.generate settings rows engine).Always Accepts asked fails post ↔
      asked (.bounded .groupCount 2 start.participants.length []) ∧
      ∀ value : Int, Bounded 2 start.participants.length value →
        (Drawing.createGroupsOf settings value.toNat start).Always Accepts asked fails
          fun engine' =>
            (Drawing.createGateways settings engine').Always Accepts asked fails post := by
  have hGenerate : Drawing.generate settings rows engine =
      Drawing.createGroups settings start >>= Drawing.createGateways settings := by
    rw [hStart] at hTwo ⊢
    exact if_neg (Nat.not_lt.mpr hTwo)
  rw [hGenerate, Asking.always_bind_iff, Drawing.createGroups, Drawing.bounded,
    Asking.always_bind_iff, Asking.always_ask]
  refine and_congr_right fun _ => forall_congr' fun value => ?_
  exact ⟨fun h hValue => h ⟨hValue, List.not_mem_nil⟩, fun h hValue => h hValue.1⟩

/-- What `generate` asks when there are enough participants. -/
theorem generate_always {rows : List DeviceRow} {engine start : VMTDEngine}
    (hStart : start = { engine with manager := engine.manager.buildParticipants settings rows })
    (hTwo : 2 ≤ start.participants.length) :
    (Drawing.generate settings rows engine).Always Accepts
      (Asked settings start.participants.length) False fun _ => True := by
  refine (generate_always_iff hStart hTwo).mpr ⟨.groupCount, fun value hValue => ?_⟩
  refine (createGroupsOf_always (groupCount_of_bounded hTwo hValue)).imp fun engine' => ?_
  rintro ⟨G, hG⟩
  exact (createGateways_always hG).imp fun _ _ => trivial

-- ---------------------------------------------------------------------------
-- The condition is needed
-- ---------------------------------------------------------------------------

/-- A part of a reconfiguration in which every call can be made returns. -/
theorem exists_result_of_drawable {α : Type} {x : Drawing α} {post post' : α → Prop}
    (hRange : AdmittedRange settings) (hn : IsInt n) (h : x.Always Accepts Drawable True post)
    (h' : x.Always Accepts (Asked settings n) False post') : ∃ a, post a ∧ post' a := by
  refine ((h.and h').mono ?_ And.right fun _ => id).exists_result
  rintro q ⟨hDrawable, hAsked⟩
  exact answerable_of_drawable hAsked hRange hn hDrawable

/-- With as many groups as can be drawn, the VLANs and the networks of all of
them have to be different. -/
theorem ranges_of_drawable {engine : VMTDEngine} {post : VMTDEngine → Prop} {k : Nat}
    (hRange : AdmittedRange settings) (hn : IsInt engine.participants.length)
    (hk : GroupCount engine.participants.length k)
    (h : (Drawing.createGroupsOf settings k engine).Always Accepts Drawable True post) :
    (settings.shouldRandomizeVlan = true →
      k ≤ max 1 (settings.maxVlanId - settings.minVlanId).toNat) ∧
    (settings.shouldRandomizeNetwork = true → k ≤ 252) := by
  unfold Drawing.createGroupsOf at h
  obtain ⟨created, -, hC⟩ := exists_result_of_drawable hRange hn (Asking.always_bind_iff.mp h)
    (createGroups_always hk)
  refine ⟨fun hR => ?_, fun hR => ?_⟩
  · obtain ⟨hNodup, hAll⟩ := hC.vlanIds_drawn hR
    have hLength := length_le_of_bounded hRange.le hNodup hAll
    rwa [hC.length_vlanIds] at hLength
  · obtain ⟨hNodup, hAll⟩ := hC.octets3_drawn hR
    have hLength := length_le_of_bounded (by decide) hNodup hAll
    rw [hC.length_octets3] at hLength
    exact hLength.trans (by decide)

theorem mem_countedOctets {m : Nat} {v : Int} : v ∈ countedOctets m ↔ 1 ≤ v ∧ v ≤ m := by
  unfold countedOctets
  rw [List.mem_reverse, List.mem_map]
  constructor
  · rintro ⟨t, ht, rfl⟩
    have := List.mem_range.mp ht
    omega
  · rintro ⟨hLow, hHigh⟩
    exact ⟨(v - 1).toNat, List.mem_range.mpr (by omega), by omega⟩

/-- The gateway of the second group needs an address in the first. -/
theorem capacity_of_drawable {G : Nat → VMTDGroup} {engine : VMTDEngine}
    {post : VMTDEngine → Prop} (hRange : AdmittedRange settings) (hn : IsInt n)
    (hG : Grouped settings n 2 G engine) (hGateway : settings.shouldRandomizeGateway = true)
    (hNetwork : settings.shouldRandomizeNetwork = false)
    (h : (Drawing.createGateways settings engine).Always Accepts Drawable True post) :
    capacity 2 n 0 ≤ 251 := by
  have hCount : engine.groups.length = 2 := by
    rw [hG.groups_eq, List.length_map, List.length_range]
  unfold Drawing.createGateways at h
  rw [hCount] at h
  obtain ⟨⟨gateways, engine₁⟩, h, gateway, hGateways, hMarked, hMem⟩ :=
    exists_result_of_drawable hRange hn (Asking.always_bind_iff.mp h) (selectGateways_always hG)
  dsimp only at h hGateways hMarked
  subst hMarked
  -- one outcome of the shuffle leaves the gateways in order
  have hShuffle := Asking.always_bind_iff.mp h
  rw [hGateway] at hShuffle
  have hLink := Asking.always_bind_iff.mp (hShuffle.2 gateways (List.Perm.refl _))
  have hPlace : InPlace 2 gateway (marked engine gateways) := fun g hg =>
    ⟨_, standing_marked hG hg (hMem g hg)⟩
  have hNew : gateway 0 ∉ [gateway 1] := fun hIn =>
    absurd (hPlace.inj (by omega) (by omega) (List.mem_singleton.mp hIn)) (by omega)
  have hBoth : gateways = [gateway 0, gateway 1] := hGateways
  have hStart : Linking 2 G gateway (marked engine gateways) gateways (marked engine gateways) :=
    ⟨rfl, G, hG.groups_eq, fun g hg => ⟨fun _ => rfl, fun hOut => absurd
      (hGateways ▸ List.mem_map_of_mem (List.mem_range.mpr hg)) hOut⟩⟩
  rw [hBoth] at hLink hStart hPlace
  obtain ⟨fixed, next, hPass, -⟩ := hStart.linkGateways_cons settings hPlace hG.index_eq
    (by omega) (by omega) hNew
  rw [hPass, hGateway] at hLink
  obtain ⟨-, value, hLow, hHigh, hUnused⟩ := (Asking.always_bind_iff.mp hLink).1
  rw [hG.octets4_counted hNetwork 0 (by omega), mem_countedOctets, hG.full 0 (by omega)] at hUnused
  omega

theorem feasible_of_drawable {rows : List DeviceRow} {engine start : VMTDEngine}
    (hStart : start = { engine with manager := engine.manager.buildParticipants settings rows })
    (hRange : AdmittedRange settings) (hTwo : 2 ≤ start.participants.length)
    (hInt : IsInt start.participants.length)
    (hDrawable : (Drawing.generate settings rows engine).Always Accepts Drawable True
      fun _ => True) :
    Feasible settings start.participants.length := by
  obtain ⟨⟨hThree, -⟩, hAll⟩ := (generate_always_iff hStart hTwo).mp hDrawable
  -- as many groups as can be drawn need most VLANs and networks
  have hMost : Bounded 2 start.participants.length ((start.participants.length - 1 : Nat) : Int) :=
    ⟨by decide, hInt, ⟨by omega, by have := hInt.2; omega⟩, fun _ => by omega, fun _ => by omega⟩
  have hAtMost := hAll _ hMost
  rw [Int.toNat_natCast] at hAtMost
  obtain ⟨hVlans, hNetworks⟩ := ranges_of_drawable hRange hInt
    ⟨by omega, by omega, by omega⟩ hAtMost
  have hNetworksLe : settings.shouldRandomizeNetwork = true → start.participants.length ≤ 253 :=
    fun hR => by
      have := hNetworks hR
      omega
  refine ⟨by omega, fun hR => ?_, hNetworksLe, fun hR => ?_⟩
  · have := hVlans hR
    omega
  · cases hNetwork : settings.shouldRandomizeNetwork with
    | true =>
      have := hNetworksLe hNetwork
      omega
    | false =>
      -- with two groups, half of the participants are in the first
      have hFew : Bounded 2 start.participants.length ((2 : Nat) : Int) :=
        ⟨by decide, hInt, by decide, fun _ => by omega, fun _ => rfl⟩
      have hAtFew := hAll _ hFew
      rw [Int.toNat_natCast] at hAtFew
      obtain ⟨engine', hGateways, G, hG⟩ := exists_result_of_drawable hRange hInt hAtFew
        (createGroupsOf_always ⟨le_rfl, by omega, by omega⟩)
      have hCapacity := capacity_of_drawable hRange hInt hG hR hNetwork hGateways
      unfold capacity at hCapacity
      rw [if_pos rfl] at hCapacity
      omega

theorem finishes_of_feasible {rows : List DeviceRow} {engine start : VMTDEngine}
    (hStart : start = { engine with manager := engine.manager.buildParticipants settings rows })
    (hRange : AdmittedRange settings) (hTwo : 2 ≤ start.participants.length)
    (hInt : IsInt start.participants.length)
    (hFeasible : Feasible settings start.participants.length) :
    Finishes settings rows engine := by
  have hAsked := generate_always hStart hTwo
  refine ⟨hAsked.mono (fun q hq => hFeasible.drawable hq) False.elim fun _ => id, ?_⟩
  exact hAsked.mono (fun q hq => answerable_of_drawable hq hRange hInt (hFeasible.drawable hq))
    id fun _ => id

/-- **When the draws can be made.** Every call of the generator has a range
that is not empty and a value of it that is not used yet, so that `generate`
can finish, exactly when there are three participants or more, and no more of
them than the ranges that are drawn from have values for. -/
theorem drawable_iff (settings : VMTDSettings) (rows : List DeviceRow) (engine : VMTDEngine)
    (hRange : AdmittedRange settings)
    (hTwo : 2 ≤ (engine.manager.buildParticipants settings rows).participants.length)
    (hInt : IsInt (engine.manager.buildParticipants settings rows).participants.length) :
    Finishes settings rows engine ↔
      Feasible settings (engine.manager.buildParticipants settings rows).participants.length := by
  exact ⟨fun h => feasible_of_drawable rfl hRange hTwo hInt h.1,
    finishes_of_feasible rfl hRange hTwo hInt⟩

/-- `n` devices behind one switch. -/
def devices (n : Nat) : List DeviceRow :=
  (List.range n).map fun i => {
    hostId := i
    hostName := "Node"
    hostDomainName := "node"
    hostIp := "10.0.0.1"
    hostInterface := "eth0"
    switchName := "Switch"
    switchUrl := "http://10.0.0.254/ins"
    switchPort := "Ethernet1/1" }

/-- Settings that have everything drawn. -/
def randomized : VMTDSettings where
  shouldRandomizeVlan := true
  shouldRandomizeNetwork := true
  shouldRandomizeGateway := true
  shouldRandomizeParticipant := true

/-- Five devices, in two to four groups, in the VLAN range of the constructor. -/
theorem drawable_iff_randomized : Finishes randomized (devices 5) {} :=
  (drawable_iff randomized (devices 5) {} ⟨by decide, by decide, by decide⟩ (by decide)
    (by decide)).mpr ⟨by decide, fun _ => by decide, fun _ => by decide, fun _ => by decide⟩

/-- With the VLAN range of the constructor there are thirty values, and up to
thirty-one groups of thirty-two devices. -/
theorem not_finishes_default_range :
    ¬ Finishes { shouldRandomizeVlan := true } (devices 32) {} := by
  intro h
  have hFeasible := feasible_of_drawable rfl ⟨by decide, by decide, by decide⟩ (by decide)
    (by decide) h.1
  exact absurd (hFeasible.vlans rfl) (by decide)

end VxlanMtd
