import VxlanMtd.Engine.Addresses

/-!
# VLANs on the switches and on the hosts

`run` tells the switches which VLANs to open for a participant and the
participant which VLANs to join. The two texts are read back independently:

* `readBlocks` — the port blocks of a command list, with the VLANs of their
  `switchport trunk allowed vlan` line;
* `setupVlans` — the VLANs of the interfaces a request list sets up.

**`run_vlanAgreement`**: they agree with each other and with the groups, so
participants without a common group share no VLAN but the default one, 17 and
18 (`VlanAgreement`).
-/

namespace VxlanMtd

-- addresses are opaque here; unfolding them would make Lean render templates
attribute [local irreducible] networkText macText PlaceMarker.arg

-- ---------------------------------------------------------------------------
-- Reading commands and requests
-- ---------------------------------------------------------------------------

/-- The block of commands for one switch port. -/
structure PortBlock where
  port : String
  vlans : List Int
  deriving DecidableEq, Repr

/-- The port of an `interface` line. -/
def readPort (line : String) : Option String :=
  (Text.strip "interface ".toList line.toList).map String.ofList

/-- The VLANs of a `switchport trunk allowed vlan` line. -/
def readAllowed (line : String) : Option (List Int) :=
  (Text.strip "  switchport trunk allowed vlan ".toList line.toList).bind Text.readInts

/-- The port blocks of a command list. A block reaches up to the next
`interface` line. -/
def readBlocks : CommandList → List PortBlock
  | [] => []
  | line :: lines =>
    match readPort line with
    | some port =>
      let block := lines.takeWhile fun line => (readPort line).isNone
      ⟨port, (block.findSome? readAllowed).getD []⟩ :: readBlocks lines
    | none => readBlocks lines

/-- The VLANs of the interfaces a request list sets up. -/
def setupVlans (requests : RequestList) : List Int :=
  (requests.filter fun request =>
    request.1 == EnName.setupInterface1.text || request.1 == EnName.setupInterface2.text).map
    fun request => (QJsonObject.value request.2 EnParamName.vlanId.text).toInt

/-- What `run` emits, against the groups: `block p` is the port block of
participant `p`. -/
structure VlanAgreement (defaultVlanId : Int) (engine : VMTDEngine)
    (emitted : List (String × CommandList) × List (String × RequestList))
    (block : Nat → PortBlock) : Prop where
  urls_nodup : (emitted.1.map Prod.fst).Nodup
  /-- The blocks for a switch are those of the participants on it, one each. -/
  blocks_eq : ∀ url commands, (url, commands) ∈ emitted.1 →
    readBlocks commands =
      ((List.range engine.participants.length).filter fun p =>
        (engine.participants[p]?).any (·.switchUrl == url)).map block
  /-- No participant's switch is left out. -/
  addressed : ∀ (p : Nat) q, engine.participants[p]? = some q →
    q.switchUrl ∈ emitted.1.map Prod.fst ∧ (block p).port = q.switchPort
  requests_eq : ∀ p : Nat, (emitted.2[p]?).map Prod.fst =
    (engine.participants[p]?).map (·.hostIp)
  opened : ∀ (p : Nat) requests, (emitted.2[p]?).map Prod.snd = some requests →
    ∀ v, v ∈ (block p).vlans ↔ v ∈ [defaultVlanId, 17, 18] ∨ v ∈ setupVlans requests
  joined : ∀ (p : Nat) requests, (emitted.2[p]?).map Prod.snd = some requests →
    ∀ v, v ∈ setupVlans requests ↔ ∃ g ∈ engine.groups, p ∈ g.participants ∧ g.vlanId = v
  isolated : ∀ p < engine.participants.length, ∀ p' < engine.participants.length,
    (∀ g ∈ engine.groups, ¬(p ∈ g.participants ∧ p' ∈ g.participants)) →
      ∀ v, v ∈ (block p).vlans → v ∈ (block p').vlans → v ∈ [defaultVlanId, 17, 18]

-- ---------------------------------------------------------------------------
-- The block of a participant
-- ---------------------------------------------------------------------------

/-- The VLANs a participant's block opens. -/
def VMTDParticipant.openVlans (q : VMTDParticipant) : List Int :=
  [q.defaultVlanId, 17, 18] ++
    if q.role = .gateway ∧ q.interface2.isExist then
      [min q.interface1.vlanId q.interface2.vlanId, max q.interface1.vlanId q.interface2.vlanId]
    else [q.interface1.vlanId]

/-- The text `buildCommands` builds, as a list of numbers. -/
theorem vlans_toList (q : VMTDParticipant) :
    q.vlans.toList = q.defaultVlanId.repr.toList ++
      q.openVlans.tail.flatMap fun v => ',' :: ' ' :: v.repr.toList := by
  have hArg : ∀ v, PlaceMarker.arg ", %1" v = ", " ++ v := fun v =>
    @PlaceMarker.arg_suffix ", " (by decide) v
  have h17 : (Int.repr 17).toList = ['1', '7'] := by decide
  have h18 : (Int.repr 18).toList = ['1', '8'] := by decide
  unfold VMTDParticipant.vlans VMTDParticipant.openVlans
  dsimp only
  split
  · rw [hArg, hArg]
    simp [String.toList_append, h17, h18]
  · rw [hArg]
    simp [String.toList_append, h17, h18]

theorem readInts_vlans (q : VMTDParticipant) : Text.readInts q.vlans.toList = some q.openVlans := by
  rw [vlans_toList]
  exact Text.readInts_repr _ _

/-- The block of a participant, whatever follows it. -/
theorem readBlocks_buildCommands (q : VMTDParticipant) (rest : CommandList) :
    readBlocks (q.buildCommands ++ rest) = ⟨q.switchPort, q.openVlans⟩ :: readBlocks rest := by
  have hPort : readPort (PlaceMarker.arg "interface %1" q.switchPort) = some q.switchPort := by
    have hInterface : PlaceMarker.arg "interface %1" q.switchPort = "interface " ++ q.switchPort :=
      @PlaceMarker.arg_suffix "interface " (by decide) q.switchPort
    rw [hInterface, readPort, String.toList_append, Text.strip_append, Option.map_some,
      String.ofList_toList]
  have hLine : PlaceMarker.arg "  switchport trunk allowed vlan %1" q.vlans =
      "  switchport trunk allowed vlan " ++ q.vlans :=
    @PlaceMarker.arg_suffix "  switchport trunk allowed vlan " (by decide +kernel) q.vlans
  have hAllowed : readAllowed ("  switchport trunk allowed vlan " ++ q.vlans) =
      some q.openVlans := by
    rw [readAllowed, String.toList_append, Text.strip_append, Option.bind_some, readInts_vlans]
  have hNotPort : readPort ("  switchport trunk allowed vlan " ++ q.vlans) = none := by
    simp [readPort, Text.strip, String.toList_append]
  have hNone : readPort "  switchport" = none ∧ readPort "  switchport mode trunk" = none ∧
      readPort "  no shutdown" = none := by decide
  have hNotAllowed : readAllowed "  switchport" = none ∧
      readAllowed "  switchport mode trunk" = none := by decide
  unfold VMTDParticipant.buildCommands
  rw [hLine]
  simp [readBlocks, hPort, hAllowed, hNotPort, hNone, hNotAllowed]

/-- The blocks of a command list. -/
theorem readBlocks_commands (qs : List VMTDParticipant) :
    readBlocks ("conf t" :: qs.flatMap VMTDParticipant.buildCommands) =
      qs.map fun q => ⟨q.switchPort, q.openVlans⟩ := by
  have hStart : readPort "conf t" = none := by decide
  rw [readBlocks, hStart]
  dsimp only
  induction qs with
  | nil => rfl
  | cons q qs ih => rw [List.flatMap_cons, readBlocks_buildCommands, ih, List.map_cons]

-- ---------------------------------------------------------------------------
-- The requests of a participant
-- ---------------------------------------------------------------------------

/-- The VLANs the participant's own requests carry. -/
def VMTDParticipant.joinedVlans (q : VMTDParticipant) : List Int :=
  (if q.interface1.isExist then [q.interface1.vlanId] else []) ++
    if q.role = .gateway ∧ q.interface2.isExist then [q.interface2.vlanId] else []

theorem vlanId_setupObj (q : VMTDParticipant) {i : VMTDInterface} (hInt : IsInt i.vlanId) :
    (QJsonObject.value (q.setupObj i) EnParamName.vlanId.text).toInt = i.vlanId := by
  have hDefined : (QJsonValue.ofInt i.vlanId).isUndefined = false := rfl
  unfold VMTDParticipant.setupObj
  dsimp only
  rw [QJsonObject.value_insert_of_ne _ (by decide), QJsonObject.value_insert _ _ hDefined,
    QJsonValue.toInt_ofInt hInt]

theorem setupVlans_requests (q : VMTDParticipant) (h₁ : IsInt q.interface1.vlanId)
    (h₂ : IsInt q.interface2.vlanId) (hosts : QJsonObject) :
    setupVlans (q.buildRequests ++
      [(EnName.setupHosts.text, hosts), (EnName.applyNetplan.text, [])]) = q.joinedVlans := by
  have hClear₁ : (EnName.clearInterface1.text == EnName.setupInterface1.text ||
      EnName.clearInterface1.text == EnName.setupInterface2.text) = false := by decide
  have hClear₂ : (EnName.clearInterface2.text == EnName.setupInterface1.text ||
      EnName.clearInterface2.text == EnName.setupInterface2.text) = false := by decide
  have hHosts : (EnName.setupHosts.text == EnName.setupInterface1.text ||
      EnName.setupHosts.text == EnName.setupInterface2.text) = false := by decide
  have hApply : (EnName.applyNetplan.text == EnName.setupInterface1.text ||
      EnName.applyNetplan.text == EnName.setupInterface2.text) = false := by decide
  unfold setupVlans VMTDParticipant.buildRequests VMTDParticipant.joinedVlans
  by_cases hExist₁ : q.interface1.isExist = true <;>
    by_cases hLink : q.role = .gateway ∧ q.interface2.isExist = true <;>
      simp [hExist₁, hLink, hClear₁, hClear₂, hHosts, hApply, vlanId_setupObj, h₁, h₂]

/-- The block opens what the requests join, if the first interface exists. -/
theorem mem_openVlans {q : VMTDParticipant} (hExist : q.interface1.isExist = true) (v : Int) :
    v ∈ q.openVlans ↔ v ∈ [q.defaultVlanId, 17, 18] ∨ v ∈ q.joinedVlans := by
  unfold VMTDParticipant.openVlans VMTDParticipant.joinedVlans
  rw [List.mem_append, if_pos hExist]
  refine or_congr_right ?_
  split
  · simp only [List.mem_cons, List.not_mem_nil, or_false, List.mem_append]
    omega
  · simp

-- ---------------------------------------------------------------------------
-- Agreement
-- ---------------------------------------------------------------------------

namespace Plan

variable {manager : VMTDDeviceManager} {π : Plan manager.participants.length}
  {p : Nat} {b : VMTDParticipant}

theorem joinedVlans_participant (hp : p < manager.participants.length) (b : VMTDParticipant) :
    (π.participant p b).joinedVlans =
      π.vlanId (π.home p) :: ((π.linkedGroup p).map π.vlanId).toList := by
  have hVlan₁ : (π.participant p b).interface1.vlanId = π.vlanId (π.home p) := rfl
  have hExist₁ : (π.participant p b).interface1.isExist = true := rfl
  have hExist₂ := π.isExist_interface2 hp b
  have hInterface₂ := π.interface2_participant hp b
  unfold VMTDParticipant.joinedVlans
  rw [if_pos hExist₁, hVlan₁]
  cases hLink : π.linkedGroup p with
  | none =>
    rw [hLink, Option.isSome_none] at hExist₂
    simp [hExist₂]
  | some h =>
    obtain ⟨-, -, hGateway, -⟩ := linkedGroup_eq_some hp hLink
    rw [hLink, Option.isSome_some] at hExist₂
    rw [hLink] at hInterface₂
    have hRole : (π.participant p b).role = .gateway := by
      rw [role_participant, if_pos hGateway]
    have hVlan₂ : (π.participant p b).interface2.vlanId = π.vlanId h := by
      rw [hInterface₂]
      rfl
    simp [hRole, hExist₂, hVlan₂]

/-- A participant joins the VLANs of the groups it is in. -/
theorem mem_joinedVlans (hp : p < manager.participants.length) (b : VMTDParticipant) (v : Int) :
    v ∈ (π.participant p b).joinedVlans ↔
      ∃ G ∈ π.engine.groups, p ∈ G.participants ∧ G.vlanId = v := by
  rw [joinedVlans_participant hp, List.mem_cons, Option.mem_toList, Option.map_eq_some_iff]
  constructor
  · rintro (rfl | ⟨h, hLink, rfl⟩)
    · have hg := π.home_lt p hp
      refine ⟨π.group (π.home p), mem_groups.mpr ⟨_, hg, rfl⟩, ?_, vlanId_group _⟩
      exact (mem_participants_group hg hp).mpr (Or.inl rfl)
    · obtain ⟨hh, -⟩ := linkedGroup_eq_some hp hLink
      refine ⟨π.group h, mem_groups.mpr ⟨_, hh, rfl⟩, ?_, vlanId_group _⟩
      exact (mem_participants_group hh hp).mpr (Or.inr hLink)
  · rintro ⟨G, hMem, hIn, rfl⟩
    obtain ⟨g, hg, rfl⟩ := mem_groups.mp hMem
    rw [vlanId_group]
    rcases (mem_participants_group hg hp).mp hIn with rfl | hLink
    · exact Or.inl rfl
    · exact Or.inr ⟨g, hLink, rfl⟩

/-- No two groups have the same VLAN. -/
theorem group_eq_of_vlanId {G G' : VMTDGroup} (hG : G ∈ π.engine.groups)
    (hG' : G' ∈ π.engine.groups) (hVlan : G.vlanId = G'.vlanId) : G = G' := by
  obtain ⟨g, hg, rfl⟩ := mem_groups.mp hG
  obtain ⟨g', hg', rfl⟩ := mem_groups.mp hG'
  rw [vlanId_group, vlanId_group] at hVlan
  rw [π.vlanId_inj g hg g' hg' hVlan]

/-- Both VLANs of a participant are `int`s. -/
theorem isInt_vlanIds (hp : p < manager.participants.length) (b : VMTDParticipant) :
    IsInt (π.participant p b).interface1.vlanId ∧ IsInt (π.participant p b).interface2.vlanId := by
  refine ⟨π.vlanId_int _ (π.home_lt p hp), ?_⟩
  rw [interface2_participant hp]
  cases hLink : π.linkedGroup p with
  | none => exact (by decide : IsInt 99)
  | some h => exact π.vlanId_int h (linkedGroup_eq_some hp hLink).1

end Plan

-- ---------------------------------------------------------------------------
-- Agreement
-- ---------------------------------------------------------------------------

/-- The port block of a participant. -/
def VMTDEngine.portBlock (engine : VMTDEngine) (p : Nat) : PortBlock :=
  ((engine.participants[p]?).map fun q => ⟨q.switchPort, q.openVlans⟩).getD ⟨"", []⟩

theorem portBlock_eq {engine : VMTDEngine} {p : Nat} {q : VMTDParticipant}
    (hq : engine.participants[p]? = some q) : engine.portBlock p = ⟨q.switchPort, q.openVlans⟩ := by
  rw [VMTDEngine.portBlock, hq]
  rfl

theorem map_fst_createCommands (engine : VMTDEngine) (urls : List String) :
    (engine.createCommands urls).map Prod.fst = urls := by
  rw [VMTDEngine.createCommands, List.map_map]
  exact List.map_id _

/-- The blocks for a switch, in order. -/
theorem readBlocks_createCommands {engine : VMTDEngine} {urls : List String} {url : String}
    {commands : CommandList} (h : (url, commands) ∈ engine.createCommands urls) :
    readBlocks commands =
      ((List.range engine.participants.length).filter fun p =>
        (engine.participants[p]?).any (·.switchUrl == url)).map engine.portBlock := by
  obtain ⟨url', -, hEq⟩ := List.mem_map.mp h
  obtain ⟨rfl, rfl⟩ := Prod.mk.inj hEq
  rw [readBlocks_commands]
  exact Indexed.filter_map_range _ fun p q hq => portBlock_eq hq

/-- The request list of a participant. -/
theorem getElem?_createRequests {engine : VMTDEngine} {p : Nat} {requests : RequestList}
    (h : (engine.createRequests[p]?).map Prod.snd = some requests) :
    ∃ q, engine.participants[p]? = some q ∧ requests = q.buildRequests ++
      [(EnName.setupHosts.text, engine.hosts), (EnName.applyNetplan.text, [])] := by
  rw [VMTDEngine.createRequests, List.getElem?_map, Option.map_map, Option.map_eq_some_iff] at h
  obtain ⟨q, hq, rfl⟩ := h
  exact ⟨q, hq, rfl⟩

/-- VLAN agreement for the engine of a plan. -/
theorem Plan.vlanAgreement {manager : VMTDDeviceManager} {π : Plan manager.participants.length}
    {defaultVlanId : Int} (hDefault : ∀ b ∈ manager.participants, b.defaultVlanId = defaultVlanId)
    (hTwo : 2 ≤ manager.participants.length) {urls : List String} (hUrls : π.engine.UrlSet urls) :
    VlanAgreement defaultVlanId π.engine (π.engine.run urls) π.engine.portBlock := by
  have hRun : π.engine.run urls = (π.engine.createCommands urls, π.engine.createRequests) := by
    unfold VMTDEngine.run
    rw [participants_engine, List.length_mapIdx, if_neg (by omega)]
  have hOpen : ∀ (p : Nat) q, π.engine.participants[p]? = some q →
      ∀ v, v ∈ (π.engine.portBlock p).vlans ↔
        v ∈ [defaultVlanId, 17, 18] ∨ v ∈ q.joinedVlans := by
    intro p q hq v
    obtain ⟨b, hb, rfl⟩ := getElem?_participants.mp hq
    have hDefault' : (π.participant p b).defaultVlanId = defaultVlanId :=
      hDefault b (List.mem_of_getElem? hb)
    rw [portBlock_eq hq, mem_openVlans rfl, hDefault']
  have hJoin : ∀ (p : Nat) q, π.engine.participants[p]? = some q →
      ∀ v, v ∈ q.joinedVlans ↔ ∃ G ∈ π.engine.groups, p ∈ G.participants ∧ G.vlanId = v := by
    intro p q hq
    obtain ⟨b, hb, rfl⟩ := getElem?_participants.mp hq
    exact π.mem_joinedVlans (List.getElem?_eq_some_iff.mp hb).1 b
  have hSetup : ∀ (p : Nat) requests,
      (π.engine.createRequests[p]?).map Prod.snd = some requests →
        ∃ q, π.engine.participants[p]? = some q ∧ setupVlans requests = q.joinedVlans := by
    intro p requests h
    obtain ⟨q, hq, rfl⟩ := getElem?_createRequests h
    obtain ⟨b, hb, rfl⟩ := getElem?_participants.mp hq
    have hInt := π.isInt_vlanIds (List.getElem?_eq_some_iff.mp hb).1 b
    exact ⟨_, hq, setupVlans_requests _ hInt.1 hInt.2 _⟩
  rw [hRun]
  constructor
  · rw [map_fst_createCommands]
    exact hUrls.1
  · exact fun url commands h => readBlocks_createCommands h
  · intro p q hq
    rw [map_fst_createCommands, portBlock_eq hq]
    exact ⟨(hUrls.2 _).mpr ⟨q, List.mem_of_getElem? hq, rfl⟩, rfl⟩
  · intro p
    rw [VMTDEngine.createRequests, List.getElem?_map, Option.map_map]
    rfl
  · intro p requests h v
    obtain ⟨q, hq, hVlans⟩ := hSetup p requests h
    rw [hOpen p q hq, hVlans]
  · intro p requests h v
    obtain ⟨q, hq, hVlans⟩ := hSetup p requests h
    rw [hVlans, hJoin p q hq]
  · intro p hp p' hp' hApart v hv hv'
    have hq := List.getElem?_eq_getElem hp
    have hq' := List.getElem?_eq_getElem hp'
    rcases (hOpen p _ hq v).mp hv with hv | hv
    · exact hv
    rcases (hOpen p' _ hq' v).mp hv' with hv' | hv'
    · exact hv'
    -- a VLAN both have joined is that of a group both are in
    obtain ⟨G, hG, hIn, hVlan⟩ := (hJoin p _ hq v).mp hv
    obtain ⟨G', hG', hIn', hVlan'⟩ := (hJoin p' _ hq' v).mp hv'
    have hSame := group_eq_of_vlanId hG hG' (hVlan.trans hVlan'.symm)
    exact absurd ⟨hIn, hSame ▸ hIn'⟩ (hApart G hG)

/-- **VLAN agreement and isolation.** Whatever `generate` makes of at least two
participants, `run` emits port blocks and requests that agree. -/
theorem run_vlanAgreement {settings : VMTDSettings} {rows : List DeviceRow} {draws : Draws}
    {engine engine' : VMTDEngine} {urls : List String}
    (h : VMTDEngine.generate settings rows draws engine = some engine')
    (hTwo : 2 ≤ engine'.participants.length) (hUrls : engine'.UrlSet urls) :
    ∃ block, VlanAgreement settings.defaultVlanId engine' (engine'.run urls) block := by
  rw [length_participants_generate h] at hTwo
  have hDefault : ∀ b ∈ (engine.manager.buildParticipants settings rows).participants,
      b.defaultVlanId = settings.defaultVlanId := by
    intro b hb
    obtain ⟨row, -, rfl⟩ := List.mem_map.mp hb
    rfl
  obtain ⟨π, -, rfl⟩ := generate_refines h hTwo
  exact ⟨_, π.vlanAgreement hDefault hTwo hUrls⟩

/-- A lone participant is not served: `run` returns without emitting anything. -/
theorem lone_participant_not_served :
    ¬ ∀ (settings : VMTDSettings) (rows : List DeviceRow) (draws : Draws)
        (engine engine' : VMTDEngine) (urls : List String),
        VMTDEngine.generate settings rows draws engine = some engine' → engine'.UrlSet urls →
          ∃ block, VlanAgreement settings.defaultVlanId engine' (engine'.run urls) block := by
  intro hClaim
  have hUrls : VMTDEngine.UrlSet
      ⟨VMTDDeviceManager.buildParticipants {} (twoRows.take 1) {}, []⟩ ["http://leaf"] := by
    refine ⟨by decide, fun url => ?_⟩
    simp [VMTDEngine.participants, VMTDDeviceManager.buildParticipants, twoRows,
      DeviceRow.participant, eq_comm]
  obtain ⟨block, hBlock⟩ := hClaim {} (twoRows.take 1) (twoGroups 1) {} _ _ rfl hUrls
  exact absurd (hBlock.addressed 0 _ rfl).1 (by decide)

/-- Two hosts on one switch, one group each. -/
theorem run_vlanAgreement_twoRows :
    ∃ engine', VMTDEngine.generate {} twoRows (twoGroups 1) {} = some engine' ∧
      ∃ block, VlanAgreement 19 engine' (engine'.run ["http://leaf"]) block := by
  have hRun : (VMTDEngine.generate {} twoRows (twoGroups 1) {}).any (fun engine' =>
      engine'.participants.map (·.switchUrl) == ["http://leaf", "http://leaf"]) = true := by
    decide +kernel
  obtain ⟨engine', hEngine, hUrl⟩ := Option.any_eq_true _ _ |>.mp hRun
  have hMap : engine'.participants.map (·.switchUrl) = ["http://leaf", "http://leaf"] :=
    beq_iff_eq.mp hUrl
  have hTwo : engine'.participants.length = 2 := by
    rw [← List.length_map (·.switchUrl), hMap]
    rfl
  have hUrls : engine'.UrlSet ["http://leaf"] := by
    refine ⟨by decide, fun url => ?_⟩
    have hMem : url ∈ engine'.participants.map (·.switchUrl) ↔ url = "http://leaf" := by
      rw [hMap]
      simp
    rw [List.mem_singleton, ← hMem, List.mem_map]
  exact ⟨engine', hEngine, run_vlanAgreement hEngine hTwo.ge hUrls⟩

end VxlanMtd
