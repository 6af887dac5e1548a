import VxlanMtd.Engine.Vlans
import VxlanMtd.Model.HostHandler
import VxlanMtd.Node.Netplan

/-!
# From the engine to the nodes

What the configurator of a participant holds once it has handled the requests
`createRequests` emits for it.

* `readNetplan_setupObj` — an interface with plain texts arrives unchanged in
  the netplan text;
* `plain_interfaces` — the texts of a generated interface are plain;
* `calls` — the requests of a participant as calls, which pass the checks of
  `handleClient` (`hasParams_calls`);
* **`requests_configure`** — the configurator then describes exactly the
  interfaces of its participant, and the hosts file all participants.
-/

namespace VxlanMtd

open PlaceMarker Text

-- addresses are opaque here; unfolding them would make Lean render templates
attribute [local irreducible] networkText macText PlaceMarker.arg

-- ---------------------------------------------------------------------------
-- Plain texts
-- ---------------------------------------------------------------------------

/-- Neither a place marker nor a line break. -/
def Plain (text : String) : Prop := '%' ∉ text.toList ∧ '\n' ∉ text.toList

instance (text : String) : Decidable (Plain text) := inferInstanceAs (Decidable (_ ∧ _))

/-- A route the renderers reproduce. -/
structure VMTDRoute.Plain (route : VMTDRoute) : Prop where
  network : VxlanMtd.Plain route.network
  gateway : VxlanMtd.Plain route.gateway
  fits : route.Fits

/-- An interface the renderers reproduce. -/
structure VMTDInterface.Plain (i : VMTDInterface) : Prop where
  ip : VxlanMtd.Plain i.ip
  mac : VxlanMtd.Plain i.mac
  mask : IsInt i.mask
  vlanId : IsInt i.vlanId
  routes : ∀ route ∈ i.routes, route.Plain

theorem plain_networkText (octet3 octet4 : Int) : Plain (networkText octet3 octet4) := by
  have hRepr : ∀ x : Int, '%' ∉ x.repr.toList ∧ '\n' ∉ x.repr.toList := fun x =>
    ⟨notMem_repr (by decide) (by decide), notMem_repr (by decide) (by decide)⟩
  unfold Plain
  rw [networkText_eq, String.toList_ofList]
  simp [hRepr]

/-- The address of an interface that does not exist. -/
theorem plain_default : Plain ({} : VMTDInterface).ip := by
  have hIp : ({} : VMTDInterface).ip = networkText 0 1 := by
    unfold networkText
    rfl
  rw [hIp]
  exact plain_networkText 0 1

theorem plain_macText (octet3 octet4 : Int) : Plain (macText octet3 octet4) := by
  have hDigits : ∀ x : Int, '%' ∉ hexDigits x ∧ '\n' ∉ hexDigits x := fun x =>
    ⟨notMem_hexDigits (by decide) x, notMem_hexDigits (by decide) x⟩
  unfold Plain
  rw [macText_eq, String.toList_ofList]
  simp [hDigits]

-- ---------------------------------------------------------------------------
-- The interfaces of a plan are plain
-- ---------------------------------------------------------------------------

namespace Plan

variable {n : Nat} {π : Plan n} {p : Nat}

/-- All routes the engine hands out have the metric 100, and one of the two
masks. -/
theorem plain_route {network gateway : String} {mask : Nat} (hNetwork : Plain network)
    (hGateway : Plain gateway) (hMask : mask ≤ 24) :
    VMTDRoute.Plain ⟨network, mask, gateway, 100⟩ := by
  refine ⟨hNetwork, hGateway, ?_, (by decide : IsInt 100)⟩
  show -2 ^ 31 ≤ (mask : Int) ∧ (mask : Int) < 2 ^ 31
  omega

theorem plain_forwardRoutes : ∀ route ∈ π.forwardRoutes p, route.Plain := by
  have hVia : Plain (π.linkIp (π.home p)) := plain_networkText _ _
  have hNetwork : ∀ h, Plain (π.network h) := fun h => plain_networkText _ _
  have hNode : Plain "100.100.18.0" := by decide
  intro route hRoute
  unfold forwardRoutes at hRoute
  split at hRoute
  · exact absurd hRoute List.not_mem_nil
  · rcases List.mem_cons.mp hRoute with rfl | hRoute
    · exact plain_route (hNetwork _) hVia le_rfl
    rcases List.mem_append.mp hRoute with hRoute | hRoute
    · split at hRoute
      · rw [List.mem_singleton.mp hRoute]
        exact plain_route hNode hVia le_rfl
      · exact absurd hRoute List.not_mem_nil
    · obtain ⟨r, -, rfl⟩ := List.mem_map.mp hRoute
      exact plain_route (hNetwork _) hVia le_rfl

theorem plain_backRoutes : ∀ route ∈ π.backRoutes p, route.Plain := by
  have hVia : ∀ h, Plain (π.gatewayIp h) := fun h => plain_networkText _ _
  have hNetwork : ∀ h, Plain (π.network h) := fun h => plain_networkText _ _
  have hNode : Plain "100.100.17.0" := by decide
  intro route hRoute
  unfold backRoutes at hRoute
  split at hRoute
  · exact absurd hRoute List.not_mem_nil
  · rcases List.mem_append.mp hRoute with hRoute | hRoute
    · split at hRoute
      · rw [List.mem_singleton.mp hRoute]
        exact plain_route hNode (hVia _) le_rfl
      · exact absurd hRoute List.not_mem_nil
    · obtain ⟨r, -, rfl⟩ := List.mem_map.mp hRoute
      exact plain_route (hNetwork _) (hVia _) le_rfl

/-- An interface of a group, with routes that are plain. -/
theorem plain_interface {g : Nat} (hg : g < π.groupCount) (octet4 : Int) {routes : List VMTDRoute}
    (hRoutes : ∀ route ∈ routes, route.Plain) :
    VMTDInterface.Plain { π.interface g octet4 with routes := routes } where
  ip := plain_networkText _ _
  mac := plain_macText _ _
  mask := (by decide : IsInt 24)
  vlanId := π.vlanId_int g hg
  routes := hRoutes

/-- **The existing interfaces of a participant are plain.** -/
theorem plain_interfaces (hp : p < n) (b : VMTDParticipant) :
    (π.participant p b).interface1.Plain ∧
      ((π.participant p b).interface2.isExist = true → (π.participant p b).interface2.Plain) := by
  constructor
  · rw [interface1_participant hp]
    refine plain_interface (π.home_lt p hp) _ fun route hRoute => ?_
    unfold routes1 at hRoute
    split at hRoute
    · exact plain_forwardRoutes route hRoute
    · rw [List.mem_singleton.mp hRoute]
      exact plain_route (plain_networkText _ _) (plain_networkText _ _) (by decide)
  · rw [interface2_participant hp]
    cases hLink : π.linkedGroup p with
    | none => exact fun hExist => absurd hExist Bool.false_ne_true
    | some h => exact fun _ => plain_interface (linkedGroup_eq_some hp hLink).1 _ plain_backRoutes

end Plan

-- ---------------------------------------------------------------------------
-- Setting an interface up
-- ---------------------------------------------------------------------------

/-- The VLAN interface a participant is given. -/
def VMTDParticipant.netplanVlan (q : VMTDParticipant) (i : VMTDInterface) : NetplanVlan :=
  ⟨i.vlanId, q.hostInterface, i.ip, i.mask, i.mac, i.routes⟩

/-- The members of a request to set an interface up. -/
theorem setupObj_members (q : VMTDParticipant) (i : VMTDInterface) :
    QJsonObject.value (q.setupObj i) EnParamName.interface.text = .string q.hostInterface ∧
    QJsonObject.value (q.setupObj i) EnParamName.mac.text = .string i.mac ∧
    QJsonObject.value (q.setupObj i) EnParamName.ip.text = .string i.ip ∧
    QJsonObject.value (q.setupObj i) EnParamName.mask.text = .ofInt i.mask ∧
    QJsonObject.value (q.setupObj i) EnParamName.vlanId.text = .ofInt i.vlanId ∧
    QJsonObject.value (q.setupObj i) EnParamName.routes.text =
      .array (i.routes.map fun route => .object (VMTDParticipant.routeObj route)) := by
  have hString : ∀ s, (QJsonValue.string s).isUndefined = false := fun _ => rfl
  have hInt : ∀ n, (QJsonValue.ofInt n).isUndefined = false := fun _ => rfl
  have hArray : ∀ a, (QJsonValue.array a).isUndefined = false := fun _ => rfl
  unfold VMTDParticipant.setupObj
  dsimp only
  refine ⟨?_, ?_, ?_, ?_, ?_, ?_⟩
  · rw [QJsonObject.value_insert_of_ne _ (by decide), QJsonObject.value_insert_of_ne _ (by decide),
      QJsonObject.value_insert_of_ne _ (by decide), QJsonObject.value_insert_of_ne _ (by decide),
      QJsonObject.value_insert_of_ne _ (by decide), QJsonObject.value_insert _ _ (hString _)]
  · rw [QJsonObject.value_insert_of_ne _ (by decide), QJsonObject.value_insert_of_ne _ (by decide),
      QJsonObject.value_insert_of_ne _ (by decide), QJsonObject.value_insert_of_ne _ (by decide),
      QJsonObject.value_insert _ _ (hString _)]
  · rw [QJsonObject.value_insert_of_ne _ (by decide), QJsonObject.value_insert_of_ne _ (by decide),
      QJsonObject.value_insert_of_ne _ (by decide), QJsonObject.value_insert _ _ (hString _)]
  · rw [QJsonObject.value_insert_of_ne _ (by decide), QJsonObject.value_insert_of_ne _ (by decide),
      QJsonObject.value_insert _ _ (hInt _)]
  · rw [QJsonObject.value_insert_of_ne _ (by decide), QJsonObject.value_insert _ _ (hInt _)]
  · rw [QJsonObject.value_insert _ _ (hArray _)]

/-- A request to set a plain interface up describes it. -/
theorem describes_setupObj (q : VMTDParticipant) {i : VMTDInterface} (hPlain : i.Plain) :
    Describes (q.setupObj i) (q.netplanVlan i) := by
  obtain ⟨hInterface, hMac, hIp, hMask, hVlanId, hRoutes⟩ := setupObj_members q i
  constructor
  · rw [hVlanId, QJsonValue.toInt_ofInt hPlain.vlanId]
    rfl
  · rw [hInterface]
    rfl
  · rw [hIp]
    rfl
  · rw [hMask, QJsonValue.toInt_ofInt hPlain.mask]
    rfl
  · rw [hMac]
    rfl
  · exact QJsonObject.contains_of_value (by rw [hRoutes]; rfl)
  · exact hRoutes

/-- **A plain interface arrives unchanged in the netplan text.** -/
theorem readNetplan_setupObj {q : VMTDParticipant} {i : VMTDInterface} (hPlain : i.Plain)
    (hLink : Plain q.hostInterface) :
    readNetplan (netplanText (q.setupObj i)) = some (q.netplanVlan i) := by
  have hTexts : ∀ text ∈ (q.netplanVlan i).texts, Plain text := by
    intro text hText
    simp only [NetplanVlan.texts, VMTDParticipant.netplanVlan, List.mem_cons,
      List.mem_flatMap, List.not_mem_nil, or_false] at hText
    rcases hText with rfl | rfl | rfl | ⟨route, hRoute, rfl | rfl⟩
    · exact hLink
    · exact hPlain.ip
    · exact hPlain.mac
    · exact (hPlain.routes route hRoute).network
    · exact (hPlain.routes route hRoute).gateway
  exact readNetplan_netplanText (describes_setupObj q hPlain)
    (fun route hRoute => (hPlain.routes route hRoute).fits)
    (fun text hText => (hTexts text hText).1) fun text hText => (hTexts text hText).2

-- ---------------------------------------------------------------------------
-- The hosts file
-- ---------------------------------------------------------------------------

/-- The line of a participant in the hosts file. -/
def VMTDParticipant.hostsLine (q : VMTDParticipant) : List Char :=
  q.interface1.ip.toList ++ ' ' :: q.hostDomainName.toList

/-- The template of a line, cut at its markers. -/
def hostsParts : Template := ⟨[], [(1, [' ']), (2, ['\n'])]⟩

/-- A line as the configurator renders it. -/
theorem args_hosts {ip domainName : String} (hIp : Plain ip) (hName : Plain domainName) :
    (args "%1 %2\n" [ip, domainName]).toList = ip.toList ++ ' ' :: domainName.toList ++ ['\n'] := by
  have hText : "%1 %2\n" = hostsParts.text := by decide +kernel
  have hNum : hostsParts.NumberedFrom 0 2 := by decide +kernel
  have hPercent : ∀ v ∈ [ip, domainName], '%' ∉ v.toList := by
    intro v hv
    simp only [List.mem_cons, List.not_mem_nil, or_false] at hv
    rcases hv with rfl | rfl
    · exact hIp.1
    · exact hName.1
  unfold args
  rw [hText, foldl_arg_text (by decide +kernel) hNum hPercent]
  unfold hostsParts Template.render
  rw [String.toList_ofList]
  simp

/-- The array of `hosts`, rendered. -/
theorem foldl_hosts {qs : List VMTDParticipant}
    (h : ∀ q ∈ qs, Plain q.interface1.ip ∧ Plain q.hostDomainName) (hosts : String) :
    ((qs.map fun q => QJsonValue.object
        ((QJsonObject.insert [] EnParamName.ip.text (.string q.interface1.ip)).insert
          EnParamName.domainName.text (.string q.hostDomainName))).foldl
      (fun hosts jsonVal =>
        let itemObj := jsonVal.toObject
        hosts ++ args "%1 %2\n"
          [(QJsonObject.value itemObj EnParamName.ip.text).toString,
            (QJsonObject.value itemObj EnParamName.domainName.text).toString])
      hosts).toList = hosts.toList ++ unlines (qs.map VMTDParticipant.hostsLine) := by
  have hString : ∀ s, (QJsonValue.string s).isUndefined = false := fun _ => rfl
  induction qs generalizing hosts with
  | nil => simp [unlines]
  | cons q qs ih =>
    obtain ⟨hIp, hName⟩ := h q List.mem_cons_self
    rw [List.map_cons, List.foldl_cons, ih fun q' hq' => h q' (List.mem_cons_of_mem _ hq')]
    dsimp only
    rw [QJsonValue.toObject_object, QJsonObject.value_insert_of_ne _ (by decide),
      QJsonObject.value_insert _ _ (hString _), QJsonObject.value_insert _ _ (hString _),
      QJsonValue.toString_string, QJsonValue.toString_string, String.toList_append,
      args_hosts hIp hName, List.append_assoc, List.map_cons]
    rfl

/-- **The hosts file has one line for each participant**, in order. -/
theorem splitOnChar_hosts {engine : VMTDEngine}
    (h : ∀ q ∈ engine.participants, Plain q.interface1.ip ∧ Plain q.hostDomainName)
    (configurator : VMTDConfigurator) :
    splitOnChar '\n' (configurator.handleSetupHosts engine.hosts).configurator.hosts.toList =
      engine.participants.map VMTDParticipant.hostsLine ++ [[]] := by
  have hArray : (engine.hosts.value EnParamName.hosts.text).toArray =
      engine.participants.map fun q => QJsonValue.object
        ((QJsonObject.insert [] EnParamName.ip.text (.string q.interface1.ip)).insert
          EnParamName.domainName.text (.string q.hostDomainName)) := by
    rw [VMTDEngine.hosts, QJsonObject.value_insert _ _ rfl, QJsonValue.toArray_array]
  have hLines : ∀ l ∈ engine.participants.map VMTDParticipant.hostsLine, '\n' ∉ l := by
    intro l hl
    obtain ⟨q, hq, rfl⟩ := List.mem_map.mp hl
    obtain ⟨hIp, hName⟩ := h q hq
    simp [VMTDParticipant.hostsLine, hIp.2, hName.2]
  have hText := foldl_hosts h ""
  have hSplit := splitOnChar_lines hLines []
  rw [List.append_nil] at hSplit
  unfold VMTDConfigurator.handleSetupHosts
  dsimp only
  rw [hArray, hText, unlines]
  exact hSplit

-- ---------------------------------------------------------------------------
-- The requests of a participant
-- ---------------------------------------------------------------------------

/-- The requests of a participant as calls of methods. -/
def VMTDParticipant.calls (q : VMTDParticipant) (hosts : QJsonObject) :
    List (EnName × QJsonObject) :=
  [ if q.interface1.isExist then (.setupInterface1, q.setupObj q.interface1)
    else (.clearInterface1, []),
    if q.role = .gateway ∧ q.interface2.isExist then (.setupInterface2, q.setupObj q.interface2)
    else (.clearInterface2, []),
    (.setupHosts, hosts),
    (.applyNetplan, []) ]

theorem buildRequests_eq_calls (q : VMTDParticipant) (hosts : QJsonObject) :
    q.buildRequests ++ [(EnName.setupHosts.text, hosts), (EnName.applyNetplan.text, [])] =
      (q.calls hosts).map fun call => (call.1.text, call.2) := by
  have hRole := q.role_cases
  unfold VMTDParticipant.buildRequests VMTDParticipant.calls
  by_cases h₁ : q.interface1.isExist = true <;>
    by_cases h₂ : q.role = .gateway ∧ q.interface2.isExist = true <;> simp [h₁, h₂, hRole]

/-- The parameters of a request to set an interface up are complete. -/
theorem hasParams_setupObj (q : VMTDParticipant) (i : VMTDInterface) {name : EnName}
    (hName : name = .setupInterface1 ∨ name = .setupInterface2) :
    HasParams name (q.setupObj i) := by
  obtain ⟨hInterface, hMac, hIp, hMask, hVlanId, hRoutes⟩ := setupObj_members q i
  have hParams : methodParams name = [.interface, .mac, .ip, .mask, .vlanId, .routes] := by
    rcases hName with rfl | rfl <;> rfl
  intro methodParam hMem
  rw [hParams] at hMem
  simp only [List.mem_cons, List.not_mem_nil, or_false] at hMem
  rcases hMem with rfl | rfl | rfl | rfl | rfl | rfl
  · rw [hInterface, checkParam_of_subParams_nil rfl]
    exact ⟨rfl, rfl⟩
  · rw [hMac, checkParam_of_subParams_nil rfl]
    exact ⟨rfl, rfl⟩
  · rw [hIp, checkParam_of_subParams_nil rfl]
    exact ⟨rfl, rfl⟩
  · rw [hMask, checkParam_of_subParams_nil rfl]
    exact ⟨rfl, rfl⟩
  · rw [hVlanId, checkParam_of_subParams_nil rfl]
    exact ⟨rfl, rfl⟩
  · rw [hRoutes]
    refine ⟨rfl, checkParam_array fun v hv => ?_⟩
    obtain ⟨route, -, rfl⟩ := List.mem_map.mp hv
    rfl

theorem hasParams_hosts (engine : VMTDEngine) : HasParams .setupHosts engine.hosts := by
  intro methodParam hMem
  obtain rfl : methodParam = .hosts := List.mem_singleton.mp hMem
  rw [VMTDEngine.hosts, QJsonObject.value_insert _ _ rfl]
  refine ⟨rfl, checkParam_array fun v hv => ?_⟩
  obtain ⟨q, -, rfl⟩ := List.mem_map.mp hv
  rfl

/-- **Every request of a participant passes the checks.** -/
theorem hasParams_calls (engine : VMTDEngine) (q : VMTDParticipant) :
    ∀ call ∈ q.calls engine.hosts, HasParams call.1 call.2 := by
  have hNoParams : ∀ name, methodParams name = [] → HasParams name [] := by
    intro name hName methodParam hMem
    rw [hName] at hMem
    exact absurd hMem List.not_mem_nil
  intro call hCall
  simp only [VMTDParticipant.calls, List.mem_cons, List.not_mem_nil, or_false] at hCall
  rcases hCall with rfl | rfl | rfl | rfl
  · split
    · exact hasParams_setupObj q _ (Or.inl rfl)
    · exact hNoParams _ rfl
  · split
    · exact hasParams_setupObj q _ (Or.inr rfl)
    · exact hNoParams _ rfl
  · exact hasParams_hosts engine
  · exact hNoParams _ rfl

-- ---------------------------------------------------------------------------
-- What a configurator holds
-- ---------------------------------------------------------------------------

/-- The configurator of participant `q` after its requests. -/
structure Configured (engine : VMTDEngine) (q : VMTDParticipant)
    (configurator : VMTDConfigurator) : Prop where
  netplan1 : q.interface1.isExist = true →
    readNetplan configurator.netplan1 = some (q.netplanVlan q.interface1)
  netplan1_clear : q.interface1.isExist = false → configurator.netplan1 = ""
  netplan2 : q.role = .gateway ∧ q.interface2.isExist = true →
    readNetplan configurator.netplan2 = some (q.netplanVlan q.interface2)
  netplan2_clear : ¬(q.role = .gateway ∧ q.interface2.isExist = true) →
    configurator.netplan2 = ""
  hosts : splitOnChar '\n' configurator.hosts.toList =
    engine.participants.map VMTDParticipant.hostsLine ++ [[]]

/-- The texts the calls of a participant leave in any configurator. -/
theorem foldl_calls (q : VMTDParticipant) (hosts : QJsonObject) (configurator : VMTDConfigurator) :
    let configured := (q.calls hosts).foldl (fun configurator call =>
      (configurator.handleMethodSlot call.1.text call.2).configurator) configurator
    configured.netplan1 =
        (if q.interface1.isExist then netplanText (q.setupObj q.interface1) else "") ∧
      configured.netplan2 =
        (if q.role = .gateway ∧ q.interface2.isExist then netplanText (q.setupObj q.interface2)
          else "") ∧
      configured.hosts = (configurator.handleSetupHosts hosts).configurator.hosts := by
  unfold VMTDParticipant.calls
  simp only [List.foldl_cons, List.foldl_nil, VMTDConfigurator.handleMethodSlot_text]
  -- each call writes its own text, set up or cleared, and leaves the others alone
  by_cases h₁ : q.interface1.isExist = true
  · by_cases h₂ : q.role = .gateway ∧ q.interface2.isExist = true
    · rw [if_pos h₁, if_pos h₂, if_pos h₁, if_pos h₂]
      exact ⟨rfl, rfl, rfl⟩
    · rw [if_pos h₁, if_neg h₂, if_pos h₁, if_neg h₂]
      exact ⟨rfl, rfl, rfl⟩
  · by_cases h₂ : q.role = .gateway ∧ q.interface2.isExist = true
    · rw [if_neg h₁, if_pos h₂, if_neg h₁, if_pos h₂]
      exact ⟨rfl, rfl, rfl⟩
    · rw [if_neg h₁, if_neg h₂, if_neg h₁, if_neg h₂]
      exact ⟨rfl, rfl, rfl⟩

theorem configured_of_calls {engine : VMTDEngine} {q : VMTDParticipant}
    (hInterface1 : q.interface1.isExist = true → q.interface1.Plain)
    (hInterface2 : q.interface2.isExist = true → q.interface2.Plain)
    (hLink : Plain q.hostInterface)
    (hHosts : ∀ q' ∈ engine.participants, Plain q'.interface1.ip ∧ Plain q'.hostDomainName)
    (configurator : VMTDConfigurator) :
    Configured engine q ((q.calls engine.hosts).foldl (fun configurator call =>
      (configurator.handleMethodSlot call.1.text call.2).configurator) configurator) := by
  obtain ⟨hNetplan1, hNetplan2, hHostsText⟩ := foldl_calls q engine.hosts configurator
  constructor
  · intro hExist
    rw [hNetplan1, if_pos hExist]
    exact readNetplan_setupObj (hInterface1 hExist) hLink
  · intro hNone
    rw [hNetplan1, if_neg (by simp [hNone])]
  · intro hExist
    rw [hNetplan2, if_pos hExist]
    exact readNetplan_setupObj (hInterface2 hExist.2) hLink
  · intro hNone
    rw [hNetplan2, if_neg hNone]
  · rw [hHostsText]
    exact splitOnChar_hosts hHosts configurator

/-- What `generate` leaves on the interfaces of a participant. -/
theorem generate_plain {settings : VMTDSettings} {rows : List DeviceRow} {draws : Draws}
    {engine engine' : VMTDEngine}
    (h : VMTDEngine.generate settings rows draws engine = some engine') :
    (2 ≤ engine'.participants.length → ∀ q ∈ engine'.participants, q.interface1.isExist = true) ∧
    ∀ q ∈ engine'.participants, Plain q.interface1.ip ∧
      (q.interface1.isExist = true → q.interface1.Plain) ∧
      (q.interface2.isExist = true → q.interface2.Plain) := by
  rw [length_participants_generate h]
  rcases Nat.lt_or_ge (engine.manager.buildParticipants settings rows).participants.length 2
    with hOne | hTwo
  · -- the participants are as they were built, without interfaces
    refine ⟨fun hTwo => absurd hTwo (by omega), fun q hq => ?_⟩
    rw [generate_of_lt_two h hOne] at hq
    obtain ⟨row, -, rfl⟩ := List.mem_map.mp hq
    exact ⟨plain_default, fun hExist => absurd hExist Bool.false_ne_true,
      fun hExist => absurd hExist Bool.false_ne_true⟩
  · obtain ⟨π, -, rfl⟩ := generate_refines h hTwo
    refine ⟨fun _ q hq => ?_, fun q hq => ?_⟩ <;> obtain ⟨p, b, hb, rfl⟩ := Plan.mem_participants.mp hq
    · rfl
    · have hPlain := π.plain_interfaces (List.getElem?_eq_some_iff.mp hb).1 b
      exact ⟨hPlain.1.ip, fun _ => hPlain.1, hPlain.2⟩

/-- **Configuration refinement.** The requests emitted for a participant pass
every check, and whatever its configurator held before, handling them makes it
describe the participant's interfaces and all participants' addresses. -/
theorem requests_configure {settings : VMTDSettings} {rows : List DeviceRow} {draws : Draws}
    {engine engine' : VMTDEngine}
    (h : VMTDEngine.generate settings rows draws engine = some engine')
    (hNames : ∀ q ∈ engine'.participants, Plain q.hostInterface ∧ Plain q.hostDomainName) :
    (2 ≤ engine'.participants.length →
      ∀ q ∈ engine'.participants, q.interface1.isExist = true) ∧
    ∃ hosts, ∀ (p : Nat) q, engine'.participants[p]? = some q →
      ∃ requests, engine'.createRequests[p]? = some (q.hostIp, requests) ∧
        ∀ commandCounter configurator,
          (∀ request ∈ VMTDHostProtocolHandler.buildRequests commandCounter requests,
            requestError request = none) ∧
          Configured engine' q (handleClients
            (VMTDHostProtocolHandler.buildRequests commandCounter requests) configurator).2.1 ∧
          (handleClients (VMTDHostProtocolHandler.buildRequests commandCounter requests)
            configurator).2.1.hosts = hosts := by
  obtain ⟨hServed, hPlain⟩ := generate_plain h
  have hHosts : ∀ q ∈ engine'.participants, Plain q.interface1.ip ∧ Plain q.hostDomainName :=
    fun q hq => ⟨(hPlain q hq).1, (hNames q hq).2⟩
  refine ⟨hServed, (VMTDConfigurator.handleSetupHosts engine'.hosts {}).configurator.hosts,
    fun p q hq => ⟨(q.calls engine'.hosts).map fun call => (call.1.text, call.2), ?_, ?_⟩⟩
  · rw [VMTDEngine.createRequests, List.getElem?_map, hq, Option.map_some,
      buildRequests_eq_calls]
  · intro commandCounter configurator
    have hMem := List.mem_of_getElem? hq
    have hCalls := handleClients_buildRequests (hasParams_calls engine' q) commandCounter configurator
    rw [hCalls.2]
    refine ⟨hCalls.1, ?_, (foldl_calls q engine'.hosts configurator).2.2⟩
    exact configured_of_calls (hPlain q hMem).2.1 (hPlain q hMem).2.2 (hNames q hMem).1 hHosts
      configurator

/-- Two hosts, the second a gateway with a link. -/
theorem requests_configure_twoRows :
    ∃ engine', VMTDEngine.generate {} twoRows (twoGroups 1) {} = some engine' ∧
      engine'.participants.length = 2 ∧
      (∃ q ∈ engine'.participants, q.role = .gateway ∧ q.interface2.isExist = true) ∧
      ∃ hosts, ∀ (p : Nat) q, engine'.participants[p]? = some q →
        ∃ requests, engine'.createRequests[p]? = some (q.hostIp, requests) ∧
          ∀ commandCounter configurator,
            (∀ request ∈ VMTDHostProtocolHandler.buildRequests commandCounter requests,
              requestError request = none) ∧
            Configured engine' q (handleClients
              (VMTDHostProtocolHandler.buildRequests commandCounter requests) configurator).2.1 ∧
            (handleClients (VMTDHostProtocolHandler.buildRequests commandCounter requests)
              configurator).2.1.hosts = hosts := by
  have hRun : (VMTDEngine.generate {} twoRows (twoGroups 1) {}).any (fun engine' =>
      decide (engine'.participants.length = 2 ∧
        (∃ q ∈ engine'.participants, q.role = .gateway ∧ q.interface2.isExist = true) ∧
        ∀ q ∈ engine'.participants, Plain q.hostInterface ∧ Plain q.hostDomainName)) = true := by
    decide +kernel
  obtain ⟨engine', hEngine, hAll⟩ := Option.any_eq_true _ _ |>.mp hRun
  obtain ⟨hTwo, hGateway, hNames⟩ := of_decide_eq_true hAll
  exact ⟨engine', hEngine, hTwo, hGateway, (requests_configure hEngine hNames).2⟩

end VxlanMtd
