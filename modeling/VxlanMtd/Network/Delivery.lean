import VxlanMtd.Network.Nodes
import VxlanMtd.Network.Transit

/-!
# From a name to a host

A packet to a host's domain name, over the network a reconfiguration makes of
the hosts and the switches.

* `resolve` — the address a name has in a hosts text;
* `resolve_configured` — the hosts text of every participant gives each domain
  name the first address of its participant;
* `VMTDEngine.Delivers` — the packet arrives, over gateways only;
* **`configured_delivers`** — so it does, whatever the hosts and the switches
  held before.
-/

namespace VxlanMtd

open Forwarding Text

-- addresses are opaque here; unfolding them would make Lean render templates
attribute [local irreducible] networkText macText PlaceMarker.arg

-- ---------------------------------------------------------------------------
-- Names
-- ---------------------------------------------------------------------------

/-- The address of a name: that of the first line that lists the name. -/
def resolve (hosts name : String) : Option String :=
  (splitOnChar '\n' hosts.toList).findSome? fun line =>
    match splitOnChar ' ' line with
    | address :: names => if name.toList ∈ names then some (String.ofList address) else none
    | [] => none

theorem blank_notMem_networkText (octet3 octet4 : Int) :
    ' ' ∉ (networkText octet3 octet4).toList := by
  have hRepr : ∀ x : Int, ' ' ∉ x.repr.toList := fun x => notMem_repr (by decide) (by decide)
  rw [networkText_eq, String.toList_ofList]
  simp [hRepr]

/-- Lines with one name each are a table of names. -/
theorem resolve_hostsLines {qs : List VMTDParticipant} {hosts : String}
    (hLines : splitOnChar '\n' hosts.toList = qs.map VMTDParticipant.hostsLine ++ [[]])
    (hBlank : ∀ q ∈ qs, ' ' ∉ q.interface1.ip.toList ∧ ' ' ∉ q.hostDomainName.toList)
    (name : String) :
    resolve hosts name = (qs.map fun q => (q.hostDomainName, q.interface1.ip)).lookup name := by
  unfold resolve
  rw [hLines]
  clear hLines
  induction qs with
  | nil => simp [splitOnChar]
  | cons q qs ih =>
    obtain ⟨hIp, hName⟩ := hBlank q List.mem_cons_self
    have hLine : splitOnChar ' ' q.hostsLine = [q.interface1.ip.toList, q.hostDomainName.toList] := by
      rw [VMTDParticipant.hostsLine, splitOnChar_append hIp, splitOnChar_of_notMem hName]
    have hRest := ih fun q' hq' => hBlank q' (List.mem_cons_of_mem _ hq')
    rw [List.map_cons, List.cons_append, List.findSome?_cons, hLine, List.map_cons,
      List.lookup_cons]
    dsimp only
    by_cases hSame : name = q.hostDomainName
    · rw [if_pos (by rw [hSame]; exact List.mem_singleton_self _), hSame, beq_self_eq_true,
        String.ofList_toList]
    · rw [if_neg fun hMem => hSame (String.toList_injective (List.mem_singleton.mp hMem)),
        beq_eq_false_iff_ne.mpr hSame]
      exact hRest

-- ---------------------------------------------------------------------------
-- What a reconfiguration needs
-- ---------------------------------------------------------------------------

/-- Addresses that can be routed to. -/
structure VMTDEngine.Routable (engine : VMTDEngine) : Prop where
  octets : ∀ i ∈ engine.existingInterfaces, (readAddress i.ip).isSome = true
  distinct : (engine.existingInterfaces.map (·.ip)).Nodup
  reserved : ∀ G ∈ engine.groups, G.network ≠ "100.100.17.0" ∧ G.network ≠ "100.100.18.0"

/-- Hosts with texts the renderers reproduce, each with an address, a name and a
switch port of its own. -/
structure VMTDEngine.Registered (engine : VMTDEngine) : Prop where
  names : ∀ q ∈ engine.participants, Plain q.hostInterface ∧ Plain q.hostDomainName
  noBlank : ∀ q ∈ engine.participants, ' ' ∉ q.hostDomainName.toList
  domainNames : (engine.participants.map (·.hostDomainName)).Nodup
  hostIps : (engine.participants.map (·.hostIp)).Nodup
  plugs : (engine.participants.map (·.plug)).Nodup

namespace Plan

variable {manager : VMTDDeviceManager} {π : Plan manager.participants.length}

theorem assigned_participant {p : Nat} (hp : p < manager.participants.length)
    (b : VMTDParticipant) : (π.participant p b).Assigned := by
  have hExist := π.isExist_interface2 hp b
  have hInterface := π.interface2_participant hp b
  refine ⟨rfl, fun hSome => ?_, fun hNone => ?_⟩
  · rw [hExist] at hSome
    obtain ⟨g, hLink⟩ := Option.isSome_iff_exists.mp hSome
    obtain ⟨-, -, hGateway, -⟩ := linkedGroup_eq_some hp hLink
    rw [role_participant, if_pos hGateway]
  · rw [hExist] at hNone
    have hLink : π.linkedGroup p = none := by simpa using hNone
    rw [hInterface, hLink]

/-- A plan whose hosts are registered can be deployed. -/
theorem deployable (hTwo : 2 ≤ manager.participants.length) (h : π.engine.Registered) :
    π.engine.Deployable where
  two := by rwa [participants_engine, List.length_mapIdx]
  assigned q hq := by
    obtain ⟨p, b, hb, rfl⟩ := mem_participants.mp hq
    exact assigned_participant (List.getElem?_eq_some_iff.mp hb).1 b
  plain1 q hq := by
    obtain ⟨p, b, hb, rfl⟩ := mem_participants.mp hq
    exact (π.plain_interfaces (List.getElem?_eq_some_iff.mp hb).1 b).1
  plain2 q hq := by
    obtain ⟨p, b, hb, rfl⟩ := mem_participants.mp hq
    exact (π.plain_interfaces (List.getElem?_eq_some_iff.mp hb).1 b).2
  names := h.names
  hostIps := h.hostIps
  plugs := h.plugs

end Plan

/-- **Every host knows every name.** -/
theorem resolve_configured {engine : VMTDEngine} {q r : VMTDParticipant}
    {configurator : VMTDConfigurator} (h : Configured engine q configurator)
    (hBlank : ∀ q ∈ engine.participants,
      ' ' ∉ q.interface1.ip.toList ∧ ' ' ∉ q.hostDomainName.toList)
    (hNames : (engine.participants.map (·.hostDomainName)).Nodup) (hr : r ∈ engine.participants) :
    resolve configurator.hosts r.hostDomainName = some r.interface1.ip := by
  rw [resolve_hostsLines h.hosts hBlank]
  refine (Table.lookup_eq_some_iff_mem ?_).mpr (List.mem_map.mpr ⟨r, hr, rfl⟩)
  rw [List.map_map]
  exact hNames

-- ---------------------------------------------------------------------------
-- Delivery
-- ---------------------------------------------------------------------------

/-- After the commands and the requests of a reconfiguration have been carried
out, every host knows the domain name of every other, and a packet to the
address it has for it arrives there. -/
def VMTDEngine.Delivers (engine : VMTDEngine) (urls : List String) (ports : SwitchPorts)
    (commandCounter : String → Int) (configurators : String → VMTDConfigurator) : Prop :=
  let emitted := engine.run urls
  let nodes := engine.configuredNodes emitted.2 commandCounter configurators
  ∀ p < engine.participants.length, ∀ (q : Nat) (r : VMTDParticipant),
    engine.participants[q]? = some r →
      ∃ node application address dest path,
        nodes[p]? = some node ∧ node.application = some application ∧
        resolve application.hosts r.hostDomainName = some address ∧
        readAddress address = some dest ∧
        (configuredNetwork (ports.execute emitted.1) nodes).HopSequence dest p path ∧
        path.Nodup ∧ engine.Crosses p q path

/-- A sound plan delivers. -/
theorem Plan.delivers_engine {manager : VMTDDeviceManager}
    {π : Plan manager.participants.length} (hSound : π.Sound)
    (hTwo : 2 ≤ manager.participants.length) (hRegistered : π.engine.Registered)
    {urls : List String} (hUrls : π.engine.UrlSet urls) (ports : SwitchPorts)
    (commandCounter : String → Int) (configurators : String → VMTDConfigurator) :
    π.engine.Delivers urls ports commandCounter configurators := by
  have hDeployable := π.deployable hTwo hRegistered
  unfold VMTDEngine.Delivers
  dsimp only
  rw [configuredNetwork_eq hDeployable hUrls]
  intro p hp q r hr
  have hMem := List.getElem_mem hp
  obtain ⟨configurator, hConfigured, hApplication⟩ :=
    configured_node hDeployable hMem urls commandCounter configurators
  have hBlank : ∀ q ∈ π.engine.participants,
      ' ' ∉ q.interface1.ip.toList ∧ ' ' ∉ q.hostDomainName.toList := by
    intro q hq
    refine ⟨?_, hRegistered.noBlank q hq⟩
    obtain ⟨p, b, -, rfl⟩ := Plan.mem_participants.mp hq
    exact blank_notMem_networkText _ _
  have hResolve := resolve_configured hConfigured hBlank hRegistered.domainNames
    (List.mem_of_getElem? hr)
  have hp' := hp
  rw [Plan.participants_engine, List.length_mapIdx] at hp'
  obtain ⟨b, hb, rfl⟩ := Plan.getElem?_participants.mp hr
  have hq := (List.getElem?_eq_some_iff.mp hb).1
  obtain ⟨path, hPath, hNodup, -⟩ := hSound.delivers hp' hq
  have hRead := hSound.readAddress_key (Plan.mem_allKeys hq Plan.homeKey_mem)
  refine ⟨_, _, _, _, path, ?_, hApplication, hResolve, hRead, hPath, hNodup,
    hSound.crosses hp' hq hPath⟩
  rw [VMTDEngine.configuredNodes, List.getElem?_map, List.getElem?_eq_getElem hp, Option.map_some]

/-- **Delivery by name.** Whatever `generate` makes of at least two registered
participants, if its addresses can be routed to, and whatever the switches and
the hosts held before. -/
theorem configured_delivers {settings : VMTDSettings} {rows : List DeviceRow} {draws : Draws}
    {engine engine' : VMTDEngine} {urls : List String}
    (h : VMTDEngine.generate settings rows draws engine = some engine')
    (hTwo : 2 ≤ engine'.participants.length) (hRoutable : engine'.Routable)
    (hRegistered : engine'.Registered) (hUrls : engine'.UrlSet urls) (ports : SwitchPorts)
    (commandCounter : String → Int) (configurators : String → VMTDConfigurator) :
    engine'.Delivers urls ports commandCounter configurators := by
  rw [length_participants_generate h] at hTwo
  obtain ⟨π, -, rfl⟩ := generate_refines h hTwo
  have hSound := π.sound_of_engine hRoutable.octets hRoutable.distinct hRoutable.reserved
  exact π.delivers_engine hSound hTwo hRegistered hUrls ports commandCounter configurators

/-- Two hosts on one switch, which have never been configured before. -/
theorem configured_delivers_twoRows :
    ∃ engine', VMTDEngine.generate {} twoRows (twoGroups 1) {} = some engine' ∧
      engine'.Delivers ["http://leaf"] (fun _ => none) (fun _ => 0) fun _ => {} := by
  have hRun : (VMTDEngine.generate {} twoRows (twoGroups 1) {}).any (fun engine' =>
      decide ((2 ≤ engine'.participants.length ∧
        (∀ i ∈ engine'.existingInterfaces, (readAddress i.ip).isSome = true) ∧
        (engine'.existingInterfaces.map (·.ip)).Nodup ∧
        ∀ G ∈ engine'.groups, G.network ≠ "100.100.17.0" ∧ G.network ≠ "100.100.18.0") ∧
        (∀ q ∈ engine'.participants, Plain q.hostInterface ∧ Plain q.hostDomainName) ∧
        (∀ q ∈ engine'.participants, ' ' ∉ q.hostDomainName.toList) ∧
        (engine'.participants.map (·.hostDomainName)).Nodup ∧
        (engine'.participants.map (·.hostIp)).Nodup ∧
        (engine'.participants.map (·.plug)).Nodup ∧
        engine'.participants ≠ [] ∧
        ∀ q ∈ engine'.participants, q.switchUrl = "http://leaf")) = true := by
    decide +kernel
  obtain ⟨engine', hEngine, hAll⟩ := Option.any_eq_true _ _ |>.mp hRun
  obtain ⟨⟨hTwo, hOctets, hDistinct, hReserved⟩, hNames, hNoBlank, hDomainNames, hHostIps, hPlugs,
    hSome, hUrl⟩ := of_decide_eq_true hAll
  exact ⟨engine', hEngine, configured_delivers hEngine hTwo ⟨hOctets, hDistinct, hReserved⟩
    ⟨hNames, hNoBlank, hDomainNames, hHostIps, hPlugs⟩ (urlSet_singleton hSome hUrl) _ _ _⟩

end VxlanMtd
