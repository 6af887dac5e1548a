import VxlanMtd.Engine.Overlay
import VxlanMtd.Network.Ports
import VxlanMtd.Node.Configuration
import Mathlib.Data.List.Find

/-!
# The network the hosts and the switches make

Nodes as they really are after a reconfiguration: a host has the VLAN
interfaces its applied netplan texts describe, and two hosts are neighbours in
a VLAN that both their switch ports allow. The switches carry a VLAN between
all ports that allow it.

* `configuredNetwork` — the `Forwarding.Network` of such nodes;
* `VMTDEngine.configuredNodes` — the nodes once every host has handled what
  was emitted for its address;
* `applications_buildRequests` — a request list that ends with `applyNetplan`
  applies what the requests before it have set up;
* **`configuredNetwork_eq`** — this network is the overlay of the engine.
-/

namespace VxlanMtd

open Forwarding

-- addresses are opaque here; unfolding them would make Lean render templates
attribute [local irreducible] networkText macText PlaceMarker.arg

-- ---------------------------------------------------------------------------
-- Nodes
-- ---------------------------------------------------------------------------

/-- A host as the network sees it: what it applied last, and the switch port it
is plugged into. -/
structure NetworkNode where
  application : Option Application
  plug : String × String

/-- The network of a VLAN interface, as a row of a routing table. -/
def NetplanVlan.connected (v : NetplanVlan) : Option Entry :=
  (readAddress v.ip).map fun address => ⟨address, v.mask, none⟩

/-- Whether a port allows a VLAN. -/
def SwitchPorts.allows (ports : SwitchPorts) (plug : String × String) (vlanId : Int) : Bool :=
  (ports plug).any (·.contains vlanId)

namespace NetworkNode

/-- The VLAN interfaces of a host, read from its netplan texts. -/
def vlans (node : NetworkNode) : List NetplanVlan :=
  match node.application with
  | none => []
  | some application =>
    (readNetplan application.netplan1).toList ++ (readNetplan application.netplan2).toList

def table (node : NetworkNode) : List Entry :=
  node.vlans.filterMap NetplanVlan.connected ++
    (node.vlans.flatMap NetplanVlan.routes).filterMap VMTDRoute.entry

/-- Whether an address is one of the host's. -/
def hasAddress (node : NetworkNode) (address : Nat) : Bool :=
  node.vlans.any fun v => readAddress v.ip == some address

/-- Whether a host can send to another one under that address without a router:
both are in a VLAN that both their ports allow. -/
def reaches (ports : SwitchPorts) (node node' : NetworkNode) (address : Nat) : Bool :=
  node.vlans.any fun v => node'.vlans.any fun v' =>
    v.vlanId == v'.vlanId && ports.allows node.plug v.vlanId && ports.allows node'.plug v'.vlanId
      && (readAddress v.ip).any (covers · v.mask address) && readAddress v'.ip == some address

end NetworkNode

/-- Hosts, by position, as nodes of a network. -/
def configuredNetwork (ports : SwitchPorts) (nodes : List NetworkNode) : Network Nat where
  table p := ((nodes[p]?).map (·.table)).getD []
  owns p address := (nodes[p]?).any (·.hasAddress address)
  neighbour p address := (List.range nodes.length).find? fun p' =>
    (nodes[p]?).any fun node => (nodes[p']?).any fun node' => node.reaches ports node' address

/-- What a host applies on messages that arrive one after the other. -/
def handleMessages (messages : List (List QJsonObject)) (configurator : VMTDConfigurator) :
    VMTDConfigurator × List Application :=
  messages.foldl
    (fun handled message =>
      let (_, configurator, applications) := handleClients message handled.1
      (configurator, handled.2 ++ applications))
    (configurator, [])

/-- The node of a participant once its host has handled what was emitted for its
address, from its counter value and whatever it held before. -/
def VMTDParticipant.configuredNode (emitted : List (String × RequestList))
    (commandCounter : String → Int) (configurator : String → VMTDConfigurator)
    (q : VMTDParticipant) : NetworkNode :=
  let messages := (emitted.filter fun list => list.1 = q.hostIp).map fun list =>
    VMTDHostProtocolHandler.buildRequests (commandCounter q.hostIp) list.2
  { application := (handleMessages messages (configurator q.hostIp)).2.getLast?
    plug := q.plug }

/-- The nodes of all participants. -/
def VMTDEngine.configuredNodes (engine : VMTDEngine) (emitted : List (String × RequestList))
    (commandCounter : String → Int) (configurator : String → VMTDConfigurator) :
    List NetworkNode :=
  engine.participants.map (VMTDParticipant.configuredNode emitted commandCounter configurator)

-- ---------------------------------------------------------------------------
-- What is applied
-- ---------------------------------------------------------------------------

/-- **What a request list applies.** If only its last request is `applyNetplan`,
one configuration is applied: the one the requests before it lead to. -/
theorem applications_buildRequests {calls : List (EnName × QJsonObject)}
    (h : ∀ call ∈ calls, HasParams call.1 call.2) (hOther : ∀ call ∈ calls, call.1 ≠ .applyNetplan)
    {params : QJsonObject} (hApply : HasParams .applyNetplan params) (commandCounter : Int)
    (configurator : VMTDConfigurator) :
    (handleClients (VMTDHostProtocolHandler.buildRequests commandCounter
        ((calls ++ [(EnName.applyNetplan, params)]).map fun call => (call.1.text, call.2)))
      configurator).2.2 =
      [(calls.foldl (fun configurator call =>
        (configurator.handleMethodSlot call.1.text call.2).configurator)
          configurator).applyNetplanSlot] := by
  induction calls generalizing commandCounter configurator with
  | nil =>
    rw [List.nil_append, List.map_singleton, VMTDHostProtocolHandler.buildRequests, handleClients]
    dsimp only
    rw [handleClient_buildRequest hApply, VMTDConfigurator.handleMethodSlot_text]
    rfl
  | cons call calls ih =>
    have hCall := h call List.mem_cons_self
    have hMethod : call.1.text ≠ EnName.applyNetplan.text := by
      intro hText
      have hName := congrArg methodKey hText
      rw [methodKey_text, methodKey_text] at hName
      exact hOther call List.mem_cons_self hName
    have hNone := VMTDConfigurator.application_handleMethodSlot hMethod call.2 configurator
    rw [List.cons_append, List.map_cons, VMTDHostProtocolHandler.buildRequests, handleClients]
    dsimp only
    rw [handleClient_buildRequest hCall, List.foldl_cons, hNone]
    exact ih (fun c hc => h c (List.mem_cons_of_mem _ hc))
      (fun c hc => hOther c (List.mem_cons_of_mem _ hc)) _ _

theorem handleMessages_singleton (message : List QJsonObject) (configurator : VMTDConfigurator) :
    (handleMessages [message] configurator).2 = (handleClients message configurator).2.2 := rfl

/-- The calls of a participant apply one configuration, with the texts they
leave. -/
theorem applications_calls (engine : VMTDEngine) (q : VMTDParticipant) (commandCounter : Int)
    (configurator : VMTDConfigurator) :
    ∃ configured, (handleClients (VMTDHostProtocolHandler.buildRequests commandCounter
          ((q.calls engine.hosts).map fun call => (call.1.text, call.2))) configurator).2.2 =
        [VMTDConfigurator.applyNetplanSlot configured] ∧
      configured = (q.calls engine.hosts).foldl (fun configurator call =>
        (configurator.handleMethodSlot call.1.text call.2).configurator) configurator := by
  have hParams := hasParams_calls engine q
  obtain ⟨calls, hCalls, hOther⟩ : ∃ calls, q.calls engine.hosts = calls ++ [(.applyNetplan, [])] ∧
      ∀ call ∈ calls, call.1 ≠ .applyNetplan := by
    refine ⟨(q.calls engine.hosts).take 3, rfl, ?_⟩
    simp only [VMTDParticipant.calls, List.take_succ_cons, List.take_zero, List.mem_cons,
      List.not_mem_nil, or_false, forall_eq_or_imp, forall_eq]
    refine ⟨?_, ?_, by decide⟩ <;> split <;> exact fun hEq => EnName.noConfusion hEq
  rw [hCalls] at hParams ⊢
  have hApplied := applications_buildRequests
    (fun call hCall => hParams call (List.mem_append_left _ hCall)) hOther
    (hParams _ (List.mem_append_right _ (List.mem_singleton_self _))) commandCounter configurator
  refine ⟨_, hApplied, ?_⟩
  rw [List.foldl_append, List.foldl_cons, List.foldl_nil,
    VMTDConfigurator.handleMethodSlot_text .applyNetplan]
  rfl

-- ---------------------------------------------------------------------------
-- Participants and their hosts
-- ---------------------------------------------------------------------------

/-- The second interface of a participant is there only for a gateway, and has
no routes otherwise. -/
structure VMTDParticipant.Assigned (q : VMTDParticipant) : Prop where
  exists1 : q.interface1.isExist = true
  gateway : q.interface2.isExist = true → q.role = .gateway
  noRoutes : q.interface2.isExist = false → q.interface2.routes = []

variable {engine : VMTDEngine} {q q' : VMTDParticipant} {node node' : NetworkNode}
  {configurator : VMTDConfigurator}

theorem existingInterfaces_eq (hq : q.Assigned) : q.existingInterfaces =
    q.interface1 :: if q.interface2.isExist then [q.interface2] else [] := by
  unfold VMTDParticipant.existingInterfaces
  rw [List.filter_cons_of_pos hq.exists1]
  cases hExist : q.interface2.isExist <;> simp [hExist]

/-- **The VLAN interfaces of a configured host** are the existing interfaces of
its participant. -/
theorem vlans_of_configured (hq : q.Assigned) (h : Configured engine q configurator)
    (hNode : node.application = some configurator.applyNetplanSlot) :
    node.vlans = q.existingInterfaces.map q.netplanVlan := by
  have hText : readNetplan "" = none := by decide
  have hFirst := h.netplan1 hq.exists1
  unfold NetworkNode.vlans
  rw [hNode, existingInterfaces_eq hq]
  show (readNetplan configurator.netplan1).toList ++ (readNetplan configurator.netplan2).toList = _
  cases hExist : q.interface2.isExist with
  | true =>
    have hSecond := h.netplan2 ⟨hq.gateway hExist, hExist⟩
    rw [hFirst, hSecond]
    rfl
  | false =>
    have hSecond := h.netplan2_clear fun hBoth => by simp [hExist] at hBoth
    rw [hFirst, hSecond, hText]
    rfl

theorem table_eq (hq : q.Assigned) (hNode : node.vlans = q.existingInterfaces.map q.netplanVlan) :
    node.table = q.table := by
  have hRoutes : (q.existingInterfaces.map q.netplanVlan).flatMap NetplanVlan.routes =
      q.interface1.routes ++ q.interface2.routes := by
    rw [existingInterfaces_eq hq]
    cases hExist : q.interface2.isExist with
    | true => simp [VMTDParticipant.netplanVlan]
    | false => simp [VMTDParticipant.netplanVlan, hq.noRoutes hExist]
  unfold NetworkNode.table VMTDParticipant.table
  rw [hNode, hRoutes, List.filterMap_map]
  rfl

theorem hasAddress_eq (hNode : node.vlans = q.existingInterfaces.map q.netplanVlan)
    (address : Nat) : node.hasAddress address = q.hasAddress address := by
  unfold NetworkNode.hasAddress VMTDParticipant.hasAddress
  rw [hNode, List.any_map]
  rfl

/-- Hosts whose ports allow their VLANs reach each other as their participants
do. -/
theorem reaches_eq {ports : SwitchPorts}
    (hNode : node.vlans = q.existingInterfaces.map q.netplanVlan)
    (hNode' : node'.vlans = q'.existingInterfaces.map q'.netplanVlan)
    (hOpen : ∀ i ∈ q.existingInterfaces, ports.allows node.plug i.vlanId = true)
    (hOpen' : ∀ i ∈ q'.existingInterfaces, ports.allows node'.plug i.vlanId = true)
    (address : Nat) : node.reaches ports node' address = q.reaches q' address := by
  unfold NetworkNode.reaches VMTDParticipant.reaches
  rw [hNode, hNode', List.any_map, Bool.eq_iff_iff, List.any_eq_true, List.any_eq_true]
  refine exists_congr fun i => and_congr_right fun hi => ?_
  rw [Function.comp_apply, List.any_map, List.any_eq_true, List.any_eq_true]
  refine exists_congr fun i' => and_congr_right fun hi' => ?_
  show (i.vlanId == i'.vlanId && ports.allows node.plug i.vlanId &&
    ports.allows node'.plug i'.vlanId && _ && _) = true ↔ _
  rw [hOpen i hi, hOpen' i' hi', Bool.and_true, Bool.and_true]
  rfl

/-- The VLANs of the existing interfaces are among those opened. -/
theorem vlanId_mem_openVlans (hq : q.Assigned) {i : VMTDInterface}
    (hi : i ∈ q.existingInterfaces) : i.vlanId ∈ q.openVlans := by
  refine (mem_openVlans hq.exists1 _).mpr (Or.inr ?_)
  unfold VMTDParticipant.joinedVlans
  rw [existingInterfaces_eq hq] at hi
  rw [if_pos hq.exists1]
  rcases List.mem_cons.mp hi with rfl | hi
  · exact List.mem_cons_self
  · split at hi
    · rename_i hExist
      obtain rfl := List.mem_singleton.mp hi
      rw [if_pos ⟨hq.gateway hExist, hExist⟩]
      exact List.mem_append_right _ (List.mem_singleton_self _)
    · exact absurd hi List.not_mem_nil

-- ---------------------------------------------------------------------------
-- The network
-- ---------------------------------------------------------------------------

/-- What the nodes rest on: interfaces as the engine assigns them, texts the
renderers reproduce, and a host and a switch port for each participant alone. -/
structure VMTDEngine.Deployable (engine : VMTDEngine) : Prop where
  two : 2 ≤ engine.participants.length
  assigned : ∀ q ∈ engine.participants, q.Assigned
  plain1 : ∀ q ∈ engine.participants, q.interface1.Plain
  plain2 : ∀ q ∈ engine.participants, q.interface2.isExist = true → q.interface2.Plain
  names : ∀ q ∈ engine.participants, Plain q.hostInterface ∧ Plain q.hostDomainName
  hostIps : (engine.participants.map (·.hostIp)).Nodup
  plugs : (engine.participants.map (·.plug)).Nodup

/-- One list is emitted for the host of a participant. -/
theorem emitted_of_participant (h : engine.Deployable) (hq : q ∈ engine.participants)
    (urls : List String) :
    (engine.run urls).2.filter (fun list => list.1 = q.hostIp) =
      [(q.hostIp, (q.calls engine.hosts).map fun call => (call.1.text, call.2))] := by
  have hTwo : ¬ engine.participants.length < 2 := not_lt.mpr h.two
  unfold VMTDEngine.run VMTDEngine.createRequests
  rw [if_neg hTwo, List.filter_map]
  show (engine.participants.filter fun q' => q'.hostIp = q.hostIp).map _ = _
  rw [Table.filter_key_eq_singleton h.hostIps hq, List.map_singleton, buildRequests_eq_calls]

/-- What the host of a participant has applied. -/
theorem configured_node (h : engine.Deployable) (hq : q ∈ engine.participants) (urls : List String)
    (commandCounter : String → Int) (configurators : String → VMTDConfigurator) :
    ∃ configurator, Configured engine q configurator ∧
      (q.configuredNode (engine.run urls).2 commandCounter configurators).application =
        some configurator.applyNetplanSlot := by
  have hHosts : ∀ q' ∈ engine.participants, Plain q'.interface1.ip ∧ Plain q'.hostDomainName :=
    fun q' hq' => ⟨(h.plain1 q' hq').ip, (h.names q' hq').2⟩
  have hConfigured := configured_of_calls (fun _ => h.plain1 q hq) (h.plain2 q hq) (h.names q hq).1
    hHosts (configurators q.hostIp)
  obtain ⟨configured, hApplied, hEq⟩ :=
    applications_calls engine q (commandCounter q.hostIp) (configurators q.hostIp)
  refine ⟨configured, hEq ▸ hConfigured, ?_⟩
  unfold VMTDParticipant.configuredNode
  dsimp only
  rw [emitted_of_participant h hq, List.map_singleton, handleMessages_singleton, hApplied]
  rfl

/-- **The hosts and the switches make the overlay.** Whatever the ports allowed
and the hosts held before: once the switches have executed the commands and the
hosts have handled the requests of a reconfiguration, tables, addresses and
neighbours are those of the engine's participants. -/
theorem configuredNetwork_eq (h : engine.Deployable) {urls : List String}
    (hUrls : engine.UrlSet urls) (ports : SwitchPorts) (commandCounter : String → Int)
    (configurators : String → VMTDConfigurator) :
    configuredNetwork (ports.execute (engine.run urls).1)
      (engine.configuredNodes (engine.run urls).2 commandCounter configurators) =
        engine.overlay := by
  have hNode : ∀ q ∈ engine.participants, ∀ node,
      node = q.configuredNode (engine.run urls).2 commandCounter configurators →
        node.vlans = q.existingInterfaces.map q.netplanVlan ∧
        ∀ i ∈ q.existingInterfaces,
          (ports.execute (engine.run urls).1).allows node.plug i.vlanId = true := by
    rintro q hq node rfl
    obtain ⟨configurator, hConfigured, hApplication⟩ :=
      configured_node h hq urls commandCounter configurators
    refine ⟨vlans_of_configured (h.assigned q hq) hConfigured hApplication, fun i hi => ?_⟩
    have hPort := ports_after_run ports h.two hUrls h.plugs hq
    have hOpen := vlanId_mem_openVlans (h.assigned q hq) hi
    unfold SwitchPorts.allows
    show Option.any _ (ports.execute (engine.run urls).1 q.plug) = true
    rw [hPort, Option.any_some]
    exact List.contains_iff_mem.mpr hOpen
  have hAt : ∀ p : Nat,
      (engine.configuredNodes (engine.run urls).2 commandCounter configurators)[p]? =
        (engine.participants[p]?).map
          (VMTDParticipant.configuredNode (engine.run urls).2 commandCounter configurators) :=
    fun p => List.getElem?_map
  have hLength : (engine.configuredNodes (engine.run urls).2 commandCounter
      configurators).length = engine.participants.length := List.length_map _
  unfold configuredNetwork VMTDEngine.overlay
  rw [hLength]
  congr 1
  · funext p
    rw [hAt]
    cases hq : engine.participants[p]? with
    | none => rfl
    | some q =>
      have hMem := List.mem_of_getElem? hq
      rw [Option.map_some, Option.map_some, Option.map_some,
        table_eq (h.assigned q hMem) (hNode q hMem _ rfl).1]
  · funext p address
    rw [hAt]
    cases hq : engine.participants[p]? with
    | none => rfl
    | some q =>
      rw [Option.map_some, Option.any_some, Option.any_some,
        hasAddress_eq (hNode q (List.mem_of_getElem? hq) _ rfl).1]
  · funext p address
    refine List.find?_congr fun p' _ => ?_
    rw [hAt, hAt]
    cases hq : engine.participants[p]? with
    | none => rfl
    | some q =>
      cases hq' : engine.participants[p']? with
      | none => rfl
      | some q' =>
        obtain ⟨hVlans, hOpen⟩ := hNode q (List.mem_of_getElem? hq) _ rfl
        obtain ⟨hVlans', hOpen'⟩ := hNode q' (List.mem_of_getElem? hq') _ rfl
        rw [Option.map_some, Option.map_some, Option.any_some, Option.any_some, Option.any_some,
          Option.any_some, reaches_eq hVlans hVlans' hOpen hOpen']

end VxlanMtd
