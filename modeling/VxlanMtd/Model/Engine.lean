import VxlanMtd.Model.Group
import VxlanMtd.Model.DeviceManager
import VxlanMtd.Lib.Pattern

/-!
# The engine

`VMTDEngine`: one reconfiguration builds the participants, splits them into
groups (`createGroups`), chains the groups' gateways (`createGateways`) and
emits what hosts and switches have to do (`createRequests`,
`createCommands`); results that come back may ban hosts (`handleResultSlot`).

The functions follow the source's loops. They return `none` where the source
would read past the end of a list, and for `Draws` that are not an outcome of
its random generator.
-/

namespace VxlanMtd

/-- The outcomes of the random choices of one `generate`. Values for a group
are indexed by the group, a participant's octet also by its place in the
group; `gateway` is what `qrand` returns. -/
structure Draws where
  groupCount : Nat
  vlanId : Nat → Int
  octet3 : Nat → Int
  participants : List Nat
  groups : List Nat
  octet4 : Nat → Nat → Int
  gateway : Nat → Nat
  gateways : List Nat
  link4 : Nat → Int

/-- `VMTDEngine`, with the device manager it works on. -/
structure VMTDEngine where
  manager : VMTDDeviceManager := {}
  groups : List VMTDGroup := []

namespace VMTDEngine

/-- `m_manager->participants()`. -/
def participants (engine : VMTDEngine) : List VMTDParticipant := engine.manager.participants

/-- The engine with other participants and groups. -/
def withAssignment (engine : VMTDEngine) (participants : List VMTDParticipant)
    (groups : List VMTDGroup) : VMTDEngine :=
  { engine with manager := { engine.manager with participants := participants }, groups := groups }

/-- The last assignment counts. -/
@[simp] theorem withAssignment_withAssignment (engine : VMTDEngine)
    (ps ps' : List VMTDParticipant) (gs gs' : List VMTDGroup) :
    (engine.withAssignment ps gs).withAssignment ps' gs' = engine.withAssignment ps' gs' := rfl

/-- Assigned participants are the participants. -/
@[simp] theorem participants_withAssignment (engine : VMTDEngine) (ps : List VMTDParticipant)
    (gs : List VMTDGroup) : (engine.withAssignment ps gs).participants = ps := rfl

@[simp] theorem groups_withAssignment (engine : VMTDEngine) (ps : List VMTDParticipant)
    (gs : List VMTDGroup) : (engine.withAssignment ps gs).groups = gs := rfl

/-- A change to one participant. -/
def modifyParticipant (engine : VMTDEngine) (participant : Nat)
    (f : VMTDParticipant → VMTDParticipant) : VMTDEngine :=
  engine.withAssignment (engine.participants.modify participant f) engine.groups

/-- `m_groups.at(index)`. -/
def groupAt (engine : VMTDEngine) (index : Int) : Option VMTDGroup :=
  if 0 ≤ index then engine.groups[index.toNat]? else none

-- ---------------------------------------------------------------------------
-- createGroups
-- ---------------------------------------------------------------------------

/-- One pass of the loop that creates the groups. -/
def createGroup (settings : VMTDSettings) (draws : Draws) (size : Nat)
    (created : List VMTDGroup × List Int × List Int) (i : Nat) :
    Option (List VMTDGroup × List Int × List Int) := do
  let (groups, vlanIds, octets3) := created
  let vlanId ← drawIf settings.shouldRandomizeVlan settings.minVlanId settings.maxVlanId vlanIds
    (draws.vlanId i) (Int.bmod (settings.minVlanId + i) (2 ^ 32))
  -- without randomisation the variable stays 0, and the set gets that 0
  let octet3 ← drawIf settings.shouldRandomizeNetwork 1 253 octets3 (draws.octet3 i) 0
  let group : VMTDGroup := {
    index := i
    vlanId := vlanId
    octet3 := if settings.shouldRandomizeNetwork then octet3 else vlanId
    mask := 24
    maxParticipantCount :=
      let whole := size / draws.groupCount
      let remainder := size % draws.groupCount
      if i = 0 ∧ remainder ≠ 0 then whole + remainder else whole }
  some (groups ++ [group], vlanId :: vlanIds, octet3 :: octets3)

/-- The `while (group->canAddParticipant())` loop of one group, on the
participants not yet taken. -/
def fillGroup (settings : VMTDSettings) (draws : Draws) (group : Nat) :
    List Nat → VMTDEngine → Option (List Nat × VMTDEngine)
  | [], engine => do
    let g ← engine.groups[group]?
    if g.canAddParticipant then none else some ([], engine)
  | participant :: rest, engine => do
    let g ← engine.groups[group]?
    if g.canAddParticipant then
      let participants := engine.participants.modify participant fun p =>
        { p with role := .endpoint }
      let (g, participants) ← g.addParticipant settings
        (draws.octet4 group g.participants.length) participant participants
      fillGroup settings draws group rest
        (engine.withAssignment participants (engine.groups.set group g))
    else some (participant :: rest, engine)

/-- The loop over the groups. -/
def fillGroups (settings : VMTDSettings) (draws : Draws) :
    List Nat → List Nat → VMTDEngine → Option VMTDEngine
  | [], _, engine => some engine
  | group :: groups, participants, engine => do
    let (participants, engine) ← fillGroup settings draws group participants engine
    fillGroups settings draws groups participants engine

/-- `createGroups`. -/
def createGroups (settings : VMTDSettings) (draws : Draws) (engine : VMTDEngine) :
    Option VMTDEngine := do
  let size := engine.participants.length
  if Bounded 2 size draws.groupCount then
    let (groups, _, _) ←
      (List.range draws.groupCount).foldlM (createGroup settings draws size) ([], [], [])
    let engine := { engine with groups := groups }
    let participants ←
      shuffleIf settings.shouldRandomizeParticipant (List.range size) draws.participants
    let groups ←
      shuffleIf settings.shouldRandomizeParticipant (List.range draws.groupCount) draws.groups
    fillGroups settings draws groups participants engine
  else none

-- ---------------------------------------------------------------------------
-- createGateways
-- ---------------------------------------------------------------------------

/-- The participant of that host name the search over all groups ends with. -/
def nodeNamed (engine : VMTDEngine) (hostName : String) : Option Nat :=
  (engine.groups.flatMap (·.participants)).foldl
    (fun node participant =>
      if (engine.participants[participant]?).map (·.hostName) = some hostName then
        some participant
      else node)
    none

/-- One pass of the loop that picks the gateways. -/
def selectGateway (settings : VMTDSettings) (draws : Draws)
    (selected : List Nat × VMTDEngine) (i : Nat) : Option (List Nat × VMTDEngine) := do
  let (gateways, engine) := selected
  let group ← engine.groups[i]?
  let index :=
    if settings.shouldRandomizeGateway then draws.gateway i % group.participants.length
    else if i = engine.groups.length - 1 then group.participants.length - 1
    else 0
  let gateway ← group.participants[index]?
  some (gateways ++ [gateway], engine.modifyParticipant gateway fun p => { p with role := .gateway })

/-- The loop that makes each gateway the internal gateway of its group and the
next one the external gateway. -/
def linkGateways (settings : VMTDSettings) (draws : Draws) :
    List Nat → VMTDEngine → Option VMTDEngine
  | [], engine => some engine
  | internalGateway :: rest, engine => do
    let index := (← engine.participants[internalGateway]?).interface1.groupIndex
    let (group, participants) ←
      (← engine.groupAt index).setInternalGateway internalGateway engine.participants
    match rest with
    | [] => some (engine.withAssignment participants (engine.groups.set index.toNat group))
    | externalGateway :: _ => do
      let (group, participants) ←
        group.setExternalGateway settings (draws.link4 index.toNat) externalGateway participants
      linkGateways settings draws rest
        (engine.withAssignment participants (engine.groups.set index.toNat group))

/-- The group a gateway belongs to. -/
def gatewayGroup (engine : VMTDEngine) (gateway : Nat) : Option VMTDGroup := do
  engine.groupAt (← engine.participants[gateway]?).interface1.groupIndex

/-- `interface1()->addRoute` of a participant, with the metric all routes
get. -/
def addRoute1 (engine : VMTDEngine) (participant : Nat) (network : String) (mask : Nat)
    (gateway : String) : VMTDEngine :=
  engine.modifyParticipant participant fun p =>
    { p with interface1 := p.interface1.addRoute network mask gateway 100 }

/-- `interface2()->addRoute` of a participant. -/
def addRoute2 (engine : VMTDEngine) (participant : Nat) (network : String) (mask : Nat)
    (gateway : String) : VMTDEngine :=
  engine.modifyParticipant participant fun p =>
    { p with interface2 := p.interface2.addRoute network mask gateway 100 }

/-- The loop that routes from each gateway to the groups after it in the
chain. -/
def routeForward (node10 : Option Nat) : List Nat → VMTDEngine → Option VMTDEngine
  | internalGateway :: externalGateway :: remote, engine => do
    let via := (← engine.participants[externalGateway]?).interface2.ip
    let externalGroup ← engine.gatewayGroup externalGateway
    let engine :=
      engine.addRoute1 internalGateway externalGroup.network externalGroup.mask via
    let engine :=
      if some internalGateway ≠ node10 then engine.addRoute1 internalGateway "100.100.18.0" 24 via
      else engine
    let engine ← remote.foldlM
      (fun engine remoteParticipant => do
        let remoteGroup ← engine.gatewayGroup remoteParticipant
        some (engine.addRoute1 internalGateway remoteGroup.network remoteGroup.mask via))
      engine
    routeForward node10 (externalGateway :: remote) engine
  | _, engine => some engine

/-- The same over the reversed chain, on the second interface. -/
def routeBack (node1 : Option Nat) : List Nat → VMTDEngine → Option VMTDEngine
  | internalGateway :: externalGateway :: remote, engine => do
    let via := (← engine.participants[externalGateway]?).interface1.ip
    let engine :=
      if some internalGateway ≠ node1 then engine.addRoute2 internalGateway "100.100.17.0" 24 via
      else engine
    let engine ← remote.foldlM
      (fun engine remoteParticipant => do
        let remoteGroup ← engine.gatewayGroup remoteParticipant
        let gateway ← engine.participants[internalGateway]?
        some
          (if gateway.interface2.isExist then
            engine.addRoute2 internalGateway remoteGroup.network remoteGroup.mask via
          else engine))
      engine
    routeBack node1 (externalGateway :: remote) engine
  | _, engine => some engine

/-- `createGateways`. -/
def createGateways (settings : VMTDSettings) (draws : Draws) (engine : VMTDEngine) :
    Option VMTDEngine := do
  let node1 := engine.nodeNamed "Node-1"
  let node10 := engine.nodeNamed "Node-10"
  let (gateways, engine) ←
    (List.range engine.groups.length).foldlM (selectGateway settings draws) ([], engine)
  let gateways ← shuffleIf settings.shouldRandomizeGateway gateways draws.gateways
  let engine ← linkGateways settings draws gateways engine
  let engine ← routeForward node10 gateways engine
  routeBack node1 gateways.reverse engine

-- ---------------------------------------------------------------------------
-- A reconfiguration
-- ---------------------------------------------------------------------------

/-- `generate`. With fewer than two participants the groups stay as they
were. -/
def generate (settings : VMTDSettings) (rows : List DeviceRow) (draws : Draws)
    (engine : VMTDEngine) : Option VMTDEngine := do
  let engine := { engine with manager := engine.manager.buildParticipants settings rows }
  if engine.participants.length < 2 then some engine
  else createGateways settings draws (← createGroups settings draws engine)

/-- `hosts`. -/
def hosts (engine : VMTDEngine) : QJsonObject :=
  QJsonObject.insert [] EnParamName.hosts.text
    (.array (engine.participants.map fun participant =>
      let itemObj := QJsonObject.insert [] EnParamName.ip.text (.string participant.interface1.ip)
      .object (itemObj.insert EnParamName.domainName.text (.string participant.hostDomainName))))

/-- `createRequests`: the emitted host addresses and request lists. -/
def createRequests (engine : VMTDEngine) : List (String × RequestList) :=
  engine.participants.map fun participant =>
    (participant.hostIp,
      participant.buildRequests ++
        [(EnName.setupHosts.text, engine.hosts), (EnName.applyNetplan.text, [])])

/-- The `QSet` of switch URLs, in the order `urls` it happens to be iterated. -/
def UrlSet (engine : VMTDEngine) (urls : List String) : Prop :=
  urls.Nodup ∧ ∀ url, url ∈ urls ↔ ∃ p ∈ engine.participants, p.switchUrl = url

/-- `createCommands`: the emitted switch URLs and command lists, for the URLs
in the order of `urls`. -/
def createCommands (urls : List String) (engine : VMTDEngine) : List (String × CommandList) :=
  urls.map fun url =>
    (url,
      "conf t" ::
        (engine.participants.filter fun participant => participant.switchUrl == url).flatMap
          VMTDParticipant.buildCommands)

/-- `run`: the emitted command and request lists. -/
def run (urls : List String) (engine : VMTDEngine) :
    List (String × CommandList) × List (String × RequestList) :=
  if engine.participants.length < 2 then ([], [])
  else (engine.createCommands urls, engine.createRequests)

-- ---------------------------------------------------------------------------
-- Results
-- ---------------------------------------------------------------------------

/-- The addresses of a scanner report, in order. -/
def scannerIps (result : QJsonValue) : List String :=
  if result.isObject && result.toObject.contains EnParamName.scanners.text
      && (result.toObject.value EnParamName.scanners.text).isArray then
    (result.toObject.value EnParamName.scanners.text).toArray.map fun itemObj =>
      (itemObj.toObject.value EnParamName.ip.text).toString
  else []

/-- Whether `handleResultSlot` takes a scanner's address for the
participant's. -/
def owns (participant : VMTDParticipant) (scannerIp : String) : Bool :=
  participant.hostIp == scannerIp || participant.interface1.ip == scannerIp
    || participant.interface2.ip == scannerIp

/-- The addresses a report is searched for. -/
def isHandled (scannerIp : String) : Bool :=
  scannerIp ≠ "" && !(Pattern.contains "127.0.0.1" scannerIp)

/-- The loop of `handleResultSlot` over the participants, for one address. -/
def banOwners (settings : VMTDSettings) (participants : List VMTDParticipant) (scannerIp : String)
    (manager : VMTDDeviceManager) : VMTDDeviceManager :=
  participants.foldl
    (fun manager participant =>
      if owns participant scannerIp then
        manager.createBannedScanner participant.hostId settings.exclusionConfigCount
      else manager)
    manager

/-- `handleResultSlot`. -/
def handleResultSlot (settings : VMTDSettings) (result : QJsonValue) (engine : VMTDEngine) :
    VMTDEngine :=
  { engine with
    manager :=
      ((scannerIps result).filter isHandled).foldl
        (fun manager scannerIp => banOwners settings engine.participants scannerIp manager)
        engine.manager }

end VMTDEngine

end VxlanMtd
