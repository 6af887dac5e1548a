import VxlanMtd.Model.Method

/-!
# Routes, interfaces and participants

`VMTDRoute`, `VMTDInterface` and `VMTDParticipant`: what the engine assigns to
a host, and the two things a participant makes of it — the requests to its
host (`buildRequests`) and the commands to its switch (`buildCommands`).
-/

namespace VxlanMtd

/-- `VMTDRoute`. -/
structure VMTDRoute where
  network : String
  mask : Nat
  gateway : String
  metric : Int
  deriving DecidableEq, Repr

/-- `VMTDInterface`, with the values of its constructor: an interface that
does not exist still has an address, `100.100.0.1`. -/
structure VMTDInterface where
  isExist : Bool := false
  groupIndex : Int := -1
  mac : String := "aa:bb:cc:dd:ee:ff"
  ip : String := PlaceMarker.arg (PlaceMarker.arg networkTemplate (toString (0 : Int))) (toString (1 : Int))
  mask : Nat := 16
  vlanId : Int := 99
  routes : List VMTDRoute := []
  deriving DecidableEq, Repr

/-- `VMTDInterface::addRoute`. -/
def VMTDInterface.addRoute (i : VMTDInterface) (network : String) (mask : Nat)
    (gateway : String) (metric : Int) : VMTDInterface :=
  { i with routes := i.routes ++ [⟨network, mask, gateway, metric⟩] }

/-- `VMTDParticipant::EnRole`. -/
inductive EnRole where
  | endpoint
  | gateway
  deriving DecidableEq, Repr

/-- `VMTDParticipant`, with the values of its constructor. -/
structure VMTDParticipant where
  hostId : Int := -1
  role : EnRole := .endpoint
  defaultVlanId : Int := 19
  hostName : String := "none"
  hostDomainName : String := "none"
  hostIp : String := "none"
  hostInterface : String := "none"
  switchName : String := "none"
  switchUrl : String := "none"
  switchPort : String := "none"
  interface1 : VMTDInterface := {}
  interface2 : VMTDInterface := {}
  deriving DecidableEq, Repr

/-- `RequestList`: methods and their parameters. -/
abbrev RequestList := List (String × QJsonObject)

/-- `CommandList`. -/
abbrev CommandList := List String

namespace VMTDParticipant

/-- A route in a request. -/
def routeObj (route : VMTDRoute) : QJsonObject :=
  let routeObj := QJsonObject.insert [] EnParamName.network.text (.string route.network)
  let routeObj := routeObj.insert EnParamName.mask.text (.ofInt route.mask)
  let routeObj := routeObj.insert EnParamName.gateway.text (.string route.gateway)
  routeObj.insert EnParamName.metric.text (.ofInt route.metric)

/-- The parameters of the request that sets an interface up. -/
def setupObj (p : VMTDParticipant) (i : VMTDInterface) : QJsonObject :=
  let jsonObj := QJsonObject.insert [] EnParamName.interface.text (.string p.hostInterface)
  let jsonObj := jsonObj.insert EnParamName.mac.text (.string i.mac)
  let jsonObj := jsonObj.insert EnParamName.ip.text (.string i.ip)
  let jsonObj := jsonObj.insert EnParamName.mask.text (.ofInt i.mask)
  let jsonObj := jsonObj.insert EnParamName.vlanId.text (.ofInt i.vlanId)
  jsonObj.insert EnParamName.routes.text
    (.array (i.routes.map fun route => .object (routeObj route)))

/-- `VMTDParticipant::buildRequests`. -/
def buildRequests (p : VMTDParticipant) : RequestList :=
  [ if (p.role = .endpoint ∨ p.role = .gateway) ∧ p.interface1.isExist then
      (EnName.setupInterface1.text, setupObj p p.interface1)
    else (EnName.clearInterface1.text, []),
    if p.role = .gateway ∧ p.interface2.isExist then
      (EnName.setupInterface2.text, setupObj p p.interface2)
    else (EnName.clearInterface2.text, []) ]

/-- The VLANs of the participant's switch port, as `buildCommands` lists
them. -/
def vlans (p : VMTDParticipant) : String :=
  let vlans := toString p.defaultVlanId
  let vlans := vlans ++ ", 17, 18"
  if p.role = .gateway ∧ p.interface2.isExist then
    let vlans := vlans ++ PlaceMarker.arg ", %1"
      (toString (min p.interface1.vlanId p.interface2.vlanId))
    vlans ++ PlaceMarker.arg ", %1" (toString (max p.interface1.vlanId p.interface2.vlanId))
  else vlans ++ PlaceMarker.arg ", %1" (toString p.interface1.vlanId)

/-- `VMTDParticipant::buildCommands`. -/
def buildCommands (p : VMTDParticipant) : CommandList :=
  [ PlaceMarker.arg "interface %1" p.switchPort,
    "  switchport",
    "  switchport mode trunk",
    PlaceMarker.arg "  switchport trunk allowed vlan %1" p.vlans,
    "  no shutdown" ]

/-- A participant always has one of the two roles. -/
@[simp] theorem role_cases (p : VMTDParticipant) : p.role = .endpoint ∨ p.role = .gateway := by
  cases p.role <;> simp

end VMTDParticipant

end VxlanMtd
