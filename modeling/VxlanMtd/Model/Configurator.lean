import VxlanMtd.Model.Watchdog
import VxlanMtd.Model.Method

/-!
# The configurator

`VMTDConfigurator`: it handles the methods called on a host, keeps the texts of
the two netplan files and of the managed part of the hosts file, and applies
them on `applyNetplan`.

What applying does to the host is data here (`Application`): the texts to be
saved and the commands to be run.
-/

namespace VxlanMtd

/-- `VMTDConfigurator`. `vlanInterface1` and `vlanInterface2` are the interfaces
to delete before the next apply. -/
structure VMTDConfigurator where
  netplan1 : String := ""
  netplan2 : String := ""
  hosts : String := ""
  vlanInterface1 : String := ""
  vlanInterface2 : String := ""
  watchdog : VMTDWatchdog := {}
  deriving DecidableEq, Repr

/-- The commands of `applyNetplanSlot`. -/
inductive HostCommand where
  | ipLinkDelete (interface : String)
  | ipRouteFlush
  | netplanApply
  deriving DecidableEq, Repr

/-- The text of a command. -/
def HostCommand.text : HostCommand → String
  | .ipLinkDelete interface => PlaceMarker.arg "sudo ip link delete %1" interface
  | .ipRouteFlush => "sudo ip route flush table main"
  | .netplanApply => "sudo netplan apply"

/-- One apply: what is written to the three files, and the commands that
follow. -/
structure Application where
  netplan1 : String
  netplan2 : String
  hosts : String
  commands : List HostCommand
  deriving DecidableEq, Repr

/-- The text handed to the shell. -/
def Application.shellText (application : Application) : String :=
  "; ".intercalate (application.commands.map HostCommand.text)

/-- The outcome of a method: its result, the configurator afterwards and, for
`applyNetplan`, what was applied. -/
structure Handled where
  result : QJsonValue
  configurator : VMTDConfigurator
  application : Option Application := none

/-- The regular expression `vlan.[0-9]+`. -/
def vlanPattern : List Pattern.Item :=
  Pattern.literal "vlan" ++ [Pattern.dot, .plus Char.isDigit]

/-- `re.match(netplan).captured(0)`: the empty string without a match. -/
def capturedVlan (netplan : String) : String :=
  match Pattern.search vlanPattern netplan.toList with
  | some (pieces, _) => String.ofList pieces.flatten
  | none => ""

/-- A chain of `arg` calls. -/
def args (text : String) (values : List String) : String := values.foldl PlaceMarker.arg text

/-- The text of one route. -/
def routeText (routeObj : QJsonObject) : String :=
  args routeTemplate
    [(routeObj.value EnParamName.network.text).toString,
      toString (routeObj.value EnParamName.mask.text).toInt,
      (routeObj.value EnParamName.gateway.text).toString,
      toString (routeObj.value EnParamName.metric.text).toInt]

/-- The netplan text both `handleSetupInterface1` and `handleSetupInterface2`
build. -/
def netplanText (params : QJsonObject) : String :=
  let netplan := vlanHeaderTemplate ++
    args vlanTemplate
      [toString (params.value EnParamName.vlanId.text).toInt,
        (params.value EnParamName.interface.text).toString,
        (params.value EnParamName.ip.text).toString,
        toString (params.value EnParamName.mask.text).toInt,
        (params.value EnParamName.mac.text).toString]
  if params.contains EnParamName.routes.text
      && (params.value EnParamName.routes.text).isArray then
    let routesArr := (params.value EnParamName.routes.text).toArray
    if routesArr.isEmpty then netplan
    else
      routesArr.foldl (fun netplan routeVal => netplan ++ routeText routeVal.toObject)
        (netplan ++ routeHeaderTemplate)
  else netplan

namespace VMTDConfigurator

/-- `setNetplan1`: the interface to delete is the one the old text names. -/
def setNetplan1 (netplan1 : String) (configurator : VMTDConfigurator) : VMTDConfigurator :=
  { configurator with
    vlanInterface1 := capturedVlan configurator.netplan1
    netplan1 := netplan1 }

/-- `setNetplan2`. -/
def setNetplan2 (netplan2 : String) (configurator : VMTDConfigurator) : VMTDConfigurator :=
  { configurator with
    vlanInterface2 := capturedVlan configurator.netplan2
    netplan2 := netplan2 }

def handleSetupInterface1 (params : QJsonObject) (configurator : VMTDConfigurator) : Handled :=
  ⟨.bool true, configurator.setNetplan1 (netplanText params), none⟩

def handleSetupInterface2 (params : QJsonObject) (configurator : VMTDConfigurator) : Handled :=
  ⟨.bool true, configurator.setNetplan2 (netplanText params), none⟩

def handleSetupHosts (params : QJsonObject) (configurator : VMTDConfigurator) : Handled :=
  let jsonArr := (params.value EnParamName.hosts.text).toArray
  let hosts := jsonArr.foldl
    (fun hosts jsonVal =>
      let itemObj := jsonVal.toObject
      hosts ++ args "%1 %2\n"
        [(QJsonObject.value itemObj EnParamName.ip.text).toString,
          (QJsonObject.value itemObj EnParamName.domainName.text).toString])
    ""
  ⟨.bool true, { configurator with hosts := hosts }, none⟩

/-- The texts are cleared without `setNetplan`, so no interface is
remembered. -/
def handleClearInterface1 (configurator : VMTDConfigurator) : Handled :=
  ⟨.bool true, { configurator with netplan1 := "" }, none⟩

def handleClearInterface2 (configurator : VMTDConfigurator) : Handled :=
  ⟨.bool true, { configurator with netplan2 := "" }, none⟩

def handleClearHosts (configurator : VMTDConfigurator) : Handled :=
  ⟨.bool true, { configurator with hosts := "" }, none⟩

/-- `handleGetScanners`: the scanners are reported once. -/
def handleGetScanners (configurator : VMTDConfigurator) : Handled :=
  let jsonArr := configurator.watchdog.scanners.map fun scannerIp =>
    QJsonValue.object (QJsonObject.insert [] EnParamName.ip.text (.string scannerIp))
  ⟨.object (QJsonObject.insert [] EnParamName.scanners.text (.array jsonArr)),
    { configurator with watchdog := configurator.watchdog.clearScanners }, none⟩

/-- `applyNetplanSlot`. -/
def applyNetplanSlot (configurator : VMTDConfigurator) : Application where
  netplan1 := configurator.netplan1
  netplan2 := configurator.netplan2
  hosts := configurator.hosts
  commands :=
    (if configurator.vlanInterface1 ≠ "" then [.ipLinkDelete configurator.vlanInterface1] else []) ++
      (if configurator.vlanInterface2 ≠ "" then [.ipLinkDelete configurator.vlanInterface2]
        else []) ++
      [.ipRouteFlush, .netplanApply]

def handleApplyNetplan (configurator : VMTDConfigurator) : Handled :=
  ⟨.bool true, configurator, some configurator.applyNetplanSlot⟩

def handleCheckConnection (configurator : VMTDConfigurator) : Handled :=
  ⟨.bool true, configurator, none⟩

/-- `handleMethodSlot`. -/
def handleMethodSlot (method : String) (params : QJsonObject) (configurator : VMTDConfigurator) :
    Handled :=
  if method = EnName.setupInterface1.text then configurator.handleSetupInterface1 params
  else if method = EnName.setupInterface2.text then configurator.handleSetupInterface2 params
  else if method = EnName.setupHosts.text then configurator.handleSetupHosts params
  else if method = EnName.clearInterface1.text then configurator.handleClearInterface1
  else if method = EnName.clearInterface2.text then configurator.handleClearInterface2
  else if method = EnName.clearHosts.text then configurator.handleClearHosts
  else if method = EnName.getScanners.text then configurator.handleGetScanners
  else if method = EnName.applyNetplan.text then configurator.handleApplyNetplan
  else if method = EnName.checkConnection.text then configurator.handleCheckConnection
  else ⟨.bool false, configurator, none⟩

/-- `handleMethodSlot`, by method. -/
theorem handleMethodSlot_text (name : EnName) (params : QJsonObject)
    (configurator : VMTDConfigurator) :
    configurator.handleMethodSlot name.text params =
      match name with
      | .setupInterface1 => configurator.handleSetupInterface1 params
      | .setupInterface2 => configurator.handleSetupInterface2 params
      | .setupHosts => configurator.handleSetupHosts params
      | .clearInterface1 => configurator.handleClearInterface1
      | .clearInterface2 => configurator.handleClearInterface2
      | .clearHosts => configurator.handleClearHosts
      | .getScanners => configurator.handleGetScanners
      | .applyNetplan => configurator.handleApplyNetplan
      | .checkConnection => configurator.handleCheckConnection := by
  cases name <;> rfl

/-- A method has a name of the table, or nothing happens. -/
theorem handleMethodSlot_cases (method : String) (params : QJsonObject)
    (configurator : VMTDConfigurator) :
    (∃ name : EnName, method = name.text) ∨
      configurator.handleMethodSlot method params = ⟨.bool false, configurator, none⟩ := by
  by_cases hName : ∃ name : EnName, method = name.text
  · exact Or.inl hName
  · have hOther : ∀ name : EnName, method ≠ name.text := not_exists.mp hName
    refine Or.inr ?_
    unfold handleMethodSlot
    rw [if_neg (hOther .setupInterface1), if_neg (hOther .setupInterface2),
      if_neg (hOther .setupHosts), if_neg (hOther .clearInterface1),
      if_neg (hOther .clearInterface2), if_neg (hOther .clearHosts), if_neg (hOther .getScanners),
      if_neg (hOther .applyNetplan), if_neg (hOther .checkConnection)]

/-- Only `applyNetplan` hands anything to the shell. -/
theorem application_handleMethodSlot {method : String} (h : method ≠ EnName.applyNetplan.text)
    (params : QJsonObject) (configurator : VMTDConfigurator) :
    (configurator.handleMethodSlot method params).application = none := by
  rcases configurator.handleMethodSlot_cases method params with ⟨name, rfl⟩ | hUnknown
  · rw [handleMethodSlot_text]
    cases name with
    | applyNetplan => exact absurd rfl h
    | setupInterface1 | setupInterface2 | setupHosts | clearInterface1 | clearInterface2
    | clearHosts | getScanners | checkConnection => rfl
  · rw [hUnknown]

/-- Only `getScanners` touches the watchdog; the other methods answer with a
truth value. -/
theorem watchdog_handleMethodSlot {method : String} (h : method ≠ EnName.getScanners.text)
    (params : QJsonObject) (configurator : VMTDConfigurator) :
    (configurator.handleMethodSlot method params).configurator.watchdog = configurator.watchdog ∧
      ∃ b, (configurator.handleMethodSlot method params).result = .bool b := by
  rcases configurator.handleMethodSlot_cases method params with ⟨name, rfl⟩ | hUnknown
  · rw [handleMethodSlot_text]
    cases name with
    | getScanners => exact absurd rfl h
    | setupInterface1 | setupInterface2 | setupHosts | clearInterface1 | clearInterface2
    | clearHosts | applyNetplan | checkConnection => exact ⟨rfl, true, rfl⟩
  · rw [hUnknown]
    exact ⟨rfl, false, rfl⟩

end VMTDConfigurator

end VxlanMtd
