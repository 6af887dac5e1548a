import VxlanMtd.Model.Settings
import VxlanMtd.Qt.Json

/-!
# The settings object

`VMTDSettings` as an object: how it writes itself to JSON and reads itself
back, its setters, and the flag through which a change asks for a restart.

* `toJson`, `fromJson` — one assignment and one typed read a field, in the
  source's order. A read whose member is missing or of another kind keeps the
  field;
* the setters — most only assign, the others also set `m_shouldBeRestarted`
  when the value changes, and the two VLAN bounds refuse a crossed range;
* `apply` — emits `restartSignal` if the flag is set, and clears it;
* `updateData` — the form's setters in the form's order. It has no control
  for `shouldControlAlert`.
-/

namespace VxlanMtd

namespace VMTDSettings

-- ---------------------------------------------------------------------------
-- JSON
-- ---------------------------------------------------------------------------

/-- The assignments `toJson` makes. -/
def assignments (s : VMTDSettings) : List (String × QJsonValue) :=
  [("nodeType", .ofInt s.nodeType.toInt),
   ("systemName", .string s.systemName),
   ("debugName", .string s.debugName),
   ("shouldShowDebug", .bool s.shouldShowDebug),
   ("dbName", .string s.dbName),
   ("shouldCheckOnline", .bool s.shouldCheckOnline),
   ("shouldUseReconfigTimer", .bool s.shouldUseReconfigTimer),
   ("reconfigInterval", .ofInt s.reconfigInterval),
   ("shouldRandomizeVlan", .bool s.shouldRandomizeVlan),
   ("defaultVlanId", .ofInt s.defaultVlanId),
   ("minVlanId", .ofInt s.minVlanId),
   ("maxVlanId", .ofInt s.maxVlanId),
   ("shouldRandomizeNetwork", .bool s.shouldRandomizeNetwork),
   ("shouldRandomizeGateway", .bool s.shouldRandomizeGateway),
   ("shouldRandomizeParticipant", .bool s.shouldRandomizeParticipant),
   ("netplan1FileName", .string s.netplan1FileName),
   ("netplan2FileName", .string s.netplan2FileName),
   ("shouldControlAlert", .bool s.shouldControlAlert),
   ("alertFilePath", .string s.alertFilePath),
   ("alertDelayInterval", .ofInt s.alertDelayInterval),
   ("shouldCollectAlert", .bool s.shouldCollectAlert),
   ("alertCollectInterval", .ofInt s.alertCollectInterval),
   ("exclusionRule", .ofInt s.exclusionRule.toInt),
   ("exclusionConfigCount", .ofInt s.exclusionConfigCount),
   ("localPort", .ofInt s.localPort),
   ("serverIp", .string s.serverIp),
   ("serverPort", .ofInt s.serverPort),
   ("shouldReconnect", .bool s.shouldReconnect),
   ("reconnectInterval", .ofInt s.reconnectInterval),
   ("shouldCheckConnection", .bool s.shouldCheckConnection),
   ("checkConnectionInterval", .ofInt s.checkConnectionInterval),
   ("checkQueueInterval", .ofInt s.checkQueueInterval),
   ("ticketTimeoutInterval", .ofInt s.ticketTimeoutInterval)]

/-- `VMTDSettings::toJson`. -/
def toJson (s : VMTDSettings) : QJsonObject :=
  QJsonObject.insertAll [] s.assignments

/-- A `bool` as the default of an `int`. -/
def boolToInt (b : Bool) : Int := if b then 1 else 0

/-- The reads `fromJson` makes. `shouldCollectAlert` is read with `toInt`,
though it is written as a JSON boolean. -/
def readFields (s : VMTDSettings) (o : QJsonObject) : VMTDSettings where
  nodeType := .ofInt ((o.value "nodeType").toIntOr s.nodeType.toInt)
  systemName := s.systemName
  debugName := (o.value "debugName").toStringOr s.debugName
  shouldShowDebug := (o.value "shouldShowDebug").toBoolOr s.shouldShowDebug
  dbName := (o.value "dbName").toStringOr s.dbName
  shouldCheckOnline := (o.value "shouldCheckOnline").toBoolOr s.shouldCheckOnline
  shouldUseReconfigTimer :=
    (o.value "shouldUseReconfigTimer").toBoolOr s.shouldUseReconfigTimer
  reconfigInterval := (o.value "reconfigInterval").toIntOr s.reconfigInterval
  shouldRandomizeVlan := (o.value "shouldRandomizeVlan").toBoolOr s.shouldRandomizeVlan
  defaultVlanId := (o.value "defaultVlanId").toIntOr s.defaultVlanId
  minVlanId := (o.value "minVlanId").toIntOr s.minVlanId
  maxVlanId := (o.value "maxVlanId").toIntOr s.maxVlanId
  shouldRandomizeNetwork :=
    (o.value "shouldRandomizeNetwork").toBoolOr s.shouldRandomizeNetwork
  shouldRandomizeGateway :=
    (o.value "shouldRandomizeGateway").toBoolOr s.shouldRandomizeGateway
  shouldRandomizeParticipant :=
    (o.value "shouldRandomizeParticipant").toBoolOr s.shouldRandomizeParticipant
  netplan1FileName := (o.value "netplan1FileName").toStringOr s.netplan1FileName
  netplan2FileName := (o.value "netplan2FileName").toStringOr s.netplan2FileName
  shouldControlAlert := (o.value "shouldControlAlert").toBoolOr s.shouldControlAlert
  alertFilePath := (o.value "alertFilePath").toStringOr s.alertFilePath
  alertDelayInterval := (o.value "alertDelayInterval").toIntOr s.alertDelayInterval
  shouldCollectAlert :=
    (o.value "shouldCollectAlert").toIntOr (boolToInt s.shouldCollectAlert) != 0
  alertCollectInterval := (o.value "alertCollectInterval").toIntOr s.alertCollectInterval
  exclusionRule := .ofInt ((o.value "exclusionRule").toIntOr s.exclusionRule.toInt)
  exclusionConfigCount := (o.value "exclusionConfigCount").toIntOr s.exclusionConfigCount
  localPort := (o.value "localPort").toIntOr s.localPort
  serverIp := (o.value "serverIp").toStringOr s.serverIp
  serverPort := (o.value "serverPort").toIntOr s.serverPort
  shouldReconnect := (o.value "shouldReconnect").toBoolOr s.shouldReconnect
  reconnectInterval := (o.value "reconnectInterval").toIntOr s.reconnectInterval
  shouldCheckConnection :=
    (o.value "shouldCheckConnection").toBoolOr s.shouldCheckConnection
  checkConnectionInterval :=
    (o.value "checkConnectionInterval").toIntOr s.checkConnectionInterval
  checkQueueInterval := (o.value "checkQueueInterval").toIntOr s.checkQueueInterval
  ticketTimeoutInterval :=
    (o.value "ticketTimeoutInterval").toIntOr s.ticketTimeoutInterval

/-- `VMTDSettings::fromJson`. -/
def fromJson (s : VMTDSettings) (o : QJsonObject) : VMTDSettings :=
  if o.isEmpty then s else s.readFields o

end VMTDSettings

-- ---------------------------------------------------------------------------
-- The object and its setters
-- ---------------------------------------------------------------------------

/-- A `VMTDSettings` object: its fields and `m_shouldBeRestarted`. -/
structure SettingsObject where
  fields : VMTDSettings
  shouldBeRestarted : Bool := false
  deriving DecidableEq

namespace SettingsObject

/-- A setter that only assigns. -/
def assign (o : SettingsObject) (f : VMTDSettings → VMTDSettings) : SettingsObject :=
  { o with fields := f o.fields }

/-- A setter that, if the value changes, assigns and asks for a restart. -/
def assignRestarting {α : Type} [DecidableEq α] (o : SettingsObject)
    (get : VMTDSettings → α) (value : α) (f : VMTDSettings → VMTDSettings) : SettingsObject :=
  if get o.fields ≠ value then { fields := f o.fields, shouldBeRestarted := true } else o

def setNodeType (o : SettingsObject) (nodeType : EnNodeType) : SettingsObject :=
  o.assignRestarting (·.nodeType) nodeType ({ · with nodeType := nodeType })

def setDebugName (o : SettingsObject) (debugName : String) : SettingsObject :=
  o.assign ({ · with debugName := debugName })

def setShouldShowDebug (o : SettingsObject) (shouldShowDebug : Bool) : SettingsObject :=
  o.assign ({ · with shouldShowDebug := shouldShowDebug })

def setDbName (o : SettingsObject) (dbName : String) : SettingsObject :=
  o.assign ({ · with dbName := dbName })

def setShouldCheckOnline (o : SettingsObject) (shouldCheckOnline : Bool) : SettingsObject :=
  o.assign ({ · with shouldCheckOnline := shouldCheckOnline })

def setShouldUseReconfigTimer (o : SettingsObject) (shouldUseReconfigTimer : Bool) :
    SettingsObject :=
  o.assignRestarting (·.shouldUseReconfigTimer) shouldUseReconfigTimer
    ({ · with shouldUseReconfigTimer := shouldUseReconfigTimer })

def setReconfigInterval (o : SettingsObject) (reconfigInterval : Int) : SettingsObject :=
  o.assignRestarting (·.reconfigInterval) reconfigInterval
    ({ · with reconfigInterval := reconfigInterval })

def setShouldRandomizeVlan (o : SettingsObject) (shouldRandomizeVlan : Bool) :
    SettingsObject :=
  o.assign ({ · with shouldRandomizeVlan := shouldRandomizeVlan })

def setDefaultVlanId (o : SettingsObject) (defaultVlanId : Int) : SettingsObject :=
  o.assign ({ · with defaultVlanId := defaultVlanId })

def setMinVlanId (o : SettingsObject) (minVlanId : Int) : SettingsObject :=
  if minVlanId > o.fields.maxVlanId then o
  else o.assign ({ · with minVlanId := minVlanId })

def setMaxVlanId (o : SettingsObject) (maxVlanId : Int) : SettingsObject :=
  if maxVlanId < o.fields.minVlanId then o
  else o.assign ({ · with maxVlanId := maxVlanId })

def setShouldRandomizeNetwork (o : SettingsObject) (shouldRandomizeNetwork : Bool) :
    SettingsObject :=
  o.assign ({ · with shouldRandomizeNetwork := shouldRandomizeNetwork })

def setShouldRandomizeGateway (o : SettingsObject) (shouldRandomizeGateway : Bool) :
    SettingsObject :=
  o.assign ({ · with shouldRandomizeGateway := shouldRandomizeGateway })

def setShouldRandomizeParticipant (o : SettingsObject) (shouldRandomizeParticipant : Bool) :
    SettingsObject :=
  o.assign ({ · with shouldRandomizeParticipant := shouldRandomizeParticipant })

def setNetplan1FileName (o : SettingsObject) (netplan1FileName : String) : SettingsObject :=
  o.assign ({ · with netplan1FileName := netplan1FileName })

def setNetplan2FileName (o : SettingsObject) (netplan2FileName : String) : SettingsObject :=
  o.assign ({ · with netplan2FileName := netplan2FileName })

def setShouldControlAlert (o : SettingsObject) (shouldControlAlert : Bool) : SettingsObject :=
  o.assignRestarting (·.shouldControlAlert) shouldControlAlert
    ({ · with shouldControlAlert := shouldControlAlert })

def setAlertFilePath (o : SettingsObject) (alertFilePath : String) : SettingsObject :=
  o.assignRestarting (·.alertFilePath) alertFilePath
    ({ · with alertFilePath := alertFilePath })

def setAlertDelayInterval (o : SettingsObject) (alertDelayInterval : Int) : SettingsObject :=
  o.assign ({ · with alertDelayInterval := alertDelayInterval })

def setShouldCollectAlert (o : SettingsObject) (shouldCollectAlert : Bool) : SettingsObject :=
  o.assignRestarting (·.shouldCollectAlert) shouldCollectAlert
    ({ · with shouldCollectAlert := shouldCollectAlert })

def setAlertCollectInterval (o : SettingsObject) (alertCollectInterval : Int) :
    SettingsObject :=
  o.assignRestarting (·.alertCollectInterval) alertCollectInterval
    ({ · with alertCollectInterval := alertCollectInterval })

def setExclusionRule (o : SettingsObject) (exclusionRule : EnExclusionRule) : SettingsObject :=
  o.assign ({ · with exclusionRule := exclusionRule })

def setExclusionConfigCount (o : SettingsObject) (exclusionConfigCount : Int) :
    SettingsObject :=
  o.assign ({ · with exclusionConfigCount := exclusionConfigCount })

def setLocalPort (o : SettingsObject) (localPort : Int) : SettingsObject :=
  o.assignRestarting (·.localPort) localPort ({ · with localPort := localPort })

def setServerIp (o : SettingsObject) (serverIp : String) : SettingsObject :=
  o.assignRestarting (·.serverIp) serverIp ({ · with serverIp := serverIp })

def setServerPort (o : SettingsObject) (serverPort : Int) : SettingsObject :=
  o.assignRestarting (·.serverPort) serverPort ({ · with serverPort := serverPort })

def setShouldReconnect (o : SettingsObject) (shouldReconnect : Bool) : SettingsObject :=
  o.assignRestarting (·.shouldReconnect) shouldReconnect
    ({ · with shouldReconnect := shouldReconnect })

def setReconnectInterval (o : SettingsObject) (reconnectInterval : Int) : SettingsObject :=
  o.assignRestarting (·.reconnectInterval) reconnectInterval
    ({ · with reconnectInterval := reconnectInterval })

def setShouldCheckConnection (o : SettingsObject) (shouldCheckConnection : Bool) :
    SettingsObject :=
  o.assign ({ · with shouldCheckConnection := shouldCheckConnection })

def setCheckConnectionInterval (o : SettingsObject) (checkConnectionInterval : Int) :
    SettingsObject :=
  o.assignRestarting (·.checkConnectionInterval) checkConnectionInterval
    ({ · with checkConnectionInterval := checkConnectionInterval })

def setTicketTimeoutInterval (o : SettingsObject) (ticketTimeoutInterval : Int) :
    SettingsObject :=
  o.assignRestarting (·.ticketTimeoutInterval) ticketTimeoutInterval
    ({ · with ticketTimeoutInterval := ticketTimeoutInterval })

def setCheckQueueInterval (o : SettingsObject) (checkQueueInterval : Int) : SettingsObject :=
  o.assignRestarting (·.checkQueueInterval) checkQueueInterval
    ({ · with checkQueueInterval := checkQueueInterval })

/-- `VMTDSettings::fromJson` on the object: it leaves the flag alone. -/
def fromJson (o : SettingsObject) (json : QJsonObject) : SettingsObject :=
  o.assign (·.fromJson json)

/-- `VMTDSettings::apply`: the object afterwards, and whether `restartSignal`
was emitted. -/
def apply (o : SettingsObject) : SettingsObject × Bool :=
  if o.shouldBeRestarted then ({ o with shouldBeRestarted := false }, true) else (o, false)

/-- `VMTDSettingsForm::updateData`, with the values `view` in the form's
controls. -/
def updateData (o : SettingsObject) (view : VMTDSettings) : SettingsObject :=
  o |>.setNodeType view.nodeType
    |>.setDebugName view.debugName
    |>.setShouldShowDebug view.shouldShowDebug
    |>.setDbName view.dbName
    |>.setShouldCheckOnline view.shouldCheckOnline
    |>.setShouldUseReconfigTimer view.shouldUseReconfigTimer
    |>.setReconfigInterval view.reconfigInterval
    |>.setShouldRandomizeVlan view.shouldRandomizeVlan
    |>.setDefaultVlanId view.defaultVlanId
    |>.setMinVlanId view.minVlanId
    |>.setMaxVlanId view.maxVlanId
    |>.setShouldRandomizeNetwork view.shouldRandomizeNetwork
    |>.setShouldRandomizeGateway view.shouldRandomizeGateway
    |>.setShouldRandomizeParticipant view.shouldRandomizeParticipant
    |>.setNetplan1FileName view.netplan1FileName
    |>.setNetplan2FileName view.netplan2FileName
    |>.setAlertFilePath view.alertFilePath
    |>.setAlertDelayInterval view.alertDelayInterval
    |>.setShouldCollectAlert view.shouldCollectAlert
    |>.setAlertCollectInterval view.alertCollectInterval
    |>.setExclusionRule view.exclusionRule
    |>.setExclusionConfigCount view.exclusionConfigCount
    |>.setLocalPort view.localPort
    |>.setServerIp view.serverIp
    |>.setServerPort view.serverPort
    |>.setShouldReconnect view.shouldReconnect
    |>.setReconnectInterval view.reconnectInterval
    |>.setShouldCheckConnection view.shouldCheckConnection
    |>.setCheckConnectionInterval view.checkConnectionInterval
    |>.setCheckQueueInterval view.checkQueueInterval
    |>.setTicketTimeoutInterval view.ticketTimeoutInterval

/-- Every setter, called with the values of `t`: the form's, and the one the
form has no control for. -/
def changeInto (o : SettingsObject) (t : VMTDSettings) : SettingsObject :=
  (o.updateData t).setShouldControlAlert t.shouldControlAlert

/-- `restartSignal` is emitted when the flag is set. -/
theorem apply_emits (o : SettingsObject) : o.apply.2 = o.shouldBeRestarted := by
  rw [apply]
  split
  · next h => exact h.symm
  · next h => exact (Bool.not_eq_true _ ▸ h).symm

end SettingsObject

end VxlanMtd
