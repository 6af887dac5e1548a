import Mathlib.Data.Int.Notation

/-!
# Settings

`VMTDSettings`: the values the engine, the device manager, the protocol
handlers and the configurator read, with the defaults of its constructor.
-/

namespace VxlanMtd

/-- `VMTDSettings::EnNodeType`. A scoped enumeration holds any `int`, so a
cast can produce a value that has no name. -/
inductive EnNodeType where
  | client
  | server
  | unnamed (code : Int) (hCode : code ≠ 0 ∧ code ≠ 1)
  deriving DecidableEq

/-- `VMTDSettings::EnExclusionRule`, unnamed values included. -/
inductive EnExclusionRule where
  | never
  | temporarily
  | forever
  | unnamed (code : Int) (hCode : code ≠ 0 ∧ code ≠ 1 ∧ code ≠ 2)
  deriving DecidableEq

namespace EnNodeType

/-- `static_cast<int>`. -/
def toInt : EnNodeType → Int
  | client => 0
  | server => 1
  | unnamed code _ => code

/-- `(EnNodeType)`, the cast from `int`. -/
def ofInt (n : Int) : EnNodeType :=
  if h0 : n = 0 then client
  else if h1 : n = 1 then server
  else unnamed n ⟨h0, h1⟩

/-- The cast gives every value back, unnamed ones included. -/
@[simp] theorem ofInt_toInt (t : EnNodeType) : ofInt t.toInt = t := by
  cases t with
  | client => rfl
  | server => rfl
  | unnamed code hCode => simp [ofInt, toInt, hCode.1, hCode.2]

end EnNodeType

namespace EnExclusionRule

/-- `(int)`. -/
def toInt : EnExclusionRule → Int
  | never => 0
  | temporarily => 1
  | forever => 2
  | unnamed code _ => code

/-- `(EnExclusionRule)`, the cast from `int`. -/
def ofInt (n : Int) : EnExclusionRule :=
  if h0 : n = 0 then never
  else if h1 : n = 1 then temporarily
  else if h2 : n = 2 then forever
  else unnamed n ⟨h0, h1, h2⟩

/-- The cast gives every value back, unnamed ones included. -/
@[simp] theorem ofInt_toInt (r : EnExclusionRule) : ofInt r.toInt = r := by
  cases r with
  | never => rfl
  | temporarily => rfl
  | forever => rfl
  | unnamed code hCode => simp [ofInt, toInt, hCode.1, hCode.2.1, hCode.2.2]

end EnExclusionRule

/-- The persisted fields of `VMTDSettings`. -/
structure VMTDSettings where
  nodeType : EnNodeType := .client
  systemName : String := ""
  debugName : String := "VMTD"
  shouldShowDebug : Bool := true
  dbName : String := "physical_description"
  shouldCheckOnline : Bool := false
  shouldUseReconfigTimer : Bool := false
  reconfigInterval : Int := 60000
  shouldRandomizeVlan : Bool := false
  defaultVlanId : Int := 19
  minVlanId : Int := 20
  maxVlanId : Int := 50
  shouldRandomizeNetwork : Bool := false
  shouldRandomizeGateway : Bool := false
  shouldRandomizeParticipant : Bool := false
  netplan1FileName : String := "02-vmtd-1"
  netplan2FileName : String := "03-vmtd-2"
  shouldControlAlert : Bool := true
  alertFilePath : String := "/var/log/snort/alert"
  alertDelayInterval : Int := 2000
  shouldCollectAlert : Bool := true
  alertCollectInterval : Int := 100
  exclusionRule : EnExclusionRule := .never
  exclusionConfigCount : Int := 10
  localPort : Int := 30001
  serverIp : String := "127.0.0.1"
  serverPort : Int := 30000
  shouldReconnect : Bool := false
  reconnectInterval : Int := 1000
  shouldCheckConnection : Bool := false
  checkConnectionInterval : Int := 100
  checkQueueInterval : Int := 100
  ticketTimeoutInterval : Int := 3000
  deriving DecidableEq

end VxlanMtd
