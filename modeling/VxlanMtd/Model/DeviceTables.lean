import VxlanMtd.Model.DeviceManager

/-!
# The device tables

The tables `Switches` and `Hosts`, whose ids are primary keys, and the join of
the two that `buildParticipants` selects.
-/

namespace VxlanMtd

/-- A row of `Switches`. -/
structure SwitchRecord where
  id : Int
  name : String
  url : String
  username : String
  password : String
  deriving DecidableEq, Repr

/-- A row of `Hosts`. -/
structure HostRecord where
  id : Int
  name : String
  domainName : String
  ip : String
  interface : String
  switchPort : String
  switchId : Int
  deriving DecidableEq, Repr

/-- The two tables. -/
structure DeviceTables where
  switches : List SwitchRecord
  hosts : List HostRecord
  nodup_switches : (switches.map SwitchRecord.id).Nodup
  nodup_hosts : (hosts.map HostRecord.id).Nodup

/-- What the join selects of a host and its switch. -/
def HostRecord.deviceRow (host : HostRecord) (switch : SwitchRecord) : DeviceRow where
  hostId := host.id
  hostName := host.name
  hostDomainName := host.domainName
  hostIp := host.ip
  hostInterface := host.interface
  switchPort := host.switchPort
  switchName := switch.name
  switchUrl := switch.url

/-- `Hosts INNER JOIN Switches ON Switches.id = Hosts.switch_id WHERE Hosts.id >
'0'`. The rows may come in another order. -/
def DeviceTables.join (tables : DeviceTables) : List DeviceRow :=
  (tables.hosts.filter fun host => 0 < host.id).flatMap fun host =>
    (tables.switches.filter fun switch => switch.id = host.switchId).map host.deviceRow

end VxlanMtd
