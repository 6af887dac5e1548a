import VxlanMtd.Model.Participant
import VxlanMtd.Model.Settings
import Mathlib.Logic.Function.Basic

/-!
# The device manager

`VMTDDeviceManager`: the participants it builds from the device tables, which
switches and hosts it has heard of, and the table of banned scanners. SQLite is
outside the model: the rows its join of `Hosts` and `Switches` returns are an
input of `buildParticipants`, in the order they come.
-/

namespace VxlanMtd

/-- A row of the join of `Hosts` and `Switches` that `buildParticipants`
reads. -/
structure DeviceRow where
  hostId : Int
  hostName : String
  hostDomainName : String
  hostIp : String
  hostInterface : String
  switchPort : String
  switchName : String
  switchUrl : String
  deriving DecidableEq, Repr

/-- A row of `Banned_scanners`, without its own id. -/
structure BannedScanner where
  hostId : Int
  remaining : Int
  deriving DecidableEq, Repr

/-- `VMTDDeviceManager`. -/
structure VMTDDeviceManager where
  participants : List VMTDParticipant := []
  urlOnline : String → Option Bool := fun _ => none
  ipOnline : String → Option Bool := fun _ => none
  bannedScanners : List BannedScanner := []

/-- The participant of a row. -/
def DeviceRow.participant (settings : VMTDSettings) (row : DeviceRow) : VMTDParticipant where
  hostId := row.hostId
  defaultVlanId := settings.defaultVlanId
  hostName := row.hostName
  hostDomainName := row.hostDomainName
  hostIp := row.hostIp
  hostInterface := row.hostInterface
  switchName := row.switchName
  switchUrl := row.switchUrl
  switchPort := row.switchPort

namespace VMTDDeviceManager

/-- `buildParticipants`. A row is skipped when only online devices count and
its switch or host has never been heard of; what was heard does not matter. -/
def buildParticipants (settings : VMTDSettings) (rows : List DeviceRow)
    (manager : VMTDDeviceManager) : VMTDDeviceManager :=
  { manager with
    participants :=
      (rows.filter fun row =>
        !(settings.shouldCheckOnline &&
          ((manager.urlOnline row.switchUrl).isNone ||
            (manager.ipOnline row.hostIp).isNone))).map (DeviceRow.participant settings) }

/-- `updateUrlOnlineSlot`. -/
def updateUrlOnlineSlot (url : String) (isOnline : Bool) (manager : VMTDDeviceManager) :
    VMTDDeviceManager :=
  { manager with urlOnline := Function.update manager.urlOnline url (some isOnline) }

/-- `updateIpOnlineSlot`. -/
def updateIpOnlineSlot (ip : String) (isOnline : Bool) (manager : VMTDDeviceManager) :
    VMTDDeviceManager :=
  { manager with ipOnline := Function.update manager.ipOnline ip (some isOnline) }

/-- `createBannedScanner` with the id `-1`, its only use: a new row. -/
def createBannedScanner (hostId remaining : Int) (manager : VMTDDeviceManager) :
    VMTDDeviceManager :=
  { manager with bannedScanners := manager.bannedScanners ++ [⟨hostId, remaining⟩] }

/-- No participant has an interface before the engine assigns one. -/
theorem buildParticipants_interfaces {settings : VMTDSettings} {rows : List DeviceRow}
    {manager : VMTDDeviceManager} :
    ∀ p ∈ (buildParticipants settings rows manager).participants,
      p.interface1 = {} ∧ p.interface2 = {} ∧ p.role = .endpoint := by
  intro p hp
  obtain ⟨row, _, rfl⟩ := List.mem_map.mp hp
  exact ⟨rfl, rfl, rfl⟩

end VMTDDeviceManager

end VxlanMtd
