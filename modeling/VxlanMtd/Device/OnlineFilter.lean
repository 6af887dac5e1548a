import VxlanMtd.Lib.Table
import VxlanMtd.Model.DeviceTables

/-!
# The online filter

Which hosts `buildParticipants` admits after any sequence of online and offline
reports, for any contents of the device tables.

* `join_eq` — the join has every host with an id above 0 and an existing
  switch, once;
* `ipOnline_after`, `urlOnline_after` — the maps hold the latest report of every
  key;
* **`onlineFilter_iff`** — the participants are the hosts that are online, by
  the latest reports, if and only if online does not matter or no host with
  reports on itself and on its switch has an offline one as the latest.
-/

namespace VxlanMtd

-- ---------------------------------------------------------------------------
-- The join
-- ---------------------------------------------------------------------------

namespace DeviceTables

variable {tables : DeviceTables}

/-- The switch of a host. -/
def switch? (tables : DeviceTables) (host : HostRecord) : Option SwitchRecord :=
  tables.switches.find? fun switch => switch.id = host.switchId

/-- The hosts that count, with their switches: an id above 0, and a switch that
exists. -/
def deviceRows (tables : DeviceTables) : List DeviceRow :=
  tables.hosts.filterMap fun host =>
    if 0 < host.id then (tables.switch? host).map host.deviceRow else none

/-- A switch id occurs once. -/
theorem filter_eq_find? {switches : List SwitchRecord}
    (hNodup : (switches.map SwitchRecord.id).Nodup) (id : Int) :
    switches.filter (fun switch => switch.id = id) =
      (switches.find? fun switch => switch.id = id).toList := by
  induction switches with
  | nil => rfl
  | cons switch switches ih =>
    obtain ⟨hNew, hRest⟩ := List.nodup_cons.mp hNodup
    by_cases hId : switch.id = id
    · -- no later switch has the same id
      have hNone : switches.filter (fun switch => switch.id = id) = [] := by
        rw [List.filter_eq_nil_iff]
        intro other hMem hOther
        rw [hId, ← of_decide_eq_true hOther] at hNew
        exact hNew (List.mem_map_of_mem hMem)
      rw [List.filter_cons, if_pos (decide_eq_true hId), hNone, List.find?_cons,
        decide_eq_true hId]
      rfl
    · rw [List.filter_cons, decide_eq_false hId, if_neg Bool.false_ne_true, ih hRest,
        List.find?_cons, decide_eq_false hId]

theorem join_eq (tables : DeviceTables) : tables.join = tables.deviceRows := by
  unfold join deviceRows
  induction tables.hosts with
  | nil => rfl
  | cons host hosts ih =>
    by_cases hId : 0 < host.id
    · rw [List.filter_cons, if_pos (decide_eq_true hId), List.flatMap_cons, ih,
        filter_eq_find? tables.nodup_switches, List.filterMap_cons, if_pos hId]
      unfold switch?
      cases tables.switches.find? fun switch => switch.id = host.switchId <;> rfl
    · rw [List.filter_cons, decide_eq_false hId, if_neg Bool.false_ne_true, ih,
        List.filterMap_cons, if_neg hId]

/-- Every host is there once. -/
theorem nodup_hostId_deviceRows (tables : DeviceTables) :
    (tables.deviceRows.map DeviceRow.hostId).Nodup := by
  refine tables.nodup_hosts.sublist ?_
  unfold deviceRows
  induction tables.hosts with
  | nil => exact List.Sublist.refl _
  | cons host hosts ih =>
    rw [List.filterMap_cons]
    split
    · exact ih.cons _
    · rename_i row hRow
      have hId : row.hostId = host.id := by
        split at hRow
        · obtain ⟨switch, -, rfl⟩ := Option.map_eq_some_iff.mp hRow
          rfl
        · exact nomatch hRow
      rw [List.map_cons, List.map_cons, hId]
      exact ih.cons_cons _

end DeviceTables

-- ---------------------------------------------------------------------------
-- Reports
-- ---------------------------------------------------------------------------

/-- A call of `updateIpOnlineSlot` or `updateUrlOnlineSlot`. -/
inductive OnlineReport where
  | updateIpOnline (ip : String) (isOnline : Bool)
  | updateUrlOnline (url : String) (isOnline : Bool)
  deriving DecidableEq, Repr

namespace OnlineReport

/-- The host reported on. -/
def ofIp : OnlineReport → Option (String × Bool)
  | .updateIpOnline ip isOnline => some (ip, isOnline)
  | .updateUrlOnline _ _ => none

/-- The switch reported on. -/
def ofUrl : OnlineReport → Option (String × Bool)
  | .updateIpOnline _ _ => none
  | .updateUrlOnline url isOnline => some (url, isOnline)

/-- What the device manager makes of a report. -/
def apply (manager : VMTDDeviceManager) : OnlineReport → VMTDDeviceManager
  | .updateIpOnline ip isOnline => manager.updateIpOnlineSlot ip isOnline
  | .updateUrlOnline url isOnline => manager.updateUrlOnlineSlot url isOnline

end OnlineReport

/-- The latest report on a host. -/
def latestIp (reports : List OnlineReport) (ip : String) : Option Bool :=
  (reports.filterMap OnlineReport.ofIp).reverse.lookup ip

/-- The latest report on a switch. -/
def latestUrl (reports : List OnlineReport) (url : String) : Option Bool :=
  (reports.filterMap OnlineReport.ofUrl).reverse.lookup url

/-- The device manager after any reports. -/
def managerAfter (reports : List OnlineReport) : VMTDDeviceManager :=
  reports.foldl OnlineReport.apply {}

/-- Reports on hosts write one map, reports on switches the other. -/
theorem foldl_apply (reports : List OnlineReport) (manager : VMTDDeviceManager) :
    (reports.foldl OnlineReport.apply manager).ipOnline =
      (reports.filterMap OnlineReport.ofIp).foldl
        (fun (f : String → Option Bool) write => Function.update f write.1 (some write.2))
        manager.ipOnline ∧
    (reports.foldl OnlineReport.apply manager).urlOnline =
      (reports.filterMap OnlineReport.ofUrl).foldl
        (fun (f : String → Option Bool) write => Function.update f write.1 (some write.2))
        manager.urlOnline := by
  induction reports generalizing manager with
  | nil => exact ⟨rfl, rfl⟩
  | cons report reports ih =>
    cases report with
    | updateIpOnline ip isOnline => exact ih (manager.updateIpOnlineSlot ip isOnline)
    | updateUrlOnline url isOnline => exact ih (manager.updateUrlOnlineSlot url isOnline)

theorem ipOnline_after (reports : List OnlineReport) (ip : String) :
    (managerAfter reports).ipOnline ip = latestIp reports ip := by
  rw [managerAfter, (foldl_apply reports {}).1, Table.foldl_update]
  exact Option.or_none

theorem urlOnline_after (reports : List OnlineReport) (url : String) :
    (managerAfter reports).urlOnline url = latestUrl reports url := by
  rw [managerAfter, (foldl_apply reports {}).2, Table.foldl_update]
  exact Option.or_none

-- ---------------------------------------------------------------------------
-- The participants
-- ---------------------------------------------------------------------------

/-- A host counts as online: by the latest reports it is, and its switch is. -/
def DeviceRow.isOnline (settings : VMTDSettings) (reports : List OnlineReport) (row : DeviceRow) :
    Bool :=
  !settings.shouldCheckOnline ||
    (latestUrl reports row.switchUrl == some true && latestIp reports row.hostIp == some true)

/-- A host that is let in: there were reports on it and on its switch. -/
def DeviceRow.isReported (settings : VMTDSettings) (reports : List OnlineReport)
    (row : DeviceRow) : Bool :=
  !settings.shouldCheckOnline ||
    ((latestUrl reports row.switchUrl).isSome && (latestIp reports row.hostIp).isSome)

/-- The participants built are exactly the hosts that are online, each once. -/
structure FiltersOnline (settings : VMTDSettings) (tables : DeviceTables)
    (reports : List OnlineReport) (participants : List VMTDParticipant) : Prop where
  perm : participants.Perm ((tables.deviceRows.filter (DeviceRow.isOnline settings reports)).map
    (DeviceRow.participant settings))
  nodup : (participants.map VMTDParticipant.hostId).Nodup

theorem participants_buildParticipants (settings : VMTDSettings) (reports : List OnlineReport)
    (rows : List DeviceRow) :
    ((managerAfter reports).buildParticipants settings rows).participants =
      (rows.filter (DeviceRow.isReported settings reports)).map (DeviceRow.participant settings) := by
  unfold VMTDDeviceManager.buildParticipants
  refine congrArg (List.map _) (List.filter_congr fun row _ => ?_)
  rw [ipOnline_after, urlOnline_after, DeviceRow.isReported, Bool.not_and, Bool.not_or]
  cases latestUrl reports row.switchUrl <;> cases latestIp reports row.hostIp <;> rfl

/-- Whoever is online was reported. -/
theorem isReported_of_isOnline {settings : VMTDSettings} {reports : List OnlineReport}
    {row : DeviceRow} (h : row.isOnline settings reports = true) :
    row.isReported settings reports = true := by
  unfold DeviceRow.isOnline at h
  unfold DeviceRow.isReported
  rcases Bool.or_eq_true_iff.mp h with hAll | hBoth
  · rw [hAll, Bool.true_or]
  · obtain ⟨hUrl, hIp⟩ := Bool.and_eq_true_iff.mp hBoth
    rw [beq_iff_eq.mp hUrl, beq_iff_eq.mp hIp]
    exact Bool.or_true _

/-- Filtering by a weaker condition keeps no more only if the conditions agree on
the list. -/
theorem length_filter_eq_iff {α : Type*} {l : List α} {p q : α → Bool}
    (hWeaker : ∀ a, q a = true → p a = true) :
    (l.filter p).length = (l.filter q).length ↔ ∀ a ∈ l, p a = true → q a = true := by
  have hSame : (l.filter p).filter q = l.filter q := by
    rw [List.filter_filter]
    refine List.filter_congr fun a _ => ?_
    cases hq : q a with
    | true => rw [hWeaker a hq]; rfl
    | false => rfl
  constructor
  · intro hLength a ha hp
    have hAll : (l.filter p).filter q = l.filter p := by
      refine List.filter_sublist.eq_of_length ?_
      rw [hSame, hLength]
    exact (List.filter_eq_self.mp hAll) a (List.mem_filter.mpr ⟨ha, hp⟩)
  · intro hAgree
    refine congrArg List.length (List.filter_congr fun a ha => ?_)
    rw [Bool.eq_iff_iff]
    exact ⟨hAgree a ha, hWeaker a⟩

/-- A reported host is online unless a latest report is an offline one. -/
theorem isOnline_of_isReported_iff (settings : VMTDSettings) (reports : List OnlineReport)
    (row : DeviceRow) :
    (row.isReported settings reports = true → row.isOnline settings reports = true) ↔
      (settings.shouldCheckOnline = true →
        latestUrl reports row.switchUrl ≠ none → latestIp reports row.hostIp ≠ none →
          latestUrl reports row.switchUrl ≠ some false ∧
            latestIp reports row.hostIp ≠ some false) := by
  unfold DeviceRow.isReported DeviceRow.isOnline
  cases settings.shouldCheckOnline with
  | false => simp
  | true =>
    -- no report, an offline one or an online one, on either side
    rcases latestUrl reports row.switchUrl with _ | _ | _ <;>
      rcases latestIp reports row.hostIp with _ | _ | _ <;> decide

/-- **The online filter**, exactly: in whatever order the join comes, the
participants are the hosts that are online by the latest reports, each once, if
and only if online does not matter, or no host with reports on itself and on its
switch has an offline report as the latest of either. -/
theorem onlineFilter_iff (settings : VMTDSettings) (tables : DeviceTables)
    (reports : List OnlineReport) {rows : List DeviceRow} (hRows : rows.Perm tables.join) :
    FiltersOnline settings tables reports
        ((managerAfter reports).buildParticipants settings rows).participants ↔
      (settings.shouldCheckOnline = true → ∀ row ∈ tables.deviceRows,
        latestUrl reports row.switchUrl ≠ none → latestIp reports row.hostIp ≠ none →
          latestUrl reports row.switchUrl ≠ some false ∧
            latestIp reports row.hostIp ≠ some false) := by
  rw [DeviceTables.join_eq] at hRows
  rw [participants_buildParticipants]
  have hPerm : ((rows.filter (DeviceRow.isReported settings reports)).map
      (DeviceRow.participant settings)).Perm
        ((tables.deviceRows.filter (DeviceRow.isReported settings reports)).map
          (DeviceRow.participant settings)) := (hRows.filter _).map _
  have hNodup : (((rows.filter (DeviceRow.isReported settings reports)).map
      (DeviceRow.participant settings)).map VMTDParticipant.hostId).Nodup := by
    rw [List.map_map]
    exact ((hRows.map DeviceRow.hostId).nodup_iff.mpr tables.nodup_hostId_deviceRows).sublist
      (List.filter_sublist.map _)
  have hAgree := @length_filter_eq_iff DeviceRow tables.deviceRows
    (DeviceRow.isReported settings reports) (DeviceRow.isOnline settings reports)
    fun row => isReported_of_isOnline
  have hRow : (∀ row ∈ tables.deviceRows, row.isReported settings reports = true →
      row.isOnline settings reports = true) ↔
        (settings.shouldCheckOnline = true → ∀ row ∈ tables.deviceRows,
          latestUrl reports row.switchUrl ≠ none → latestIp reports row.hostIp ≠ none →
            latestUrl reports row.switchUrl ≠ some false ∧
              latestIp reports row.hostIp ≠ some false) :=
    ⟨fun h hCheck row hMem => (isOnline_of_isReported_iff settings reports row).mp (h row hMem) hCheck,
      fun h row hMem => (isOnline_of_isReported_iff settings reports row).mpr
        fun hCheck => h hCheck row hMem⟩
  rw [← hRow]
  constructor
  · rintro ⟨hOnline, -⟩
    -- as many are let in as are online
    have hLength := (hPerm.symm.trans hOnline).length_eq
    rw [List.length_map, List.length_map] at hLength
    exact hAgree.mp hLength
  · intro hSame
    have hFilter : tables.deviceRows.filter (DeviceRow.isReported settings reports) =
        tables.deviceRows.filter (DeviceRow.isOnline settings reports) :=
      List.filter_congr fun row hMem => Bool.eq_iff_iff.mpr
        ⟨hSame row hMem, isReported_of_isOnline⟩
    exact ⟨hFilter ▸ hPerm, hNodup⟩

/-- One host with its switch. -/
def oneHost : DeviceTables where
  switches := [⟨1, "leaf", "http://leaf", "admin", "admin"⟩]
  hosts := [⟨1, "Node-1", "node1", "10.0.0.1", "eth0", "1/1", 1⟩]
  nodup_switches := by decide
  nodup_hosts := by decide

/-- A host that was online and went offline is still let in. -/
theorem offline_host_is_participant :
    ¬ ∀ (settings : VMTDSettings) (tables : DeviceTables) (reports : List OnlineReport),
        FiltersOnline settings tables reports
          ((managerAfter reports).buildParticipants settings tables.join).participants := by
  intro hClaim
  have hLength := (hClaim { shouldCheckOnline := true } oneHost
    [.updateUrlOnline "http://leaf" true, .updateIpOnline "10.0.0.1" true,
      .updateIpOnline "10.0.0.1" false]).perm.length_eq
  exact absurd hLength (by decide +kernel)

/-- Three hosts with their switch. -/
def threeHosts : DeviceTables where
  switches := oneHost.switches
  hosts := oneHost.hosts ++ [⟨2, "Node-2", "node2", "10.0.0.2", "eth0", "1/2", 1⟩,
    ⟨3, "Node-3", "node3", "10.0.0.3", "eth0", "1/3", 1⟩]
  nodup_switches := by decide
  nodup_hosts := by decide

/-- The first host comes back, the second is reported twice, the third never. -/
def threeHostsReports : List OnlineReport :=
  [.updateIpOnline "10.0.0.1" false, .updateUrlOnline "http://leaf" true,
    .updateIpOnline "10.0.0.2" true, .updateIpOnline "10.0.0.1" true,
    .updateIpOnline "10.0.0.2" true]

/-- The first two are let in, in the order of the join, and the third is not. -/
theorem onlineFilter_threeHosts :
    FiltersOnline { shouldCheckOnline := true } threeHosts threeHostsReports
      ((managerAfter threeHostsReports).buildParticipants { shouldCheckOnline := true }
        threeHosts.join.reverse).participants ∧
    ((managerAfter threeHostsReports).buildParticipants { shouldCheckOnline := true }
      threeHosts.join.reverse).participants.map VMTDParticipant.hostId = [2, 1] := by
  refine ⟨(onlineFilter_iff _ threeHosts _ (List.reverse_perm _)).mpr fun _ row hRow _ _ => ?_,
    by decide +kernel⟩
  revert row
  decide +kernel

end VxlanMtd
