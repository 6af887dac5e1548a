import VxlanMtd.Lib.Run
import VxlanMtd.Model.Configurator
import VxlanMtd.Model.Engine

/-!
# Scan alerts on a host

The watchdog of a configurator with its alert file: alerts are written to the
file, the watchdog is told about changes, its delay timer ticks, and the
scanners it found are asked for. The node keeps a record of what was extracted
from the file and what was reported.

**`noAlertLost_iff`**: over any sequence of these events, no extracted address
is lost if and only if every read of the file finds all addresses again that are
still waiting in `scanners()`. A read clears the set first — also the read that
is due to the watchdog's own emptying of the file.
-/

namespace VxlanMtd

open EventRun

/-- What became of addresses: found in the alert file, or sent with a reply. -/
inductive ScanRecord where
  | extracted (ips : List String)
  | reported (ips : List String)
  deriving DecidableEq

/-- A configurator, the alert file its watchdog reads, and the records, the
latest first. -/
structure AlertNode where
  configurator : VMTDConfigurator := {}
  alertFile : Option String := some ""
  records : List ScanRecord := []

/-- What can happen to it. -/
inductive AlertEvent where
  | alertsWritten (alerts : String)
  | fileChanged
  | delayTimerTick
  | methodCalled (method : String) (params : QJsonObject)

namespace VMTDWatchdog

/-- The addresses `fileChangedSlot` extracts, if it reads the file. -/
def extractedByChange (alertFile : Option String) (watchdog : VMTDWatchdog) :
    Option (List String) :=
  if watchdog.shouldWait then none else alertFile.map srcIps

/-- The addresses `delayTimerTickSlot` extracts. The timer ticks only while it
is active. -/
def extractedByTick (alertFile : Option String) (watchdog : VMTDWatchdog) :
    Option (List String) :=
  if watchdog.isDelayTimerActive ∧ watchdog.shouldCheck then alertFile.map srcIps else none

theorem mem_foldl_insert {ips : List String} {ip : String} (scanners : List String) :
    ip ∈ ips.foldl (fun scanners srcIp => scanners.insert srcIp) scanners ↔
      ip ∈ scanners ∨ ip ∈ ips := by
  induction ips generalizing scanners with
  | nil => simp
  | cons srcIp ips ih =>
    rw [List.foldl_cons, ih, List.mem_insert_iff, List.mem_cons]
    tauto

/-- A change of the file: either the set is replaced by what was extracted, or
it stays. -/
theorem mem_scanners_fileChangedSlot (alertFile : Option String) (watchdog : VMTDWatchdog)
    (ip : String) :
    ip ∈ (watchdog.fileChangedSlot alertFile).1.scanners ↔
      match watchdog.extractedByChange alertFile with
      | some ips => ip ∈ ips
      | none => ip ∈ watchdog.scanners := by
  unfold fileChangedSlot extractedByChange
  split
  · exact Iff.rfl
  · cases alertFile with
    | none => exact Iff.rfl
    | some alertContent =>
      show ip ∈ List.foldl _ [] (srcIps alertContent) ↔ ip ∈ srcIps alertContent
      rw [mem_foldl_insert]
      simp

theorem mem_scanners_delayTimerTickSlot {alertFile : Option String} {watchdog : VMTDWatchdog}
    (hActive : watchdog.isDelayTimerActive = true) (ip : String) :
    ip ∈ (watchdog.delayTimerTickSlot alertFile).1.scanners ↔
      match watchdog.extractedByTick alertFile with
      | some ips => ip ∈ ips
      | none => ip ∈ watchdog.scanners := by
  unfold delayTimerTickSlot extractedByTick
  dsimp only
  split
  · rename_i hCheck
    -- a pending check reads the file like a change does
    rw [mem_scanners_fileChangedSlot, if_pos ⟨hActive, hCheck⟩]
    rfl
  · rename_i hCheck
    rw [if_neg fun h => hCheck h.2]

end VMTDWatchdog

namespace AlertNode

/-- The addresses an event extracts from the alert file, if it reads it. -/
def extracted (node : AlertNode) : AlertEvent → Option (List String)
  | .fileChanged => node.configurator.watchdog.extractedByChange node.alertFile
  | .delayTimerTick => node.configurator.watchdog.extractedByTick node.alertFile
  | _ => none

/-- The node with another watchdog and alert file. -/
def withWatchdog (node : AlertNode) (next : VMTDWatchdog × Option String) : AlertNode :=
  { node with
    configurator := { node.configurator with watchdog := next.1 }
    alertFile := next.2 }

/-- The node, with a record of what was extracted. -/
def record (node : AlertNode) : Option (List String) → AlertNode
  | some ips => { node with records := .extracted ips :: node.records }
  | none => node

/-- One event. -/
def step (node : AlertNode) (event : AlertEvent) : AlertNode :=
  match event with
  | .alertsWritten alerts => { node with alertFile := some (node.alertFile.getD "" ++ alerts) }
  | .fileChanged =>
    (node.withWatchdog (node.configurator.watchdog.fileChangedSlot node.alertFile)).record
      (node.extracted event)
  | .delayTimerTick =>
    if node.configurator.watchdog.isDelayTimerActive then
      (node.withWatchdog (node.configurator.watchdog.delayTimerTickSlot node.alertFile)).record
        (node.extracted event)
    else node
  | .methodCalled method params =>
    let handled := node.configurator.handleMethodSlot method params
    { node with
      configurator := handled.configurator
      records := .reported (VMTDEngine.scannerIps handled.result) :: node.records }

/-- `scanners()`. -/
def scanners (node : AlertNode) : List String := node.configurator.watchdog.scanners

/-- Each extracted address was reported later, or is still in `scanners()`. -/
def NoAlertLost (node : AlertNode) : Prop :=
  ∀ after ips before, node.records = after ++ .extracted ips :: before →
    ∀ ip ∈ ips, (∃ reply, .reported reply ∈ after ∧ ip ∈ reply) ∨ ip ∈ node.scanners

/-- A read finds all addresses again that are still waiting. -/
def FindsWaiting (node : AlertNode) (event : AlertEvent) : Prop :=
  ∀ ips, node.extracted event = some ips → ∀ ip ∈ node.scanners, ip ∈ ips

-- ---------------------------------------------------------------------------
-- Addresses still to be reported
-- ---------------------------------------------------------------------------

/-- The address was extracted, and no later reply has it. -/
def Owed (records : List ScanRecord) (ip : String) : Prop :=
  ∃ after ips before, records = after ++ .extracted ips :: before ∧ ip ∈ ips ∧
    ∀ reply, .reported reply ∈ after → ip ∉ reply

theorem owed_extracted {records : List ScanRecord} {ips : List String} {ip : String} :
    Owed (.extracted ips :: records) ip ↔ ip ∈ ips ∨ Owed records ip := by
  constructor
  · rintro ⟨after, ips', before, hSplit, hIp, hReply⟩
    cases after with
    | nil =>
      obtain ⟨hEq, -⟩ := List.cons_eq_cons.mp hSplit
      exact Or.inl (ScanRecord.extracted.inj hEq ▸ hIp)
    | cons latest after =>
      obtain ⟨-, hSplit⟩ := List.cons_eq_cons.mp hSplit
      exact Or.inr ⟨after, ips', before, hSplit, hIp,
        fun reply hMem => hReply reply (List.mem_cons_of_mem _ hMem)⟩
  · rintro (hIp | ⟨after, ips', before, rfl, hIp, hReply⟩)
    · exact ⟨[], ips, records, rfl, hIp, fun reply hMem => absurd hMem List.not_mem_nil⟩
    · refine ⟨.extracted ips :: after, ips', before, rfl, hIp, fun reply hMem => ?_⟩
      rcases List.mem_cons.mp hMem with hEq | hMem
      · cases hEq
      · exact hReply reply hMem

theorem owed_reported {records : List ScanRecord} {reply : List String} {ip : String} :
    Owed (.reported reply :: records) ip ↔ ip ∉ reply ∧ Owed records ip := by
  constructor
  · rintro ⟨after, ips, before, hSplit, hIp, hReply⟩
    cases after with
    | nil => cases (List.cons_eq_cons.mp hSplit).1
    | cons latest after =>
      obtain ⟨hLatest, hRest⟩ := List.cons_eq_cons.mp hSplit
      exact ⟨hReply reply (hLatest ▸ List.mem_cons_self), after, ips, before, hRest, hIp,
        fun reply' hMem => hReply reply' (List.mem_cons_of_mem _ hMem)⟩
  · rintro ⟨hNotIn, after, ips, before, rfl, hIp, hReply⟩
    refine ⟨.reported reply :: after, ips, before, rfl, hIp, fun reply' hMem => ?_⟩
    rcases List.mem_cons.mp hMem with hEq | hMem
    · exact ScanRecord.reported.inj hEq ▸ hNotIn
    · exact hReply reply' hMem

/-- Nothing is lost if what is owed is still there. -/
theorem noAlertLost_iff_owed {node : AlertNode} :
    node.NoAlertLost ↔ ∀ ip, Owed node.records ip → ip ∈ node.scanners := by
  constructor
  · rintro hLost ip ⟨after, ips, before, hSplit, hIp, hReply⟩
    rcases hLost after ips before hSplit ip hIp with ⟨reply, hMem, hIn⟩ | hIn
    · exact absurd hIn (hReply reply hMem)
    · exact hIn
  · intro hOwed after ips before hSplit ip hIp
    by_cases hReply : ∃ reply, .reported reply ∈ after ∧ ip ∈ reply
    · exact Or.inl hReply
    · refine Or.inr (hOwed ip ⟨after, ips, before, hSplit, hIp, fun reply hMem hIn => ?_⟩)
      exact hReply ⟨reply, hMem, hIn⟩

-- ---------------------------------------------------------------------------
-- Steps
-- ---------------------------------------------------------------------------

/-- The engine reads a reply to `getScanners` as the addresses in it. -/
theorem scannerIps_handleGetScanners (configurator : VMTDConfigurator) :
    VMTDEngine.scannerIps configurator.handleGetScanners.result =
      configurator.watchdog.scanners := by
  have hArray : ∀ a, (QJsonValue.array a).isUndefined = false := fun _ => rfl
  have hString : ∀ s, (QJsonValue.string s).isUndefined = false := fun _ => rfl
  unfold VMTDEngine.scannerIps VMTDConfigurator.handleGetScanners
  dsimp only
  rw [QJsonValue.toObject_object, QJsonObject.contains_insert _ _ (hArray _),
    QJsonObject.value_insert _ _ (hArray _)]
  refine (if_pos rfl).trans ?_
  rw [QJsonValue.toArray_array, List.map_map]
  refine (List.map_congr_left fun ip _ => ?_).trans (List.map_id _)
  show (QJsonObject.value (QJsonObject.insert [] EnParamName.ip.text (.string ip))
    EnParamName.ip.text).toString = ip
  rw [QJsonObject.value_insert _ _ (hString _), QJsonValue.toString_string]

/-- A method call takes exactly the reported addresses out of the set. -/
theorem mem_scanners_handleMethodSlot (configurator : VMTDConfigurator) (method : String)
    (params : QJsonObject) (ip : String) :
    ip ∈ (configurator.handleMethodSlot method params).configurator.watchdog.scanners ↔
      ip ∉ VMTDEngine.scannerIps (configurator.handleMethodSlot method params).result ∧
        ip ∈ configurator.watchdog.scanners := by
  by_cases hGet : method = EnName.getScanners.text
  · subst hGet
    rw [VMTDConfigurator.handleMethodSlot_text]
    dsimp only
    rw [scannerIps_handleGetScanners]
    exact ⟨fun hMem => absurd hMem List.not_mem_nil, fun h => absurd h.2 h.1⟩
  · -- no other method returns addresses or touches the watchdog
    obtain ⟨hWatchdog, b, hResult⟩ := configurator.watchdog_handleMethodSlot hGet params
    rw [hWatchdog, hResult]
    exact ⟨fun hMem => ⟨List.not_mem_nil, hMem⟩, fun h => h.2⟩

/-- What an event does to the set and the records: nothing, a read, or a
reply. -/
theorem step_cases (node : AlertNode) (event : AlertEvent) :
    (node.extracted event = none ∧ (node.step event).records = node.records ∧
      ∀ ip, ip ∈ (node.step event).scanners ↔ ip ∈ node.scanners) ∨
    (∃ ips, node.extracted event = some ips ∧
      (node.step event).records = .extracted ips :: node.records ∧
      ∀ ip, ip ∈ (node.step event).scanners ↔ ip ∈ ips) ∨
    (node.extracted event = none ∧ ∃ reply,
      (node.step event).records = .reported reply :: node.records ∧
      ∀ ip, ip ∈ (node.step event).scanners ↔ ip ∉ reply ∧ ip ∈ node.scanners) := by
  cases event with
  | alertsWritten alerts => exact Or.inl ⟨rfl, rfl, fun ip => Iff.rfl⟩
  | methodCalled method params =>
    exact Or.inr (Or.inr ⟨rfl, _, rfl, mem_scanners_handleMethodSlot node.configurator method params⟩)
  | fileChanged =>
    have hMem := VMTDWatchdog.mem_scanners_fileChangedSlot node.alertFile
      node.configurator.watchdog
    have hExtracted : node.extracted .fileChanged =
        node.configurator.watchdog.extractedByChange node.alertFile := rfl
    unfold step
    dsimp only
    rw [hExtracted]
    cases hReads : node.configurator.watchdog.extractedByChange node.alertFile with
    | none =>
      rw [hReads] at hMem
      exact Or.inl ⟨rfl, rfl, hMem⟩
    | some ips =>
      rw [hReads] at hMem
      exact Or.inr (Or.inl ⟨ips, rfl, rfl, hMem⟩)
  | delayTimerTick =>
    have hExtracted : node.extracted .delayTimerTick =
        node.configurator.watchdog.extractedByTick node.alertFile := rfl
    unfold step
    dsimp only
    rw [hExtracted]
    split
    · rename_i hActive
      have hMem := @VMTDWatchdog.mem_scanners_delayTimerTickSlot node.alertFile
        node.configurator.watchdog hActive
      cases hReads : node.configurator.watchdog.extractedByTick node.alertFile with
      | none =>
        rw [hReads] at hMem
        exact Or.inl ⟨rfl, rfl, hMem⟩
      | some ips =>
        rw [hReads] at hMem
        exact Or.inr (Or.inl ⟨ips, rfl, rfl, hMem⟩)
    · rename_i hInactive
      refine Or.inl ⟨?_, rfl, fun ip => Iff.rfl⟩
      rw [VMTDWatchdog.extractedByTick, if_neg fun h => hInactive h.1]

/-- The set holds exactly what is owed. -/
def Settled (node : AlertNode) : Prop := ∀ ip, ip ∈ node.scanners ↔ Owed node.records ip

/-- Where the set holds what is owed, an event loses nothing exactly when a
read finds everything that is waiting. -/
theorem noAlertLost_step_iff {node : AlertNode} (hSettled : node.Settled) (event : AlertEvent) :
    (node.step event).NoAlertLost ↔ node.FindsWaiting event := by
  rw [noAlertLost_iff_owed]
  rcases step_cases node event with ⟨hNone, hRecords, hScanners⟩ |
    ⟨ips, hSome, hRecords, hScanners⟩ | ⟨hNone, reply, hRecords, hScanners⟩
  · refine iff_of_true (fun ip hOwed => ?_) fun ips hSome => ?_
    · rw [hRecords] at hOwed
      exact (hScanners ip).mpr ((hSettled ip).mpr hOwed)
    · rw [hNone] at hSome
      cases hSome
  · -- what was owed before is in the set afterwards only if it was read again
    constructor
    · intro hKept ips' hSome' ip hIp
      obtain rfl : ips = ips' := Option.some.inj (hSome.symm.trans hSome')
      refine (hScanners ip).mp (hKept ip ?_)
      rw [hRecords]
      exact owed_extracted.mpr (Or.inr ((hSettled ip).mp hIp))
    · intro hFinds ip hOwed
      rw [hRecords] at hOwed
      refine (hScanners ip).mpr ?_
      rcases owed_extracted.mp hOwed with hIp | hOwed
      · exact hIp
      · exact hFinds ips hSome ip ((hSettled ip).mpr hOwed)
  · refine iff_of_true (fun ip hOwed => ?_) fun ips hSome => ?_
    · rw [hRecords] at hOwed
      obtain ⟨hReply, hOwed⟩ := owed_reported.mp hOwed
      exact (hScanners ip).mpr ⟨hReply, (hSettled ip).mpr hOwed⟩
    · rw [hNone] at hSome
      cases hSome

theorem settled_step {node : AlertNode} (hSettled : node.Settled) {event : AlertEvent}
    (hFinds : node.FindsWaiting event) : (node.step event).Settled := by
  intro ip
  rcases step_cases node event with ⟨-, hRecords, hScanners⟩ |
    ⟨ips, hSome, hRecords, hScanners⟩ | ⟨-, reply, hRecords, hScanners⟩
  · rw [hScanners, hRecords, hSettled]
  · rw [hScanners, hRecords, owed_extracted, ← hSettled]
    exact ⟨Or.inl, fun h => h.elim id (hFinds ips hSome ip)⟩
  · rw [hScanners, hRecords, owed_reported, hSettled]

/-- A node whose watchdog has found nothing yet. -/
def start (configurator : VMTDConfigurator) (alertFile : Option String) : AlertNode where
  configurator := { configurator with watchdog := {} }
  alertFile := alertFile

end AlertNode

/-- **No scan alert is lost**, exactly: over any events no extracted address is
lost if and only if each read finds the waiting addresses again. -/
theorem noAlertLost_iff (configurator : VMTDConfigurator) (alertFile : Option String)
    (events : List AlertEvent) :
    Along AlertNode.step (fun node event => (node.step event).NoAlertLost)
        (AlertNode.start configurator alertFile) events ↔
      Along AlertNode.step AlertNode.FindsWaiting (AlertNode.start configurator alertFile)
        events := by
  have hStart : (AlertNode.start configurator alertFile).Settled := by
    refine fun ip => iff_of_false List.not_mem_nil ?_
    rintro ⟨after, ips, before, hSplit, -⟩
    exact List.cons_ne_nil _ _ (List.append_eq_nil_iff.mp hSplit.symm).2
  refine along_iff_of_invariant hStart ?_ ?_
  · exact fun node event hSettled => AlertNode.noAlertLost_step_iff hSettled event
  · exact fun node event hSettled hFinds => AlertNode.settled_step hSettled hFinds

/-- An alert of a scan. -/
def scanAlert : String := "08/21-10:15:30.5 100.100.1.7:40000 -> 100.100.1.2:22\n"

/-- The watchdog empties the file, is told about that, and looks again when the
timer is up: the address it found is gone. -/
theorem own_truncation_loses_alert :
    ¬ ∀ (configurator : VMTDConfigurator) (alertFile : Option String) (events : List AlertEvent),
        Along AlertNode.step (fun node event => (node.step event).NoAlertLost)
          (AlertNode.start configurator alertFile) events := by
  intro hClaim
  have hRun := hClaim {} (some "")
    [.alertsWritten scanAlert, .fileChanged, .fileChanged, .delayTimerTick]
  have hRecords : (run AlertNode.step (AlertNode.start {} (some ""))
      [.alertsWritten scanAlert, .fileChanged, .fileChanged, .delayTimerTick]).records =
        [.extracted []] ++ .extracted ["100.100.1.7"] :: [] := by
    decide +kernel
  have hScanners : "100.100.1.7" ∉ (run AlertNode.step (AlertNode.start {} (some ""))
      [.alertsWritten scanAlert, .fileChanged, .fileChanged, .delayTimerTick]).scanners := by
    decide +kernel
  rcases hRun.2.2.2.1 _ _ _ hRecords "100.100.1.7" List.mem_cons_self with ⟨reply, hMem, -⟩ | hMem
  · cases List.mem_singleton.mp hMem
  · exact hScanners hMem

end VxlanMtd
