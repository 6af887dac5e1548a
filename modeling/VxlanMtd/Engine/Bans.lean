import VxlanMtd.Engine.Addresses
import VxlanMtd.Lib.Run
import Mathlib.Data.List.Induction

/-!
# Who is banned for a reported address

The engine bans the hosts that own a reported address when the report comes
in. Between the alert and the report a reconfiguration may have moved the
address.

* `handleResultSlot_eq` — the rows a report adds to the table;
* **`banned_attribution`** — along every run, each row goes back to a report,
  and to an address its host held when the report came in, hence also when the
  alert was raised if no `generate` lies in between;
* `banned_after_move` — a run in which it did not.

The address 100.100.0.1 is left out: interfaces that do not exist have it.
-/

namespace VxlanMtd

open EventRun

-- addresses are opaque here; unfolding them would make Lean render templates
attribute [local irreducible] networkText macText PlaceMarker.arg

-- ---------------------------------------------------------------------------
-- Events
-- ---------------------------------------------------------------------------

/-- What happens to the engine: reconfigurations, alerts raised on a node for
the address of a scanner, and results that come back. -/
inductive EngineEvent where
  | generate (settings : VMTDSettings) (rows : List DeviceRow) (draws : Draws)
  | alert (node : Nat) (scannerIp : String)
  | result (settings : VMTDSettings) (value : QJsonValue)

/-- An alert is raised on a node, the engine does not see it. Draws that are no
outcome of the random generator change nothing. -/
def engineStep (engine : VMTDEngine) : EngineEvent → VMTDEngine
  | .generate settings rows draws => (engine.generate settings rows draws).getD engine
  | .alert _ _ => engine
  | .result settings value => engine.handleResultSlot settings value

def EngineEvent.isGenerate : EngineEvent → Bool
  | .generate .. => true
  | _ => false

/-- The engine at start, with the bans its table holds already. -/
def engineAtStart (bans : List BannedScanner) : VMTDEngine := { manager := { bannedScanners := bans } }

/-- A participant holds an address: it is the host's own or that of an existing
interface. -/
def VMTDParticipant.Holds (q : VMTDParticipant) (address : String) : Prop :=
  q.hostIp = address ∨ ∃ i ∈ q.existingInterfaces, i.ip = address

instance (q : VMTDParticipant) (address : String) : Decidable (q.Holds address) :=
  inferInstanceAs (Decidable (_ ∨ ∃ i ∈ q.existingInterfaces, i.ip = address))

-- ---------------------------------------------------------------------------
-- The rows a report adds
-- ---------------------------------------------------------------------------

/-- The rows one address adds. -/
def bansFor (settings : VMTDSettings) (participants : List VMTDParticipant) (scannerIp : String) :
    List BannedScanner :=
  (participants.filter (VMTDEngine.owns · scannerIp)).map fun q =>
    ⟨q.hostId, settings.exclusionConfigCount⟩

theorem banOwners_eq (settings : VMTDSettings) (participants : List VMTDParticipant)
    (scannerIp : String) (manager : VMTDDeviceManager) :
    VMTDEngine.banOwners settings participants scannerIp manager =
      { manager with
        bannedScanners := manager.bannedScanners ++ bansFor settings participants scannerIp } := by
  unfold VMTDEngine.banOwners bansFor
  induction participants generalizing manager with
  | nil => simp
  | cons q participants ih =>
    rw [List.foldl_cons, ih, List.filter_cons]
    cases hOwns : VMTDEngine.owns q scannerIp with
    | true => simp [VMTDDeviceManager.createBannedScanner]
    | false => simp

/-- **A report only adds rows**, for the owners of each address in turn. -/
theorem handleResultSlot_eq (settings : VMTDSettings) (value : QJsonValue) (engine : VMTDEngine) :
    engine.handleResultSlot settings value =
      { engine with
        manager := { engine.manager with
          bannedScanners := engine.manager.bannedScanners ++
            ((VMTDEngine.scannerIps value).filter VMTDEngine.isHandled).flatMap
              (bansFor settings engine.participants) } } := by
  unfold VMTDEngine.handleResultSlot
  have hFold : ∀ (ips : List String) (manager : VMTDDeviceManager),
      ips.foldl (fun manager scannerIp =>
        VMTDEngine.banOwners settings engine.participants scannerIp manager) manager =
      { manager with
        bannedScanners := manager.bannedScanners ++
          ips.flatMap (bansFor settings engine.participants) } := by
    intro ips
    induction ips with
    | nil => simp
    | cons ip ips ih =>
      intro manager
      rw [List.foldl_cons, banOwners_eq, ih]
      simp
  rw [hFold]

theorem exists_of_mem_bansFor {settings : VMTDSettings} {participants : List VMTDParticipant}
    {scannerIp : String} {row : BannedScanner} (h : row ∈ bansFor settings participants scannerIp) :
    ∃ q ∈ participants, q.hostId = row.hostId ∧ VMTDEngine.owns q scannerIp = true := by
  obtain ⟨q, hq, rfl⟩ := List.mem_map.mp h
  obtain ⟨hMem, hOwns⟩ := List.mem_filter.mp hq
  exact ⟨q, hMem, rfl, hOwns⟩

-- ---------------------------------------------------------------------------
-- Participants along a run
-- ---------------------------------------------------------------------------

/-- An interface that does not exist has the address of its constructor. -/
def PlaceholderOnly (engine : VMTDEngine) : Prop :=
  ∀ q ∈ engine.participants, ∀ i ∈ [q.interface1, q.interface2],
    i.isExist = false → i.ip = "100.100.0.1"

/-- An owner of another address holds it. -/
theorem holds_of_owns {engine : VMTDEngine} (hPlaceholder : PlaceholderOnly engine)
    {q : VMTDParticipant} (hq : q ∈ engine.participants) {address : String}
    (hReal : address ≠ "100.100.0.1") (hOwns : VMTDEngine.owns q address = true) :
    q.Holds address := by
  have hInterface : ∀ i ∈ [q.interface1, q.interface2], i.ip = address → q.Holds address := by
    intro i hi hIp
    cases hExist : i.isExist with
    | true => exact Or.inr ⟨i, List.mem_filter.mpr ⟨hi, hExist⟩, hIp⟩
    | false => exact absurd (hIp ▸ hPlaceholder q hq i hi hExist) hReal
  unfold VMTDEngine.owns at hOwns
  simp only [Bool.or_eq_true, beq_iff_eq] at hOwns
  rcases hOwns with (hHost | h₁) | h₂
  · exact Or.inl hHost
  · exact hInterface _ (by simp) h₁
  · exact hInterface _ (by simp) h₂

/-- What `generate` does to the table and the interfaces. -/
theorem generate_frame {settings : VMTDSettings} {rows : List DeviceRow} {draws : Draws}
    {engine engine' : VMTDEngine} (h : engine.generate settings rows draws = some engine') :
    engine'.manager.bannedScanners = engine.manager.bannedScanners ∧ PlaceholderOnly engine' := by
  have hIp : ({} : VMTDInterface).ip = "100.100.0.1" := by decide +kernel
  rcases Nat.lt_or_ge (engine.manager.buildParticipants settings rows).participants.length 2
    with hOne | hTwo
  · rw [generate_of_lt_two h hOne]
    refine ⟨rfl, fun q hq i hi _ => ?_⟩
    obtain ⟨h₁, h₂, -⟩ := VMTDDeviceManager.buildParticipants_interfaces q hq
    rw [h₁, h₂] at hi
    obtain rfl : i = {} := by simpa using hi
    exact hIp
  · obtain ⟨π, -, rfl⟩ := generate_refines h hTwo
    refine ⟨rfl, fun q hq i hi hExist => ?_⟩
    obtain ⟨p, b, hb, rfl⟩ := Plan.mem_participants.mp hq
    have hp := (List.getElem?_eq_some_iff.mp hb).1
    rcases List.mem_cons.mp hi with rfl | hi
    · -- a first interface always exists
      have hTrue : (π.participant p b).interface1.isExist = true := rfl
      exact absurd (hTrue.symm.trans hExist) (by decide)
    · obtain rfl := List.mem_singleton.mp hi
      rw [π.isExist_interface2 hp, Option.isSome_eq_false_iff, Option.isNone_iff_eq_none] at hExist
      rw [π.interface2_participant hp, hExist]
      exact hIp

theorem placeholderOnly_run (bans : List BannedScanner) (es : List EngineEvent) :
    PlaceholderOnly (run engineStep (engineAtStart bans) es) := by
  refine @invariant_of_reachable _ _ engineStep PlaceholderOnly _ (engineAtStart bans) ?_ ?_
    ⟨es, rfl⟩
  · intro q hq
    exact absurd hq List.not_mem_nil
  · intro engine e hEngine
    cases e with
    | generate settings rows draws =>
      cases hRun : engine.generate settings rows draws with
      | none =>
        simp only [engineStep, hRun, Option.getD_none]
        exact hEngine
      | some engine' =>
        simp only [engineStep, hRun, Option.getD_some]
        exact (generate_frame hRun).2
    | alert node scannerIp => exact hEngine
    | result settings value =>
      rw [engineStep, handleResultSlot_eq]
      exact hEngine

/-- Only `generate` changes the participants. -/
theorem participants_run {es : List EngineEvent} (h : ∀ e ∈ es, e.isGenerate = false)
    (engine : VMTDEngine) : (run engineStep engine es).participants = engine.participants := by
  induction es generalizing engine with
  | nil => rfl
  | cons e es ih =>
    rw [run_cons, ih fun e' he' => h e' (List.mem_cons_of_mem _ he')]
    have hFirst := h e List.mem_cons_self
    cases e with
    | generate => exact absurd hFirst Bool.noConfusion
    | alert => rfl
    | result settings value =>
      rw [engineStep, handleResultSlot_eq]
      rfl

-- ---------------------------------------------------------------------------
-- Attribution
-- ---------------------------------------------------------------------------

/-- No reconfiguration lies between the events `i` and `j` of a run. -/
def NoGenerateBetween (es : List EngineEvent) (i j : Nat) : Prop :=
  ∀ e ∈ (es.take j).drop i, e.isGenerate = false

/-- Why a row was inserted: event `j` of the run is a report of the address
`scannerIp`. -/
structure BanCause (bans : List BannedScanner) (es : List EngineEvent) (row : BannedScanner)
    (j : Nat) (scannerIp : String) : Prop where
  reported : ∃ settings value, es[j]? = some (.result settings value) ∧
    scannerIp ∈ VMTDEngine.scannerIps value ∧ VMTDEngine.isHandled scannerIp = true
  /-- The host held the address at the report, and at every alert for it since
  the last reconfiguration. -/
  held : scannerIp ≠ "100.100.0.1" →
    ∃ q ∈ (run engineStep (engineAtStart bans) (es.take j)).participants,
      q.hostId = row.hostId ∧ q.Holds scannerIp ∧
      ∀ i < j, ∀ node, es[i]? = some (.alert node scannerIp) → NoGenerateBetween es i j →
        q ∈ (run engineStep (engineAtStart bans) (es.take i)).participants

/-- A cause stays one as the run goes on. -/
theorem BanCause.append {bans : List BannedScanner} {es fs : List EngineEvent}
    {row : BannedScanner} {j : Nat} {scannerIp : String} (h : BanCause bans es row j scannerIp) :
    BanCause bans (es ++ fs) row j scannerIp := by
  obtain ⟨settings, value, hEvent, hIp⟩ := h.reported
  have hj : j < es.length := (List.getElem?_eq_some_iff.mp hEvent).1
  have hTake : ∀ i ≤ j, (es ++ fs).take i = es.take i := fun i hi =>
    List.take_append_of_le_length (by omega)
  refine ⟨⟨settings, value, ?_, hIp⟩, fun hReal => ?_⟩
  · rw [List.getElem?_append_left hj]
    exact hEvent
  · obtain ⟨q, hq, hId, hHolds, hAlerts⟩ := h.held hReal
    refine ⟨q, hTake j le_rfl ▸ hq, hId, hHolds, fun i hi node hAlert hQuiet => ?_⟩
    rw [List.getElem?_append_left (by omega)] at hAlert
    unfold NoGenerateBetween at hQuiet
    rw [hTake j le_rfl] at hQuiet
    rw [hTake i hi.le]
    exact hAlerts i hi node hAlert hQuiet

/-- The rows of a report have that report as their cause. -/
theorem banCause_of_mem_bansFor {bans : List BannedScanner} {es : List EngineEvent}
    {settings : VMTDSettings} {value : QJsonValue} {scannerIp : String} {row : BannedScanner}
    (hReported : scannerIp ∈ VMTDEngine.scannerIps value)
    (hHandled : VMTDEngine.isHandled scannerIp = true)
    (hRow : row ∈ bansFor settings
      (run engineStep (engineAtStart bans) es).participants scannerIp) :
    BanCause bans (es ++ [.result settings value]) row es.length scannerIp := by
  have hTake : (es ++ [EngineEvent.result settings value]).take es.length = es := by simp
  obtain ⟨q, hq, hId, hOwns⟩ := exists_of_mem_bansFor hRow
  refine ⟨⟨settings, value, by simp, hReported, hHandled⟩, fun hReal => ?_⟩
  rw [hTake]
  refine ⟨q, hq, hId, holds_of_owns (placeholderOnly_run bans es) hq hReal hOwns,
    fun i hi node _ hQuiet => ?_⟩
  unfold NoGenerateBetween at hQuiet
  rw [hTake] at hQuiet
  -- from the alert on, nothing has changed the participants
  have hSplit : run engineStep (engineAtStart bans) es =
      run engineStep (run engineStep (engineAtStart bans) (es.take i)) (es.drop i) := by
    rw [← run_append, List.take_append_drop]
  rw [hSplit, participants_run hQuiet] at hq
  rwa [List.take_append_of_le_length hi.le]

/-- **Attribution of bans.** Along every run, each row added to the table goes
back to a report of an address that its host held at the report, and at every
alert for it that no `generate` separates from the report. -/
theorem banned_attribution (bans : List BannedScanner) (es : List EngineEvent) :
    ∃ inserted,
      (run engineStep (engineAtStart bans) es).manager.bannedScanners = bans ++ inserted ∧
      ∀ row ∈ inserted, ∃ j scannerIp, BanCause bans es row j scannerIp := by
  induction es using List.reverseRecOn with
  | nil => exact ⟨[], by rw [run_nil, List.append_nil]; rfl, by simp⟩
  | append_singleton es e ih =>
    obtain ⟨inserted, hTable, hCauses⟩ := ih
    have hOld : ∀ row ∈ inserted, ∃ j scannerIp, BanCause bans (es ++ [e]) row j scannerIp := by
      intro row hRow
      obtain ⟨j, scannerIp, hCause⟩ := hCauses row hRow
      exact ⟨j, scannerIp, hCause.append⟩
    rw [run_append, run_cons, run_nil]
    cases e with
    | generate settings rows draws =>
      refine ⟨inserted, ?_, hOld⟩
      cases hRun : VMTDEngine.generate settings rows draws
          (run engineStep (engineAtStart bans) es) with
      | none =>
        simp only [engineStep, hRun, Option.getD_none]
        exact hTable
      | some engine' =>
        simp only [engineStep, hRun, Option.getD_some]
        exact (generate_frame hRun).1.trans hTable
    | alert node scannerIp => exact ⟨inserted, hTable, hOld⟩
    | result settings value =>
      refine ⟨inserted ++ ((VMTDEngine.scannerIps value).filter VMTDEngine.isHandled).flatMap
        (bansFor settings (run engineStep (engineAtStart bans) es).participants), ?_, ?_⟩
      · rw [engineStep, handleResultSlot_eq]
        exact (congrArg (· ++ _) hTable).trans (List.append_assoc _ _ _)
      · intro row hRow
        rcases List.mem_append.mp hRow with hRow | hRow
        · exact hOld row hRow
        · obtain ⟨scannerIp, hIp, hRow⟩ := List.mem_flatMap.mp hRow
          obtain ⟨hReported, hHandled⟩ := List.mem_filter.mp hIp
          exact ⟨_, _, banCause_of_mem_bansFor hReported hHandled hRow⟩

-- ---------------------------------------------------------------------------
-- An address that moves
-- ---------------------------------------------------------------------------

/-- The same two groups with the hosts swapped. -/
def twoGroupsSwapped : Draws := { twoGroups 1 with participants := [1, 0], groups := [0, 1] }

/-- The result of a node that has seen one scanner. -/
def reportOf (scannerIp : String) : QJsonValue :=
  .object [("scanners", .array [.object [("ip", .string scannerIp)]])]

/-- Node-1 scans as 100.100.20.1; before the report is in, that address goes to
Node-2. -/
def moveRun : List EngineEvent :=
  [ .generate {} twoRows (twoGroups 1),
    .alert 1 "100.100.20.1",
    .generate { shouldRandomizeParticipant := true } twoRows twoGroupsSwapped,
    .result {} (reportOf "100.100.20.1") ]

/-- Node-2 is banned for it, though it did not hold the address at the alert. -/
theorem banned_after_move :
    ¬ ∀ es : List EngineEvent,
        (∀ (j : Nat) settings value, es[j]? = some (.result settings value) →
          ∀ scannerIp ∈ VMTDEngine.scannerIps value,
            ∃ i < j, ∃ node, es[i]? = some (.alert node scannerIp)) →
        ∀ row ∈ (run engineStep (engineAtStart []) es).manager.bannedScanners,
          ∃ (i : Nat) (node : Nat) (scannerIp : String), es[i]? = some (.alert node scannerIp) ∧
            ∃ q ∈ (run engineStep (engineAtStart []) (es.take i)).participants,
              q.hostId = row.hostId ∧ q.Holds scannerIp := by
  intro hClaim
  have hReported : ∀ (j : Nat) settings value, moveRun[j]? = some (.result settings value) →
      ∀ scannerIp ∈ VMTDEngine.scannerIps value,
        ∃ i < j, ∃ node, moveRun[i]? = some (.alert node scannerIp) := by
    intro j settings value hEvent scannerIp hIp
    match j with
    | 0 | 1 | 2 => simp [moveRun] at hEvent
    | 3 =>
      obtain ⟨-, rfl⟩ : {} = settings ∧ reportOf "100.100.20.1" = value := by
        simpa [moveRun] using hEvent
      have hIps : VMTDEngine.scannerIps (reportOf "100.100.20.1") = ["100.100.20.1"] := by
        decide +kernel
      rw [hIps, List.mem_singleton] at hIp
      exact ⟨1, by decide, 1, by rw [hIp]; rfl⟩
    | j + 4 => simp [moveRun] at hEvent
  have hBanned : (⟨2, 10⟩ : BannedScanner) ∈
      (run engineStep (engineAtStart []) moveRun).manager.bannedScanners := by
    decide +kernel
  have hNever : ∀ q ∈ (run engineStep (engineAtStart []) (moveRun.take 1)).participants,
      ¬(q.hostId = 2 ∧ q.Holds "100.100.20.1") := by
    decide +kernel
  obtain ⟨i, node, scannerIp, hAlert, q, hq, hHeld⟩ := hClaim moveRun hReported _ hBanned
  match i with
  | 0 | 2 | 3 => simp [moveRun] at hAlert
  | 1 =>
    obtain ⟨-, rfl⟩ : 1 = node ∧ "100.100.20.1" = scannerIp := by simpa [moveRun] using hAlert
    exact hNever q hq hHeld
  | i + 4 => simp [moveRun] at hAlert

end VxlanMtd
