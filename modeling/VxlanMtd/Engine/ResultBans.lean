import VxlanMtd.Engine.Bans

/-!
# Whom a report bans

`handleResultSlot` compares every listed address with three addresses of every
participant. Two of them belong to interfaces, and are compared whether the
interface exists or not; and an address is skipped when the text 127.0.0.1
occurs anywhere in it.

* `Reported` — some listed address is one of a host's, in a sense given by a
  predicate; what a report should ban (`Owner`) and what it does ban are both
  of that form;
* `mem_banned_iff` — the hosts a report bans;
* **`bansOwners_iff`** — exactly which reports ban the owners and nobody else.
-/

namespace VxlanMtd

/-- The report lists that address among its scanners. -/
def Lists (value : QJsonValue) (address : String) : Prop :=
  ∃ (o : QJsonObject) (items : QJsonArray), value = .object o ∧ o.value "scanners" = .array items ∧
    ∃ item ∈ items, (item.toObject.value "ip").toString = address

/-- Some nonempty listed address is one of the host's in the sense of `P`. -/
def Reported (engine : VMTDEngine) (value : QJsonValue) (P : VMTDParticipant → String → Prop)
    (hostId : Int) : Prop :=
  ∃ q ∈ engine.participants, q.hostId = hostId ∧
    ∃ address, Lists value address ∧ address ≠ "" ∧ P q address

/-- The host holds a reported address other than the loopback address. -/
def Owner (engine : VMTDEngine) (value : QJsonValue) : Int → Prop :=
  Reported engine value fun q address => address ≠ "127.0.0.1" ∧ q.Holds address

/-- The address stands in an interface that does not exist. -/
def VMTDParticipant.Placeholder (q : VMTDParticipant) (address : String) : Prop :=
  ∃ i ∈ [q.interface1, q.interface2], i.isExist = false ∧ i.ip = address

/-- The text of the loopback address occurs in the address. -/
def MentionsLoopback (address : String) : Prop := Pattern.contains "127.0.0.1" address = true

instance (address : String) : Decidable (MentionsLoopback address) :=
  inferInstanceAs (Decidable (_ = true))

/-- A report adds rows for its owners and for no other host. -/
def BansOwners (settings : VMTDSettings) (value : QJsonValue) (engine : VMTDEngine) : Prop :=
  ∃ inserted,
    (engine.handleResultSlot settings value).manager.bannedScanners =
      engine.manager.bannedScanners ++ inserted ∧
    ∀ hostId, (∃ row ∈ inserted, row.hostId = hostId) ↔ Owner engine value hostId

-- ---------------------------------------------------------------------------
-- Reports
-- ---------------------------------------------------------------------------

theorem mem_scannerIps {value : QJsonValue} {address : String} :
    address ∈ VMTDEngine.scannerIps value ↔ Lists value address := by
  have hScanners : EnParamName.scanners.text = "scanners" := rfl
  have hIp : EnParamName.ip.text = "ip" := rfl
  unfold VMTDEngine.scannerIps Lists
  rw [hScanners, hIp]
  constructor
  · intro h
    split at h
    · next hShape =>
      rw [Bool.and_eq_true, Bool.and_eq_true] at hShape
      obtain ⟨⟨hObject, -⟩, hArray⟩ := hShape
      cases value with
      | object o =>
        rw [QJsonValue.toObject_object] at hArray h
        cases hItems : QJsonObject.value o "scanners" with
        | array items =>
          rw [hItems] at h
          exact ⟨o, items, rfl, hItems, List.mem_map.mp h⟩
        | _ =>
          rw [hItems] at hArray
          exact absurd hArray Bool.false_ne_true
      | _ => exact absurd hObject Bool.false_ne_true
    · exact absurd h List.not_mem_nil
  · rintro ⟨o, items, rfl, hItems, item, hItem, hAddress⟩
    have hContains : o.contains "scanners" = true :=
      QJsonObject.contains_of_value (by rw [hItems]; rfl)
    have hShape : ((QJsonValue.object o).isObject &&
        QJsonObject.contains (QJsonValue.object o).toObject "scanners" &&
        (QJsonObject.value (QJsonValue.object o).toObject "scanners").isArray) = true := by
      rw [QJsonValue.toObject_object, hContains, hItems]
      rfl
    rw [if_pos hShape, QJsonValue.toObject_object, hItems]
    exact List.mem_map.mpr ⟨item, hItem, hAddress⟩

/-- The addresses the slot looks for. -/
theorem isHandled_iff {address : String} :
    VMTDEngine.isHandled address = true ↔ address ≠ "" ∧ ¬ MentionsLoopback address := by
  unfold VMTDEngine.isHandled MentionsLoopback
  rw [Bool.and_eq_true, decide_eq_true_eq, Bool.not_eq_true', Bool.not_eq_true]

/-- The three comparisons: what the host holds, and what stands in an interface
that does not exist. -/
theorem owns_iff {q : VMTDParticipant} {address : String} :
    VMTDEngine.owns q address = true ↔ q.Holds address ∨ q.Placeholder address := by
  have hSplit : ∀ i : VMTDInterface, i ∈ [q.interface1, q.interface2] → i.ip = address →
      q.Holds address ∨ q.Placeholder address := by
    intro i hi hIp
    cases hExist : i.isExist with
    | true => exact Or.inl (Or.inr ⟨i, List.mem_filter.mpr ⟨hi, hExist⟩, hIp⟩)
    | false => exact Or.inr ⟨i, hi, hExist, hIp⟩
  have hOwns : VMTDEngine.owns q address = true ↔
      q.hostIp = address ∨ ∃ i ∈ [q.interface1, q.interface2], i.ip = address := by
    unfold VMTDEngine.owns
    simp [or_assoc]
  rw [hOwns]
  constructor
  · rintro (hHost | ⟨i, hi, hIp⟩)
    · exact Or.inl (Or.inl hHost)
    · exact hSplit i hi hIp
  · rintro ((hHost | ⟨i, hi, hIp⟩) | ⟨i, hi, -, hIp⟩)
    · exact Or.inl hHost
    · exact Or.inr ⟨i, List.mem_of_mem_filter hi, hIp⟩
    · exact Or.inr ⟨i, hi, hIp⟩

-- ---------------------------------------------------------------------------
-- The hosts a report bans
-- ---------------------------------------------------------------------------

/-- Two senses in which an address is one of a host's. -/
theorem reported_or {engine : VMTDEngine} {value : QJsonValue}
    {P P' : VMTDParticipant → String → Prop} {hostId : Int} :
    Reported engine value (fun q address => P q address ∨ P' q address) hostId ↔
      Reported engine value P hostId ∨ Reported engine value P' hostId := by
  constructor
  · rintro ⟨q, hq, hId, address, hLists, hEmpty, hP | hP⟩
    · exact Or.inl ⟨q, hq, hId, address, hLists, hEmpty, hP⟩
    · exact Or.inr ⟨q, hq, hId, address, hLists, hEmpty, hP⟩
  · rintro (⟨q, hq, hId, address, hLists, hEmpty, hP⟩ | ⟨q, hq, hId, address, hLists, hEmpty, hP⟩)
    · exact ⟨q, hq, hId, address, hLists, hEmpty, Or.inl hP⟩
    · exact ⟨q, hq, hId, address, hLists, hEmpty, Or.inr hP⟩

theorem reported_congr {engine : VMTDEngine} {value : QJsonValue}
    {P P' : VMTDParticipant → String → Prop} {hostId : Int}
    (h : ∀ q address, P q address ↔ P' q address) :
    Reported engine value P hostId ↔ Reported engine value P' hostId := by
  unfold Reported
  simp only [h]

/-- The host holds a reported address that no loopback address occurs in. -/
def Caught (engine : VMTDEngine) (value : QJsonValue) : Int → Prop :=
  Reported engine value fun q address => ¬ MentionsLoopback address ∧ q.Holds address

/-- A reported address stands in an interface of the host that does not
exist. -/
def Mistaken (engine : VMTDEngine) (value : QJsonValue) : Int → Prop :=
  Reported engine value fun q address => ¬ MentionsLoopback address ∧ q.Placeholder address

/-- The host holds a reported address that is longer than the loopback address
and contains it. -/
def Spared (engine : VMTDEngine) (value : QJsonValue) : Int → Prop :=
  Reported engine value fun q address =>
    (address ≠ "127.0.0.1" ∧ MentionsLoopback address) ∧ q.Holds address

/-- An owner is caught, or spared by the test for the loopback address. -/
theorem owner_iff {engine : VMTDEngine} {value : QJsonValue} {hostId : Int} :
    Owner engine value hostId ↔ Caught engine value hostId ∨ Spared engine value hostId := by
  have hSelf : MentionsLoopback "127.0.0.1" := by decide +kernel
  rw [Owner, Caught, Spared, ← reported_or]
  refine reported_congr fun q address => ?_
  have hOther : ¬ MentionsLoopback address → address ≠ "127.0.0.1" := fun h hEq => h (hEq ▸ hSelf)
  rw [← or_and_right]
  refine and_congr_left fun _ => ?_
  by_cases hMentions : MentionsLoopback address
  · simp [hMentions]
  · simp [hMentions, hOther hMentions]

/-- **The hosts a report bans**: the owners it catches, and those it mistakes
for owners. -/
theorem mem_banned_iff {settings : VMTDSettings} {value : QJsonValue} {engine : VMTDEngine}
    {hostId : Int} :
    (∃ row ∈ ((VMTDEngine.scannerIps value).filter VMTDEngine.isHandled).flatMap
        (bansFor settings engine.participants), row.hostId = hostId) ↔
      Caught engine value hostId ∨ Mistaken engine value hostId := by
  rw [Caught, Mistaken, ← reported_or]
  constructor
  · rintro ⟨row, hRow, rfl⟩
    obtain ⟨address, hAddress, hRow⟩ := List.mem_flatMap.mp hRow
    obtain ⟨hListed, hHandled⟩ := List.mem_filter.mp hAddress
    obtain ⟨hEmpty, hLoopback⟩ := isHandled_iff.mp hHandled
    obtain ⟨q, hq, hId, hOwns⟩ := exists_of_mem_bansFor hRow
    refine ⟨q, hq, hId, address, mem_scannerIps.mp hListed, hEmpty, ?_⟩
    exact (owns_iff.mp hOwns).imp (⟨hLoopback, ·⟩) (⟨hLoopback, ·⟩)
  · rintro ⟨q, hq, rfl, address, hListed, hEmpty, hCase⟩
    have hLoopback : ¬ MentionsLoopback address := hCase.elim And.left And.left
    have hOwns : VMTDEngine.owns q address = true :=
      owns_iff.mpr (hCase.imp And.right And.right)
    refine ⟨⟨q.hostId, settings.exclusionConfigCount⟩, List.mem_flatMap.mpr ⟨address, ?_, ?_⟩, rfl⟩
    · exact List.mem_filter.mpr ⟨mem_scannerIps.mpr hListed, isHandled_iff.mpr ⟨hEmpty, hLoopback⟩⟩
    · exact List.mem_map.mpr ⟨q, List.mem_filter.mpr ⟨hq, hOwns⟩, rfl⟩

/-- The rows a report adds are the ones `mem_banned_iff` is about. -/
theorem bansOwners_iff_forall {settings : VMTDSettings} {value : QJsonValue}
    {engine : VMTDEngine} :
    BansOwners settings value engine ↔ ∀ hostId,
      (Caught engine value hostId ∨ Mistaken engine value hostId ↔ Owner engine value hostId) := by
  unfold BansOwners
  rw [handleResultSlot_eq]
  constructor
  · rintro ⟨inserted, hTable, hOwners⟩ hostId
    rw [← @mem_banned_iff settings, List.append_cancel_left hTable]
    exact hOwners hostId
  · intro h
    exact ⟨_, rfl, fun hostId => mem_banned_iff.trans (h hostId)⟩

/-- **Which reports ban the owners and nobody else**: those in which every host
that is not caught anyway is spared exactly if it is mistaken for an owner. -/
theorem bansOwners_iff (settings : VMTDSettings) (value : QJsonValue) (engine : VMTDEngine) :
    BansOwners settings value engine ↔
      ∀ hostId, Caught engine value hostId ∨
        (Mistaken engine value hostId ↔ Spared engine value hostId) := by
  rw [bansOwners_iff_forall]
  refine forall_congr' fun hostId => ?_
  rw [owner_iff]
  tauto

/-- A report of 100.100.0.1 bans a host whose second interface does not
exist. -/
theorem bans_placeholder :
    ¬ ∀ (settings : VMTDSettings) (rows : List DeviceRow) (draws : Draws)
        (engine : VMTDEngine) (value : QJsonValue),
        VMTDEngine.generate settings rows draws {} = some engine →
          BansOwners settings value engine := by
  intro hClaim
  have hRun : (VMTDEngine.generate {} twoRows (twoGroups 1) {}).any (fun engine =>
      engine.participants.any fun q => decide (q.hostId = 1 ∧
        q.interface2.isExist = false ∧ q.interface2.ip = "100.100.0.1" ∧
        ∀ q' ∈ engine.participants, ¬ q'.Holds "100.100.0.1")) = true := by decide +kernel
  obtain ⟨engine, hEngine, hHost⟩ := Option.any_eq_true _ _ |>.mp hRun
  obtain ⟨q, hq, hFacts⟩ := List.any_eq_true.mp hHost
  obtain ⟨hId, hExist, hIp, hNobody⟩ := of_decide_eq_true hFacts
  have hOnly : ∀ address, Lists (reportOf "100.100.0.1") address ↔ address = "100.100.0.1" := by
    have hIps : VMTDEngine.scannerIps (reportOf "100.100.0.1") = ["100.100.0.1"] := by
      decide +kernel
    intro address
    rw [← mem_scannerIps, hIps, List.mem_singleton]
  have hMistaken : Mistaken engine (reportOf "100.100.0.1") 1 :=
    ⟨q, hq, hId, _, (hOnly _).mpr rfl, by decide, by decide +kernel, q.interface2, by simp,
      hExist, hIp⟩
  obtain ⟨q', hq', -, address, hListed, -, -, hHolds⟩ :=
    (bansOwners_iff_forall.mp (hClaim {} twoRows (twoGroups 1) engine _ hEngine) 1).mp
      (Or.inr hMistaken)
  rw [(hOnly address).mp hListed] at hHolds
  exact hNobody q' hq' hHolds

end VxlanMtd
