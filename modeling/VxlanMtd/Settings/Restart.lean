import VxlanMtd.Settings.Persistence

/-!
# Settings — when a change asks for a restart

The setters record in one flag that a value the running system was built from
has changed; `apply` turns the flag into `restartSignal`. Loading a file
assigns the same fields directly and leaves the flag alone.

## Results

* `setter_sets`              — one setter: all it can do.
* `shouldBeRestarted_setAll` — the flag after a chain of setters.
* `agree_changeInto`         — with every value accepted, the chain assigns
  every field.
* `restart_agree_iff`        — exactly when the form and the file agree on
  restarting.
-/

namespace VxlanMtd

namespace SettingsField

/-- The fields whose setter sets `m_shouldBeRestarted`. -/
def restarts : SettingsField → Bool
  | nodeType | shouldUseReconfigTimer | reconfigInterval
  | shouldControlAlert | alertFilePath | shouldCollectAlert | alertCollectInterval
  | localPort | serverIp | serverPort | shouldReconnect | reconnectInterval
  | checkConnectionInterval | checkQueueInterval | ticketTimeoutInterval => true
  | _ => false

/-- The setter of a field, called with the value `t` has there. -/
def setter (t : VMTDSettings) (o : SettingsObject) : SettingsField → SettingsObject
  | nodeType => o.setNodeType t.nodeType
  | debugName => o.setDebugName t.debugName
  | shouldShowDebug => o.setShouldShowDebug t.shouldShowDebug
  | dbName => o.setDbName t.dbName
  | shouldCheckOnline => o.setShouldCheckOnline t.shouldCheckOnline
  | shouldUseReconfigTimer => o.setShouldUseReconfigTimer t.shouldUseReconfigTimer
  | reconfigInterval => o.setReconfigInterval t.reconfigInterval
  | shouldRandomizeVlan => o.setShouldRandomizeVlan t.shouldRandomizeVlan
  | defaultVlanId => o.setDefaultVlanId t.defaultVlanId
  | minVlanId => o.setMinVlanId t.minVlanId
  | maxVlanId => o.setMaxVlanId t.maxVlanId
  | shouldRandomizeNetwork => o.setShouldRandomizeNetwork t.shouldRandomizeNetwork
  | shouldRandomizeGateway => o.setShouldRandomizeGateway t.shouldRandomizeGateway
  | shouldRandomizeParticipant =>
    o.setShouldRandomizeParticipant t.shouldRandomizeParticipant
  | netplan1FileName => o.setNetplan1FileName t.netplan1FileName
  | netplan2FileName => o.setNetplan2FileName t.netplan2FileName
  | shouldControlAlert => o.setShouldControlAlert t.shouldControlAlert
  | alertFilePath => o.setAlertFilePath t.alertFilePath
  | alertDelayInterval => o.setAlertDelayInterval t.alertDelayInterval
  | shouldCollectAlert => o.setShouldCollectAlert t.shouldCollectAlert
  | alertCollectInterval => o.setAlertCollectInterval t.alertCollectInterval
  | exclusionRule => o.setExclusionRule t.exclusionRule
  | exclusionConfigCount => o.setExclusionConfigCount t.exclusionConfigCount
  | localPort => o.setLocalPort t.localPort
  | serverIp => o.setServerIp t.serverIp
  | serverPort => o.setServerPort t.serverPort
  | shouldReconnect => o.setShouldReconnect t.shouldReconnect
  | reconnectInterval => o.setReconnectInterval t.reconnectInterval
  | shouldCheckConnection => o.setShouldCheckConnection t.shouldCheckConnection
  | checkConnectionInterval => o.setCheckConnectionInterval t.checkConnectionInterval
  | checkQueueInterval => o.setCheckQueueInterval t.checkQueueInterval
  | ticketTimeoutInterval => o.setTicketTimeoutInterval t.ticketTimeoutInterval

/-- `s` with the value of `t` in one field. -/
def put (t s : VMTDSettings) : SettingsField → VMTDSettings
  | nodeType => { s with nodeType := t.nodeType }
  | debugName => { s with debugName := t.debugName }
  | shouldShowDebug => { s with shouldShowDebug := t.shouldShowDebug }
  | dbName => { s with dbName := t.dbName }
  | shouldCheckOnline => { s with shouldCheckOnline := t.shouldCheckOnline }
  | shouldUseReconfigTimer => { s with shouldUseReconfigTimer := t.shouldUseReconfigTimer }
  | reconfigInterval => { s with reconfigInterval := t.reconfigInterval }
  | shouldRandomizeVlan => { s with shouldRandomizeVlan := t.shouldRandomizeVlan }
  | defaultVlanId => { s with defaultVlanId := t.defaultVlanId }
  | minVlanId => { s with minVlanId := t.minVlanId }
  | maxVlanId => { s with maxVlanId := t.maxVlanId }
  | shouldRandomizeNetwork => { s with shouldRandomizeNetwork := t.shouldRandomizeNetwork }
  | shouldRandomizeGateway => { s with shouldRandomizeGateway := t.shouldRandomizeGateway }
  | shouldRandomizeParticipant =>
    { s with shouldRandomizeParticipant := t.shouldRandomizeParticipant }
  | netplan1FileName => { s with netplan1FileName := t.netplan1FileName }
  | netplan2FileName => { s with netplan2FileName := t.netplan2FileName }
  | shouldControlAlert => { s with shouldControlAlert := t.shouldControlAlert }
  | alertFilePath => { s with alertFilePath := t.alertFilePath }
  | alertDelayInterval => { s with alertDelayInterval := t.alertDelayInterval }
  | shouldCollectAlert => { s with shouldCollectAlert := t.shouldCollectAlert }
  | alertCollectInterval => { s with alertCollectInterval := t.alertCollectInterval }
  | exclusionRule => { s with exclusionRule := t.exclusionRule }
  | exclusionConfigCount => { s with exclusionConfigCount := t.exclusionConfigCount }
  | localPort => { s with localPort := t.localPort }
  | serverIp => { s with serverIp := t.serverIp }
  | serverPort => { s with serverPort := t.serverPort }
  | shouldReconnect => { s with shouldReconnect := t.shouldReconnect }
  | reconnectInterval => { s with reconnectInterval := t.reconnectInterval }
  | shouldCheckConnection => { s with shouldCheckConnection := t.shouldCheckConnection }
  | checkConnectionInterval => { s with checkConnectionInterval := t.checkConnectionInterval }
  | checkQueueInterval => { s with checkQueueInterval := t.checkQueueInterval }
  | ticketTimeoutInterval => { s with ticketTimeoutInterval := t.ticketTimeoutInterval }

/-- Replacing one field leaves the others. -/
theorem agree_put_of_ne {t s : VMTDSettings} {f g : SettingsField} (h : g ≠ f) :
    g.Agree (f.put t s) s := by
  cases f <;> cases g <;> first | exact absurd rfl h | exact rfl

/-- What a setter may do to the object `o`: nothing, if the field asks for no
restart or already has its value; otherwise it assigns, and sets the flag if
the field asks for a restart. -/
def Sets (t : VMTDSettings) (o o' : SettingsObject) (f : SettingsField) : Prop :=
  (o' = o ∧ (f.restarts = true → f.Agree o.fields t)) ∨
  (o' = ⟨f.put t o.fields, o.shouldBeRestarted || f.restarts⟩ ∧
    (f.restarts = true → ¬ f.Agree o.fields t))

/-- **One setter.** -/
theorem setter_sets (t : VMTDSettings) (o : SettingsObject) (f : SettingsField) :
    f.Sets t o (f.setter t o) := by
  have hNo : false = true → ∀ {p : Prop}, p := fun h => absurd h Bool.false_ne_true
  have hFlag : ∀ {s : VMTDSettings}, (⟨s, o.shouldBeRestarted⟩ : SettingsObject) =
      ⟨s, o.shouldBeRestarted || false⟩ := fun {s} => congrArg _ (Bool.or_false _).symm
  by_cases hAgree : f.Agree o.fields t
  all_goals cases f with
  | minVlanId =>
    -- the two setters that may refuse
    by_cases hRefuse : t.minVlanId > o.fields.maxVlanId
    · exact Or.inl ⟨if_pos hRefuse, fun h => hNo h⟩
    · exact Or.inr ⟨(if_neg hRefuse).trans hFlag, fun h => hNo h⟩
  | maxVlanId =>
    by_cases hRefuse : t.maxVlanId < o.fields.minVlanId
    · exact Or.inl ⟨if_pos hRefuse, fun h => hNo h⟩
    · exact Or.inr ⟨(if_neg hRefuse).trans hFlag, fun h => hNo h⟩
  | nodeType | shouldUseReconfigTimer | reconfigInterval
  | shouldControlAlert | alertFilePath | shouldCollectAlert | alertCollectInterval
  | localPort | serverIp | serverPort | shouldReconnect | reconnectInterval
  | checkConnectionInterval | checkQueueInterval | ticketTimeoutInterval =>
    -- the setters with a comparison
    first
    | exact Or.inl ⟨if_neg (not_not.mpr hAgree), fun _ => hAgree⟩
    | exact Or.inr ⟨(if_pos hAgree).trans (congrArg _ (Bool.or_true _).symm), fun _ => hAgree⟩
  | _ => exact Or.inr ⟨hFlag, fun h => hNo h⟩

/-- The flag after one setter. -/
theorem shouldBeRestarted_setter (t : VMTDSettings) (o : SettingsObject) (f : SettingsField) :
    (f.setter t o).shouldBeRestarted = true ↔
      o.shouldBeRestarted = true ∨ (f.restarts = true ∧ ¬ f.Agree o.fields t) := by
  rcases setter_sets t o f with ⟨hSame, hAgree⟩ | ⟨hChanged, hDiffer⟩
  · rw [hSame]
    exact ⟨Or.inl, fun h => h.resolve_right fun ⟨hf, hne⟩ => hne (hAgree hf)⟩
  · rw [hChanged, Bool.or_eq_true]
    exact or_congr_right ⟨fun hf => ⟨hf, hDiffer hf⟩, fun h => h.1⟩

/-- A setter leaves the other fields as they are. -/
theorem agree_setter_of_ne (t : VMTDSettings) (o : SettingsObject) {f g : SettingsField}
    (h : g ≠ f) : g.Agree (f.setter t o).fields o.fields := by
  rcases setter_sets t o f with ⟨hSame, -⟩ | ⟨hChanged, -⟩
  · rw [hSame]
    exact Agree.refl _ g
  · rw [hChanged]
    exact agree_put_of_ne h

-- ---------------------------------------------------------------------------
-- Chains of setters
-- ---------------------------------------------------------------------------

/-- The setters of several fields, one after the other. -/
def setAll (t : VMTDSettings) (o : SettingsObject) (fs : List SettingsField) : SettingsObject :=
  fs.foldl (fun o f => f.setter t o) o

/-- Fields without a setter in the chain stay. -/
theorem agree_setAll_of_notMem (t : VMTDSettings) (o : SettingsObject) {fs : List SettingsField}
    {g : SettingsField} (h : g ∉ fs) : g.Agree (setAll t o fs).fields o.fields := by
  induction fs generalizing o with
  | nil => exact Agree.refl _ g
  | cons f fs ih =>
    rw [List.mem_cons, not_or] at h
    exact (ih (f.setter t o) h.2).trans (agree_setter_of_ne t o h.1)

/-- **The flag after a chain** of setters for distinct fields: it was set, or
one of the fields asks for a restart and differs. -/
theorem shouldBeRestarted_setAll (t : VMTDSettings) (o : SettingsObject)
    {fs : List SettingsField} (hNodup : fs.Nodup) :
    (setAll t o fs).shouldBeRestarted = true ↔
      o.shouldBeRestarted = true ∨ ∃ f ∈ fs, f.restarts = true ∧ ¬ f.Agree o.fields t := by
  induction fs generalizing o with
  | nil => simp [setAll]
  | cons f fs ih =>
    rw [List.nodup_cons] at hNodup
    -- the later setters find their fields as the first one found them
    have hLater : ∀ g ∈ fs, (g.Agree (f.setter t o).fields t ↔ g.Agree o.fields t) := by
      intro g hg
      have hKeep := agree_setter_of_ne t o (ne_of_mem_of_not_mem hg hNodup.1)
      exact ⟨hKeep.symm.trans, hKeep.trans⟩
    have hTail : (setAll t o (f :: fs)).shouldBeRestarted = true ↔ _ :=
      ih (f.setter t o) hNodup.2
    rw [hTail, shouldBeRestarted_setter, or_assoc]
    refine or_congr_right ?_
    rw [List.exists_mem_cons_iff]
    refine or_congr_right (exists_congr fun g => and_congr_right fun hg => ?_)
    rw [hLater g hg]

/-- An accepted value is the field's value. -/
theorem agree_setter {t : VMTDSettings} {o : SettingsObject} {f : SettingsField}
    (hMin : f = minVlanId → t.minVlanId ≤ o.fields.maxVlanId)
    (hMax : f = maxVlanId → o.fields.minVlanId ≤ t.maxVlanId) :
    f.Agree (f.setter t o).fields t := by
  have hPut : f.Agree (f.put t o.fields) t := by
    cases f <;> exact rfl
  rcases setter_sets t o f with ⟨hSame, hAgree⟩ | ⟨hChanged, -⟩
  · cases f with
    | minVlanId =>
      rw [setter, SettingsObject.setMinVlanId, if_neg (not_lt.mpr (hMin rfl))]
      exact hPut
    | maxVlanId =>
      rw [setter, SettingsObject.setMaxVlanId, if_neg (not_lt.mpr (hMax rfl))]
      exact hPut
    | debugName | shouldShowDebug | dbName | shouldCheckOnline | shouldRandomizeVlan
    | defaultVlanId | shouldRandomizeNetwork | shouldRandomizeGateway
    | shouldRandomizeParticipant | netplan1FileName | netplan2FileName
    | alertDelayInterval | exclusionRule | exclusionConfigCount
    | shouldCheckConnection => exact hPut
    | _ =>
      rw [hSame]
      exact hAgree rfl
  · rw [hChanged]
    exact hPut

/-- A value accepted in the middle of a chain is still there at its end. -/
theorem agree_setAll_append {t : VMTDSettings} {o : SettingsObject}
    {pre post : List SettingsField} {f : SettingsField} (hPost : f ∉ post)
    (hMin : f = minVlanId → t.minVlanId ≤ (setAll t o pre).fields.maxVlanId)
    (hMax : f = maxVlanId → (setAll t o pre).fields.minVlanId ≤ t.maxVlanId) :
    f.Agree (setAll t o (pre ++ f :: post)).fields t := by
  rw [setAll, List.foldl_append, List.foldl_cons]
  exact (agree_setAll_of_notMem t _ hPost).trans (agree_setter hMin hMax)

/-- The order in which the form calls the setters. -/
def formOrder : List SettingsField :=
  [nodeType, debugName, shouldShowDebug, dbName, shouldCheckOnline,
   shouldUseReconfigTimer, reconfigInterval, shouldRandomizeVlan, defaultVlanId,
   minVlanId, maxVlanId, shouldRandomizeNetwork, shouldRandomizeGateway,
   shouldRandomizeParticipant, netplan1FileName, netplan2FileName, alertFilePath,
   alertDelayInterval, shouldCollectAlert, alertCollectInterval, exclusionRule,
   exclusionConfigCount, localPort, serverIp, serverPort, shouldReconnect,
   reconnectInterval, shouldCheckConnection, checkConnectionInterval,
   checkQueueInterval, ticketTimeoutInterval]

/-- The form has a control for every field but `shouldControlAlert`. -/
theorem mem_formOrder (f : SettingsField) : f ∈ formOrder ↔ f ≠ shouldControlAlert := by
  cases f <;> decide

theorem formOrder_nodup : formOrder.Nodup := by
  decide

/-- The form's setters, and the one it has no control for. -/
def setterOrder : List SettingsField := formOrder ++ [shouldControlAlert]

theorem mem_setterOrder (f : SettingsField) : f ∈ setterOrder := by
  rw [setterOrder, List.mem_append, mem_formOrder, List.mem_singleton]
  exact (em (f = shouldControlAlert)).symm

theorem setterOrder_nodup : setterOrder.Nodup := by
  decide

end SettingsField

theorem updateData_eq (o : SettingsObject) (t : VMTDSettings) :
    o.updateData t = SettingsField.setAll t o SettingsField.formOrder := by
  simp only [SettingsObject.updateData, SettingsField.setAll, SettingsField.formOrder,
    List.foldl_cons, List.foldl_nil, SettingsField.setter]

theorem changeInto_eq (o : SettingsObject) (t : VMTDSettings) :
    o.changeInto t = SettingsField.setAll t o SettingsField.setterOrder := by
  rw [SettingsObject.changeInto, updateData_eq, SettingsField.setAll, SettingsField.setAll,
    SettingsField.setterOrder, List.foldl_append]
  rfl

-- ---------------------------------------------------------------------------
-- The two ways to change settings
-- ---------------------------------------------------------------------------

/-- With every value accepted, the setters lead to `t`. -/
theorem agree_changeInto {o : SettingsObject} {t : VMTDSettings}
    (hMin : t.minVlanId ≤ o.fields.maxVlanId) (hRange : t.minVlanId ≤ t.maxVlanId)
    (f : SettingsField) : f.Agree (o.changeInto t).fields t := by
  -- the setters before the two VLAN bounds, and those after them
  let before := SettingsField.formOrder.take 9
  let after := SettingsField.formOrder.drop 11 ++ [SettingsField.shouldControlAlert]
  have hSplit : SettingsField.setterOrder = before ++ .minVlanId :: .maxVlanId :: after := rfl
  have hMinOk : t.minVlanId ≤ (SettingsField.setAll t o before).fields.maxVlanId := by
    have hKeep : SettingsField.Agree _ _ .maxVlanId :=
      SettingsField.agree_setAll_of_notMem t o (by decide : _ ∉ before)
    exact hMin.trans_eq (Eq.symm hKeep)
  rw [changeInto_eq]
  by_cases hMinF : f = .minVlanId
  · subst hMinF
    rw [hSplit]
    have hPost : SettingsField.minVlanId ∉ SettingsField.maxVlanId :: after := by decide
    exact SettingsField.agree_setAll_append hPost (fun _ => hMinOk) (fun h => nomatch h)
  by_cases hMaxF : f = .maxVlanId
  · subst hMaxF
    have hMinAt : (SettingsField.setAll t o (before ++ [.minVlanId])).fields.minVlanId =
        t.minVlanId :=
      @SettingsField.agree_setAll_append t o before [] .minVlanId List.not_mem_nil
        (fun _ => hMinOk) (fun h => nomatch h)
    rw [hSplit, List.append_cons]
    exact SettingsField.agree_setAll_append (by decide : _ ∉ after) (fun h => nomatch h)
      (fun _ => hMinAt.trans_le hRange)
  · have hNodup := SettingsField.setterOrder_nodup
    obtain ⟨pre, post, hEq⟩ := List.append_of_mem (SettingsField.mem_setterOrder f)
    rw [hEq] at hNodup ⊢
    have hPost := (List.nodup_cons.mp hNodup.of_append_right).1
    exact SettingsField.agree_setAll_append hPost (fun h => absurd h hMinF)
      (fun h => absurd h hMaxF)

/-- The form asks for a restart when a restart was already due, or a field it
sets differs and its setter says so. -/
theorem updateData_emits (o : SettingsObject) (t : VMTDSettings) :
    (o.updateData t).apply.2 = true ↔ o.shouldBeRestarted = true ∨
      ∃ f : SettingsField, f ≠ .shouldControlAlert ∧ f.restarts = true ∧ ¬ f.Agree o.fields t := by
  rw [SettingsObject.apply_emits, updateData_eq,
    SettingsField.shouldBeRestarted_setAll t o SettingsField.formOrder_nodup]
  refine or_congr_right (exists_congr fun f => ?_)
  rw [SettingsField.mem_formOrder]

theorem changeInto_emits (o : SettingsObject) (t : VMTDSettings) :
    (o.changeInto t).apply.2 = true ↔ o.shouldBeRestarted = true ∨
      ∃ f : SettingsField, f.restarts = true ∧ ¬ f.Agree o.fields t := by
  rw [SettingsObject.apply_emits, changeInto_eq,
    SettingsField.shouldBeRestarted_setAll t o SettingsField.setterOrder_nodup]
  exact or_congr_right (exists_congr fun f =>
    and_iff_right (SettingsField.mem_setterOrder f))

/-- Loading leaves the flag alone. -/
theorem fromJson_emits (o : SettingsObject) (json : QJsonObject) :
    (o.fromJson json).apply.2 = o.shouldBeRestarted :=
  SettingsObject.apply_emits _

/-- **Form and file.** Changing settings through the setters and loading them
from a file ask for a restart alike exactly when a restart was already due, or
no field whose setter asks for one differs. The form alone leaves
`shouldControlAlert` out. -/
theorem restart_agree_iff (o : SettingsObject) (t : VMTDSettings) :
    (((o.changeInto t).apply.2 = true ↔ (o.fromJson t.toJson).apply.2 = true) ↔
      o.shouldBeRestarted = true ∨
        ∀ f : SettingsField, f.restarts = true → f.Agree o.fields t) ∧
    (((o.updateData t).apply.2 = true ↔ (o.fromJson t.toJson).apply.2 = true) ↔
      o.shouldBeRestarted = true ∨
        ∀ f : SettingsField, f ≠ .shouldControlAlert → f.restarts = true →
          f.Agree o.fields t) := by
  rw [changeInto_emits, updateData_emits, fromJson_emits]
  constructor
  · constructor
    · intro h
      by_contra hNot
      obtain ⟨hFlag, hDiffer⟩ := not_or.mp hNot
      push Not at hDiffer
      exact hFlag (h.mp (Or.inr hDiffer))
    · rintro (hFlag | hAgree)
      · exact ⟨fun _ => hFlag, Or.inl⟩
      · exact ⟨fun h => h.resolve_right fun ⟨f, hf, hne⟩ => hne (hAgree f hf), Or.inl⟩
  · constructor
    · intro h
      by_contra hNot
      obtain ⟨hFlag, hDiffer⟩ := not_or.mp hNot
      push Not at hDiffer
      exact hFlag (h.mp (Or.inr hDiffer))
    · rintro (hFlag | hAgree)
      · exact ⟨fun _ => hFlag, Or.inl⟩
      · exact ⟨fun h => h.resolve_right fun ⟨f, hForm, hf, hne⟩ => hne (hAgree f hForm hf),
          Or.inl⟩

/-- A changed port restarts from the form and not from a file. -/
theorem restart_differs :
    ¬ ∀ (o : SettingsObject) (t : VMTDSettings),
      (o.changeInto t).apply.2 = true ↔ (o.fromJson t.toJson).apply.2 = true := by
  intro h
  have hPort := (h ⟨{}, false⟩ { localPort := 31000 }).mp
    ((changeInto_emits _ _).mpr (Or.inr ⟨.localPort, rfl, (by decide : ¬ (30001 : Int) = 31000)⟩))
  rw [fromJson_emits] at hPort
  exact Bool.false_ne_true hPort

end VxlanMtd
