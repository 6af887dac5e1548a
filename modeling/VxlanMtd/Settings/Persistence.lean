import VxlanMtd.Model.SettingsObject

/-!
# Settings — what survives being written and read back

`toJson` and `fromJson` are two hand-written lists over the same fields. A
field survives if both use its name and the reader asks for the kind the
writer used; a read that asks for another kind quietly keeps the value the
object had.

## Results

* `value_toJson`         — every field is found under its name, as written.
* `agree_readFields`     — a member that is missing keeps its field.
* `readFields_written`   — a member as another settings value writes it is
  taken over, for every field but `shouldCollectAlert`.
* `agree_fromJson_iff`   — exactly when a part of a written object is read
  back: `shouldCollectAlert` is written as a boolean and read as a number, so
  it keeps its old value.
-/

namespace VxlanMtd

-- ---------------------------------------------------------------------------
-- Fields
-- ---------------------------------------------------------------------------

/-- The fields `fromJson` reads: all but the system name. -/
inductive SettingsField where
  | nodeType | debugName | shouldShowDebug
  | dbName | shouldCheckOnline | shouldUseReconfigTimer | reconfigInterval
  | shouldRandomizeVlan | defaultVlanId | minVlanId | maxVlanId
  | shouldRandomizeNetwork | shouldRandomizeGateway | shouldRandomizeParticipant
  | netplan1FileName | netplan2FileName
  | shouldControlAlert | alertFilePath | alertDelayInterval
  | shouldCollectAlert | alertCollectInterval
  | exclusionRule | exclusionConfigCount
  | localPort | serverIp | serverPort | shouldReconnect | reconnectInterval
  | shouldCheckConnection | checkConnectionInterval | checkQueueInterval
  | ticketTimeoutInterval
  deriving DecidableEq, Repr

namespace SettingsField

/-- The name of the field in the JSON object. -/
def key : SettingsField → String
  | nodeType => "nodeType"
  | debugName => "debugName"
  | shouldShowDebug => "shouldShowDebug"
  | dbName => "dbName"
  | shouldCheckOnline => "shouldCheckOnline"
  | shouldUseReconfigTimer => "shouldUseReconfigTimer"
  | reconfigInterval => "reconfigInterval"
  | shouldRandomizeVlan => "shouldRandomizeVlan"
  | defaultVlanId => "defaultVlanId"
  | minVlanId => "minVlanId"
  | maxVlanId => "maxVlanId"
  | shouldRandomizeNetwork => "shouldRandomizeNetwork"
  | shouldRandomizeGateway => "shouldRandomizeGateway"
  | shouldRandomizeParticipant => "shouldRandomizeParticipant"
  | netplan1FileName => "netplan1FileName"
  | netplan2FileName => "netplan2FileName"
  | shouldControlAlert => "shouldControlAlert"
  | alertFilePath => "alertFilePath"
  | alertDelayInterval => "alertDelayInterval"
  | shouldCollectAlert => "shouldCollectAlert"
  | alertCollectInterval => "alertCollectInterval"
  | exclusionRule => "exclusionRule"
  | exclusionConfigCount => "exclusionConfigCount"
  | localPort => "localPort"
  | serverIp => "serverIp"
  | serverPort => "serverPort"
  | shouldReconnect => "shouldReconnect"
  | reconnectInterval => "reconnectInterval"
  | shouldCheckConnection => "shouldCheckConnection"
  | checkConnectionInterval => "checkConnectionInterval"
  | checkQueueInterval => "checkQueueInterval"
  | ticketTimeoutInterval => "ticketTimeoutInterval"

/-- The field's value in `s`, as `toJson` writes it. -/
def written (s : VMTDSettings) : SettingsField → QJsonValue
  | nodeType => .ofInt s.nodeType.toInt
  | debugName => .string s.debugName
  | shouldShowDebug => .bool s.shouldShowDebug
  | dbName => .string s.dbName
  | shouldCheckOnline => .bool s.shouldCheckOnline
  | shouldUseReconfigTimer => .bool s.shouldUseReconfigTimer
  | reconfigInterval => .ofInt s.reconfigInterval
  | shouldRandomizeVlan => .bool s.shouldRandomizeVlan
  | defaultVlanId => .ofInt s.defaultVlanId
  | minVlanId => .ofInt s.minVlanId
  | maxVlanId => .ofInt s.maxVlanId
  | shouldRandomizeNetwork => .bool s.shouldRandomizeNetwork
  | shouldRandomizeGateway => .bool s.shouldRandomizeGateway
  | shouldRandomizeParticipant => .bool s.shouldRandomizeParticipant
  | netplan1FileName => .string s.netplan1FileName
  | netplan2FileName => .string s.netplan2FileName
  | shouldControlAlert => .bool s.shouldControlAlert
  | alertFilePath => .string s.alertFilePath
  | alertDelayInterval => .ofInt s.alertDelayInterval
  | shouldCollectAlert => .bool s.shouldCollectAlert
  | alertCollectInterval => .ofInt s.alertCollectInterval
  | exclusionRule => .ofInt s.exclusionRule.toInt
  | exclusionConfigCount => .ofInt s.exclusionConfigCount
  | localPort => .ofInt s.localPort
  | serverIp => .string s.serverIp
  | serverPort => .ofInt s.serverPort
  | shouldReconnect => .bool s.shouldReconnect
  | reconnectInterval => .ofInt s.reconnectInterval
  | shouldCheckConnection => .bool s.shouldCheckConnection
  | checkConnectionInterval => .ofInt s.checkConnectionInterval
  | checkQueueInterval => .ofInt s.checkQueueInterval
  | ticketTimeoutInterval => .ofInt s.ticketTimeoutInterval

/-- Two settings values have the same value in this field. -/
def Agree (s t : VMTDSettings) : SettingsField → Prop
  | nodeType => s.nodeType = t.nodeType
  | debugName => s.debugName = t.debugName
  | shouldShowDebug => s.shouldShowDebug = t.shouldShowDebug
  | dbName => s.dbName = t.dbName
  | shouldCheckOnline => s.shouldCheckOnline = t.shouldCheckOnline
  | shouldUseReconfigTimer => s.shouldUseReconfigTimer = t.shouldUseReconfigTimer
  | reconfigInterval => s.reconfigInterval = t.reconfigInterval
  | shouldRandomizeVlan => s.shouldRandomizeVlan = t.shouldRandomizeVlan
  | defaultVlanId => s.defaultVlanId = t.defaultVlanId
  | minVlanId => s.minVlanId = t.minVlanId
  | maxVlanId => s.maxVlanId = t.maxVlanId
  | shouldRandomizeNetwork => s.shouldRandomizeNetwork = t.shouldRandomizeNetwork
  | shouldRandomizeGateway => s.shouldRandomizeGateway = t.shouldRandomizeGateway
  | shouldRandomizeParticipant =>
    s.shouldRandomizeParticipant = t.shouldRandomizeParticipant
  | netplan1FileName => s.netplan1FileName = t.netplan1FileName
  | netplan2FileName => s.netplan2FileName = t.netplan2FileName
  | shouldControlAlert => s.shouldControlAlert = t.shouldControlAlert
  | alertFilePath => s.alertFilePath = t.alertFilePath
  | alertDelayInterval => s.alertDelayInterval = t.alertDelayInterval
  | shouldCollectAlert => s.shouldCollectAlert = t.shouldCollectAlert
  | alertCollectInterval => s.alertCollectInterval = t.alertCollectInterval
  | exclusionRule => s.exclusionRule = t.exclusionRule
  | exclusionConfigCount => s.exclusionConfigCount = t.exclusionConfigCount
  | localPort => s.localPort = t.localPort
  | serverIp => s.serverIp = t.serverIp
  | serverPort => s.serverPort = t.serverPort
  | shouldReconnect => s.shouldReconnect = t.shouldReconnect
  | reconnectInterval => s.reconnectInterval = t.reconnectInterval
  | shouldCheckConnection => s.shouldCheckConnection = t.shouldCheckConnection
  | checkConnectionInterval => s.checkConnectionInterval = t.checkConnectionInterval
  | checkQueueInterval => s.checkQueueInterval = t.checkQueueInterval
  | ticketTimeoutInterval => s.ticketTimeoutInterval = t.ticketTimeoutInterval

theorem Agree.refl (s : VMTDSettings) (f : SettingsField) : f.Agree s s := by
  cases f <;> exact rfl

theorem Agree.symm {s t : VMTDSettings} {f : SettingsField} (h : f.Agree s t) :
    f.Agree t s := by
  cases f <;> exact Eq.symm h

theorem Agree.trans {s t u : VMTDSettings} {f : SettingsField} (h : f.Agree s t)
    (h' : f.Agree t u) : f.Agree s u := by
  cases f <;> exact Eq.trans h h'

end SettingsField

/-- Every number of `s` is a C++ `int`, as the types of its fields say. -/
def VMTDSettings.HasInts (s : VMTDSettings) : Prop :=
  ∀ n ∈ [s.nodeType.toInt, s.reconfigInterval, s.defaultVlanId, s.minVlanId, s.maxVlanId,
    s.alertDelayInterval, s.alertCollectInterval, s.exclusionRule.toInt,
    s.exclusionConfigCount, s.localPort, s.serverPort, s.reconnectInterval,
    s.checkConnectionInterval, s.checkQueueInterval, s.ticketTimeoutInterval], IsInt n

instance (s : VMTDSettings) : Decidable s.HasInts :=
  inferInstanceAs (Decidable (∀ n ∈ _, IsInt n))

-- ---------------------------------------------------------------------------
-- Writing
-- ---------------------------------------------------------------------------

/-- The names of the written members. -/
def VMTDSettings.keys : List String := (VMTDSettings.assignments {}).map Prod.fst

theorem keys_assignments (s : VMTDSettings) :
    s.assignments.map Prod.fst = VMTDSettings.keys := rfl

/-- No name is written twice. -/
theorem keys_nodup : VMTDSettings.keys.Nodup := by
  decide +kernel

namespace SettingsField

/-- Every field is written under its name. -/
theorem written_mem (s : VMTDSettings) (f : SettingsField) :
    (f.key, f.written s) ∈ s.assignments := by
  cases f <;> simp [key, written, VMTDSettings.assignments]

/-- No field is written as a missing one. -/
theorem written_isUndefined (s : VMTDSettings) (f : SettingsField) :
    (f.written s).isUndefined = false := by
  cases f <;> rfl

/-- A written object has every field under its name. -/
theorem value_toJson (s : VMTDSettings) (f : SettingsField) :
    s.toJson.value f.key = f.written s :=
  QJsonObject.value_insertAll [] (keys_assignments s ▸ keys_nodup) (f.written_mem s)
    (f.written_isUndefined s)

-- ---------------------------------------------------------------------------
-- Reading
-- ---------------------------------------------------------------------------

theorem boolToInt_ne_zero (b : Bool) : (VMTDSettings.boolToInt b != 0) = b := by
  cases b <;> rfl

/-- A member that is missing keeps its field. -/
theorem agree_readFields {t : VMTDSettings} {o : QJsonObject} {f : SettingsField}
    (h : o.value f.key = .undefined) : f.Agree (t.readFields o) t := by
  cases f <;> rw [key] at h <;>
    simp [Agree, VMTDSettings.readFields, h, boolToInt_ne_zero]

/-- An empty object reads as one with every member missing. -/
theorem agree_fromJson_iff_readFields (t u : VMTDSettings) (o : QJsonObject)
    (f : SettingsField) : f.Agree (t.fromJson o) u ↔ f.Agree (t.readFields o) u := by
  rw [VMTDSettings.fromJson]
  split
  · next hEmpty =>
    rw [List.isEmpty_iff] at hEmpty
    have hKeep : f.Agree (t.readFields o) t := agree_readFields (by rw [hEmpty]; rfl)
    cases f <;> exact (iff_of_eq (congrArg (· = _) hKeep)).symm
  · exact Iff.rfl

/-- A member as `s` writes it is taken over, unless the reader asks for
another kind than the writer used. -/
theorem readFields_written {s t : VMTDSettings} (hs : s.HasInts) {o : QJsonObject}
    {f : SettingsField} (hf : f ≠ shouldCollectAlert)
    (h : o.value f.key = f.written s) : f.Agree (t.readFields o) s := by
  rw [VMTDSettings.HasInts] at hs
  cases f with
  | shouldCollectAlert => exact absurd rfl hf
  | nodeType | reconfigInterval | defaultVlanId | minVlanId | maxVlanId
  | alertDelayInterval | alertCollectInterval | exclusionRule | exclusionConfigCount
  | localPort | serverPort | reconnectInterval | checkConnectionInterval
  | checkQueueInterval | ticketTimeoutInterval =>
    rw [key, written] at h
    rw [Agree, VMTDSettings.readFields, h, QJsonValue.toIntOr_ofInt (hs _ (by simp))]
    try simp
  | _ =>
    rw [key, written] at h
    rw [Agree, VMTDSettings.readFields, h]
    rfl

/-- The JSON boolean of `shouldCollectAlert` is no number, so the field keeps
its value. -/
theorem readFields_shouldCollectAlert {s t : VMTDSettings} {o : QJsonObject}
    (h : o.value shouldCollectAlert.key = shouldCollectAlert.written s) :
    (t.readFields o).shouldCollectAlert = t.shouldCollectAlert := by
  rw [key, written] at h
  rw [VMTDSettings.readFields, h]
  exact boolToInt_ne_zero _

end SettingsField

/-- The system name is never read back. -/
theorem systemName_fromJson (t : VMTDSettings) (o : QJsonObject) :
    (t.fromJson o).systemName = t.systemName := by
  rw [VMTDSettings.fromJson]
  split <;> rfl

-- ---------------------------------------------------------------------------
-- Round trips
-- ---------------------------------------------------------------------------

/-- Reading the part of a written object whose names `keep` selects: every
selected field is the writer's and every other one is the reader's, exactly
when `shouldCollectAlert` is not selected or already has the written value. -/
theorem agree_restrict_iff {s t : VMTDSettings} (hs : s.HasInts) (keep : String → Bool) :
    (∀ f : SettingsField, f.Agree (t.fromJson (s.toJson.restrict keep))
        (if keep f.key then s else t)) ↔
      (keep "shouldCollectAlert" = true → s.shouldCollectAlert = t.shouldCollectAlert) := by
  have hValue : ∀ f : SettingsField, keep f.key = true →
      (s.toJson.restrict keep).value f.key = f.written s := by
    intro f hKeep
    rw [QJsonObject.value_restrict, if_pos hKeep, f.value_toJson]
  constructor
  · intro h hKeep
    have hRead := h .shouldCollectAlert
    rw [SettingsField.agree_fromJson_iff_readFields, SettingsField.key, if_pos hKeep] at hRead
    have hOld := SettingsField.readFields_shouldCollectAlert (t := t) (hValue _ hKeep)
    exact hRead.symm.trans hOld
  · intro h f
    rw [SettingsField.agree_fromJson_iff_readFields]
    by_cases hKeep : keep f.key = true
    · rw [if_pos hKeep]
      by_cases hf : f = .shouldCollectAlert
      · subst hf
        have hOld := SettingsField.readFields_shouldCollectAlert (t := t) (hValue _ hKeep)
        exact hOld.trans (h hKeep).symm
      · exact SettingsField.readFields_written hs hf (hValue f hKeep)
    · rw [if_neg hKeep]
      refine SettingsField.agree_readFields ?_
      rw [QJsonObject.value_restrict, if_neg hKeep]

/-- **What is read back.** A written object is read back in every field exactly
when `shouldCollectAlert` already has the written value. Of a written object
with some members missing, exactly the present ones are taken over under the
same condition; and whatever an object holds, a missing member keeps its
field. -/
theorem agree_fromJson_iff {s t : VMTDSettings} (hs : s.HasInts) :
    ((∀ f : SettingsField, f.Agree (t.fromJson s.toJson) s) ↔
      s.shouldCollectAlert = t.shouldCollectAlert) ∧
    (∀ keep : String → Bool,
      (∀ f : SettingsField, f.Agree (t.fromJson (s.toJson.restrict keep))
          (if keep f.key then s else t)) ↔
        (keep "shouldCollectAlert" = true → s.shouldCollectAlert = t.shouldCollectAlert)) ∧
    ∀ (o : QJsonObject) (f : SettingsField), o.value f.key = .undefined →
      f.Agree (t.fromJson o) t := by
  refine ⟨?_, agree_restrict_iff hs, fun o f h => ?_⟩
  · have hAll := agree_restrict_iff (t := t) hs fun _ => true
    simpa [QJsonObject.restrict] using hAll
  · rw [SettingsField.agree_fromJson_iff_readFields]
    exact SettingsField.agree_readFields h

/-- Settings of a server that collects no alerts. -/
def serverSettings : VMTDSettings where
  nodeType := .server
  debugName := "server"
  shouldRandomizeVlan := true
  maxVlanId := 4094
  exclusionRule := .temporarily
  serverIp := "10.0.0.254"
  shouldCollectAlert := false

/-- Settings of a client that collects none either. -/
def clientSettings : VMTDSettings where
  debugName := "node"
  netplan1FileName := "01-lab"
  maxVlanId := 99
  serverPort := 40000
  shouldCollectAlert := false

/-- The members of an object with three fields. -/
def keepsThree (key : String) : Bool :=
  key ∈ ["nodeType", "maxVlanId", "shouldCollectAlert"]

/-- The server's settings over the client's: all of them, three of them, and an
object that has a member of a wrong kind and no other. -/
theorem agree_fromJson_serverSettings :
    (∀ f : SettingsField,
      f.Agree (clientSettings.fromJson serverSettings.toJson) serverSettings) ∧
    (∀ f : SettingsField,
      f.Agree (clientSettings.fromJson (serverSettings.toJson.restrict keepsThree))
        (if keepsThree f.key then serverSettings else clientSettings)) ∧
    SettingsField.serverPort.Agree (clientSettings.fromJson [("maxVlanId", .string "50")])
      clientSettings := by
  obtain ⟨hAll, hPart, hMissing⟩ :=
    agree_fromJson_iff (s := serverSettings) (t := clientSettings) (by decide)
  exact ⟨hAll.mpr rfl, (hPart keepsThree).mpr fun _ => rfl, hMissing _ _ rfl⟩

/-- Settings saved with alert collection off are loaded with it on. -/
theorem not_agree_fromJson :
    ¬ ∀ s t : VMTDSettings, s.HasInts → t.HasInts →
      ∀ f : SettingsField, f.Agree (t.fromJson s.toJson) s := by
  intro h
  have hRead := h { shouldCollectAlert := false } {} (by decide) (by decide) .shouldCollectAlert
  rw [SettingsField.agree_fromJson_iff_readFields] at hRead
  have hOld := SettingsField.readFields_shouldCollectAlert
    (s := { shouldCollectAlert := false }) (t := {}) (SettingsField.value_toJson _ _)
  exact Bool.false_ne_true (hRead.symm.trans hOld)

end VxlanMtd
