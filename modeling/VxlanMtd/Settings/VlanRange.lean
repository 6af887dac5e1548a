import VxlanMtd.Settings.Restart
import VxlanMtd.Lib.Run

/-!
# Settings — the VLAN range

`setMinVlanId` and `setMaxVlanId` each refuse a value that crosses the other
bound. Two callers get past that guard: `fromJson` assigns both bounds as the
object has them, and the form hands over the new lower bound while the old
upper bound is still in place.

## Results

* `setter_le`             — no setter crosses the bounds.
* `fromJson_le_iff`       — when a loaded object leaves them ordered.
* `along_le_iff`          — exactly which runs of calls never cross them.
* `updateData_range_iff`  — exactly when the form stores the range it shows.
-/

namespace VxlanMtd

namespace VMTDSettings

/-- The bounds of the VLAN range are in order. -/
def RangeOrdered (s : VMTDSettings) : Prop :=
  s.minVlanId ≤ s.maxVlanId

instance (s : VMTDSettings) : Decidable s.RangeOrdered :=
  inferInstanceAs (Decidable (_ ≤ _))

theorem rangeOrdered_default : RangeOrdered {} := by
  decide

end VMTDSettings

/-- The calls that change a settings object: the setter of a field, with the
value a view has there, and the load of a JSON object. -/
inductive SettingsCall where
  | set (f : SettingsField) (view : VMTDSettings)
  | fromJson (json : QJsonObject)

namespace SettingsCall

/-- The object after one call. -/
def step (o : SettingsObject) : SettingsCall → SettingsObject
  | set f view => f.setter view o
  | fromJson json => o.fromJson json

/-- The bounds are in order after the call. -/
def LeavesOrdered (o : SettingsObject) (c : SettingsCall) : Prop :=
  (step o c).fields.RangeOrdered

instance (o : SettingsObject) (c : SettingsCall) : Decidable (LeavesOrdered o c) :=
  inferInstanceAs (Decidable (VMTDSettings.RangeOrdered _))

/-- A loaded object has its lower bound below its upper bound, where a bound
it does not give as a number is the one in use. -/
def LoadsOrdered (o : SettingsObject) : SettingsCall → Prop
  | set _ _ => True
  | fromJson json =>
    (json.value "minVlanId").toIntOr o.fields.minVlanId ≤
      (json.value "maxVlanId").toIntOr o.fields.maxVlanId

end SettingsCall

-- ---------------------------------------------------------------------------
-- One call
-- ---------------------------------------------------------------------------

namespace SettingsObject

theorem minVlanId_setMinVlanId (o : SettingsObject) (lo : Int) :
    (o.setMinVlanId lo).fields.minVlanId =
      if lo > o.fields.maxVlanId then o.fields.minVlanId else lo := by
  rw [setMinVlanId]
  split <;> rfl

theorem maxVlanId_setMinVlanId (o : SettingsObject) (lo : Int) :
    (o.setMinVlanId lo).fields.maxVlanId = o.fields.maxVlanId := by
  rw [setMinVlanId]
  split <;> rfl

theorem minVlanId_setMaxVlanId (o : SettingsObject) (hi : Int) :
    (o.setMaxVlanId hi).fields.minVlanId = o.fields.minVlanId := by
  rw [setMaxVlanId]
  split <;> rfl

theorem maxVlanId_setMaxVlanId (o : SettingsObject) (hi : Int) :
    (o.setMaxVlanId hi).fields.maxVlanId =
      if hi < o.fields.minVlanId then o.fields.maxVlanId else hi := by
  rw [setMaxVlanId]
  split <;> rfl

end SettingsObject

/-- **Setters.** No setter crosses the bounds. -/
theorem SettingsField.setter_le (view : VMTDSettings) {o : SettingsObject} (f : SettingsField)
    (hOrdered : o.fields.RangeOrdered) : (f.setter view o).fields.RangeOrdered := by
  rw [VMTDSettings.RangeOrdered] at hOrdered ⊢
  by_cases hMin : f = .minVlanId
  · subst hMin
    rw [setter, SettingsObject.minVlanId_setMinVlanId, SettingsObject.maxVlanId_setMinVlanId]
    split
    · exact hOrdered
    · next hRefuse => exact not_lt.mp hRefuse
  by_cases hMax : f = .maxVlanId
  · subst hMax
    rw [setter, SettingsObject.minVlanId_setMaxVlanId, SettingsObject.maxVlanId_setMaxVlanId]
    split
    · exact hOrdered
    · next hRefuse => exact not_lt.mp hRefuse
  · -- the other setters leave both bounds alone
    have hKeepMin : (f.setter view o).fields.minVlanId = o.fields.minVlanId :=
      agree_setter_of_ne view o (g := .minVlanId) (Ne.symm hMin)
    have hKeepMax : (f.setter view o).fields.maxVlanId = o.fields.maxVlanId :=
      agree_setter_of_ne view o (g := .maxVlanId) (Ne.symm hMax)
    rw [hKeepMin, hKeepMax]
    exact hOrdered

/-- The bounds after a load. -/
theorem fromJson_range (s : VMTDSettings) (json : QJsonObject) :
    (s.fromJson json).minVlanId = (json.value "minVlanId").toIntOr s.minVlanId ∧
      (s.fromJson json).maxVlanId = (json.value "maxVlanId").toIntOr s.maxVlanId := by
  constructor
  · exact (SettingsField.agree_fromJson_iff_readFields s (s.readFields json) json
      .minVlanId).mpr (SettingsField.Agree.refl _ .minVlanId)
  · exact (SettingsField.agree_fromJson_iff_readFields s (s.readFields json) json
      .maxVlanId).mpr (SettingsField.Agree.refl _ .maxVlanId)

/-- **Loading.** A load leaves the bounds in order exactly when the object's
own bounds are. -/
theorem fromJson_le_iff (o : SettingsObject) (json : QJsonObject) :
    SettingsCall.LeavesOrdered o (.fromJson json) ↔
      SettingsCall.LoadsOrdered o (.fromJson json) := by
  obtain ⟨hMin, hMax⟩ := fromJson_range o.fields json
  rw [SettingsCall.LoadsOrdered, ← hMin, ← hMax]
  exact Iff.rfl

-- ---------------------------------------------------------------------------
-- Runs of calls
-- ---------------------------------------------------------------------------

/-- Every call leaves the bounds in order exactly when every loaded object
has its own in order. -/
theorem along_le_iff (calls : List SettingsCall) {o : SettingsObject}
    (hOrdered : o.fields.RangeOrdered) :
    EventRun.Along SettingsCall.step SettingsCall.LeavesOrdered o calls ↔
      EventRun.Along SettingsCall.step SettingsCall.LoadsOrdered o calls := by
  let Inv : SettingsObject → Prop := fun o => o.fields.RangeOrdered
  have hStart : Inv o := hOrdered
  have hExact : ∀ o c, Inv o →
      (SettingsCall.LeavesOrdered o c ↔ SettingsCall.LoadsOrdered o c) := by
    intro o c hOrdered
    cases c with
    | set f view => exact iff_of_true (f.setter_le view hOrdered) trivial
    | fromJson json => exact fromJson_le_iff o json
  have hKeep : ∀ o c, Inv o → SettingsCall.LoadsOrdered o c → Inv (SettingsCall.step o c) :=
    fun o c hOrdered hLoads => (hExact o c hOrdered).mpr hLoads
  exact EventRun.along_iff_of_invariant hStart hExact hKeep

-- ---------------------------------------------------------------------------
-- The form
-- ---------------------------------------------------------------------------

/-- The two setters in the form's order. The lower bound is refused if it
lies above the old upper bound, and then the old one stays. -/
theorem setMinMax_range_iff (o : SettingsObject) {lo hi : Int} (hRange : lo ≤ hi) :
    (((o.setMinVlanId lo).setMaxVlanId hi).fields.minVlanId = lo ∧
      ((o.setMinVlanId lo).setMaxVlanId hi).fields.maxVlanId = hi) ↔
      lo ≤ o.fields.maxVlanId ∨ lo = o.fields.minVlanId := by
  rw [SettingsObject.minVlanId_setMaxVlanId, SettingsObject.maxVlanId_setMaxVlanId,
    SettingsObject.minVlanId_setMinVlanId, SettingsObject.maxVlanId_setMinVlanId]
  by_cases hLo : lo > o.fields.maxVlanId
  · rw [if_pos hLo]
    split <;> omega
  · rw [if_neg hLo, if_neg (not_lt.mpr hRange)]
    exact iff_of_true ⟨rfl, rfl⟩ (Or.inl (not_lt.mp hLo))

/-- The setters before the two bounds leave them alone, and so do those
after. -/
theorem updateData_range (o : SettingsObject) (view : VMTDSettings) :
    ∃ o' : SettingsObject,
      o'.fields.minVlanId = o.fields.minVlanId ∧ o'.fields.maxVlanId = o.fields.maxVlanId ∧
      (o.updateData view).fields.minVlanId =
        ((o'.setMinVlanId view.minVlanId).setMaxVlanId view.maxVlanId).fields.minVlanId ∧
      (o.updateData view).fields.maxVlanId =
        ((o'.setMinVlanId view.minVlanId).setMaxVlanId view.maxVlanId).fields.maxVlanId := by
  let before := SettingsField.formOrder.take 9
  let after := SettingsField.formOrder.drop 11
  have hSplit : o.updateData view = SettingsField.setAll view
      (((SettingsField.setAll view o before).setMinVlanId view.minVlanId).setMaxVlanId
        view.maxVlanId) after := by
    have hOrder : SettingsField.formOrder = before ++ (.minVlanId :: .maxVlanId :: after) := by
      decide
    have hMin : ∀ o, SettingsField.minVlanId.setter view o = o.setMinVlanId view.minVlanId :=
      fun _ => rfl
    have hMax : ∀ o, SettingsField.maxVlanId.setter view o = o.setMaxVlanId view.maxVlanId :=
      fun _ => rfl
    rw [updateData_eq, hOrder, SettingsField.setAll, SettingsField.setAll, SettingsField.setAll,
      List.foldl_append, List.foldl_cons, List.foldl_cons, hMin, hMax]
  refine ⟨SettingsField.setAll view o before, ?_, ?_, ?_, ?_⟩
  · exact SettingsField.agree_setAll_of_notMem view o (g := .minVlanId)
      (by decide : _ ∉ before)
  · exact SettingsField.agree_setAll_of_notMem view o (g := .maxVlanId)
      (by decide : _ ∉ before)
  · rw [hSplit]
    exact SettingsField.agree_setAll_of_notMem view _ (g := .minVlanId)
      (by decide : _ ∉ after)
  · rw [hSplit]
    exact SettingsField.agree_setAll_of_notMem view _ (g := .maxVlanId)
      (by decide : _ ∉ after)

/-- **The form.** It stores the range it shows exactly when the lower bound
lies below the old upper bound, or does not change. -/
theorem updateData_range_iff (o : SettingsObject) {view : VMTDSettings}
    (hRange : view.minVlanId ≤ view.maxVlanId) :
    ((o.updateData view).fields.minVlanId = view.minVlanId ∧
      (o.updateData view).fields.maxVlanId = view.maxVlanId) ↔
      view.minVlanId ≤ o.fields.maxVlanId ∨ view.minVlanId = o.fields.minVlanId := by
  obtain ⟨o', hMin, hMax, hMin', hMax'⟩ := updateData_range o view
  rw [hMin', hMax', setMinMax_range_iff o' hRange, hMin, hMax]

/-- **The VLAN range.** Of a run of calls from the defaults, every one leaves
the bounds in order exactly when every loaded object has its own in order; and
the form stores the range it shows exactly when its lower bound lies below the
old upper bound, or does not change. -/
theorem vlanRange_iff (calls : List SettingsCall) (o : SettingsObject) (view : VMTDSettings)
    (hRange : view.minVlanId ≤ view.maxVlanId) :
    (EventRun.Along SettingsCall.step SettingsCall.LeavesOrdered ⟨{}, false⟩ calls ↔
      EventRun.Along SettingsCall.step SettingsCall.LoadsOrdered ⟨{}, false⟩ calls) ∧
    (((o.updateData view).fields.minVlanId = view.minVlanId ∧
        (o.updateData view).fields.maxVlanId = view.maxVlanId) ↔
      view.minVlanId ≤ o.fields.maxVlanId ∨ view.minVlanId = o.fields.minVlanId) :=
  ⟨along_le_iff calls VMTDSettings.rangeOrdered_default, updateData_range_iff o hRange⟩

/-- The defaults, and the range 30..40 submitted over them. -/
theorem vlanRange_iff_narrower :
    (EventRun.Along SettingsCall.step SettingsCall.LeavesOrdered ⟨{}, false⟩
        [.set .minVlanId { minVlanId := 30 }] ↔
      EventRun.Along SettingsCall.step SettingsCall.LoadsOrdered ⟨{}, false⟩
        [.set .minVlanId { minVlanId := 30 }]) ∧
    (((SettingsObject.updateData ⟨{}, false⟩
          { minVlanId := 30, maxVlanId := 40 }).fields.minVlanId = 30 ∧
        (SettingsObject.updateData ⟨{}, false⟩
          { minVlanId := 30, maxVlanId := 40 }).fields.maxVlanId = 40) ↔
      (30 : Int) ≤ 50 ∨ (30 : Int) = 20) :=
  vlanRange_iff _ ⟨{}, false⟩ { minVlanId := 30, maxVlanId := 40 }
    (by decide : (30 : Int) ≤ 40)

/-- A file whose lower bound is 60 crosses the default range, and the range
60..70 submitted over the default one is stored as 20..70. -/
theorem vlanRange_crossed :
    ¬ ((∀ calls, EventRun.Along SettingsCall.step SettingsCall.LeavesOrdered ⟨{}, false⟩ calls) ∧
      ∀ (o : SettingsObject) (view : VMTDSettings), view.minVlanId ≤ view.maxVlanId →
        (o.updateData view).fields.minVlanId = view.minVlanId ∧
          (o.updateData view).fields.maxVlanId = view.maxVlanId) ∧
    ¬ EventRun.Along SettingsCall.step SettingsCall.LeavesOrdered ⟨{}, false⟩
      [.fromJson [("minVlanId", .ofInt 60)]] ∧
    (SettingsObject.updateData ⟨{}, false⟩
      { minVlanId := 60, maxVlanId := 70 }).fields.minVlanId = 20 := by
  have hLoad : ¬ EventRun.Along SettingsCall.step SettingsCall.LeavesOrdered ⟨{}, false⟩
      [.fromJson [("minVlanId", .ofInt 60)]] := by
    decide +kernel
  exact ⟨fun h => hLoad (h.1 _), hLoad, by decide +kernel⟩

end VxlanMtd
