import VxlanMtd.Store.RoundTrip
import VxlanMtd.Lib.Run

/-!
# References in the device store

Hosts refer to switches and scanners to hosts, but SQLite does not enforce it:
the operations have to.

* **`referenced_iff`** — along a run whose operations are given existing ids,
  every reference is to an existing row, and the placeholders remain, exactly
  as long as nothing is removed that is still referred to;
* `not_referenced` — a banned host is removed.

Any statement may fail at any time.
-/

namespace VxlanMtd

open Sql EventRun

-- ---------------------------------------------------------------------------
-- References
-- ---------------------------------------------------------------------------

/-- A `REFERENCES` clause. -/
structure Reference where
  table : String
  column : String
  target : String
  deriving DecidableEq

def deviceReferences : List Reference :=
  [⟨"Hosts", "switch_id", "Switches"⟩, ⟨"Banned_scanners", "host_id", "Hosts"⟩,
    ⟨"Allowed_scanners", "host_id", "Hosts"⟩]

/-- No row dangles, and the placeholders are there. -/
structure Referenced (db : Database) : Prop where
  references : ∀ r ∈ deviceReferences, Refers "id" db r.table r.column r.target
  placeholders : ∀ t ∈ ["Switches", "Hosts"], Value.integer 0 ∈ keys "id" db t

/-- Nothing refers to the row with this id. -/
def Unreferenced (db : Database) (table : String) (id : Int32) : Prop :=
  ∀ r ∈ deviceReferences, r.target = table →
    ∀ row ∈ db r.table, row r.column ≠ .integer id.toInt

theorem mem_columns_reference :
    ∀ r ∈ deviceReferences, r.column ∈ (deviceSchema.columns r.table).map Prod.fst ∧
      r.column ≠ deviceSchema.key := by
  decide +kernel

/-- Hosts refer to switches, scanners to hosts. -/
theorem reference_cases :
    ∀ r ∈ deviceReferences, r.table ≠ "Switches" ∧
      (r.table = "Hosts" → r.column = "switch_id" ∧ r.target = "Switches") ∧
      (r.table ≠ "Hosts" → r.column = "host_id" ∧ r.target = "Hosts") := by
  decide +kernel

section
variable {real : String → Value} {db : Database}

/-- An update or insertion that assigns existing ids. -/
theorem Referenced.run (h : Referenced db) {statement : Statement}
    (hDelete : statement.isDelete = false) (hOk : statement.Ok deviceSchema)
    (hShaped : statement.Shaped)
    (hNew : ∀ r ∈ deviceReferences, r.table = statement.table →
      ∀ v, (r.column, v) ∈ statement.assigned → numeric real v ∈ keys "id" db r.target)
    (fresh : Int) : Referenced (statement.run deviceSchema real fresh db) where
  references := by
    intro r hr
    obtain ⟨hColumn, hKey⟩ := mem_columns_reference r hr
    refine Refers.run (h.references r hr) hDelete hOk hShaped hColumn hKey (fun hTable v hv => ?_)
      fresh
    rw [store_deviceSchema hColumn]
    exact hNew r hr hTable v hv
  placeholders := by
    intro t ht
    exact keys_subset_run hDelete hOk fresh db t (h.placeholders t ht)

/-- Deleting a device leaves no dangling row exactly if nothing refers to it. -/
theorem referenced_delete_iff (h : Referenced db) {table : String}
    (hTable : table ∈ ["Switches", "Hosts"]) {id : Int32} (hPos : 0 < id.toInt) (fresh : Int) :
    Referenced ((Statement.delete table "id" (toString id.toInt)).run deviceSchema real fresh db) ↔
      Unreferenced db table id := by
  have hKey : "id" ∈ (deviceSchema.columns table).map Prod.fst := by
    have hAll : ∀ t ∈ ["Switches", "Hosts"], "id" ∈ (deviceSchema.columns t).map Prod.fst := by
      decide +kernel
    exact hAll table hTable
  have hStore : deviceSchema.store real table deviceSchema.key (toString id.toInt) =
      .integer id.toInt := by
    show deviceSchema.store real table "id" _ = _
    rw [store_deviceSchema hKey, numeric_toString real (fits_toInt id)]
  have hOther : ∀ r ∈ deviceReferences, r.target = table → r.table ≠ table := by
    have hAll : ∀ r ∈ deviceReferences, r.table ≠ r.target := by decide +kernel
    rintro r hr rfl
    exact hAll r hr
  have hTarget : ∀ r ∈ deviceReferences, r.target = table →
      (Refers "id" ((Statement.delete table "id" (toString id.toInt)).run deviceSchema real fresh db)
          r.table r.column r.target ↔
        ∀ row ∈ db r.table, row r.column ≠ .integer id.toInt) := by
    rintro r hr rfl
    have hDelete := @refers_delete_iff deviceSchema real r.target r.table r.column
      (toString id.toInt) (hOther r hr rfl) fresh db (h.references r hr)
    rw [hStore] at hDelete
    exact hDelete
  constructor
  · intro hAfter r hr hEq
    exact (hTarget r hr hEq).mp (hAfter.references r hr)
  · intro hFree
    refine ⟨fun r hr => ?_, fun t ht => ?_⟩
    · by_cases hEq : r.target = table
      · exact (hTarget r hr hEq).mpr (hFree r hr hEq)
      · exact Refers.delete_of_ne hEq (h.references r hr) fresh
    · by_cases hEq : t = table
      · subst hEq
        refine (@mem_keys_delete deviceSchema real t _ fresh db _).mpr ⟨h.placeholders t ht, ?_⟩
        rw [hStore]
        intro hZero
        have := Value.integer.inj hZero
        omega
      · show _ ∈ keys "id" _ t
        rw [keys, run_of_ne hEq]
        exact h.placeholders t ht

/-- Deleting a scanner. -/
theorem Referenced.delete_of_notMem (h : Referenced db) {table c k : String}
    (hTable : table ∉ ["Switches", "Hosts"]) (fresh : Int) :
    Referenced ((Statement.delete table c k).run deviceSchema real fresh db) where
  references := by
    intro r hr
    have hTarget : ∀ r ∈ deviceReferences, r.target ∈ ["Switches", "Hosts"] := by
      decide +kernel
    have hne : r.target ≠ table := by
      rintro rfl
      exact hTable (hTarget r hr)
    exact Refers.delete_of_ne hne (h.references r hr) fresh
  placeholders := by
    intro t ht
    have hne : t ≠ table := fun hEq => hTable (hEq ▸ ht)
    rw [keys, run_of_ne hne]
    exact h.placeholders t ht

end

-- ---------------------------------------------------------------------------
-- Operations
-- ---------------------------------------------------------------------------

/-- The operations on switches, hosts and scanners. -/
inductive StoreOp where
  | create (id : Int32) (device : Device)
  | removeSwitch (id : Int32)
  | removeHost (id : Int32)
  | createBannedScanner (id hostId remaining : Int32)
  | removeBannedScanner (id : Int32)
  | createAllowedScanner (id hostId : Int32)
  | removeAllowedScanner (id : Int32)

section
variable {real : String → Value}

def StoreOp.perform (sqlite : Sqlite deviceSchema real) : StoreOp → Database → Database
  | .create id device => device.create sqlite id
  | .removeSwitch id => DeviceStore.removeSwitch sqlite id.toInt
  | .removeHost id => DeviceStore.removeHost sqlite id.toInt
  | .createBannedScanner id hostId remaining =>
    DeviceStore.createBannedScanner sqlite id.toInt hostId.toInt remaining.toInt
  | .removeBannedScanner id => DeviceStore.removeBannedScanner sqlite id.toInt
  | .createAllowedScanner id hostId =>
    DeviceStore.createAllowedScanner sqlite id.toInt hostId.toInt
  | .removeAllowedScanner id => DeviceStore.removeAllowedScanner sqlite id.toInt

/-- An operation, with the engine that executes its statements or fails. -/
def storeStep (db : Database) (e : Sqlite deviceSchema real × StoreOp) : Database :=
  e.2.perform e.1 db

/-- Ids passed in name existing rows, and strings fill the statement. -/
def StoreOp.Given (db : Database) : StoreOp → Prop
  | .create id device =>
    Fillable (device.values id) ∧
      match device with
      | .switch .. => True
      | .host _ _ _ _ _ switchId => Value.integer switchId.toInt ∈ keys "id" db "Switches"
  | .createBannedScanner _ hostId _ => Value.integer hostId.toInt ∈ keys "id" db "Hosts"
  | .createAllowedScanner _ hostId => Value.integer hostId.toInt ∈ keys "id" db "Hosts"
  | _ => True

/-- A removal that goes through is of a row nothing refers to; the hosts of a
switch may be released first. -/
def StoreOp.Safe (sqlite : Sqlite deviceSchema real) (db : Database) : StoreOp → Prop
  | .removeSwitch id =>
    id.toInt ≤ 0 ∨ (sqlite.exec (args releaseHostsText [toString id.toInt]) db).isSome = true ∨
      sqlite.exec (args deleteSwitchText [toString id.toInt]) db = none ∨
        Unreferenced db "Switches" id
  | .removeHost id =>
    id.toInt ≤ 0 ∨ sqlite.exec (args deleteHostText [toString id.toInt]) db = none ∨
      Unreferenced db "Hosts" id
  | _ => True

/-- Numerals fill statements. -/
theorem fillable_toString (ids : List Int) : Fillable (ids.map toString) := by
  refine fillable_of_clean fun v hv => ?_
  obtain ⟨i, -, rfl⟩ := List.mem_map.mp hv
  exact ⟨clean_repr i, Text.notMem_repr (by decide) (by decide)⟩

theorem numeric_int32 (i : Int32) : numeric real (toString i.toInt) = .integer i.toInt :=
  numeric_toString real (fits_toInt i)

variable (sqlite : Sqlite deviceSchema real) {db : Database}

/-- A statement that assigns existing ids, or fails. -/
theorem Referenced.execute (h : Referenced db) {text : String} {statement : Statement}
    (hParse : parse text = some statement) (hOk : statement.Ok deviceSchema)
    (hDelete : statement.isDelete = false) (hShaped : statement.Shaped)
    (hNew : ∀ r ∈ deviceReferences, r.table = statement.table →
      ∀ v, (r.column, v) ∈ statement.assigned → numeric real v ∈ keys "id" db r.target) :
    Referenced (sqlite.execute text db) := by
  rcases sqlite.execute_cases hParse hOk db with ⟨-, hSame⟩ | ⟨-, fresh, -, hRun⟩
  · rwa [hSame]
  · rw [hRun]
    exact h.run hDelete hOk hShaped hNew fresh

/-- `createSwitch` and `createHost`. -/
theorem Referenced.create (h : Referenced db) {id : Int32} {device : Device}
    (hGiven : (StoreOp.create id device).Given db) : Referenced (device.create sqlite id db) := by
  by_cases hId : id.toInt = 0
  · cases device with
    | switch =>
      rw [Device.create, DeviceStore.createSwitch, if_pos hId]
      exact h
    | host =>
      rw [Device.create, DeviceStore.createHost, if_pos hId]
      exact h
  · obtain ⟨text, hParse, hOk, hCreate⟩ := Device.create_eq sqlite hId hGiven.1
    have hStatement : (device.statement id).isDelete = false ∧ (device.statement id).Shaped ∧
        (device.statement id).table = device.table ∧
        (device.statement id).assigned = device.columns := by
      have hne : device.columns ≠ [] := by cases device <;> simp [Device.columns]
      unfold Device.statement
      by_cases hPos : 0 < id.toInt
      · rw [if_pos hPos]
        exact ⟨rfl, hne, rfl, rfl⟩
      · rw [if_neg hPos]
        exact ⟨rfl, ⟨by simpa using hne, by simp⟩, rfl, zip_fst_snd _⟩
    obtain ⟨hDelete, hShaped, hTable, hAssigned⟩ := hStatement
    rw [hCreate]
    refine h.execute sqlite hParse hOk hDelete hShaped fun r hr hEq v hv => ?_
    rw [hTable] at hEq
    rw [hAssigned] at hv
    obtain ⟨hSwitches, hHosts, -⟩ := reference_cases r hr
    cases device with
    | switch => exact absurd hEq hSwitches
    | host name domainName ip interface switchport switchId =>
      obtain ⟨hColumn, hTarget⟩ := hHosts hEq
      rw [hColumn] at hv
      obtain rfl : v = toString switchId.toInt := by simpa [Device.columns] using hv
      rw [hTarget, numeric_int32]
      exact hGiven.2

/-- A scanner refers to a host only. -/
theorem keys_of_scanner {table : String} (hTable : table ≠ "Hosts")
    {assigned : List (String × String)} {hostId : Int32}
    (hHost : Value.integer hostId.toInt ∈ keys "id" db "Hosts")
    (hAssigned : ∀ v, ("host_id", v) ∈ assigned → v = toString hostId.toInt) :
    ∀ r ∈ deviceReferences, r.table = table →
      ∀ v, (r.column, v) ∈ assigned → numeric real v ∈ keys "id" db r.target := by
  rintro r hr rfl v hv
  obtain ⟨hColumn, hTarget⟩ := (reference_cases r hr).2.2 hTable
  rw [hColumn] at hv
  rw [hAssigned v hv, hTarget, numeric_int32]
  exact hHost

theorem Referenced.createBannedScanner (h : Referenced db) {hostId : Int32}
    (hHost : Value.integer hostId.toInt ∈ keys "id" db "Hosts") (id remaining : Int) :
    Referenced (DeviceStore.createBannedScanner sqlite id hostId.toInt remaining db) := by
  unfold DeviceStore.createBannedScanner
  split
  · obtain ⟨hParse, hOk⟩ := @DeviceQuery.parse_args _
      ([hostId.toInt, remaining, id].map toString) _ query_updateBannedScanner
      (fillable_toString _)
    refine h.execute sqlite hParse hOk rfl (by simp [Statement.mapLiterals, Statement.Shaped])
      (keys_of_scanner (show "Banned_scanners" ≠ "Hosts" by decide) hHost fun v hv => ?_)
    simpa [Statement.mapLiterals, Statement.assigned, fill] using hv
  · obtain ⟨hParse, hOk⟩ := @DeviceQuery.parse_args _
      ([hostId.toInt, remaining].map toString) _ query_insertBannedScanner
      (fillable_toString _)
    refine h.execute sqlite hParse hOk rfl (by simp [Statement.mapLiterals, Statement.Shaped])
      (keys_of_scanner (show "Banned_scanners" ≠ "Hosts" by decide) hHost fun v hv => ?_)
    simpa [Statement.mapLiterals, Statement.assigned, fill] using hv

theorem Referenced.createAllowedScanner (h : Referenced db) {hostId : Int32}
    (hHost : Value.integer hostId.toInt ∈ keys "id" db "Hosts") (id : Int) :
    Referenced (DeviceStore.createAllowedScanner sqlite id hostId.toInt db) := by
  unfold DeviceStore.createAllowedScanner
  split
  · obtain ⟨hParse, hOk⟩ := @DeviceQuery.parse_args _ ([hostId.toInt, id].map toString) _
      query_updateAllowedScanner (fillable_toString _)
    refine h.execute sqlite hParse hOk rfl (by simp [Statement.mapLiterals, Statement.Shaped])
      (keys_of_scanner (show "Allowed_scanners" ≠ "Hosts" by decide) hHost fun v hv => ?_)
    simpa [Statement.mapLiterals, Statement.assigned, fill] using hv
  · obtain ⟨hParse, hOk⟩ := @DeviceQuery.parse_args _ ([hostId.toInt].map toString) _
      query_insertAllowedScanner (fillable_toString _)
    refine h.execute sqlite hParse hOk rfl (by simp [Statement.mapLiterals, Statement.Shaped])
      (keys_of_scanner (show "Allowed_scanners" ≠ "Hosts" by decide) hHost fun v hv => ?_)
    simpa [Statement.mapLiterals, Statement.assigned, fill] using hv

/-- The removals delete the row with the id. -/
theorem parse_delete {text table : String}
    (hQuery : DeviceQuery text.toList 1 (.delete table "id" "%1")) (id : Int) :
    parse (args text [toString id]) = some (.delete table "id" (toString id)) ∧
      (Statement.delete table "id" (toString id)).Ok deviceSchema :=
  @DeviceQuery.parse_args _ [toString id] _ hQuery (fillable_toString [id])

/-- `removeBannedScanner` and `removeAllowedScanner`. -/
theorem Referenced.removeScanner (h : Referenced db) {text table : String}
    (hQuery : DeviceQuery text.toList 1 (.delete table "id" "%1"))
    (hTable : table ∉ ["Switches", "Hosts"]) (id : Int) :
    Referenced (sqlite.execute (args text [toString id]) db) := by
  obtain ⟨hParse, hOk⟩ := parse_delete hQuery id
  rcases sqlite.execute_cases hParse hOk db with ⟨-, hSame⟩ | ⟨-, fresh, -, hRun⟩
  · rw [hSame]
    exact h
  · rw [hRun]
    exact h.delete_of_notMem hTable fresh

/-- Deleting a device with a statement that may fail. -/
theorem referenced_remove_iff (h : Referenced db) {text table : String}
    (hQuery : DeviceQuery text.toList 1 (.delete table "id" "%1"))
    (hTable : table ∈ ["Switches", "Hosts"]) {id : Int32} (hPos : 0 < id.toInt) :
    Referenced (sqlite.execute (args text [toString id.toInt]) db) ↔
      sqlite.exec (args text [toString id.toInt]) db = none ∨ Unreferenced db table id := by
  obtain ⟨hParse, hOk⟩ := parse_delete hQuery id.toInt
  rcases sqlite.execute_cases hParse hOk db with ⟨hNone, hSame⟩ | ⟨hSome, fresh, -, hRun⟩
  · rw [hSame]
    exact iff_of_true h (Or.inl hNone)
  · have hNot : sqlite.exec (args text [toString id.toInt]) db ≠ none := by
      intro hNone
      rw [hNone] at hSome
      cases hSome
    rw [hRun, referenced_delete_iff h hTable hPos fresh]
    exact ⟨Or.inr, fun hOr => hOr.resolve_left hNot⟩

/-- Once the hosts of a switch are released nothing refers to it. -/
theorem referenced_release (h : Referenced db) {id : Int32} (hPos : 0 < id.toInt) :
    let released := sqlite.execute (args releaseHostsText [toString id.toInt]) db
    Referenced released ∧
      (sqlite.exec (args releaseHostsText [toString id.toInt]) db = none ∧ released = db ∨
        (sqlite.exec (args releaseHostsText [toString id.toInt]) db).isSome = true ∧
          Unreferenced released "Switches" id) := by
  have hZero : numeric real "0" = .integer 0 := numeric_toString real (i := 0) (by decide)
  obtain ⟨hParse, hOk⟩ : parse (args releaseHostsText [toString id.toInt]) =
      some (.update "Hosts" [("switch_id", "0")] "switch_id" (toString id.toInt)) ∧
      (Statement.update "Hosts" [("switch_id", "0")] "switch_id" (toString id.toInt)).Ok
        deviceSchema :=
    @DeviceQuery.parse_args _ [toString id.toInt] _ query_releaseHosts
      (fillable_toString [id.toInt])
  intro released
  have hReferenced : Referenced released := by
    refine h.execute sqlite hParse hOk rfl (by simp [Statement.Shaped]) fun r hr hEq v hv => ?_
    obtain ⟨hColumn, hTarget⟩ := (reference_cases r hr).2.1 hEq
    rw [hColumn] at hv
    obtain rfl : v = "0" := by simpa [Statement.assigned] using hv
    rw [hTarget, hZero]
    exact h.placeholders "Switches" (by decide)
  refine ⟨hReferenced, ?_⟩
  rcases sqlite.execute_cases hParse hOk db with ⟨hNone, hSame⟩ | ⟨hSome, fresh, -, hRun⟩
  · exact Or.inl ⟨hNone, hSame⟩
  · refine Or.inr ⟨hSome, fun r hr hTarget row hRow hId => ?_⟩
    have hTable : r.table = "Hosts" := by
      by_contra hne
      have := ((reference_cases r hr).2.2 hne).2
      rw [this] at hTarget
      exact absurd hTarget (by decide)
    obtain ⟨hColumn, -⟩ := (reference_cases r hr).2.1 hTable
    have hStore : ∀ s, deviceSchema.store real "Hosts" "switch_id" s = numeric real s := by
      intro s
      rw [store_deviceSchema (by decide)]
    change row ∈ sqlite.execute _ db r.table at hRow
    rw [hTable, hRun, Statement.run, Function.update_self] at hRow
    obtain ⟨old, -, rfl⟩ := List.mem_map.mp hRow
    rw [hColumn, hStore, numeric_int32] at hId
    by_cases hWhere : old "switch_id" = .integer id.toInt
    · rw [if_pos hWhere, assign_of_mem (by simp) (List.mem_singleton_self _), hStore, hZero] at hId
      have := Value.integer.inj hId
      omega
    · rw [if_neg hWhere] at hId
      exact hWhere hId

-- ---------------------------------------------------------------------------
-- Runs
-- ---------------------------------------------------------------------------

/-- One operation. -/
theorem referenced_perform_iff (h : Referenced db) {op : StoreOp} (hGiven : op.Given db) :
    Referenced (op.perform sqlite db) ↔ op.Safe sqlite db := by
  cases op with
  | create id device => exact iff_of_true (h.create sqlite hGiven) trivial
  | createBannedScanner id hostId remaining =>
    exact iff_of_true (h.createBannedScanner sqlite hGiven _ _) trivial
  | createAllowedScanner id hostId =>
    exact iff_of_true (h.createAllowedScanner sqlite hGiven _) trivial
  | removeBannedScanner id =>
    refine iff_of_true ?_ trivial
    show Referenced (if id.toInt < 0 then db else _)
    split
    · exact h
    · exact h.removeScanner sqlite query_deleteBannedScanner (by decide) _
  | removeAllowedScanner id =>
    refine iff_of_true ?_ trivial
    show Referenced (if id.toInt < 0 then db else _)
    split
    · exact h
    · exact h.removeScanner sqlite query_deleteAllowedScanner (by decide) _
  | removeHost id =>
    show Referenced (if id.toInt ≤ 0 then db else _) ↔ id.toInt ≤ 0 ∨ _
    by_cases hId : id.toInt ≤ 0
    · rw [if_pos hId]
      exact iff_of_true h (Or.inl hId)
    · rw [if_neg hId, referenced_remove_iff sqlite h query_deleteHost (by decide) (by omega)]
      exact ⟨Or.inr, fun hOr => hOr.resolve_left hId⟩
  | removeSwitch id =>
    show Referenced (if id.toInt ≤ 0 then db else _) ↔ id.toInt ≤ 0 ∨ _
    by_cases hId : id.toInt ≤ 0
    · rw [if_pos hId]
      exact iff_of_true h (Or.inl hId)
    · have hPos : 0 < id.toInt := by omega
      obtain ⟨hReleased, hCases⟩ := referenced_release sqlite h hPos
      rw [if_neg hId, referenced_remove_iff sqlite hReleased query_deleteSwitch (by decide) hPos]
      rcases hCases with ⟨hNone, hSame⟩ | ⟨hSome, hFree⟩
      · rw [hSame, hNone]
        constructor
        · exact fun hOr => Or.inr (Or.inr hOr)
        · rintro (hLe | hSome | hOr)
          · exact absurd hLe hId
          · cases hSome
          · exact hOr
      · exact iff_of_true (Or.inr hFree) (Or.inr (Or.inl hSome))

/-- **References along a run.** Given existing ids, and strings that fill the
statements, a run keeps every reference and the placeholders exactly if each
removal that goes through is of a row that nothing refers to. -/
theorem referenced_iff (h : Referenced db) {es : List (Sqlite deviceSchema real × StoreOp)}
    (hGiven : Along storeStep (fun db e => e.2.Given db) db es) :
    Along storeStep (fun db e => Referenced (storeStep db e)) db es ↔
      Along storeStep (fun db e => e.2.Safe e.1 db) db es :=
  along_iff_of_along h (fun _ e hDb hOp => referenced_perform_iff e.1 hDb hOp)
    (fun _ e hDb hOp hSafe => (referenced_perform_iff e.1 hDb hOp).mpr hSafe) hGiven

end

theorem referenced_createTables : Referenced createTables where
  references := by decide +kernel
  placeholders := by decide +kernel

/-- The engine that never fails. -/
def reliable : Sqlite deviceSchema .real := Sqlite.interpreter deviceSchema .real

/-- A host on the placeholder switch. -/
def node : Device := .host "node-1" "lab" "10.0.0.11" "eth0" "1/1" 0

def addNode : Sqlite deviceSchema .real × StoreOp := (reliable, .create (-1) node)

def banNode : Sqlite deviceSchema .real × StoreOp := (reliable, .createBannedScanner (-1) 1 10)

def removeNode : Sqlite deviceSchema .real × StoreOp := (reliable, .removeHost 1)

/-- A new device is executed as its statement. -/
theorem storeStep_create {device : Device} (hValues : Fillable (device.values (-1)))
    (db : Database) :
    storeStep db (reliable, .create (-1) device) =
      (device.statement (-1)).run deviceSchema .real (nextKey "id" (db device.table)) db := by
  obtain ⟨text, hParse, hOk, hCreate⟩ :=
    @Device.create_eq .real reliable (-1) device (by decide) hValues
  rw [storeStep, StoreOp.perform, hCreate db, reliable, Sqlite.execute_interpreter hParse hOk db]
  rfl

/-- It gets the next id. -/
theorem storeStep_row {device : Device} (hValues : Fillable (device.values (-1))) (db : Database) :
    storeStep db (reliable, .create (-1) device) =
      Function.update db device.table (db device.table ++ [Row.ofList
        (("id", .integer (nextKey "id" (db device.table))) ::
          device.columns.map fun p => (p.1, numeric .real p.2))]) := by
  have hZip : (device.columns.map Prod.fst).zip (device.columns.map Prod.snd) = device.columns := by
    rw [List.zip_map']
    exact List.map_id _
  have hStore : device.columns.map (fun p => (p.1, numeric .real p.2)) =
      device.columns.map fun p => (p.1, deviceSchema.store .real device.table p.1 p.2) := by
    refine List.map_congr_left fun p hp => ?_
    rw [store_deviceSchema (device.mem_schema _ (List.mem_cons_of_mem _ (List.mem_map_of_mem hp)))]
  have hStatement : device.statement (-1) =
      .insert device.table (device.columns.map Prod.fst) (device.columns.map Prod.snd) :=
    if_neg (by decide)
  rw [storeStep_create hValues, hStatement, Statement.run, hZip, hStore,
    ← assign_blank device.nodup_columns device.id_notMem]
  rfl

theorem storeStep_addNode (db : Database) :
    storeStep db addNode =
      (node.statement (-1)).run deviceSchema .real (nextKey "id" (db "Hosts")) db :=
  storeStep_create (by decide +kernel) db

theorem storeStep_banNode (db : Database) :
    storeStep db banNode =
      (Statement.insert "Banned_scanners" ["host_id", "remaining"] ["1", "10"]).run deviceSchema
        .real (nextKey "id" (db "Banned_scanners")) db := by
  obtain ⟨hParse, hOk⟩ := @DeviceQuery.parse_args _ ["1", "10"] _ query_insertBannedScanner
    (fillable_toString [1, 10])
  have hNew : DeviceStore.createBannedScanner reliable (-1) 1 10 db =
      reliable.execute (args insertBannedScannerText ["1", "10"]) db := if_neg (by decide)
  exact hNew.trans (Sqlite.execute_interpreter hParse hOk db)

theorem storeStep_removeNode (db : Database) :
    storeStep db removeNode =
      (Statement.delete "Hosts" "id" "1").run deviceSchema .real (nextKey "id" (db "Hosts")) db := by
  obtain ⟨hParse, hOk⟩ := parse_delete query_deleteHost 1
  exact Sqlite.execute_interpreter hParse hOk db

/-- While the host is there all references are kept. -/
theorem referenced_banned :
    Along storeStep (fun db e => Referenced (storeStep db e)) createTables [addNode, banNode] := by
  refine (referenced_iff referenced_createTables ?_).mpr ⟨trivial, trivial, trivial⟩
  rw [along_cons, along_cons, storeStep_addNode]
  refine ⟨⟨by decide +kernel, ?_⟩, ?_, trivial⟩
  · show Value.integer 0 ∈ keys "id" createTables "Switches"
    decide +kernel
  · show Value.integer 1 ∈ keys "id" _ "Hosts"
    decide +kernel

/-- Removed with its ban still there, the host is missing. -/
theorem not_referenced :
    ¬ ∀ es : List (Sqlite deviceSchema .real × StoreOp),
        Along storeStep (fun db e => e.2.Given db) createTables es →
          Along storeStep (fun db e => Referenced (storeStep db e)) createTables es := by
  intro hClaim
  have hGiven : Along storeStep (fun db e => e.2.Given db) createTables
      [addNode, banNode, removeNode] := by
    rw [along_cons, along_cons, along_cons, storeStep_addNode]
    refine ⟨⟨by decide +kernel, ?_⟩, ?_, trivial, trivial⟩
    · show Value.integer 0 ∈ keys "id" createTables "Switches"
      decide +kernel
    · show Value.integer 1 ∈ keys "id" _ "Hosts"
      decide +kernel
  have hRun := hClaim _ hGiven
  rw [along_cons, along_cons, along_cons, storeStep_addNode, storeStep_banNode,
    storeStep_removeNode] at hRun
  have hDangling := hRun.2.2.1.references ⟨"Banned_scanners", "host_id", "Hosts"⟩ (by decide)
  exact absurd hDangling (by decide +kernel)

end VxlanMtd
