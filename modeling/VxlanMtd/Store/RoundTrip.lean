import VxlanMtd.Model.DeviceStore

/-!
# Strings through the device store

`createSwitch` and `createHost` put strings into the text of a statement, and
into columns that SQLite takes for numeric.

* **`stores_iff`** — with strings that fill the statement, the row reads as
  they are exactly when each is `Kept`;
* `not_stores` — the name `007` is not.
-/

namespace VxlanMtd

open Sql PlaceMarker

theorem fits_toInt (i : Int32) : Fits i.toInt := by
  have hLow := Int32.le_toInt i
  have hHigh := Int32.toInt_lt i
  constructor <;> omega

-- ---------------------------------------------------------------------------
-- Devices
-- ---------------------------------------------------------------------------

/-- What the two operations take. -/
inductive Device where
  | switch (name url username password : String)
  | host (name domainName ip interface switchport : String) (switchId : Int32)

namespace Device

def table : Device → String
  | .switch .. => "Switches"
  | .host .. => "Hosts"

/-- The strings. -/
def strings : Device → List String
  | .switch name url username password => [name, url, username, password]
  | .host name domainName ip interface switchport _ => [name, domainName, ip, interface, switchport]

/-- The columns and what they should read as. -/
def columns : Device → List (String × String)
  | .switch name url username password =>
    [("name", name), ("url", url), ("username", username), ("password", password)]
  | .host name domainName ip interface switchport switchId =>
    [("name", name), ("domain_name", domainName), ("ip", ip), ("interface", interface),
      ("switch_port", switchport), ("switch_id", toString switchId.toInt)]

/-- `createSwitch` or `createHost`. -/
def create {real : String → Value} (sqlite : Sqlite deviceSchema real) (id : Int32) :
    Device → Database → Database
  | .switch name url username password =>
    DeviceStore.createSwitch sqlite id.toInt name url username password
  | .host name domainName ip interface switchport switchId =>
    DeviceStore.createHost sqlite id.toInt name domainName ip interface switchport switchId.toInt

/-- The values of the `arg` calls: an update ends with the id. -/
def values (id : Int32) (device : Device) : List String :=
  device.columns.map Prod.snd ++ if 0 < id.toInt then [toString id.toInt] else []

/-- The statement they are meant to make. -/
def statement (id : Int32) (device : Device) : Statement :=
  if 0 < id.toInt then .update device.table device.columns "id" (toString id.toInt)
  else .insert device.table (device.columns.map Prod.fst) (device.columns.map Prod.snd)

theorem nodup_columns (device : Device) : (device.columns.map Prod.fst).Nodup := by
  cases device with
  | switch =>
    show ["name", "url", "username", "password"].Nodup
    decide
  | host =>
    show ["name", "domain_name", "ip", "interface", "switch_port", "switch_id"].Nodup
    decide

theorem mem_schema (device : Device) :
    ∀ c ∈ "id" :: device.columns.map Prod.fst,
      c ∈ (deviceSchema.columns device.table).map Prod.fst := by
  cases device with
  | switch =>
    show ∀ c ∈ ["id", "name", "url", "username", "password"],
      c ∈ (deviceSchema.columns "Switches").map Prod.fst
    decide
  | host =>
    show ∀ c ∈ ["id", "name", "domain_name", "ip", "interface", "switch_port", "switch_id"],
      c ∈ (deviceSchema.columns "Hosts").map Prod.fst
    decide

theorem id_notMem (device : Device) : "id" ∉ device.columns.map Prod.fst := by
  cases device with
  | switch =>
    show "id" ∉ ["name", "url", "username", "password"]
    decide
  | host =>
    show "id" ∉ ["name", "domain_name", "ip", "interface", "switch_port", "switch_id"]
    decide

/-- The operation executes that statement. -/
theorem create_eq {real : String → Value} (sqlite : Sqlite deviceSchema real) {id : Int32}
    {device : Device} (hId : id.toInt ≠ 0) (hValues : Fillable (device.values id)) :
    ∃ text, parse text = some (device.statement id) ∧
      (device.statement id).Ok deviceSchema ∧
      ∀ db, device.create sqlite id db = sqlite.execute text db := by
  unfold statement
  unfold values at hValues
  by_cases hPos : 0 < id.toInt
  · rw [if_pos hPos] at hValues
    rw [if_pos hPos]
    cases device with
    | switch name url username password =>
      obtain ⟨hParse, hOk⟩ := @DeviceQuery.parse_args _
        [name, url, username, password, toString id.toInt] _ query_updateSwitch hValues
      refine ⟨_, hParse, hOk, fun db => ?_⟩
      show DeviceStore.createSwitch sqlite id.toInt name url username password db = _
      rw [DeviceStore.createSwitch, if_neg hId, if_pos hPos]
    | host name domainName ip interface switchport switchId =>
      obtain ⟨hParse, hOk⟩ := @DeviceQuery.parse_args _
        [name, domainName, ip, interface, switchport, toString switchId.toInt,
          toString id.toInt] _ query_updateHost hValues
      refine ⟨_, hParse, hOk, fun db => ?_⟩
      show DeviceStore.createHost sqlite id.toInt name domainName ip interface switchport
        switchId.toInt db = _
      rw [DeviceStore.createHost, if_neg hId, if_pos hPos]
  · rw [if_neg hPos, List.append_nil] at hValues
    rw [if_neg hPos]
    cases device with
    | switch name url username password =>
      obtain ⟨hParse, hOk⟩ := @DeviceQuery.parse_args _ [name, url, username, password] _
        query_insertSwitch hValues
      refine ⟨_, hParse, hOk, fun db => ?_⟩
      show DeviceStore.createSwitch sqlite id.toInt name url username password db = _
      rw [DeviceStore.createSwitch, if_neg hId, if_neg hPos]
    | host name domainName ip interface switchport switchId =>
      obtain ⟨hParse, hOk⟩ := @DeviceQuery.parse_args _
        [name, domainName, ip, interface, switchport, toString switchId.toInt] _
        query_insertHost hValues
      refine ⟨_, hParse, hOk, fun db => ?_⟩
      show DeviceStore.createHost sqlite id.toInt name domainName ip interface switchport
        switchId.toInt db = _
      rw [DeviceStore.createHost, if_neg hId, if_neg hPos]

end Device

-- ---------------------------------------------------------------------------
-- The round trip
-- ---------------------------------------------------------------------------

/-- A row reads as these texts. -/
def ReadsAs (columns : List (String × String)) (row : Row) : Prop :=
  ∀ p ∈ columns, (row p.1).toText = p.2

/-- A new row, or the row with the id, reads as these texts. The other rows and
the other tables have not changed. -/
def Stores (table : String) (columns : List (String × String)) (id : Int) (db db' : Database) :
    Prop :=
  (∀ t, t ≠ table → db' t = db t) ∧
    if 0 < id then
      List.Forall₂ (fun row row' : Row =>
        if row "id" = .integer id then row' "id" = .integer id ∧ ReadsAs columns row'
        else row' = row) (db table) (db' table)
    else
      ∃ row : Row, db' table = db table ++ [row] ∧
        (∀ old ∈ db table, old "id" ≠ row "id") ∧ ReadsAs columns row

section
variable {real : String → Value} {columns : List (String × String)} {table : String}

/-- What the columns give back of the texts assigned to them. -/
theorem readsAs_assign (hNodup : (columns.map Prod.fst).Nodup)
    (hSchema : ∀ c ∈ columns.map Prod.fst, c ∈ (deviceSchema.columns table).map Prod.fst)
    (row : Row) :
    ReadsAs columns (row.assign (deviceSchema.store real table) columns) ↔
      ∀ p ∈ columns, Kept real p.2 := by
  refine forall₂_congr fun p hp => ?_
  rw [assign_of_mem hNodup hp, store_deviceSchema (hSchema p.1 (List.mem_map_of_mem hp)),
    toText_numeric]

/-- An update of an existing row. -/
theorem stores_update_iff (hNodup : (columns.map Prod.fst).Nodup)
    (hSchema : ∀ c ∈ "id" :: columns.map Prod.fst,
      c ∈ (deviceSchema.columns table).map Prod.fst)
    (hKey : "id" ∉ columns.map Prod.fst) {id : Int32} (hPos : 0 < id.toInt) {db : Database}
    (hRow : ∃ row ∈ db table, row "id" = .integer id.toInt) (fresh : Int) :
    Stores table columns id.toInt db ((Statement.update table columns "id"
        (toString id.toInt)).run deviceSchema real fresh db) ↔
      ∀ p ∈ columns, Kept real p.2 := by
  have hReads := @readsAs_assign real _ _ hNodup fun c hc => hSchema c (List.mem_cons_of_mem _ hc)
  have hTable : (Statement.update table columns "id" (toString id.toInt)).run deviceSchema real
      fresh db table = (db table).map fun row =>
        if row "id" = .integer id.toInt then row.assign (deviceSchema.store real table) columns
        else row := by
    rw [Statement.run, Function.update_self, store_deviceSchema (hSchema "id" List.mem_cons_self),
      numeric_toString real (fits_toInt id)]
  unfold Stores
  rw [if_pos hPos, hTable, List.forall₂_map_right_iff, List.forall₂_same]
  constructor
  · rintro ⟨-, hRows⟩
    obtain ⟨row, hMem, hId⟩ := hRow
    have hNew := hRows row hMem
    rw [if_pos hId, if_pos hId] at hNew
    exact (hReads row).mp hNew.2
  · intro hKept
    refine ⟨fun t ht => run_of_ne ht db, fun row _ => ?_⟩
    by_cases hId : row "id" = .integer id.toInt
    · rw [if_pos hId, if_pos hId, assign_of_notMem hKey]
      exact ⟨hId, (hReads row).mpr hKept⟩
    · rw [if_neg hId, if_neg hId]

/-- A new row. -/
theorem stores_insert_iff (hNodup : (columns.map Prod.fst).Nodup)
    (hSchema : ∀ c ∈ "id" :: columns.map Prod.fst,
      c ∈ (deviceSchema.columns table).map Prod.fst)
    (hKey : "id" ∉ columns.map Prod.fst) {id : Int} (hPos : ¬0 < id) {db : Database}
    {fresh : Int} (hFresh : Above "id" (db table) fresh) :
    Stores table columns id db ((Statement.insert table (columns.map Prod.fst)
        (columns.map Prod.snd)).run deviceSchema real fresh db) ↔
      ∀ p ∈ columns, Kept real p.2 := by
  have hReads := @readsAs_assign real _ _ hNodup fun c hc => hSchema c (List.mem_cons_of_mem _ hc)
  have hTable : (Statement.insert table (columns.map Prod.fst) (columns.map Prod.snd)).run
      deviceSchema real fresh db table = db table ++
        [Row.assign (deviceSchema.store real table)
          (Function.update (fun _ => .null) "id" (.integer fresh)) columns] := by
    rw [Statement.run, Function.update_self, zip_fst_snd]
    rfl
  unfold Stores
  rw [if_neg hPos, hTable]
  constructor
  · rintro ⟨-, row, hEq, -, hRow⟩
    obtain rfl := List.singleton_inj.mp (List.append_cancel_left hEq)
    exact (hReads _).mp hRow
  · intro hKept
    refine ⟨fun t ht => run_of_ne ht db, _, rfl, fun old hOld hSame => ?_, (hReads _).mpr hKept⟩
    rw [assign_of_notMem hKey, Function.update_self] at hSame
    exact lt_irrefl _ (hFresh old hOld fresh hSame)

end

/-- The id of the switch is kept, so the strings decide. -/
theorem Device.kept_columns_iff {real : String → Value} (device : Device) :
    (∀ p ∈ device.columns, Kept real p.2) ↔ ∀ s ∈ device.strings, Kept real s := by
  cases device with
  | switch => simp [Device.columns, Device.strings]
  | host name domainName ip interface switchport switchId =>
    have hId : Kept real switchId.toInt.repr :=
      Or.inr (Or.inl ⟨_, fits_toInt switchId, rfl⟩)
    simp [Device.columns, Device.strings, hId]

/-- **Strings through the store.** An engine that executes the statement of a
new device, or of an existing one, stores strings that fill it as they are if
and only if each is no number, an integer of 64 bits in decimal, or a number
that is shown as it was written. -/
theorem stores_iff {real : String → Value} {sqlite : Sqlite deviceSchema real}
    (hWorks : sqlite.Works) {id : Int32} {device : Device} (hValues : Fillable (device.values id))
    {db : Database}
    (hRow : id.toInt < 0 ∨
      0 < id.toInt ∧ ∃ row ∈ db device.table, row "id" = .integer id.toInt) :
    Stores device.table device.columns id.toInt db (device.create sqlite id db) ↔
      ∀ s ∈ device.strings, Kept real s := by
  have hId : id.toInt ≠ 0 := by
    rcases hRow with hNeg | ⟨hPos, -⟩
    · omega
    · omega
  obtain ⟨text, hParse, hOk, hCreate⟩ := Device.create_eq sqlite hId hValues
  obtain ⟨fresh, hFresh, hRun⟩ := hWorks.execute_eq hParse hOk db
  rw [← device.kept_columns_iff, hCreate, hRun]
  unfold Device.statement at hFresh ⊢
  rcases hRow with hNeg | ⟨hPos, hRow⟩
  · have hNot : ¬0 < id.toInt := by omega
    rw [if_neg hNot] at hFresh ⊢
    exact stores_insert_iff device.nodup_columns device.mem_schema device.id_notMem hNot hFresh
  · rw [if_pos hPos]
    exact stores_update_iff device.nodup_columns device.mem_schema device.id_notMem hPos hRow fresh

/-- A switch whose password is a number. -/
def leaf : Device := .switch "leaf-1" "10.0.0.1" "admin" "1234"

/-- As a new switch, and for an existing one. -/
theorem stores_leaf :
    Stores "Switches" leaf.columns (-1) createTables
        (leaf.create (Sqlite.interpreter deviceSchema .real) (-1) createTables) ∧
      ∀ db : Database, db "Switches" = [Row.ofList [("id", .integer 1)]] →
        Stores "Switches" leaf.columns 1 db
          (leaf.create (Sqlite.interpreter deviceSchema .real) 1 db) := by
  have hKept : ∀ s ∈ leaf.strings, Kept Value.real s := by
    have hOther : ∀ s ∈ ["leaf-1", "10.0.0.1", "admin"], isNumber s = false := by decide +kernel
    simp only [leaf, Device.strings, List.forall_mem_cons] at hOther ⊢
    exact ⟨Or.inl hOther.1, Or.inl hOther.2.1, Or.inl hOther.2.2.1,
      Or.inr (Or.inl ⟨1234, by decide, by decide⟩), by simp⟩
  have hWorks := Sqlite.works_interpreter deviceSchema .real
  constructor
  · exact (@stores_iff .real _ hWorks (-1) leaf (by decide +kernel) createTables
      (Or.inl (by decide))).mpr hKept
  · intro db hTable
    refine (@stores_iff .real _ hWorks 1 leaf (by decide +kernel) db
      (Or.inr ⟨by decide, Row.ofList [("id", .integer 1)], ?_, by decide⟩)).mpr hKept
    show _ ∈ db "Switches"
    rw [hTable]
    exact List.mem_singleton_self _

/-- What the last row reads as shows what was stored. -/
theorem last_of_stores {device : Device} {db db' : Database}
    (h : Stores device.table device.columns (-1) db db') {p : String × String}
    (hp : p ∈ device.columns) :
    (db' device.table).getLast?.map (fun row => (row p.1).toText) = some p.2 := by
  obtain ⟨-, row, hTable, -, hReads⟩ := h
  rw [hTable, List.getLast?_concat, Option.map_some, hReads p hp]

/-- A new switch of this name. -/
def named (name : String) : Device := .switch name "10.0.0.1" "admin" "1234"

/-- A number, a quote and a place marker. -/
theorem not_stores :
    (Sqlite.interpreter deviceSchema .real).Works ∧
      ∀ name ∈ ["007", "O'Brien", "100%1"],
        ¬Stores "Switches" (named name).columns (-1) createTables
          ((named name).create (Sqlite.interpreter deviceSchema .real) (-1) createTables) := by
  have hText : ∀ name, parse (args insertSwitchText [name, "10.0.0.1", "admin", "1234"]) =
      (lex ([name.toList, "10.0.0.1".toList, "admin".toList, "1234".toList].foldl argChars
        insertSwitchText.toList)).bind parseTokens := by
    intro name
    rw [parse, args, toList_foldl_arg]
    rfl
  have hNumber : parse (args insertSwitchText ["007", "10.0.0.1", "admin", "1234"]) =
      some (.insert "Switches" ["name", "url", "username", "password"]
        ["007", "10.0.0.1", "admin", "1234"]) := by
    rw [hText, insertSwitchText, String.toList_ofList]
    decide +kernel
  have hQuote : parse (args insertSwitchText ["O'Brien", "10.0.0.1", "admin", "1234"]) = none := by
    rw [hText, insertSwitchText, String.toList_ofList]
    decide +kernel
  -- the next values fill in the markers before theirs
  have hMarker : parse (args insertSwitchText ["100%1", "10.0.0.1", "admin", "1234"]) =
      some (.insert "Switches" ["name", "url", "username", "password"]
        ["10010.0.0.1", "admin", "1234", "%4"]) := by
    rw [hText, insertSwitchText, String.toList_ofList]
    decide +kernel
  refine ⟨Sqlite.works_interpreter _ _, fun name hName hStores => ?_⟩
  have hLast := @last_of_stores (named name) _ _ hStores ("name", name) List.mem_cons_self
  have hCreate : (named name).create (Sqlite.interpreter deviceSchema .real) (-1) createTables =
      (Sqlite.interpreter deviceSchema .real).execute
        (args insertSwitchText [name, "10.0.0.1", "admin", "1234"]) createTables := rfl
  rw [hCreate] at hLast
  simp only [List.mem_cons, List.not_mem_nil, or_false] at hName
  rcases hName with rfl | rfl | rfl
  · rw [Sqlite.execute_interpreter hNumber (by decide +kernel)] at hLast
    exact absurd hLast (by decide +kernel)
  · rw [Sqlite.execute_interpreter_of_none hQuote] at hLast
    exact absurd hLast (by decide +kernel)
  · rw [Sqlite.execute_interpreter hMarker (by decide +kernel)] at hLast
    exact absurd hLast (by decide +kernel)

end VxlanMtd
