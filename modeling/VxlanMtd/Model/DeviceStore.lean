import VxlanMtd.Lib.Sqlite
import VxlanMtd.Lib.Table
import VxlanMtd.Model.Configurator

/-!
# The device store

The tables of `VMTDDeviceManager` and the operations that change them. Each
operation fills a statement in with `arg` and has SQLite execute it; what it
does with a statement that fails is to report the error.
-/

namespace VxlanMtd

open Sql

/-- The tables of `createTables`. Their `REFERENCES` clauses do nothing, the
`foreign_keys` pragma is not set. -/
def deviceSchema : Schema where
  tables :=
    [ ("Switches",
        [("id", "INTEGER"), ("name", "STRING"), ("url", "STRING"), ("username", "STRING"),
          ("password", "STRING")]),
      ("Hosts",
        [("id", "INTEGER"), ("name", "STRING"), ("domain_name", "STRING"), ("ip", "STRING"),
          ("interface", "STRING"), ("switch_port", "STRING"), ("switch_id", "INTEGER")]),
      ("Banned_scanners", [("id", "INTEGER"), ("host_id", "INTEGER"), ("remaining", "INTEGER")]),
      ("Allowed_scanners", [("id", "INTEGER"), ("host_id", "INTEGER")]) ]
  key := "id"

-- ---------------------------------------------------------------------------
-- Statements
-- ---------------------------------------------------------------------------

def updateSwitchText : String :=
  "UPDATE Switches SET name = '%1', url = '%2', username = '%3', password = '%4'WHERE id = '%5';"

def insertSwitchText : String :=
  "INSERT INTO Switches (name, url, username, password) VALUES ('%1', '%2', '%3', '%4');"

def releaseHostsText : String := "UPDATE Hosts SET switch_id = '0' WHERE switch_id = '%1';"

def deleteSwitchText : String := "DELETE FROM Switches WHERE id = '%1'"

def updateHostText : String :=
  "UPDATE Hosts SET name = '%1', domain_name = '%2', ip = '%3', interface = '%4', switch_port = '%5', switch_id = '%6'WHERE id = '%7';"

def insertHostText : String :=
  "INSERT INTO Hosts (name, domain_name, ip, interface, switch_port, switch_id) VALUES ('%1', '%2', '%3', '%4', '%5', '%6');"

def deleteHostText : String := "DELETE FROM Hosts WHERE id = '%1'"

def updateBannedScannerText : String :=
  "UPDATE Banned_scanners SET host_id = '%1', remaining = '%2' WHERE id = '%3';"

def insertBannedScannerText : String :=
  "INSERT INTO Banned_scanners (host_id, remaining) VALUES ('%1', '%2');"

def deleteBannedScannerText : String := "DELETE FROM Banned_scanners WHERE id = '%1'"

def updateAllowedScannerText : String := "UPDATE Allowed_scanners SET host_id = '%1' WHERE id = '%2';"

def insertAllowedScannerText : String := "INSERT INTO Allowed_scanners (host_id) VALUES ('%1');"

def deleteAllowedScannerText : String := "DELETE FROM Allowed_scanners WHERE id = '%1'"

-- ---------------------------------------------------------------------------
-- Operations
-- ---------------------------------------------------------------------------

namespace DeviceStore

variable {real : String → Value} (sqlite : Sqlite deviceSchema real)

/-- `createSwitch`. -/
def createSwitch (id : Int) (name url username password : String) (db : Database) : Database :=
  if id = 0 then db
  else if 0 < id then
    sqlite.execute (args updateSwitchText [name, url, username, password, toString id]) db
  else sqlite.execute (args insertSwitchText [name, url, username, password]) db

/-- `removeSwitch`. The row goes even if its hosts could not be released. -/
def removeSwitch (id : Int) (db : Database) : Database :=
  if id ≤ 0 then db
  else
    sqlite.execute (args deleteSwitchText [toString id])
      (sqlite.execute (args releaseHostsText [toString id]) db)

/-- `createHost`. -/
def createHost (id : Int) (name domainName ip interface switchport : String) (switchId : Int)
    (db : Database) : Database :=
  if id = 0 then db
  else if 0 < id then
    sqlite.execute (args updateHostText
      [name, domainName, ip, interface, switchport, toString switchId, toString id]) db
  else
    sqlite.execute (args insertHostText
      [name, domainName, ip, interface, switchport, toString switchId]) db

/-- `removeHost`. -/
def removeHost (id : Int) (db : Database) : Database :=
  if id ≤ 0 then db else sqlite.execute (args deleteHostText [toString id]) db

/-- `createBannedScanner`. -/
def createBannedScanner (id hostId remaining : Int) (db : Database) : Database :=
  if 0 ≤ id then
    sqlite.execute (args updateBannedScannerText
      [toString hostId, toString remaining, toString id]) db
  else
    sqlite.execute (args insertBannedScannerText [toString hostId, toString remaining]) db

/-- `removeBannedScanner`. -/
def removeBannedScanner (id : Int) (db : Database) : Database :=
  if id < 0 then db else sqlite.execute (args deleteBannedScannerText [toString id]) db

/-- `createAllowedScanner`. -/
def createAllowedScanner (id hostId : Int) (db : Database) : Database :=
  if 0 ≤ id then
    sqlite.execute (args updateAllowedScannerText [toString hostId, toString id]) db
  else sqlite.execute (args insertAllowedScannerText [toString hostId]) db

/-- `removeAllowedScanner`. -/
def removeAllowedScanner (id : Int) (db : Database) : Database :=
  if id < 0 then db else sqlite.execute (args deleteAllowedScannerText [toString id]) db

end DeviceStore

/-- The tables after `createTables` in a new file: the placeholders with the
id 0. -/
def createTables : Database :=
  Function.update (Function.update (fun _ => [])
    "Switches" [Row.ofList
      [("id", .integer 0), ("name", .text "none"), ("url", .text "none"),
        ("username", .text "none"), ("password", .text "none")]])
    "Hosts" [Row.ofList
      [("id", .integer 0), ("name", .text "none"), ("domain_name", .text "none"),
        ("ip", .text "none"), ("interface", .text "none"), ("switch_port", .text "none"),
        ("switch_id", .integer 0)]]

-- ---------------------------------------------------------------------------
-- How the statements are read
-- ---------------------------------------------------------------------------

/-- A text that is, filled in, a statement on the columns of a table. -/
structure DeviceQuery (text : List Char) (n : Nat) (statement : Statement) : Prop where
  query : Query text n statement
  ok : statement.Ok deviceSchema

instance (text : List Char) (n : Nat) (statement : Statement) :
    Decidable (DeviceQuery text n statement) :=
  decidable_of_iff (Query text n statement ∧ statement.Ok deviceSchema)
    ⟨fun h => ⟨h.1, h.2⟩, fun h => ⟨h.query, h.ok⟩⟩

/-- What the operations give to SQLite. -/
theorem DeviceQuery.parse_args {text : String} {values : List String} {statement : Statement}
    (h : DeviceQuery text.toList values.length statement) (hValues : Fillable values) :
    parse (args text values) = some (statement.mapLiterals (fill values)) ∧
      (statement.mapLiterals (fill values)).Ok deviceSchema :=
  ⟨h.query.parse_foldl_arg hValues, h.ok.mapLiterals _⟩

/-- The statements on switches, and the one that releases hosts. -/
theorem switchQueries :
    DeviceQuery updateSwitchText.toList 5 (.update "Switches" [("name", "%1"), ("url", "%2"),
      ("username", "%3"), ("password", "%4")] "id" "%5") ∧
    DeviceQuery insertSwitchText.toList 4 (.insert "Switches" ["name", "url", "username",
      "password"] ["%1", "%2", "%3", "%4"]) ∧
    DeviceQuery releaseHostsText.toList 1 (.update "Hosts" [("switch_id", "0")] "switch_id" "%1") ∧
    DeviceQuery deleteSwitchText.toList 1 (.delete "Switches" "id" "%1") := by
  rw [updateSwitchText, String.toList_ofList, insertSwitchText, String.toList_ofList,
    releaseHostsText, String.toList_ofList, deleteSwitchText, String.toList_ofList]
  decide +kernel

/-- The blank before `WHERE` that the text lacks is not needed. -/
theorem query_updateSwitch :
    DeviceQuery updateSwitchText.toList 5 (.update "Switches" [("name", "%1"), ("url", "%2"),
      ("username", "%3"), ("password", "%4")] "id" "%5") :=
  switchQueries.1

/-- The id is left to SQLite. -/
theorem query_insertSwitch :
    DeviceQuery insertSwitchText.toList 4 (.insert "Switches" ["name", "url", "username",
      "password"] ["%1", "%2", "%3", "%4"]) :=
  switchQueries.2.1

/-- The hosts of a switch go to the placeholder with the id 0. -/
theorem query_releaseHosts :
    DeviceQuery releaseHostsText.toList 1 (.update "Hosts" [("switch_id", "0")] "switch_id" "%1") :=
  switchQueries.2.2.1

/-- The hosts of the switch are not looked at. -/
theorem query_deleteSwitch :
    DeviceQuery deleteSwitchText.toList 1 (.delete "Switches" "id" "%1") :=
  switchQueries.2.2.2

/-- The statements on hosts. -/
theorem hostQueries :
    DeviceQuery updateHostText.toList 7 (.update "Hosts" [("name", "%1"), ("domain_name", "%2"),
      ("ip", "%3"), ("interface", "%4"), ("switch_port", "%5"), ("switch_id", "%6")] "id" "%7") ∧
    DeviceQuery insertHostText.toList 6 (.insert "Hosts" ["name", "domain_name", "ip",
      "interface", "switch_port", "switch_id"] ["%1", "%2", "%3", "%4", "%5", "%6"]) ∧
    DeviceQuery deleteHostText.toList 1 (.delete "Hosts" "id" "%1") := by
  rw [updateHostText, String.toList_ofList, insertHostText, String.toList_ofList, deleteHostText,
    String.toList_ofList]
  decide +kernel

/-- As for a switch, without the blank. -/
theorem query_updateHost :
    DeviceQuery updateHostText.toList 7 (.update "Hosts" [("name", "%1"), ("domain_name", "%2"),
      ("ip", "%3"), ("interface", "%4"), ("switch_port", "%5"), ("switch_id", "%6")] "id" "%7") :=
  hostQueries.1

/-- The id is left to SQLite. -/
theorem query_insertHost :
    DeviceQuery insertHostText.toList 6 (.insert "Hosts" ["name", "domain_name", "ip",
      "interface", "switch_port", "switch_id"] ["%1", "%2", "%3", "%4", "%5", "%6"]) :=
  hostQueries.2.1

/-- Neither are the scanners of a host. -/
theorem query_deleteHost :
    DeviceQuery deleteHostText.toList 1 (.delete "Hosts" "id" "%1") :=
  hostQueries.2.2

/-- The statements on banned and allowed scanners. -/
theorem scannerQueries :
    DeviceQuery updateBannedScannerText.toList 3 (.update "Banned_scanners" [("host_id", "%1"),
      ("remaining", "%2")] "id" "%3") ∧
    DeviceQuery insertBannedScannerText.toList 2 (.insert "Banned_scanners" ["host_id",
      "remaining"] ["%1", "%2"]) ∧
    DeviceQuery deleteBannedScannerText.toList 1 (.delete "Banned_scanners" "id" "%1") ∧
    DeviceQuery updateAllowedScannerText.toList 2 (.update "Allowed_scanners" [("host_id", "%1")]
      "id" "%2") ∧
    DeviceQuery insertAllowedScannerText.toList 1 (.insert "Allowed_scanners" ["host_id"] ["%1"]) ∧
    DeviceQuery deleteAllowedScannerText.toList 1 (.delete "Allowed_scanners" "id" "%1") := by
  rw [updateBannedScannerText, String.toList_ofList, insertBannedScannerText, String.toList_ofList,
    deleteBannedScannerText, String.toList_ofList, updateAllowedScannerText, String.toList_ofList,
    insertAllowedScannerText, String.toList_ofList, deleteAllowedScannerText, String.toList_ofList]
  decide +kernel

/-- The host and the number of reconfigurations that are left. -/
theorem query_updateBannedScanner :
    DeviceQuery updateBannedScannerText.toList 3 (.update "Banned_scanners" [("host_id", "%1"),
      ("remaining", "%2")] "id" "%3") :=
  scannerQueries.1

/-- The table has no other columns, so a host can have any number of bans. -/
theorem query_insertBannedScanner :
    DeviceQuery insertBannedScannerText.toList 2 (.insert "Banned_scanners" ["host_id",
      "remaining"] ["%1", "%2"]) :=
  scannerQueries.2.1

theorem query_deleteBannedScanner :
    DeviceQuery deleteBannedScannerText.toList 1 (.delete "Banned_scanners" "id" "%1") :=
  scannerQueries.2.2.1

/-- The host is all that an allowed scanner has. -/
theorem query_updateAllowedScanner :
    DeviceQuery updateAllowedScannerText.toList 2 (.update "Allowed_scanners" [("host_id", "%1")]
      "id" "%2") :=
  scannerQueries.2.2.2.1

theorem query_insertAllowedScanner :
    DeviceQuery insertAllowedScannerText.toList 1 (.insert "Allowed_scanners" ["host_id"] ["%1"]) :=
  scannerQueries.2.2.2.2.1

theorem query_deleteAllowedScanner :
    DeviceQuery deleteAllowedScannerText.toList 1 (.delete "Allowed_scanners" "id" "%1") :=
  scannerQueries.2.2.2.2.2

/-- Every column keeps numbers: its declared type is `INTEGER`, or `STRING`,
which SQLite does not know. -/
theorem store_deviceSchema {table column : String}
    (h : column ∈ (deviceSchema.columns table).map Prod.fst) (real : String → Value) :
    deviceSchema.store real table column = numeric real := by
  have hAffinity : ∀ t ∈ deviceSchema.tables, ∀ c ∈ t.2.map Prod.fst,
      Affinity.ofDeclared ((t.2.lookup c).getD "") = .integer ∨
        Affinity.ofDeclared ((t.2.lookup c).getD "") = .numeric := by
    decide +kernel
  obtain ⟨columns, hTable, hColumns⟩ : ∃ columns, (table, columns) ∈ deviceSchema.tables ∧
      deviceSchema.columns table = columns := by
    unfold Schema.columns at h ⊢
    cases hLookup : deviceSchema.tables.lookup table with
    | none =>
      rw [hLookup] at h
      exact absurd h List.not_mem_nil
    | some columns =>
      have hNodup : (deviceSchema.tables.map Prod.fst).Nodup := by decide +kernel
      exact ⟨columns, (Table.lookup_eq_some_iff_mem hNodup).mp hLookup, rfl⟩
  rw [Schema.store, hColumns]
  rw [hColumns] at h
  rcases hAffinity _ hTable column h with hInteger | hNumeric
  · rw [hInteger]
    rfl
  · rw [hNumeric]
    rfl

end VxlanMtd
