import VxlanMtd.Model.DeviceStore
import VxlanMtd.Qt.Widgets

/-!
# The device forms

`VMTDDeviceTableForm`: the view of a table, the dialog that opens on a row of
it, and what the dialog is filled with when the manager has selected a table.
A switch or host is shown by its name, and its id is found by the name again.

Left out are the labels of the columns and of a host's address, and the
selection that follows an operation: they change no table.
-/

namespace VxlanMtd

open Sql

-- ---------------------------------------------------------------------------
-- Views
-- ---------------------------------------------------------------------------

/-- `INNER JOIN`: a row with each row of the other table whose id it has in the
column. -/
def innerJoin (rows others : List Row) (column : String) : List (Row × Row) :=
  rows.flatMap fun row => (others.filter fun other => other "id" = row column).map (Prod.mk row)

/-- A pair of the join: the key of the one is the reference of the other. -/
theorem mem_innerJoin_iff {rows others : List Row} {column : String} {p : Row × Row} :
    p ∈ innerJoin rows others column ↔
      p.1 ∈ rows ∧ p.2 ∈ others ∧ p.2 "id" = p.1 column := by
  obtain ⟨row, other⟩ := p
  simp only [innerJoin, List.mem_flatMap, List.mem_map, List.mem_filter, decide_eq_true_eq,
    Prod.mk.injEq]
  constructor
  · rintro ⟨_, hRow, _, ⟨hOther, hOn⟩, rfl, rfl⟩
    exact ⟨hRow, hOther, hOn⟩
  · rintro ⟨hRow, hOther, hOn⟩
    exact ⟨row, hRow, other, ⟨hOther, hOn⟩, rfl, rfl⟩

/-- The same for what is made of the pairs. -/
theorem mem_map_innerJoin_iff {α : Type*} {rows others : List Row} {column : String}
    {f : Row → Row → α} {a : α} :
    a ∈ (innerJoin rows others column).map (fun p => f p.1 p.2) ↔
      ∃ row ∈ rows, ∃ other ∈ others, other "id" = row column ∧ a = f row other := by
  rw [List.mem_map]
  constructor
  · rintro ⟨⟨row, other⟩, hMem, rfl⟩
    obtain ⟨hRow, hOther, hOn⟩ := mem_innerJoin_iff.mp hMem
    exact ⟨row, hRow, other, hOther, hOn, rfl⟩
  · rintro ⟨row, hRow, other, hOther, hOn, rfl⟩
    exact ⟨(row, other), mem_innerJoin_iff.mpr ⟨hRow, hOther, hOn⟩, rfl⟩

/-- A row of a view, with the rows of the tables it shows. -/
inductive ViewRow where
  | switch (switch : Row)
  | host (host switch : Row)
  | bannedScanner (scanner host : Row)
  | allowedScanner (scanner host : Row)

/-- The columns of the views. -/
def ViewRow.cells : ViewRow → List Value
  | .switch s => [s "id", s "name", s "url", s "username", s "password"]
  | .host h s =>
    [h "id", h "name", h "domain_name", h "ip", h "interface", h "switch_port", s "name"]
  | .bannedScanner scanner h => [scanner "id", h "name", scanner "remaining"]
  | .allowedScanner scanner h => [scanner "id", h "name"]

/-- `data`. -/
def ViewRow.data (row : ViewRow) (column : Nat) : Value := row.cells.getD column .null

def selectSwitches (db : Database) : List ViewRow := (db "Switches").map .switch

def selectHosts (db : Database) : List ViewRow :=
  (innerJoin (db "Hosts") (db "Switches") "switch_id").map fun p => .host p.1 p.2

def selectBannedScanners (db : Database) : List ViewRow :=
  (innerJoin (db "Banned_scanners") (db "Hosts") "host_id").map fun p => .bannedScanner p.1 p.2

def selectAllowedScanners (db : Database) : List ViewRow :=
  (innerJoin (db "Allowed_scanners") (db "Hosts") "host_id").map fun p => .allowedScanner p.1 p.2

/-- What SQLite answers to the queries: the rows in an order of its own. -/
structure Selected (db : Database) where
  switches : List ViewRow
  hosts : List ViewRow
  bannedScanners : List ViewRow
  allowedScanners : List ViewRow
  perm_switches : switches.Perm (selectSwitches db)
  perm_hosts : hosts.Perm (selectHosts db)
  perm_bannedScanners : bannedScanners.Perm (selectBannedScanners db)
  perm_allowedScanners : allowedScanners.Perm (selectAllowedScanners db)

/-- What the forms rely on of the module `QtSql`. -/
structure QtSql where
  /-- How many rows a `QSqlQueryModel` has of a query at first. `rowCount` counts
  these, as SQLite does not say how many there are. -/
  prefetched : Nat
  /-- `QVariant::toInt`. -/
  toInt : Value → Int
  /-- An integer of 64 bits is cut down to 32. -/
  toInt_integer : ∀ i : Int, toInt (.integer i) = (Int32.ofInt i).toInt

namespace QtSql

variable (qt : QtSql)

/-- The rows a model has that nobody scrolls through. -/
def fetched (query : List ViewRow) : List ViewRow := query.take qt.prefetched

/-- The map from ids to names that the slots build. -/
def names (query : List ViewRow) : OrderedMap Int String :=
  .ofList ((qt.fetched query).map fun row => (qt.toInt (row.data 0), (row.data 1).toText))

end QtSql

-- ---------------------------------------------------------------------------
-- Dialogs
-- ---------------------------------------------------------------------------

structure VMTDDeviceSwitchDialog where
  id : Int := -1
  leName : QLineEdit := {}
  leUrl : QLineEdit := {}
  leUsername : QLineEdit := {}
  lePassword : QLineEdit := {}

structure VMTDDeviceHostDialog where
  id : Int := -1
  leName : QLineEdit := {}
  leDomainName : QLineEdit := {}
  leIp : QLineEdit := {}
  leInterface : QLineEdit := {}
  leSwitchport : QLineEdit := {}
  cbSwitchName : QComboBox := {}

/-- The initial `m_id` is not set. -/
structure VMTDDeviceScannerDialog where
  id : Int
  cbHostName : QComboBox := {}
  sbRemaining : QSpinBox 0 999999999 := {}

/-- `VMTDDeviceHostDialog::initializeView`. -/
def VMTDDeviceHostDialog.initializeView (switches : OrderedMap Int String)
    (dialog : VMTDDeviceHostDialog) : VMTDDeviceHostDialog :=
  { dialog with cbSwitchName := dialog.cbSwitchName.clear.cbFillMap switches }

/-- `VMTDDeviceScannerDialog::initializeView`. -/
def VMTDDeviceScannerDialog.initializeView (hosts : OrderedMap Int String)
    (dialog : VMTDDeviceScannerDialog) : VMTDDeviceScannerDialog :=
  { dialog with cbHostName := dialog.cbHostName.clear.cbFillMap hosts }

-- ---------------------------------------------------------------------------
-- Forms
-- ---------------------------------------------------------------------------

inductive VMTDDeviceTableForm.EnType where
  | switches
  | hosts
  | bannedScanners
  | allowedScanners
  deriving DecidableEq, Repr

/-- `VMTDDeviceTableForm`: of its dialogs, the one of its type is there. -/
structure VMTDDeviceTableForm where
  type : VMTDDeviceTableForm.EnType
  viewModel : List ViewRow
  switchDialog : VMTDDeviceSwitchDialog
  hostDialog : VMTDDeviceHostDialog
  bannedScannerDialog : VMTDDeviceScannerDialog
  allowedScannerDialog : VMTDDeviceScannerDialog

namespace VMTDDeviceTableForm

variable (qt : QtSql)

def switchesUpdatedSlot (query : List ViewRow) (form : VMTDDeviceTableForm) :
    VMTDDeviceTableForm :=
  match form.type with
  | .switches => { form with viewModel := query }
  | .hosts => { form with hostDialog := form.hostDialog.initializeView (qt.names query) }
  | _ => form

def hostsUpdatedSlot (query : List ViewRow) (form : VMTDDeviceTableForm) : VMTDDeviceTableForm :=
  match form.type with
  | .hosts => { form with viewModel := query }
  | .bannedScanners =>
    { form with bannedScannerDialog := form.bannedScannerDialog.initializeView (qt.names query) }
  | .allowedScanners =>
    { form with allowedScannerDialog := form.allowedScannerDialog.initializeView (qt.names query) }
  | _ => form

def bannedScannersUpdatedSlot (query : List ViewRow) (form : VMTDDeviceTableForm) :
    VMTDDeviceTableForm :=
  match form.type with
  | .bannedScanners => { form with viewModel := query }
  | _ => form

def allowedScannersUpdatedSlot (query : List ViewRow) (form : VMTDDeviceTableForm) :
    VMTDDeviceTableForm :=
  match form.type with
  | .allowedScanners => { form with viewModel := query }
  | _ => form

/-- `on_pbLoad_clicked`, which the constructor ends with. -/
def pbLoadClicked {db : Database} (selected : Selected db) (form : VMTDDeviceTableForm) :
    VMTDDeviceTableForm :=
  form |>.switchesUpdatedSlot qt selected.switches
    |>.hostsUpdatedSlot qt selected.hosts
    |>.bannedScannersUpdatedSlot selected.bannedScanners
    |>.allowedScannersUpdatedSlot selected.allowedScanners

/-- After loading, the view of a form has the rows of its query. -/
theorem viewModel_pbLoadClicked {db : Database} (selected : Selected db)
    (form : VMTDDeviceTableForm) :
    (form.pbLoadClicked qt selected).viewModel =
      match form.type with
      | .switches => selected.switches
      | .hosts => selected.hosts
      | .bannedScanners => selected.bannedScanners
      | .allowedScanners => selected.allowedScanners := by
  obtain ⟨type, -, -, -, -, -⟩ := form
  cases type <;> rfl

/-- `on_tableView_doubleClicked`, on a row of the view. -/
def tableViewDoubleClicked (row : ViewRow) (form : VMTDDeviceTableForm) : VMTDDeviceTableForm :=
  match form.type with
  | .switches =>
    { form with
      switchDialog :=
        { id := qt.toInt (row.data 0)
          leName := form.switchDialog.leName.setText (row.data 1).toText
          leUrl := form.switchDialog.leUrl.setText (row.data 2).toText
          leUsername := form.switchDialog.leUsername.setText (row.data 3).toText
          lePassword := form.switchDialog.lePassword.setText (row.data 4).toText } }
  | .hosts =>
    { form with
      hostDialog :=
        { id := qt.toInt (row.data 0)
          leName := form.hostDialog.leName.setText (row.data 1).toText
          leDomainName := form.hostDialog.leDomainName.setText (row.data 2).toText
          leIp := form.hostDialog.leIp.setText (row.data 3).toText
          leInterface := form.hostDialog.leInterface.setText (row.data 4).toText
          leSwitchport := form.hostDialog.leSwitchport.setText (row.data 5).toText
          cbSwitchName := form.hostDialog.cbSwitchName.cbSetIndex (row.data 6).toText } }
  | .bannedScanners =>
    { form with
      bannedScannerDialog :=
        { id := qt.toInt (row.data 0)
          cbHostName := form.bannedScannerDialog.cbHostName.cbSetIndex (row.data 1).toText
          sbRemaining := form.bannedScannerDialog.sbRemaining.setValue (qt.toInt (row.data 2)) } }
  | .allowedScanners =>
    { form with
      allowedScannerDialog :=
        { form.allowedScannerDialog with
          id := qt.toInt (row.data 0)
          cbHostName := form.allowedScannerDialog.cbHostName.cbSetIndex (row.data 1).toText } }

variable {real : String → Value} (sqlite : Sqlite deviceSchema real)

def switchDialogFinishedSlot (accepted : Bool) (form : VMTDDeviceTableForm) (db : Database) :
    Database :=
  if accepted then
    DeviceStore.createSwitch sqlite form.switchDialog.id form.switchDialog.leName.text
      form.switchDialog.leUrl.text form.switchDialog.leUsername.text
      form.switchDialog.lePassword.text db
  else db

def hostDialogFinishedSlot (accepted : Bool) (form : VMTDDeviceTableForm) (db : Database) :
    Database :=
  if accepted then
    DeviceStore.createHost sqlite form.hostDialog.id form.hostDialog.leName.text
      form.hostDialog.leDomainName.text form.hostDialog.leIp.text form.hostDialog.leInterface.text
      form.hostDialog.leSwitchport.text form.hostDialog.cbSwitchName.currentData db
  else db

def bannedScannerDialogFinishedSlot (accepted : Bool) (form : VMTDDeviceTableForm)
    (db : Database) : Database :=
  if accepted then
    DeviceStore.createBannedScanner sqlite form.bannedScannerDialog.id
      form.bannedScannerDialog.cbHostName.currentData form.bannedScannerDialog.sbRemaining.value db
  else db

def allowedScannerDialogFinishedSlot (accepted : Bool) (form : VMTDDeviceTableForm)
    (db : Database) : Database :=
  if accepted then
    DeviceStore.createAllowedScanner sqlite form.allowedScannerDialog.id
      form.allowedScannerDialog.cbHostName.currentData db
  else db

/-- The dialog of the form has finished: the slot it is connected to. -/
def dialogFinished (accepted : Bool) (form : VMTDDeviceTableForm) (db : Database) : Database :=
  match form.type with
  | .switches => form.switchDialogFinishedSlot sqlite accepted db
  | .hosts => form.hostDialogFinishedSlot sqlite accepted db
  | .bannedScanners => form.bannedScannerDialogFinishedSlot sqlite accepted db
  | .allowedScanners => form.allowedScannerDialogFinishedSlot sqlite accepted db

end VMTDDeviceTableForm

end VxlanMtd
