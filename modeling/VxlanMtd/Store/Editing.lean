import VxlanMtd.Model.DeviceForm
import VxlanMtd.Store.Integrity

/-!
# Editing without changes

A double click on a row fills the dialog in, accepting it writes the row back.

* **`acceptUnedited_eq_iff`** — this leaves all tables as they are exactly if
  the row is `Restored`: the search for the name of its switch or host finds
  that switch or host again, and its values fit the widgets;
* `not_acceptUnedited_eq` — of two switches with one name the host of the second
  is moved to the first.
-/

namespace VxlanMtd

open Sql

-- ---------------------------------------------------------------------------
-- Contents
-- ---------------------------------------------------------------------------

/-- A text that can stand in a statement as it is: without quotes, `%`, and the
null character, at which a statement ends. -/
def Harmless (s : String) : Prop := Clean s.toList ∧ '%' ∉ s.toList

instance (s : String) : Decidable (Harmless s) := inferInstanceAs (Decidable (_ ∧ _))

/-- An id is an `int`, as everywhere in the program. -/
def IsId : Value → Prop
  | .integer i => -2 ^ 31 ≤ i ∧ i < 2 ^ 31
  | _ => False

instance : ∀ v : Value, Decidable (IsId v)
  | .integer _ => inferInstanceAs (Decidable (_ ∧ _))
  | .null => inferInstanceAs (Decidable False)
  | .real _ => inferInstanceAs (Decidable False)
  | .text _ => inferInstanceAs (Decidable False)

/-- A content of the device tables: the ids are primary keys, a cell has what
its column can keep, and the texts are harmless. -/
structure DeviceContent (db : Database) : Prop where
  ids : ∀ t ∈ deviceSchema.tables.map Prod.fst, ∀ row ∈ db t, IsId (row "id")
  distinct : ∀ t ∈ deviceSchema.tables.map Prod.fst, (keys "id" db t).Nodup
  stored : ∀ t ∈ deviceSchema.tables.map Prod.fst, ∀ c ∈ (deviceSchema.columns t).map Prod.fst,
    ∀ row ∈ db t, (row c).Stored
  harmless : ∀ t ∈ deviceSchema.tables.map Prod.fst, ∀ c ∈ (deviceSchema.columns t).map Prod.fst,
    ∀ row ∈ db t, Harmless (row c).toText

instance (db : Database) : Decidable (DeviceContent db) :=
  decidable_of_iff (_ ∧ _ ∧ _ ∧ _)
    ⟨fun h => DeviceContent.mk h.1 h.2.1 h.2.2.1 h.2.2.2,
      fun h => ⟨h.ids, h.distinct, h.stored, h.harmless⟩⟩

/-- The tables of a new file are such a content. -/
theorem deviceContent_createTables : DeviceContent createTables := by
  decide +kernel

/-- An id is the value of an `int`. -/
theorem exists_of_isId {v : Value} (h : IsId v) : ∃ id : Int32, v = .integer id.toInt := by
  cases v with
  | integer i =>
    refine ⟨Int32.ofInt i, ?_⟩
    rw [Int32.toInt_ofInt, Int.bmod_eq_of_le]
    · exact h.1
    · exact h.2
  | null => exact h.elim
  | real => exact h.elim
  | text => exact h.elim

/-- What a row is joined by is an id. -/
theorem DeviceContent.isId_of_join {db : Database} (h : DeviceContent db) {t : String}
    (ht : t ∈ deviceSchema.tables.map Prod.fst) {row other : Row} (hOther : other ∈ db t)
    {c : String} (hOn : other "id" = row c) : IsId (row c) := by
  rw [← hOn]
  exact h.ids t ht other hOther

/-- Numerals are harmless. -/
theorem harmless_toString (i : Int) : Harmless (toString i) :=
  ⟨clean_repr i, Text.notMem_repr (by decide) (by decide)⟩

-- ---------------------------------------------------------------------------
-- Texts in a line edit
-- ---------------------------------------------------------------------------

/-- What a line edit keeps of a harmless text is harmless. -/
theorem harmless_setText (edit : QLineEdit) {text : String} (h : Harmless text) :
    Harmless (edit.setText text).text :=
  ⟨⟨fun hMem => h.1.1 (QLineEdit.mem_setText hMem), fun hMem => h.1.2 (QLineEdit.mem_setText hMem)⟩,
    fun hMem => h.2 (QLineEdit.mem_setText hMem)⟩

/-- A cell that a line edit shows and gives back: a text that is not too long,
or a number. A floating-point number has to be read back from its text. -/
def GivenBack (real : String → Value) : Value → Prop
  | .null => False
  | .integer _ => True
  | .real shown => numeric real (QLineEdit.setText {} shown).text = .real shown
  | .text s => QString.size s.toList ≤ QLineEdit.maxLength

instance (real : String → Value) : ∀ v : Value, Decidable (GivenBack real v)
  | .null => inferInstanceAs (Decidable False)
  | .integer _ => inferInstanceAs (Decidable True)
  | .real shown =>
    inferInstanceAs (Decidable (numeric real (QLineEdit.setText {} shown).text = .real shown))
  | .text s => inferInstanceAs (Decidable (QString.size s.toList ≤ QLineEdit.maxLength))

/-- The numeral of an integer of 64 bits is short. -/
theorem size_repr_le {i : Int} (h : Fits i) :
    QString.size (toString i).toList ≤ QLineEdit.maxLength := by
  have hUnits : ∀ cs : List Char, QString.size cs ≤ 2 * cs.length := by
    intro cs
    induction cs with
    | nil => exact Nat.le_refl _
    | cons c cs ih =>
      have hUnit : QString.units c ≤ 2 := by
        rw [QString.units]
        split <;> omega
      rw [QString.size_cons, List.length_cons]
      omega
  have hNat : ∀ n : Nat, n ≤ 2 ^ 63 → n.repr.length ≤ 19 := by
    intro n hn
    exact (Nat.length_repr_le_iff (by decide)).mpr (by omega)
  obtain ⟨hLow, hHigh⟩ := h
  have hLength : (toString i).toList.length ≤ 20 := by
    show i.repr.toList.length ≤ 20
    rw [String.length_toList, Int.repr_eq_if]
    split
    · have := hNat i.toNat (by omega)
      omega
    · have := hNat (-i).toNat (by omega)
      rw [String.length_append]
      show 1 + _ ≤ 20
      omega
  have := hUnits (toString i).toList
  unfold QLineEdit.maxLength
  omega

/-- A text that has been cut off is kept as another text, or as a number. -/
theorem numeric_setText_iff {real : String → Value} (hReal : ∀ s t, real s ≠ .text t) {v : Value}
    (hStored : v.Stored) (edit : QLineEdit) :
    numeric real (edit.setText v.toText).text = v ↔ GivenBack real v := by
  cases v with
  | null => exact hStored.elim
  | real shown => exact Iff.rfl
  | integer i =>
    refine iff_of_true ?_ trivial
    show numeric real (edit.setText (toString i)).text = .integer i
    rw [QLineEdit.text_setText_eq_iff.mpr (size_repr_le hStored), numeric_toString real hStored]
  | text s =>
    show numeric real (edit.setText s).text = .text s ↔ QString.size s.toList ≤ _
    rw [← @QLineEdit.text_setText_eq_iff edit]
    constructor
    · intro h
      unfold numeric at h
      split at h
      · split at h
        · cases h
        · exact absurd h (hReal _ _)
      · exact Value.text.inj h
    · intro h
      have hText : isNumber s = false := hStored
      rw [h, numeric, if_neg (by rw [hText]; decide)]

-- ---------------------------------------------------------------------------
-- Searches by name
-- ---------------------------------------------------------------------------

/-- The ids of the rows that show this name. -/
def idsNamed (rows : List ViewRow) (name : String) : List Value :=
  (rows.filter fun row => (row.data 1).toText = name).map fun row => row.data 0

/-- A search for the name ends at this id: the least of the rows that show it,
or 0 if none does. -/
def FoundByName (rows : List ViewRow) (name : String) (id : Int) : Prop :=
  Value.integer id ∈ idsNamed rows name ∧
      (∀ other, Value.integer other ∈ idsNamed rows name → id ≤ other) ∨
    idsNamed rows name = [] ∧ id = 0

/-- A search ends at one id. -/
theorem FoundByName.unique {rows : List ViewRow} {name : String} {i j : Int}
    (hi : FoundByName rows name i) (hj : FoundByName rows name j) : i = j := by
  rcases hi with ⟨hMem, hLeast⟩ | ⟨hNone, rfl⟩
  · rcases hj with ⟨hMem', hLeast'⟩ | ⟨hNone, -⟩
    · exact le_antisymm (hLeast j hMem') (hLeast' i hMem)
    · rw [hNone] at hMem
      exact absurd hMem List.not_mem_nil
  · rcases hj with ⟨hMem, -⟩ | ⟨-, rfl⟩
    · rw [hNone] at hMem
      exact absurd hMem List.not_mem_nil
    · rfl

/-- The ids of a query, each once. -/
structure DistinctIds (rows : List ViewRow) : Prop where
  ids : ∀ row ∈ rows, IsId (row.data 0)
  distinct : (rows.map fun row => row.data 0).Nodup

/-- Some of the rows still have distinct ids. -/
theorem DistinctIds.sublist {rows rows' : List ViewRow} (h : DistinctIds rows)
    (hSub : rows'.Sublist rows) : DistinctIds rows' where
  ids := fun row hRow => h.ids row (hSub.subset hRow)
  distinct := h.distinct.sublist (hSub.map _)

/-- The order of the rows does not matter for this. -/
theorem DistinctIds.perm {rows rows' : List ViewRow} (h : DistinctIds rows)
    (hPerm : rows'.Perm rows) : DistinctIds rows' where
  ids := fun row hRow => h.ids row (hPerm.subset hRow)
  distinct := (hPerm.map _).nodup_iff.mpr h.distinct

section
variable (qt : QtSql)

theorem toInt_id (id : Int32) : qt.toInt (.integer id.toInt) = id.toInt := by
  rw [qt.toInt_integer, Int32.ofInt_toInt]

theorem integer_toInt {v : Value} (h : IsId v) : .integer (qt.toInt v) = v := by
  obtain ⟨id, rfl⟩ := exists_of_isId h
  rw [toInt_id]

/-- The map has the ids and names of the rows that were fetched. -/
theorem mem_names_iff {query : List ViewRow} (hIds : DistinctIds query) {id : Int} {name : String} :
    (id, name) ∈ (qt.names query).entries ↔
      Value.integer id ∈ idsNamed (qt.fetched query) name := by
  have hFetched : DistinctIds (qt.fetched query) := hIds.sublist (List.take_sublist _ _)
  have hNodup : (((qt.fetched query).map fun row =>
      (qt.toInt (row.data 0), (row.data 1).toText)).map Prod.fst).Nodup := by
    rw [List.map_map]
    have hInj : ∀ a ∈ (qt.fetched query).map (fun row => row.data 0),
        ∀ b ∈ (qt.fetched query).map (fun row => row.data 0), qt.toInt a = qt.toInt b → a = b := by
      intro a ha b hb hEq
      obtain ⟨row, hRow, rfl⟩ := List.mem_map.mp ha
      obtain ⟨row', hRow', rfl⟩ := List.mem_map.mp hb
      rw [← integer_toInt qt (hFetched.ids row hRow), ← integer_toInt qt (hFetched.ids row' hRow'),
        hEq]
    have hMap := hFetched.distinct.map_on hInj
    rwa [List.map_map] at hMap
  rw [QtSql.names, OrderedMap.mem_ofList_iff hNodup, idsNamed, List.mem_map, List.mem_map]
  constructor
  · rintro ⟨row, hRow, hEq⟩
    obtain ⟨rfl, rfl⟩ := Prod.mk.inj hEq
    exact ⟨row, List.mem_filter.mpr ⟨hRow, decide_eq_true rfl⟩,
      (integer_toInt qt (hFetched.ids row hRow)).symm⟩
  · rintro ⟨row, hMem, hId⟩
    obtain ⟨hRow, hName⟩ := List.mem_filter.mp hMem
    refine ⟨row, hRow, Prod.ext ?_ (of_decide_eq_true hName)⟩
    have hInteger := (integer_toInt qt (hFetched.ids row hRow)).trans hId
    exact Value.integer.inj hInteger

/-- **What the combo box has** after the search for a name. -/
theorem foundByName_currentData {query : List ViewRow} (hIds : DistinctIds query)
    (combo : QComboBox) (name : String) :
    FoundByName (qt.fetched query) name
      ((combo.clear.cbFillMap (qt.names query)).cbSetIndex name).currentData := by
  rw [QComboBox.currentData_cbSetIndex]
  cases hFind : (qt.names query).entries.find? fun e => e.2 == name with
  | none =>
    refine Or.inr ⟨List.eq_nil_iff_forall_not_mem.mpr fun v hv => ?_, rfl⟩
    obtain ⟨row, hMem, rfl⟩ := List.mem_map.mp hv
    have hId := hIds.ids row (List.mem_of_mem_take (List.mem_filter.mp hMem).1)
    rw [← integer_toInt qt hId, ← mem_names_iff qt hIds] at hv
    exact absurd (beq_self_eq_true name) (List.find?_eq_none.mp hFind _ hv)
  | some e =>
    obtain ⟨⟨hMem, hName⟩, hLeast⟩ := OrderedMap.find?_eq_some_iff.mp hFind
    obtain ⟨id, name'⟩ := e
    obtain rfl : name' = name := eq_of_beq hName
    refine Or.inl ⟨(mem_names_iff qt hIds).mp hMem, fun other hOther => ?_⟩
    exact hLeast _ ((mem_names_iff qt hIds).mpr hOther) (beq_self_eq_true name')

/-- **What the combo box gives back** after the search for a name. -/
theorem currentData_eq_iff {query : List ViewRow} (hIds : DistinctIds query) (combo : QComboBox)
    {name : String} {id : Int} :
    ((combo.clear.cbFillMap (qt.names query)).cbSetIndex name).currentData = id ↔
      FoundByName (qt.fetched query) name id := by
  have hFound := foundByName_currentData qt hIds combo name
  constructor
  · rintro rfl
    exact hFound
  · exact fun h => hFound.unique h

/-- The search ends at an id. -/
theorem isId_of_foundByName {query : List ViewRow} (hIds : DistinctIds query) {name : String}
    {id : Int} (h : FoundByName (qt.fetched query) name id) : IsId (.integer id) := by
  rcases h with ⟨hMem, -⟩ | ⟨-, rfl⟩
  · obtain ⟨row, hRow, hId⟩ := List.mem_map.mp hMem
    rw [← hId]
    exact hIds.ids row (List.mem_of_mem_take (List.mem_filter.mp hRow).1)
  · decide

end

-- ---------------------------------------------------------------------------
-- The views of a content
-- ---------------------------------------------------------------------------

/-- With ids that occur once a join has each row at most once. -/
theorem map_fst_innerJoin {rows others : List Row} (h : (others.map (· "id")).Nodup)
    (column : String) : ((innerJoin rows others column).map Prod.fst).Sublist rows := by
  induction rows with
  | nil => exact List.Sublist.refl _
  | cons row rows ih =>
    have hMatches : (others.filter fun other => other "id" = row column).length ≤ 1 := by
      have hSame : ∀ v ∈ (others.filter fun other => other "id" = row column).map (· "id"),
          v = row column := by
        intro v hv
        obtain ⟨other, hOther, rfl⟩ := List.mem_map.mp hv
        exact of_decide_eq_true (List.mem_filter.mp hOther).2
      have hNodup := h.sublist ((List.filter_sublist (p := fun other : Row =>
        decide (other "id" = row column))).map (· "id"))
      rw [List.eq_replicate_of_mem hSame] at hNodup
      have hOne := List.nodup_replicate.mp hNodup
      rwa [List.length_map] at hOne
    rw [innerJoin, List.flatMap_cons, List.map_append]
    show (_ ++ (innerJoin rows others column).map Prod.fst).Sublist ([row] ++ rows)
    refine List.Sublist.append ?_ ih
    rw [List.map_map]
    show ((others.filter _).map fun _ => row).Sublist [row]
    rw [List.map_const']
    exact (List.replicate_sublist_replicate row).mpr hMatches

section
variable {db : Database} (h : DeviceContent db)
include h

theorem distinctIds_selectSwitches : DistinctIds (selectSwitches db) where
  ids := by
    intro row hRow
    obtain ⟨s, hs, rfl⟩ := List.mem_map.mp hRow
    exact h.ids "Switches" (by decide) s hs
  distinct := by
    rw [selectSwitches, List.map_map]
    exact h.distinct "Switches" (by decide)

theorem distinctIds_selectHosts : DistinctIds (selectHosts db) where
  ids := by
    intro row hRow
    obtain ⟨p, hp, rfl⟩ := List.mem_map.mp hRow
    exact h.ids "Hosts" (by decide) p.1 (mem_innerJoin_iff.mp hp).1
  distinct := by
    have hSub := @map_fst_innerJoin (db "Hosts") _ (h.distinct "Switches" (by decide)) "switch_id"
    have hHosts : (keys "id" db "Hosts").Nodup := h.distinct "Hosts" (by decide)
    have hIds := hHosts.sublist (hSub.map (fun row : Row => row "id"))
    rw [List.map_map] at hIds
    rw [selectHosts, List.map_map]
    exact hIds

end

-- ---------------------------------------------------------------------------
-- Statements that write a row back
-- ---------------------------------------------------------------------------

section
variable {real : String → Value} {sqlite : Sqlite deviceSchema real} (hWorks : sqlite.Works)
  {db : Database}
include hWorks

/-- An update of the row with this id. -/
theorem execute_update_eq_iff {text table : String} {set : List (String × String)} {id : Int}
    (hParse : parse text = some (.update table set "id" (toString id)))
    (hOk : (Statement.update table set "id" (toString id)).Ok deviceSchema)
    (hDistinct : (keys "id" db table).Nodup) {row : Row} (hRow : row ∈ db table)
    (hId : row "id" = .integer id) (hFits : Fits id) :
    sqlite.execute text db = db ↔ ∀ p ∈ set, numeric real p.2 = row p.1 := by
  obtain ⟨fresh, -, hRun⟩ := hWorks.execute_eq hParse hOk db
  obtain ⟨hColumns, hNodup, hKey⟩ := hOk
  have hWhere : row deviceSchema.key =
      deviceSchema.store real table deviceSchema.key (toString id) := by
    show row "id" = deviceSchema.store real table "id" (toString id)
    rw [store_deviceSchema hKey, numeric_toString real hFits, hId]
  have hUpdate := @run_update_key_eq_iff deviceSchema real table (toString id) set hNodup db
    hDistinct row hRow hWhere fresh
  rw [hRun]
  refine hUpdate.trans (forall₂_congr fun p hp => ?_)
  rw [store_deviceSchema (hColumns p hp).1]

/-- A new row. -/
theorem execute_insert_ne {text table : String} {columns values : List String}
    (hParse : parse text = some (.insert table columns values))
    (hOk : (Statement.insert table columns values).Ok deviceSchema) :
    sqlite.execute text db ≠ db := by
  obtain ⟨fresh, -, hRun⟩ := hWorks.execute_eq hParse hOk db
  rw [hRun]
  exact run_insert_ne

/-- `createSwitch` and `createHost` with the id of a row. -/
theorem create_eq_self_iff {id : Int32} {device : Device}
    (hHarmless : ∀ s ∈ device.strings, Harmless s)
    (hDistinct : (keys "id" db device.table).Nodup) {row : Row} (hRow : row ∈ db device.table)
    (hId : row "id" = .integer id.toInt) :
    device.create sqlite id db = db ↔
      id.toInt = 0 ∨ 0 < id.toInt ∧ ∀ p ∈ device.columns, numeric real p.2 = row p.1 := by
  by_cases hZero : id.toInt = 0
  · refine iff_of_true ?_ (Or.inl hZero)
    cases device with
    | switch =>
      rw [Device.create, DeviceStore.createSwitch, if_pos hZero]
    | host =>
      rw [Device.create, DeviceStore.createHost, if_pos hZero]
  · have hValues : ∀ v ∈ device.values id, Harmless v := by
      intro v hv
      have hCases : v ∈ device.strings ∨ ∃ i : Int, v = toString i := by
        unfold Device.values at hv
        rcases List.mem_append.mp hv with hv | hv
        · cases device with
          | switch => exact Or.inl hv
          | host name domainName ip interface switchport switchId =>
            have hSplit : v ∈ [name, domainName, ip, interface, switchport] ++
                [toString switchId.toInt] := hv
            rcases List.mem_append.mp hSplit with hv | hv
            · exact Or.inl hv
            · exact Or.inr ⟨_, List.mem_singleton.mp hv⟩
        · split at hv
          · exact Or.inr ⟨_, List.mem_singleton.mp hv⟩
          · exact absurd hv List.not_mem_nil
      rcases hCases with hv | ⟨i, rfl⟩
      · exact hHarmless v hv
      · exact harmless_toString i
    obtain ⟨text, hParse, hOk, hCreate⟩ := Device.create_eq sqlite hZero (fillable_of_clean hValues)
    rw [hCreate, or_iff_right hZero]
    unfold Device.statement at hParse hOk
    by_cases hPos : 0 < id.toInt
    · rw [if_pos hPos] at hParse hOk
      rw [and_iff_right hPos]
      exact execute_update_eq_iff hWorks hParse hOk hDistinct hRow hId (fits_toInt id)
    · rw [if_neg hPos] at hParse hOk
      exact iff_of_false (execute_insert_ne hWorks hParse hOk) fun h => hPos h.1

/-- A scanner: an update for its id, or a new row. -/
theorem scanner_eq_self_iff {update insert table : String} {set : List (String × String)}
    {columns values : List String} {id : Int32}
    (hUpdate : parse update = some (.update table set "id" (toString id.toInt)) ∧
      (Statement.update table set "id" (toString id.toInt)).Ok deviceSchema)
    (hInsert : parse insert = some (.insert table columns values) ∧
      (Statement.insert table columns values).Ok deviceSchema)
    (hDistinct : (keys "id" db table).Nodup) {row : Row} (hRow : row ∈ db table)
    (hId : row "id" = .integer id.toInt) :
    (if 0 ≤ id.toInt then sqlite.execute update db else sqlite.execute insert db) = db ↔
      0 ≤ id.toInt ∧ ∀ p ∈ set, numeric real p.2 = row p.1 := by
  by_cases hLe : 0 ≤ id.toInt
  · rw [if_pos hLe, and_iff_right hLe]
    exact execute_update_eq_iff hWorks hUpdate.1 hUpdate.2 hDistinct hRow hId (fits_toInt id)
  · rw [if_neg hLe]
    exact iff_of_false (execute_insert_ne hWorks hInsert.1 hInsert.2) fun h => hLe h.1

/-- `createBannedScanner` with the id of a row. -/
theorem createBannedScanner_eq_self_iff {id : Int32} {hostId remaining : Int}
    (hDistinct : (keys "id" db "Banned_scanners").Nodup) {row : Row}
    (hRow : row ∈ db "Banned_scanners") (hId : row "id" = .integer id.toInt) :
    DeviceStore.createBannedScanner sqlite id.toInt hostId remaining db = db ↔
      0 ≤ id.toInt ∧ numeric real (toString hostId) = row "host_id" ∧
        numeric real (toString remaining) = row "remaining" := by
  have hUpdate := @DeviceQuery.parse_args _ ([hostId, remaining, id.toInt].map toString) _
    query_updateBannedScanner (fillable_toString _)
  have hInsert := @DeviceQuery.parse_args _ ([hostId, remaining].map toString) _
    query_insertBannedScanner (fillable_toString _)
  refine (@scanner_eq_self_iff _ _ hWorks _ _ _ _ [("host_id", toString hostId),
    ("remaining", toString remaining)] _ _ _ hUpdate hInsert hDistinct _ hRow hId).trans ?_
  rw [List.forall_mem_cons, List.forall_mem_singleton]

/-- `createAllowedScanner` with the id of a row. -/
theorem createAllowedScanner_eq_self_iff {id : Int32} {hostId : Int}
    (hDistinct : (keys "id" db "Allowed_scanners").Nodup) {row : Row}
    (hRow : row ∈ db "Allowed_scanners") (hId : row "id" = .integer id.toInt) :
    DeviceStore.createAllowedScanner sqlite id.toInt hostId db = db ↔
      0 ≤ id.toInt ∧ numeric real (toString hostId) = row "host_id" := by
  have hUpdate := @DeviceQuery.parse_args _ ([hostId, id.toInt].map toString) _
    query_updateAllowedScanner (fillable_toString _)
  have hInsert := @DeviceQuery.parse_args _ ([hostId].map toString) _
    query_insertAllowedScanner (fillable_toString _)
  refine (@scanner_eq_self_iff _ _ hWorks _ _ _ _ [("host_id", toString hostId)] _ _ _ hUpdate
    hInsert hDistinct _ hRow hId).trans ?_
  rw [List.forall_mem_singleton]

end

-- ---------------------------------------------------------------------------
-- Accepting a dialog unedited
-- ---------------------------------------------------------------------------

/-- The tables after a double click on a row of a form just loaded, and the
acceptance of its dialog. -/
def VMTDDeviceTableForm.acceptUnedited {real : String → Value} (qt : QtSql)
    (sqlite : Sqlite deviceSchema real) {db : Database} (selected : Selected db) (row : ViewRow)
    (form : VMTDDeviceTableForm) : Database :=
  (form |>.pbLoadClicked qt selected |>.tableViewDoubleClicked qt row).dialogFinished sqlite true db

/-- The cell has an integer with this property. -/
def HasInteger (v : Value) (p : Int → Prop) : Prop := ∃ i, v = .integer i ∧ p i

theorem hasInteger_integer {i : Int} {p : Int → Prop} : HasInteger (.integer i) p ↔ p i := by
  constructor
  · rintro ⟨j, hEq, hj⟩
    obtain rfl := Value.integer.inj hEq
    exact hj
  · exact fun h => ⟨i, rfl, h⟩

/-- The values of a row come back: what it refers to is found by its name, and
its own values fit the widgets. The placeholders are refused. -/
def ViewRow.Restored (real : String → Value) (qt : QtSql) {db : Database}
    (selected : Selected db) : ViewRow → Prop
  | .switch s =>
    HasInteger (s "id") fun id =>
      id = 0 ∨ 0 < id ∧ ∀ c ∈ ["name", "url", "username", "password"], GivenBack real (s c)
  | .host h s =>
    HasInteger (h "id") fun id =>
      id = 0 ∨ 0 < id ∧
        (∀ c ∈ ["name", "domain_name", "ip", "interface", "switch_port"], GivenBack real (h c)) ∧
        HasInteger (h "switch_id")
          (FoundByName (qt.fetched selected.switches) (s "name").toText)
  | .bannedScanner scanner h =>
    HasInteger (scanner "id") (0 ≤ ·) ∧
      HasInteger (scanner "host_id") (FoundByName (qt.fetched selected.hosts) (h "name").toText) ∧
      HasInteger (scanner "remaining") fun remaining => 0 ≤ remaining ∧ remaining ≤ 999999999
  | .allowedScanner scanner h =>
    HasInteger (scanner "id") (0 ≤ ·) ∧
      HasInteger (scanner "host_id") (FoundByName (qt.fetched selected.hosts) (h "name").toText)

section
variable {real : String → Value} (qt : QtSql)

/-- The id a search ends at is written back over the one it started from. -/
theorem numeric_currentData_iff {query : List ViewRow} (hIds : DistinctIds query)
    (combo : QComboBox) {name : String} {v : Value} (hId : IsId v) :
    numeric real (toString
        ((combo.clear.cbFillMap (qt.names query)).cbSetIndex name).currentData) = v ↔
      HasInteger v (FoundByName (qt.fetched query) name) := by
  obtain ⟨id, rfl⟩ := exists_of_isId hId
  obtain ⟨found, hFound⟩ := exists_of_isId (isId_of_foundByName qt hIds
    (foundByName_currentData qt hIds combo name))
  rw [hasInteger_integer, ← currentData_eq_iff qt hIds combo, Value.integer.inj hFound,
    numeric_toString real (fits_toInt found), Value.integer.injEq]

/-- The range of the spin box. -/
theorem numeric_setValue_iff (box : QSpinBox 0 999999999) (v : Value) :
    numeric real (toString (box.setValue (qt.toInt v)).value) = v ↔
      HasInteger v fun remaining => 0 ≤ remaining ∧ remaining ≤ 999999999 := by
  obtain ⟨hLow, hHigh⟩ := QSpinBox.value_setValue_mem (by decide) box (qt.toInt v)
  rw [numeric_toString real (by constructor <;> omega)]
  constructor
  · intro h
    exact ⟨_, h.symm, hLow, hHigh⟩
  · rintro ⟨i, rfl, hi⟩
    have hInt : qt.toInt (.integer i) = i := by
      rw [qt.toInt_integer, Int32.toInt_ofInt, Int.bmod_eq_of_le]
      · show -2147483648 ≤ i
        omega
      · show i < 2147483648
        omega
    rw [hInt, QSpinBox.value_setValue box hi]

end

/-- The texts of a row, each from its line edit. -/
def shownTexts (row : Row) (columns : List String) : List (String × String) :=
  columns.map fun c => (c, (QLineEdit.setText {} (row c).toText).text)

/-- The texts of a row are written back as they are exactly if each is given
back. -/
theorem forall_shownTexts_iff {real : String → Value} (hReal : ∀ s t, real s ≠ .text t) {row : Row}
    {columns : List String} (hStored : ∀ c ∈ columns, (row c).Stored) :
    (∀ p ∈ shownTexts row columns, numeric real p.2 = row p.1) ↔
      ∀ c ∈ columns, GivenBack real (row c) := by
  rw [shownTexts, List.forall_mem_map]
  exact forall₂_congr fun c hc => numeric_setText_iff hReal (hStored c hc) {}

theorem harmless_shownTexts {row : Row} {columns : List String}
    (hHarmless : ∀ c ∈ columns, Harmless (row c).toText) :
    ∀ s ∈ (shownTexts row columns).map Prod.snd, Harmless s := by
  intro s hs
  rw [shownTexts, List.map_map] at hs
  obtain ⟨c, hc, rfl⟩ := List.mem_map.mp hs
  exact harmless_setText {} (hHarmless c hc)

section
variable {real : String → Value} {sqlite : Sqlite deviceSchema real} (hWorks : sqlite.Works)
  (qt : QtSql) {db : Database} (hContent : DeviceContent db) (selected : Selected db)
  (form : VMTDDeviceTableForm) {row : ViewRow}
include hWorks hContent

/-- A switch refers to nothing, so only its texts count. -/
theorem acceptUnedited_switches (hReal : ∀ s t, real s ≠ .text t) (hType : form.type = .switches)
    (hRow : row ∈ selected.switches) :
    form.acceptUnedited qt sqlite selected row = db ↔ row.Restored real qt selected := by
  obtain ⟨s, hMem, rfl⟩ := List.mem_map.mp (selected.perm_switches.subset hRow)
  obtain ⟨id, hId⟩ := exists_of_isId (hContent.ids "Switches" (by decide) s hMem)
  have hColumns : ∀ c ∈ ["name", "url", "username", "password"],
      c ∈ (deviceSchema.columns "Switches").map Prod.fst := by
    decide
  have hHarmless := harmless_shownTexts fun c hc =>
    hContent.harmless "Switches" (by decide) c (hColumns c hc) s hMem
  have hStored := fun c hc => hContent.stored "Switches" (by decide) c (hColumns c hc) s hMem
  obtain ⟨type, viewModel, dialog, hostDialog, bannedDialog, allowedDialog⟩ := form
  obtain rfl : type = .switches := hType
  have hAccept : VMTDDeviceTableForm.acceptUnedited qt sqlite selected (.switch s)
      ⟨.switches, viewModel, dialog, hostDialog, bannedDialog, allowedDialog⟩ =
        DeviceStore.createSwitch sqlite (qt.toInt (s "id"))
          (dialog.leName.setText (s "name").toText).text
          (dialog.leUrl.setText (s "url").toText).text
          (dialog.leUsername.setText (s "username").toText).text
          (dialog.lePassword.setText (s "password").toText).text db := rfl
  rw [hAccept, hId, toInt_id]
  refine (@create_eq_self_iff _ _ hWorks _ _ (.switch _ _ _ _) hHarmless
    (hContent.distinct "Switches" (by decide)) s hMem hId).trans ?_
  rw [ViewRow.Restored, hId, hasInteger_integer, ← forall_shownTexts_iff hReal hStored]
  exact Iff.rfl

/-- A host also has to find its switch. -/
theorem acceptUnedited_hosts (hReal : ∀ s t, real s ≠ .text t) (hType : form.type = .hosts)
    (hRow : row ∈ selected.hosts) :
    form.acceptUnedited qt sqlite selected row = db ↔ row.Restored real qt selected := by
  obtain ⟨h, hMem, s, hSwitch, hOn, rfl⟩ :=
    mem_map_innerJoin_iff.mp (selected.perm_hosts.subset hRow)
  obtain ⟨id, hId⟩ := exists_of_isId (hContent.ids "Hosts" (by decide) h hMem)
  have hSwitchId : IsId (h "switch_id") := hContent.isId_of_join (by decide) hSwitch hOn
  have hIds := (distinctIds_selectSwitches hContent).perm selected.perm_switches
  have hColumns : ∀ c ∈ ["name", "domain_name", "ip", "interface", "switch_port"],
      c ∈ (deviceSchema.columns "Hosts").map Prod.fst := by
    decide
  have hHarmless := harmless_shownTexts fun c hc =>
    hContent.harmless "Hosts" (by decide) c (hColumns c hc) h hMem
  have hStored := fun c hc => hContent.stored "Hosts" (by decide) c (hColumns c hc) h hMem
  obtain ⟨type, viewModel, switchDialog, dialog, bannedDialog, allowedDialog⟩ := form
  obtain rfl : type = .hosts := hType
  have hAccept : VMTDDeviceTableForm.acceptUnedited qt sqlite selected (.host h s)
      ⟨.hosts, viewModel, switchDialog, dialog, bannedDialog, allowedDialog⟩ =
        DeviceStore.createHost sqlite (qt.toInt (h "id"))
          (dialog.leName.setText (h "name").toText).text
          (dialog.leDomainName.setText (h "domain_name").toText).text
          (dialog.leIp.setText (h "ip").toText).text
          (dialog.leInterface.setText (h "interface").toText).text
          (dialog.leSwitchport.setText (h "switch_port").toText).text
          ((dialog.cbSwitchName.clear.cbFillMap (qt.names selected.switches)).cbSetIndex
            (s "name").toText).currentData db := rfl
  -- the statement takes the id that the search ends at as an `int`
  obtain ⟨found, hFound⟩ := exists_of_isId (isId_of_foundByName qt hIds
    (foundByName_currentData qt hIds dialog.cbSwitchName (s "name").toText))
  have hReference := @numeric_currentData_iff real qt _ hIds dialog.cbSwitchName
    (s "name").toText _ hSwitchId
  rw [Value.integer.inj hFound] at hReference hAccept
  rw [hAccept, hId, toInt_id]
  refine (@create_eq_self_iff _ _ hWorks _ _ (.host _ _ _ _ _ found) hHarmless
    (hContent.distinct "Hosts" (by decide)) h hMem hId).trans ?_
  rw [ViewRow.Restored, hId, hasInteger_integer, ← forall_shownTexts_iff hReal hStored,
    ← hReference, ← List.forall_mem_singleton (p := fun p : String × String =>
      numeric real p.2 = h p.1) (a := ("switch_id", toString found.toInt)), ← List.forall_mem_append]
  exact Iff.rfl

/-- A ban has to find its host, and its number has to fit. -/
theorem acceptUnedited_bannedScanners (hType : form.type = .bannedScanners)
    (hRow : row ∈ selected.bannedScanners) :
    form.acceptUnedited qt sqlite selected row = db ↔ row.Restored real qt selected := by
  obtain ⟨scanner, hMem, h, hHost, hOn, rfl⟩ :=
    mem_map_innerJoin_iff.mp (selected.perm_bannedScanners.subset hRow)
  obtain ⟨id, hId⟩ := exists_of_isId (hContent.ids "Banned_scanners" (by decide) scanner hMem)
  have hHostId : IsId (scanner "host_id") := hContent.isId_of_join (by decide) hHost hOn
  have hIds := (distinctIds_selectHosts hContent).perm selected.perm_hosts
  obtain ⟨type, viewModel, switchDialog, hostDialog, dialog, allowedDialog⟩ := form
  obtain rfl : type = .bannedScanners := hType
  have hAccept : VMTDDeviceTableForm.acceptUnedited qt sqlite selected (.bannedScanner scanner h)
      ⟨.bannedScanners, viewModel, switchDialog, hostDialog, dialog, allowedDialog⟩ =
        DeviceStore.createBannedScanner sqlite (qt.toInt (scanner "id"))
          ((dialog.cbHostName.clear.cbFillMap (qt.names selected.hosts)).cbSetIndex
            (h "name").toText).currentData
          (dialog.sbRemaining.setValue (qt.toInt (scanner "remaining"))).value db := rfl
  rw [hAccept, hId, toInt_id, createBannedScanner_eq_self_iff hWorks
    (hContent.distinct "Banned_scanners" (by decide)) hMem hId,
    numeric_currentData_iff qt hIds _ hHostId, numeric_setValue_iff, ViewRow.Restored, hId,
    hasInteger_integer]

/-- An allowed scanner has to find its host. -/
theorem acceptUnedited_allowedScanners (hType : form.type = .allowedScanners)
    (hRow : row ∈ selected.allowedScanners) :
    form.acceptUnedited qt sqlite selected row = db ↔ row.Restored real qt selected := by
  obtain ⟨scanner, hMem, h, hHost, hOn, rfl⟩ :=
    mem_map_innerJoin_iff.mp (selected.perm_allowedScanners.subset hRow)
  obtain ⟨id, hId⟩ := exists_of_isId (hContent.ids "Allowed_scanners" (by decide) scanner hMem)
  have hHostId : IsId (scanner "host_id") := hContent.isId_of_join (by decide) hHost hOn
  have hIds := (distinctIds_selectHosts hContent).perm selected.perm_hosts
  obtain ⟨type, viewModel, switchDialog, hostDialog, bannedDialog, dialog⟩ := form
  obtain rfl : type = .allowedScanners := hType
  have hAccept : VMTDDeviceTableForm.acceptUnedited qt sqlite selected (.allowedScanner scanner h)
      ⟨.allowedScanners, viewModel, switchDialog, hostDialog, bannedDialog, dialog⟩ =
        DeviceStore.createAllowedScanner sqlite (qt.toInt (scanner "id"))
          ((dialog.cbHostName.clear.cbFillMap (qt.names selected.hosts)).cbSetIndex
            (h "name").toText).currentData db := rfl
  rw [hAccept, hId, toInt_id, createAllowedScanner_eq_self_iff hWorks
    (hContent.distinct "Allowed_scanners" (by decide)) hMem hId,
    numeric_currentData_iff qt hIds _ hHostId, ViewRow.Restored, hId, hasInteger_integer]

/-- **Editing without changes.** With an engine that executes the statements, a
row of a view whose dialog is accepted unedited leaves all tables as they are
if and only if it is restored. -/
theorem acceptUnedited_eq_iff (hReal : ∀ s t, real s ≠ .text t)
    (hRow : row ∈ (form.pbLoadClicked qt selected).viewModel) :
    form.acceptUnedited qt sqlite selected row = db ↔ row.Restored real qt selected := by
  cases hType : form.type with
  | switches =>
    rw [VMTDDeviceTableForm.viewModel_pbLoadClicked, hType] at hRow
    exact acceptUnedited_switches hWorks qt hContent selected form hReal hType hRow
  | hosts =>
    rw [VMTDDeviceTableForm.viewModel_pbLoadClicked, hType] at hRow
    exact acceptUnedited_hosts hWorks qt hContent selected form hReal hType hRow
  | bannedScanners =>
    rw [VMTDDeviceTableForm.viewModel_pbLoadClicked, hType] at hRow
    exact acceptUnedited_bannedScanners hWorks qt hContent selected form hType hRow
  | allowedScanners =>
    rw [VMTDDeviceTableForm.viewModel_pbLoadClicked, hType] at hRow
    exact acceptUnedited_allowedScanners hWorks qt hContent selected form hType hRow

end

/-- What Qt does: 256 rows at first. -/
def qtSql : QtSql where
  prefetched := 256
  toInt := fun
    | .integer i => (Int32.ofInt i).toInt
    | _ => 0
  toInt_integer := fun _ => rfl

def leafRow (id : Int) : Row :=
  Row.ofList [("id", .integer id), ("name", .text "leaf"), ("url", .text "10.0.0.1"),
    ("username", .text "admin"), ("password", .integer 1234)]

def nodeRow (id switchId : Int) : Row :=
  Row.ofList [("id", .integer id), ("name", .text "node"), ("domain_name", .text "lab"),
    ("ip", .text "10.0.0.11"), ("interface", .text "eth0"), ("switch_port", .text "1/1"),
    ("switch_id", .integer switchId)]

/-- Two switches of one name, with a host each, after the placeholders. -/
def twoLeaves : Database :=
  Function.update (Function.update createTables
      "Switches" (createTables "Switches" ++ [leafRow 1, leafRow 2]))
    "Hosts" (createTables "Hosts" ++ [nodeRow 1 1, nodeRow 2 2])

/-- The devices of these rows. -/
def leafSwitch : Device := .switch "leaf" "10.0.0.1" "admin" "1234"

def nodeOn (switchId : Int32) : Device := .host "node" "lab" "10.0.0.11" "eth0" "1/1" switchId

/-- The tables of a new file after adding devices. -/
def tablesWith (devices : List Device) : Database :=
  devices.foldl (fun db device => storeStep db (reliable, .create (-1) device)) createTables

/-- Two switches and two hosts, added one after the other. -/
theorem tablesWith_twoLeaves :
    tablesWith [leafSwitch, leafSwitch, nodeOn 1, nodeOn 2] = twoLeaves := by
  have hLeaf : ∀ db : Database, storeStep db (reliable, .create (-1) leafSwitch) =
      Function.update db "Switches"
        (db "Switches" ++ [leafRow (nextKey "id" (db "Switches"))]) := by
    intro db
    rw [storeStep_row (by decide +kernel)]
    have hCells : leafSwitch.columns.map (fun p => (p.1, numeric Value.real p.2)) =
        [("name", .text "leaf"), ("url", .text "10.0.0.1"), ("username", .text "admin"),
          ("password", .integer 1234)] := by decide +kernel
    rw [hCells]
    rfl
  have hNode : ∀ (switchId : Int32) (db : Database), Fillable ((nodeOn switchId).values (-1)) →
      storeStep db (reliable, .create (-1) (nodeOn switchId)) = Function.update db "Hosts"
        (db "Hosts" ++ [nodeRow (nextKey "id" (db "Hosts")) switchId.toInt]) := by
    intro switchId db hValues
    have hTexts : ∀ s ∈ ["node", "lab", "10.0.0.11", "eth0", "1/1"],
        numeric Value.real s = .text s := by decide +kernel
    have hCells : (nodeOn switchId).columns.map (fun p => (p.1, numeric Value.real p.2)) =
        [("name", .text "node"), ("domain_name", .text "lab"), ("ip", .text "10.0.0.11"),
          ("interface", .text "eth0"), ("switch_port", .text "1/1"),
          ("switch_id", .integer switchId.toInt)] := by
      simpa [nodeOn, Device.columns, hTexts] using numeric_int32 switchId
    rw [storeStep_row hValues, hCells]
    rfl
  have hOther : "Hosts" ≠ "Switches" := by decide
  have hSwitches : nextKey "id" (createTables "Switches") = 1 ∧
      nextKey "id" (createTables "Switches" ++ [leafRow 1]) = 2 := by decide +kernel
  have hHosts : nextKey "id" (createTables "Hosts") = 1 ∧
      nextKey "id" (createTables "Hosts" ++ [nodeRow 1 1]) = 2 := by decide +kernel
  have hOne : (1 : Int32).toInt = 1 := by decide
  have hTwo : (2 : Int32).toInt = 2 := by decide
  rw [tablesWith, List.foldl_cons, List.foldl_cons, List.foldl_cons, List.foldl_cons,
    List.foldl_nil, hLeaf, hLeaf, hNode _ _ (by decide +kernel), hNode _ _ (by decide +kernel)]
  simp only [Function.update_self, Function.update_idem, Function.update_of_ne hOther, hSwitches,
    hHosts, hOne, hTwo, List.append_assoc, List.cons_append, List.nil_append]
  rfl

/-- The rows in the order of the tables. -/
def selectedInOrder (db : Database) : Selected db where
  switches := selectSwitches db
  hosts := selectHosts db
  bannedScanners := selectBannedScanners db
  allowedScanners := selectAllowedScanners db
  perm_switches := List.Perm.refl _
  perm_hosts := List.Perm.refl _
  perm_bannedScanners := List.Perm.refl _
  perm_allowedScanners := List.Perm.refl _

/-- A new form of hosts. -/
def hostsForm : VMTDDeviceTableForm where
  type := .hosts
  viewModel := []
  switchDialog := {}
  hostDialog := {}
  bannedScannerDialog := { id := 0 }
  allowedScannerDialog := { id := 0 }

theorem real_ne_text (s t : String) : Value.real s ≠ .text t := by
  intro h
  cases h

/-- It is a content of the device tables. -/
theorem deviceContent_twoLeaves : DeviceContent twoLeaves := by
  decide +kernel

theorem mem_hosts_twoLeaves :
    ViewRow.host (nodeRow 1 1) (leafRow 1) ∈ selectHosts twoLeaves ∧
      ViewRow.host (nodeRow 2 2) (leafRow 2) ∈ selectHosts twoLeaves := by
  constructor
  · exact mem_map_innerJoin_iff.mpr ⟨nodeRow 1 1, List.mem_cons_of_mem _ List.mem_cons_self,
      leafRow 1, List.mem_cons_of_mem _ List.mem_cons_self, rfl, rfl⟩
  · exact mem_map_innerJoin_iff.mpr ⟨nodeRow 2 2, List.mem_append_right _ (by simp),
      leafRow 2, List.mem_append_right _ (by simp), rfl, rfl⟩

theorem idsNamed_twoLeaves :
    idsNamed (qtSql.fetched (selectSwitches twoLeaves)) "leaf" = [.integer 1, .integer 2] := by
  decide +kernel

/-- The host of the first switch stays where it is. -/
theorem acceptUnedited_first :
    hostsForm.acceptUnedited qtSql reliable (selectedInOrder twoLeaves)
      (.host (nodeRow 1 1) (leafRow 1)) = twoLeaves := by
  refine (acceptUnedited_eq_iff (Sqlite.works_interpreter _ _) qtSql deviceContent_twoLeaves
    (selectedInOrder twoLeaves) hostsForm real_ne_text
    mem_hosts_twoLeaves.1).mpr ⟨1, rfl, Or.inr ⟨by decide, ?_, 1, rfl, Or.inl ?_⟩⟩
  · intro c hc
    simp only [List.mem_cons, List.not_mem_nil, or_false] at hc
    rcases hc with rfl | rfl | rfl | rfl | rfl <;> decide +kernel
  · show Value.integer 1 ∈ idsNamed (qtSql.fetched (selectSwitches twoLeaves)) "leaf" ∧
      ∀ other, Value.integer other ∈ idsNamed (qtSql.fetched (selectSwitches twoLeaves)) "leaf" →
        1 ≤ other
    rw [idsNamed_twoLeaves]
    refine ⟨List.mem_cons_self, fun other hOther => ?_⟩
    simp only [List.mem_cons, List.not_mem_nil, or_false, Value.integer.injEq] at hOther
    omega

/-- The host of the second switch is moved to the first, in tables that only new
devices were added to. -/
theorem not_acceptUnedited_eq :
    ¬ ∀ devices : List Device, DeviceContent (tablesWith devices) →
        ∀ (selected : Selected (tablesWith devices)),
          ∀ row ∈ (hostsForm.pbLoadClicked qtSql selected).viewModel,
            hostsForm.acceptUnedited qtSql reliable selected row = tablesWith devices := by
  intro hClaim
  have hTables := hClaim [leafSwitch, leafSwitch, nodeOn 1, nodeOn 2]
  rw [tablesWith_twoLeaves] at hTables
  have hSame := hTables deviceContent_twoLeaves (selectedInOrder twoLeaves) _
    mem_hosts_twoLeaves.2
  obtain ⟨id, hId, hZero | ⟨-, -, switchId, hSwitchId, hFound⟩⟩ :=
    (acceptUnedited_hosts (Sqlite.works_interpreter _ _) qtSql deviceContent_twoLeaves
      (selectedInOrder twoLeaves) hostsForm real_ne_text rfl
      mem_hosts_twoLeaves.2).mp hSame
  · rw [hZero] at hId
    exact absurd hId (by decide)
  · obtain rfl : 2 = switchId := Value.integer.inj hSwitchId
    change FoundByName (qtSql.fetched (selectSwitches twoLeaves)) "leaf" 2 at hFound
    rw [FoundByName, idsNamed_twoLeaves] at hFound
    rcases hFound with ⟨-, hLeast⟩ | ⟨hNone, -⟩
    · exact absurd (hLeast 1 List.mem_cons_self) (by decide)
    · cases hNone

end VxlanMtd
