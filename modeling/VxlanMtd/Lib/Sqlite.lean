import VxlanMtd.Lib.Sql
import VxlanMtd.Lib.Table
import Mathlib.Data.List.Nodup
import Mathlib.Data.List.TakeWhile

/-!
# SQLite — values, tables, statements

What SQLite keeps of the texts a statement has, by the affinity of the column,
and what a statement does to the tables.

* `toText_numeric` — a column of numeric affinity gives back exactly the texts
  that are `Kept`;
* `Statement.run` — the tables after a statement, with the values
  `assign_of_mem` and `assign_of_notMem` read off, and `assign_blank` a new row;
* `run_update_eq_iff` — an update that changes nothing;
* `Refers` — the values of a column are keys of another table, which SQLite does
  not see to; `Refers.run` and `refers_delete_iff` say when a statement keeps it;
* `Sqlite` — a database engine: a statement it has executed did that, and it
  may fail at any time, which changes nothing.

A number that is no integer of 64 bits is kept as a floating-point number. How
that is rounded and shown is a parameter, `real`.
-/

namespace Sql

-- ---------------------------------------------------------------------------
-- Values
-- ---------------------------------------------------------------------------

/-- What a cell has. A floating-point number stands for itself as the text that
is shown for it. -/
inductive Value where
  | null
  | integer (i : Int)
  | real (shown : String)
  | text (s : String)
  deriving DecidableEq, Repr

/-- The text a cell is read as. -/
def Value.toText : Value → String
  | .null => ""
  | .integer i => toString i
  | .real shown => shown
  | .text s => s

/-- The characters that may surround a number. -/
def isNumberSpace (c : Char) : Bool := c == ' ' || (9 ≤ c.toNat && c.toNat ≤ 13)

def trim (cs : List Char) : List Char :=
  ((cs.dropWhile isNumberSpace).reverse.dropWhile isNumberSpace).reverse

/-- A number without its sign. -/
def unsigned : List Char → List Char
  | '+' :: cs => cs
  | '-' :: cs => cs
  | cs => cs

def isExponent : List Char → Bool
  | [] => true
  | c :: cs => (c == 'e' || c == 'E') && !(unsigned cs).isEmpty && (unsigned cs).all Char.isDigit

/-- What may follow the digits before the point. -/
def isFraction (hasWhole : Bool) : List Char → Bool
  | '.' :: cs =>
    (hasWhole || !(cs.takeWhile Char.isDigit).isEmpty) && isExponent (cs.dropWhile Char.isDigit)
  | cs => hasWhole && isExponent cs

/-- The text is a number: digits with an optional sign, point and exponent. -/
def isNumber (s : String) : Bool :=
  let cs := unsigned (trim s.toList)
  isFraction (!(cs.takeWhile Char.isDigit).isEmpty) (cs.dropWhile Char.isDigit)

/-- An integer of 64 bits. -/
def Fits (i : Int) : Prop := -2 ^ 63 ≤ i ∧ i < 2 ^ 63

instance (i : Int) : Decidable (Fits i) := inferInstanceAs (Decidable (_ ∧ _))

/-- The value of an integer numeral. -/
def integerOf (s : String) : Option Int :=
  match trim s.toList with
  | '+' :: cs => (Text.readNat cs).map fun n : Nat => (n : Int)
  | cs => Text.readInt cs

/-- What a column of integer or numeric affinity keeps of a text. -/
def numeric (real : String → Value) (s : String) : Value :=
  if isNumber s then
    match (integerOf s).filter fun i => decide (Fits i) with
    | some i => .integer i
    | none => real s
  else .text s

/-- The text is no number, or the decimal numeral of an integer of 64 bits, or
a number that is shown as it was written. -/
def Kept (real : String → Value) (s : String) : Prop :=
  isNumber s = false ∨ (∃ i, Fits i ∧ s = toString i) ∨
    ((integerOf s).all (fun i => decide ¬Fits i) = true ∧ (real s).toText = s)

theorem trim_of_notSpace {cs : List Char} (h : ∀ c ∈ cs, isNumberSpace c = false) :
    trim cs = cs := by
  have hDrop : ∀ ds : List Char, (∀ c ∈ ds, isNumberSpace c = false) →
      ds.dropWhile isNumberSpace = ds := by
    intro ds hds
    refine List.dropWhile_eq_self_iff.mpr fun hPos hSpace => ?_
    rw [hds _ (List.getElem_mem hPos)] at hSpace
    cases hSpace
  rw [trim, hDrop cs h, hDrop cs.reverse fun c hc => h c (List.mem_reverse.mp hc),
    List.reverse_reverse]

/-- A numeral has no blanks to trim. -/
theorem trim_repr (i : Int) : trim i.repr.toList = i.repr.toList := by
  refine trim_of_notSpace fun c hc => ?_
  rcases Text.isDigit_or_minus_of_mem_repr hc with hDigit | rfl
  · have hRange : 48 ≤ c.toNat ∧ c.toNat ≤ 57 := by
      simpa [Char.isDigit, UInt32.le_iff_toNat_le] using hDigit
    have hBlank : c ≠ ' ' := by
      rintro rfl
      exact absurd hRange (by decide)
    have hOther : ¬(9 ≤ c.toNat ∧ c.toNat ≤ 13) := by omega
    simp only [isNumberSpace, Bool.or_eq_false_iff, beq_eq_false_iff_ne, Bool.and_eq_false_iff,
      decide_eq_false_iff_not]
    exact ⟨hBlank, by omega⟩
  · decide

/-- The decimal numerals are numbers. -/
theorem isNumber_toString (i : Int) : isNumber (toString i) = true := by
  have hNat : ∀ n : Nat, isFraction (!(n.repr.toList.takeWhile Char.isDigit).isEmpty)
      (n.repr.toList.dropWhile Char.isDigit) = true := by
    intro n
    have hDigits : ∀ c ∈ n.repr.toList, c.isDigit = true := fun c hc =>
      Text.isDigit_of_mem_repr hc
    rw [List.takeWhile_eq_self_iff.mpr hDigits, List.dropWhile_eq_nil_iff.mpr hDigits]
    simp [isFraction, isExponent]
  have hUnsigned : ∃ n : Nat, unsigned i.repr.toList = n.repr.toList := by
    rw [Int.repr_eq_if]
    split
    · refine ⟨i.toNat, ?_⟩
      unfold unsigned
      split
      · rename_i cs hEq
        have hDigit := @Text.isDigit_of_mem_repr i.toNat '+' (by rw [hEq]; exact List.mem_cons_self)
        exact absurd hDigit (by decide)
      · rename_i cs hEq
        have hDigit := @Text.isDigit_of_mem_repr i.toNat '-' (by rw [hEq]; exact List.mem_cons_self)
        exact absurd hDigit (by decide)
      · rfl
    · exact ⟨(-i).toNat, by simp [unsigned]⟩
  obtain ⟨n, hn⟩ := hUnsigned
  show isFraction (!((unsigned (trim i.repr.toList)).takeWhile Char.isDigit).isEmpty)
    ((unsigned (trim i.repr.toList)).dropWhile Char.isDigit) = true
  rw [trim_repr, hn]
  exact hNat n

theorem integerOf_toString (i : Int) : integerOf (toString i) = some i := by
  show (match trim i.repr.toList with
    | '+' :: cs => (Text.readNat cs).map fun n : Nat => (n : Int)
    | cs => Text.readInt cs) = some i
  rw [trim_repr]
  split
  · rename_i cs hEq
    have hMem : '+' ∈ i.repr.toList := by
      rw [hEq]
      exact List.mem_cons_self
    exact absurd hMem (Text.notMem_repr (by decide) (by decide))
  · exact Text.readInt_repr i

/-- A numeral is kept as the number. -/
@[simp] theorem numeric_toString (real : String → Value) {i : Int} (h : Fits i) :
    numeric real (toString i) = .integer i := by
  rw [numeric, if_pos (isNumber_toString i), integerOf_toString]
  simp [Option.filter, h]

/-- **What a numeric column gives back.** -/
theorem toText_numeric (real : String → Value) (s : String) :
    (numeric real s).toText = s ↔ Kept real s := by
  constructor
  · intro h
    unfold numeric at h
    split at h
    · split at h
      · rename_i i hInteger
        obtain ⟨-, hFits⟩ := Option.filter_eq_some_iff.mp hInteger
        exact Or.inr (Or.inl ⟨i, of_decide_eq_true hFits, h.symm⟩)
      · rename_i hInteger
        refine Or.inr (Or.inr ⟨?_, h⟩)
        cases hValue : integerOf s with
        | none => rfl
        | some i => simpa [hValue, Option.filter] using hInteger
    · rename_i hNumber
      exact Or.inl (Bool.eq_false_iff.mpr hNumber)
  · rintro (hNumber | ⟨i, hFits, rfl⟩ | ⟨hInteger, hReal⟩)
    · rw [numeric, if_neg (by rw [hNumber]; decide)]
      rfl
    · rw [numeric_toString real hFits]
      rfl
    · have hNone : (integerOf s).filter (fun i => decide (Fits i)) = none := by
        cases hValue : integerOf s with
        | none => rfl
        | some i => simpa [hValue, Option.filter] using hInteger
      unfold numeric
      split
      · rw [hNone]
        exact hReal
      · rfl

/-- What a cell of such a column has that is not null. -/
def Value.Stored : Value → Prop
  | .null => False
  | .integer i => Fits i
  | .real _ => True
  | .text s => isNumber s = false

instance : ∀ v : Value, Decidable v.Stored
  | .null => inferInstanceAs (Decidable False)
  | .integer i => inferInstanceAs (Decidable (Fits i))
  | .real _ => inferInstanceAs (Decidable True)
  | .text s => inferInstanceAs (Decidable (isNumber s = false))

-- ---------------------------------------------------------------------------
-- Tables
-- ---------------------------------------------------------------------------

/-- The value of each column. -/
abbrev Row := String → Value

/-- A row with these values. -/
def Row.ofList (cells : List (String × Value)) : Row := fun c => (cells.lookup c).getD .null

/-- The rows of each table. -/
abbrev Database := String → List Row

inductive Affinity where
  | integer
  | text
  | blob
  | real
  | numeric
  deriving DecidableEq, Repr

/-- The affinity of a column by its declared type: which of these names occurs
in it, in this order. -/
def Affinity.ofDeclared (declared : String) : Affinity :=
  let has (name : String) : Bool := declared.toList.tails.any (name.toList.isPrefixOf ·)
  if has "INT" then .integer
  else if has "CHAR" || has "CLOB" || has "TEXT" then .text
  else if has "BLOB" || declared.isEmpty then .blob
  else if has "REAL" || has "FLOA" || has "DOUB" then .real
  else .numeric

/-- What a column of this affinity keeps of a text. -/
def Affinity.convert (real : String → Value) : Affinity → String → Value
  | .integer, s => Sql.numeric real s
  | .numeric, s => Sql.numeric real s
  | .real, s => if isNumber s then real s else .text s
  | .text, s => .text s
  | .blob, s => .text s

/-- The tables with the declared types of their columns, and the column that
is the primary key of each. -/
structure Schema where
  tables : List (String × List (String × String))
  key : String

def Schema.columns (schema : Schema) (table : String) : List (String × String) :=
  (schema.tables.lookup table).getD []

/-- What a column keeps of a text. -/
def Schema.store (schema : Schema) (real : String → Value) (table column : String) :
    String → Value :=
  (Affinity.ofDeclared (((schema.columns table).lookup column).getD "")).convert real

/-- The row after the assignments, of which the last to a column counts. -/
def Row.assign (store : String → String → Value) (row : Row) (set : List (String × String)) : Row :=
  set.foldl (fun row p => Function.update row p.1 (store p.1 p.2)) row

theorem assign_of_notMem {store : String → String → Value} {set : List (String × String)}
    {c : String} (h : c ∉ set.map Prod.fst) (row : Row) : Row.assign store row set c = row c := by
  induction set generalizing row with
  | nil => rfl
  | cons p set ih =>
    rw [List.map_cons, List.mem_cons, not_or] at h
    show Row.assign store (Function.update row p.1 (store p.1 p.2)) set c = row c
    rw [ih h.2, Function.update_of_ne h.1]

/-- A column has the value of its assignment. -/
theorem assign_of_mem {store : String → String → Value} {set : List (String × String)}
    (hNodup : (set.map Prod.fst).Nodup) {c v : String} (h : (c, v) ∈ set) (row : Row) :
    Row.assign store row set c = store c v := by
  induction set generalizing row with
  | nil => exact absurd h List.not_mem_nil
  | cons p set ih =>
    obtain ⟨hNew, hRest⟩ := List.nodup_cons.mp hNodup
    show Row.assign store (Function.update row p.1 (store p.1 p.2)) set c = store c v
    rcases List.mem_cons.mp h with rfl | h
    · rw [assign_of_notMem hNew, Function.update_self]
    · exact ih hRest h _

/-- Columns and texts taken apart are put together again. -/
theorem zip_fst_snd (cells : List (String × String)) :
    (cells.map Prod.fst).zip (cells.map Prod.snd) = cells := by
  rw [← List.unzip_fst, ← List.unzip_snd, List.zip_unzip]

-- ---------------------------------------------------------------------------
-- Statements
-- ---------------------------------------------------------------------------

def Statement.table : Statement → String
  | .update table .. => table
  | .insert table .. => table
  | .delete table .. => table

/-- The tables after a statement. A new row gets the key `fresh`. -/
def Statement.run (schema : Schema) (real : String → Value) (fresh : Int) :
    Statement → Database → Database
  | .update table set column key, db =>
    Function.update db table <| (db table).map fun row =>
      if row column = schema.store real table column key then
        row.assign (schema.store real table) set
      else row
  | .insert table columns values, db =>
    let blank : Row := Function.update (fun _ => .null) schema.key (.integer fresh)
    Function.update db table
      (db table ++ [blank.assign (schema.store real table) (columns.zip values)])
  | .delete table column key, db =>
    Function.update db table <| (db table).filter fun row =>
      row column ≠ schema.store real table column key

/-- The statement names columns of the table, each once, leaves the key alone,
and a new row has all other columns. -/
def Statement.Ok (schema : Schema) : Statement → Prop
  | .update table set column _ =>
    (∀ p ∈ set, p.1 ∈ (schema.columns table).map Prod.fst ∧ p.1 ≠ schema.key) ∧
      (set.map Prod.fst).Nodup ∧ column ∈ (schema.columns table).map Prod.fst
  | .insert table columns _ =>
    columns.Nodup ∧ schema.key ∉ columns ∧
      ∀ c, c ∈ (schema.columns table).map Prod.fst → c = schema.key ∨ c ∈ columns
  | .delete table column _ => column ∈ (schema.columns table).map Prod.fst

instance (schema : Schema) : ∀ statement : Statement, Decidable (statement.Ok schema)
  | .update _ _ _ _ => inferInstanceAs (Decidable (_ ∧ _ ∧ _))
  | .insert _ _ _ => inferInstanceAs (Decidable (_ ∧ _ ∧ ∀ c, c ∈ List.map Prod.fst _ → _))
  | .delete table column _ =>
    inferInstanceAs (Decidable (column ∈ (schema.columns table).map Prod.fst))

/-- The literals do not matter for this. -/
theorem Statement.Ok.mapLiterals {schema : Schema} {statement : Statement} (h : statement.Ok schema)
    (g : String → String) : (statement.mapLiterals g).Ok schema := by
  cases statement with
  | update table set column key =>
    refine ⟨fun p hp => ?_, ?_, h.2.2⟩
    · obtain ⟨q, hq, rfl⟩ := List.mem_map.mp hp
      exact h.1 q hq
    · rw [List.map_map]
      exact h.2.1
  | insert => exact h
  | delete => exact h

/-- No other table changes. -/
theorem run_of_ne {schema : Schema} {real : String → Value} {fresh : Int} {statement : Statement}
    {table : String} (h : table ≠ statement.table) (db : Database) :
    statement.run schema real fresh db table = db table := by
  cases statement with
  | update => exact Function.update_of_ne h _ _
  | insert => exact Function.update_of_ne h _ _
  | delete => exact Function.update_of_ne h _ _

/-- `fresh` is above all keys of the rows. -/
def Above (key : String) (rows : List Row) (fresh : Int) : Prop :=
  ∀ row ∈ rows, ∀ i, row key = .integer i → i < fresh

/-- An engine: what it does with a text, if it does not fail. -/
structure Sqlite (schema : Schema) (real : String → Value) where
  exec : String → Database → Option Database
  exec_run : ∀ {text : String} {statement : Statement}, parse text = some statement →
    statement.Ok schema → ∀ {db db' : Database}, exec text db = some db' →
      ∃ fresh, Above schema.key (db statement.table) fresh ∧
        db' = statement.run schema real fresh db

variable {schema : Schema} {real : String → Value}

/-- A call of `exec`: a statement that fails leaves everything as it is. -/
def Sqlite.execute (sqlite : Sqlite schema real) (text : String) (db : Database) : Database :=
  (sqlite.exec text db).getD db

/-- The engine executes every statement. -/
def Sqlite.Works (sqlite : Sqlite schema real) : Prop :=
  ∀ ⦃text : String⦄ ⦃statement : Statement⦄, parse text = some statement →
    statement.Ok schema → ∀ db, (sqlite.exec text db).isSome = true

/-- A statement was executed, or nothing has changed. -/
theorem Sqlite.execute_cases (sqlite : Sqlite schema real) {text : String} {statement : Statement}
    (hParse : parse text = some statement) (hOk : statement.Ok schema) (db : Database) :
    (sqlite.exec text db = none ∧ sqlite.execute text db = db) ∨
      ((sqlite.exec text db).isSome = true ∧
        ∃ fresh, Above schema.key (db statement.table) fresh ∧
          sqlite.execute text db = statement.run schema real fresh db) := by
  unfold Sqlite.execute
  cases hExec : sqlite.exec text db with
  | none => exact Or.inl ⟨rfl, rfl⟩
  | some db' => exact Or.inr ⟨rfl, sqlite.exec_run hParse hOk hExec⟩

/-- An engine that works does what the statement says. -/
theorem Sqlite.Works.execute_eq {sqlite : Sqlite schema real} (hWorks : sqlite.Works)
    {text : String} {statement : Statement} (hParse : parse text = some statement)
    (hOk : statement.Ok schema) (db : Database) :
    ∃ fresh, Above schema.key (db statement.table) fresh ∧
      sqlite.execute text db = statement.run schema real fresh db := by
  rcases sqlite.execute_cases hParse hOk db with ⟨hNone, -⟩ | ⟨-, hRun⟩
  · have hSome := hWorks hParse hOk db
    rw [hNone] at hSome
    cases hSome
  · exact hRun

/-- The keys of a table. -/
def keys (key : String) (db : Database) (table : String) : List Value := (db table).map (· key)

-- ---------------------------------------------------------------------------
-- Statements that change nothing
-- ---------------------------------------------------------------------------

theorem assign_eq_self_iff {store : String → String → Value} {set : List (String × String)}
    (hNodup : (set.map Prod.fst).Nodup) {row : Row} :
    Row.assign store row set = row ↔ ∀ p ∈ set, store p.1 p.2 = row p.1 := by
  constructor
  · intro h p hp
    have hSame := congrFun h p.1
    rwa [assign_of_mem hNodup hp row] at hSame
  · intro h
    funext c
    by_cases hc : c ∈ set.map Prod.fst
    · obtain ⟨p, hp, rfl⟩ := List.mem_map.mp hc
      rw [assign_of_mem hNodup hp, h p hp]
    · exact assign_of_notMem hc row

/-- The cells of a new row. -/
theorem assign_blank {store : String → String → Value} {set : List (String × String)}
    (hNodup : (set.map Prod.fst).Nodup) {key : String} (hKey : key ∉ set.map Prod.fst) (v : Value) :
    Row.assign store (Function.update (fun _ => .null) key v) set =
      Row.ofList ((key, v) :: set.map fun p => (p.1, store p.1 p.2)) := by
  have hNames : ((set.map fun p => (p.1, store p.1 p.2)).map Prod.fst) = set.map Prod.fst := by
    rw [List.map_map]
    rfl
  funext c
  rw [Row.ofList, List.lookup_cons]
  by_cases hc : c ∈ set.map Prod.fst
  · obtain ⟨p, hp, rfl⟩ := List.mem_map.mp hc
    have hOther : p.1 ≠ key := fun hEq => hKey (hEq ▸ hc)
    have hCell := (Table.lookup_eq_some_iff_mem (hNames ▸ hNodup)).mpr
      (List.mem_map_of_mem (f := fun p => (p.1, store p.1 p.2)) hp)
    rw [assign_of_mem hNodup hp, beq_false_of_ne hOther, hCell]
    rfl
  · have hNone : (set.map fun p => (p.1, store p.1 p.2)).lookup c = none := by
      rw [List.lookup_eq_none_iff]
      intro entry hEntry
      rw [← hNames] at hc
      exact bne_iff_ne.mpr fun hEq => hc (hEq ▸ List.mem_map_of_mem hEntry)
    rw [assign_of_notMem hc, hNone, Function.update_apply]
    by_cases hEq : c = key
    · rw [if_pos hEq, hEq, beq_self_eq_true]
      rfl
    · rw [if_neg hEq, beq_false_of_ne hEq]
      rfl

/-- **An update changes nothing** exactly if the rows it concerns have its
values. -/
theorem run_update_eq_iff {table column key : String} {set : List (String × String)}
    (hNodup : (set.map Prod.fst).Nodup) {fresh : Int} {db : Database} :
    (Statement.update table set column key).run schema real fresh db = db ↔
      ∀ row ∈ db table, row column = schema.store real table column key →
        ∀ p ∈ set, schema.store real table p.1 p.2 = row p.1 := by
  have hMap : ∀ f : Row → Row, (db table).map f = db table ↔ ∀ row ∈ db table, f row = row := by
    intro f
    have hInj := @List.map_inj_left _ _ (db table) f id
    rwa [List.map_id] at hInj
  rw [Statement.run, Function.update_eq_self_iff, hMap]
  refine forall₂_congr fun row _ => ?_
  by_cases hWhere : row column = schema.store real table column key
  · rw [if_pos hWhere, assign_eq_self_iff hNodup, imp_iff_right hWhere]
  · rw [if_neg hWhere]
    exact iff_of_true rfl fun h => absurd h hWhere

/-- An update by the key of a row. -/
theorem run_update_key_eq_iff {table k : String} {set : List (String × String)}
    (hNodup : (set.map Prod.fst).Nodup) {db : Database}
    (hKeys : (keys schema.key db table).Nodup) {row : Row} (hRow : row ∈ db table)
    (hKey : row schema.key = schema.store real table schema.key k) {fresh : Int} :
    (Statement.update table set schema.key k).run schema real fresh db = db ↔
      ∀ p ∈ set, schema.store real table p.1 p.2 = row p.1 := by
  rw [run_update_eq_iff hNodup]
  constructor
  · intro h
    exact h row hRow hKey
  · intro h other hOther hWhere
    obtain rfl : other = row := List.inj_on_of_nodup_map hKeys hOther hRow (hWhere.trans hKey.symm)
    exact h

/-- An insertion changes its table. -/
theorem run_insert_ne {table : String} {columns values : List String} {fresh : Int}
    {db : Database} : (Statement.insert table columns values).run schema real fresh db ≠ db := by
  intro h
  have hTable := congrFun h table
  rw [Statement.run, Function.update_self] at hTable
  exact List.cons_ne_nil _ _ (List.append_right_eq_self.mp hTable)

-- ---------------------------------------------------------------------------
-- References
-- ---------------------------------------------------------------------------

/-- Every value of the column is a key of the table it refers to. -/
def Refers (key : String) (db : Database) (table column target : String) : Prop :=
  ∀ row ∈ db table, row column ∈ keys key db target

instance (key : String) (db : Database) (table column target : String) :
    Decidable (Refers key db table column target) :=
  inferInstanceAs (Decidable (∀ row ∈ db table, _))

def Statement.isDelete : Statement → Bool
  | .delete .. => true
  | _ => false

/-- What a statement assigns to columns. -/
def Statement.assigned : Statement → List (String × String)
  | .update _ set _ _ => set
  | .insert _ columns values => columns.zip values
  | .delete .. => []

/-- An update or insertion keeps all keys. -/
theorem keys_subset_run {statement : Statement} (hDelete : statement.isDelete = false)
    (hOk : statement.Ok schema) (fresh : Int) (db : Database) (table : String) :
    keys schema.key db table ⊆ keys schema.key (statement.run schema real fresh db) table := by
  by_cases hTable : table = statement.table
  · cases statement with
    | update t set column k =>
      obtain rfl : table = t := hTable
      have hKey : schema.key ∉ set.map Prod.fst := by
        intro hMem
        obtain ⟨p, hp, hEq⟩ := List.mem_map.mp hMem
        exact (hOk.1 p hp).2 hEq
      have hSame : ∀ row : Row,
          (if row column = schema.store real table column k then
            row.assign (schema.store real table) set else row) schema.key = row schema.key := by
        intro row
        split
        · exact assign_of_notMem hKey row
        · rfl
      intro value hValue
      obtain ⟨row, hRow, rfl⟩ := List.mem_map.mp hValue
      rw [keys, Statement.run, Function.update_self, List.map_map]
      exact List.mem_map.mpr ⟨row, hRow, hSame row⟩
    | insert t columns values =>
      obtain rfl : table = t := hTable
      rw [keys, keys, Statement.run, Function.update_self, List.map_append]
      exact List.subset_append_left _ _
    | delete => cases hDelete
  · rw [keys, keys, run_of_ne hTable]
    exact List.Subset.refl _

/-- A value in a column was there before, or the statement has assigned it. -/
theorem mem_run {statement : Statement} (hOk : statement.Ok schema)
    (hShaped : statement.Shaped) {fresh : Int} {db : Database} {table column : String}
    (hColumn : column ∈ (schema.columns table).map Prod.fst) (hKey : column ≠ schema.key)
    {row : Row} (h : row ∈ statement.run schema real fresh db table) :
    (∃ old ∈ db table, old column = row column) ∨
      table = statement.table ∧ ∃ v, (column, v) ∈ statement.assigned ∧
        row column = schema.store real table column v := by
  by_cases hTable : table = statement.table
  · cases statement with
    | update t set c k =>
      obtain rfl : table = t := hTable
      rw [Statement.run, Function.update_self] at h
      obtain ⟨old, hOld, rfl⟩ := List.mem_map.mp h
      by_cases hWhere : old c = schema.store real table c k
      · rw [if_pos hWhere]
        by_cases hMem : column ∈ set.map Prod.fst
        · obtain ⟨p, hp, rfl⟩ := List.mem_map.mp hMem
          exact Or.inr ⟨rfl, p.2, hp, assign_of_mem hOk.2.1 hp old⟩
        · exact Or.inl ⟨old, hOld, (assign_of_notMem hMem old).symm⟩
      · rw [if_neg hWhere]
        exact Or.inl ⟨old, hOld, rfl⟩
    | insert t columns values =>
      obtain rfl : table = t := hTable
      rw [Statement.run, Function.update_self, List.mem_append] at h
      rcases h with hOld | hNew
      · exact Or.inl ⟨row, hOld, rfl⟩
      · obtain rfl := List.mem_singleton.mp hNew
        have hIn : column ∈ columns := (hOk.2.2 column hColumn).resolve_left hKey
        have hFst : (columns.zip values).map Prod.fst = columns :=
          List.map_fst_zip (Nat.le_of_eq hShaped.2)
        obtain ⟨p, hp, rfl⟩ := List.mem_map.mp (hFst ▸ hIn)
        exact Or.inr ⟨rfl, p.2, hp, assign_of_mem (hFst.symm ▸ hOk.1) hp _⟩
    | delete t c k =>
      obtain rfl : table = t := hTable
      rw [Statement.run, Function.update_self] at h
      exact Or.inl ⟨row, (List.mem_filter.mp h).1, rfl⟩
  · rw [run_of_ne hTable] at h
    exact Or.inl ⟨row, h, rfl⟩

/-- **Updates and insertions keep references** if the values they assign are
keys. -/
theorem Refers.run {statement : Statement} {db : Database} {table column target : String}
    (h : Refers schema.key db table column target) (hDelete : statement.isDelete = false)
    (hOk : statement.Ok schema) (hShaped : statement.Shaped)
    (hColumn : column ∈ (schema.columns table).map Prod.fst) (hKey : column ≠ schema.key)
    (hNew : table = statement.table → ∀ v, (column, v) ∈ statement.assigned →
      schema.store real table column v ∈ keys schema.key db target) (fresh : Int) :
    Refers schema.key (statement.run schema real fresh db) table column target := by
  intro row hRow
  refine keys_subset_run hDelete hOk fresh db target ?_
  rcases mem_run hOk hShaped hColumn hKey hRow with ⟨old, hOld, hEq⟩ | ⟨hTable, v, hv, hEq⟩
  · rw [← hEq]
    exact h old hOld
  · rw [hEq]
    exact hNew hTable v hv

/-- The keys after a deletion by key. -/
theorem mem_keys_delete {table k : String} {fresh : Int} {db : Database} {value : Value} :
    value ∈ keys schema.key ((Statement.delete table schema.key k).run schema real fresh db) table ↔
      value ∈ keys schema.key db table ∧ value ≠ schema.store real table schema.key k := by
  rw [keys, Statement.run, Function.update_self]
  constructor
  · intro h
    obtain ⟨row, hRow, rfl⟩ := List.mem_map.mp h
    obtain ⟨hMem, hne⟩ := List.mem_filter.mp hRow
    exact ⟨List.mem_map_of_mem hMem, of_decide_eq_true hne⟩
  · rintro ⟨h, hne⟩
    obtain ⟨row, hRow, rfl⟩ := List.mem_map.mp h
    exact List.mem_map.mpr ⟨row, List.mem_filter.mpr ⟨hRow, decide_eq_true hne⟩, rfl⟩

/-- **A deletion by key keeps references** from other tables exactly if none is
to the deleted key. -/
theorem refers_delete_iff {table t column k : String} (hne : t ≠ table) {fresh : Int}
    {db : Database} (h : Refers schema.key db t column table) :
    Refers schema.key ((Statement.delete table schema.key k).run schema real fresh db) t column
        table ↔
      ∀ row ∈ db t, row column ≠ schema.store real table schema.key k := by
  have hRows : (Statement.delete table schema.key k).run schema real fresh db t = db t :=
    run_of_ne hne db
  unfold Refers
  rw [hRows]
  refine forall₂_congr fun row hRow => ?_
  rw [mem_keys_delete]
  exact ⟨fun hMem => hMem.2, fun hNot => ⟨h row hRow, hNot⟩⟩

/-- Other references are kept by any deletion. -/
theorem Refers.delete_of_ne {table t column target c k : String} (hne : target ≠ table)
    {db : Database} (h : Refers schema.key db t column target) (fresh : Int) :
    Refers schema.key ((Statement.delete table c k).run schema real fresh db) t column target := by
  have hKeys : (Statement.delete table c k).run schema real fresh db target = db target :=
    run_of_ne hne db
  intro row hRow
  rw [keys, hKeys]
  by_cases hTable : t = table
  · rw [hTable, Statement.run, Function.update_self] at hRow
    exact h row (hTable ▸ (List.mem_filter.mp hRow).1)
  · rw [run_of_ne hTable] at hRow
    exact h row hRow

/-- The least key above the rows. -/
def nextKey (key : String) (rows : List Row) : Int :=
  rows.foldr (fun row n => match row key with
    | .integer i => max n (i + 1)
    | _ => n) 1

/-- The next key is new. -/
theorem above_nextKey (key : String) (rows : List Row) : Above key rows (nextKey key rows) := by
  induction rows with
  | nil => exact fun _ h => absurd h List.not_mem_nil
  | cons row rows ih =>
    intro row' hRow i hi
    rcases List.mem_cons.mp hRow with rfl | hRow
    · simp only [nextKey, List.foldr_cons, hi]
      exact Int.lt_of_lt_of_le (Int.lt_succ i) (Int.le_max_right _ _)
    · have hLt := ih row' hRow i hi
      simp only [nextKey, List.foldr_cons] at hLt ⊢
      split
      · exact Int.lt_of_lt_of_le hLt (Int.le_max_left _ _)
      · exact hLt

/-- The engine that executes every statement it can read, and no other text. -/
def Sqlite.interpreter (schema : Schema) (real : String → Value) : Sqlite schema real where
  exec := fun text db => (parse text).bind fun statement =>
    if statement.Ok schema then
      some (statement.run schema real (nextKey schema.key (db statement.table)) db)
    else none
  exec_run := by
    intro text statement hParse hOk db db' hExec
    rw [hParse, Option.bind_some, if_pos hOk] at hExec
    exact ⟨_, above_nextKey _ _, (Option.some.inj hExec).symm⟩

/-- The engine does what the statement says. -/
theorem Sqlite.execute_interpreter {text : String} {statement : Statement}
    (hParse : parse text = some statement) (hOk : statement.Ok schema) (db : Database) :
    (Sqlite.interpreter schema real).execute text db =
      statement.run schema real (nextKey schema.key (db statement.table)) db := by
  show ((parse text).bind _).getD db = _
  rw [hParse, Option.bind_some, if_pos hOk]
  rfl

theorem Sqlite.execute_interpreter_of_none {text : String} (hParse : parse text = none)
    (db : Database) : (Sqlite.interpreter schema real).execute text db = db := by
  show ((parse text).bind _).getD db = _
  rw [hParse]
  rfl

theorem Sqlite.works_interpreter (schema : Schema) (real : String → Value) :
    (Sqlite.interpreter schema real).Works := by
  intro text statement hParse hOk db
  show ((parse text).bind _).isSome = true
  rw [hParse, Option.bind_some, if_pos hOk]
  rfl

end Sql
