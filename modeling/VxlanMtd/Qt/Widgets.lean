import VxlanMtd.Qt.Text
import VxlanMtd.Lib.Ordered
import Mathlib.Data.Int.Order.Basic

/-!
# Qt — widgets of a dialog

What the dialogs put into their widgets and read from them again.

* `text_setText_eq_iff` — a line edit keeps a text that is not too long;
* `value_setValue` — a spin box keeps a value in its range;
* `currentData_cbSetIndex` — a combo box filled from a map and set to a text has
  the data of the first item with that text.
-/

-- ---------------------------------------------------------------------------
-- Line edits
-- ---------------------------------------------------------------------------

/-- `QLineEdit`. -/
structure QLineEdit where
  text : String := ""

namespace QLineEdit

/-- The default, in UTF-16 code units. -/
def maxLength : Nat := 32767

/-- `setText` cuts a text off at the maximal length. -/
def setText (_ : QLineEdit) (text : String) : QLineEdit where
  text := String.ofList (QString.left maxLength text.toList)

/-- A line edit takes what fits. -/
theorem toList_setText (edit : QLineEdit) (text : String) :
    (edit.setText text).text.toList = QString.left maxLength text.toList :=
  String.toList_ofList

/-- What is left of a text is part of it. -/
theorem mem_setText {edit : QLineEdit} {text : String} {c : Char}
    (h : c ∈ (edit.setText text).text.toList) : c ∈ text.toList := by
  rw [toList_setText] at h
  exact (QString.left_prefix _ _).subset h

/-- A text is kept exactly if it is not too long. -/
theorem text_setText_eq_iff {edit : QLineEdit} {text : String} :
    (edit.setText text).text = text ↔ QString.size text.toList ≤ maxLength := by
  rw [← String.toList_inj, toList_setText, QString.left_eq_self_iff]

end QLineEdit

-- ---------------------------------------------------------------------------
-- Spin boxes
-- ---------------------------------------------------------------------------

/-- `QSpinBox` with its range. -/
structure QSpinBox (minimum maximum : Int) where
  value : Int := minimum

namespace QSpinBox

variable {minimum maximum : Int}

/-- `setValue` takes the nearest value of the range. -/
def setValue (_ : QSpinBox minimum maximum) (value : Int) : QSpinBox minimum maximum where
  value := max minimum (min value maximum)

/-- A spin box never leaves its range. -/
theorem value_setValue_mem (h : minimum ≤ maximum) (box : QSpinBox minimum maximum) (value : Int) :
    minimum ≤ (box.setValue value).value ∧ (box.setValue value).value ≤ maximum := by
  show minimum ≤ max _ _ ∧ max _ _ ≤ maximum
  omega

/-- A value in the range is taken. -/
theorem value_setValue (box : QSpinBox minimum maximum) {value : Int}
    (h : minimum ≤ value ∧ value ≤ maximum) : (box.setValue value).value = value := by
  show max _ _ = value
  omega

end QSpinBox

-- ---------------------------------------------------------------------------
-- Combo boxes
-- ---------------------------------------------------------------------------

/-- `QComboBox`: the items with their data. No item is current where the index
is −1. -/
structure QComboBox where
  items : List (String × Int) := []
  currentIndex : Option Nat := none

namespace QComboBox

def clear (_ : QComboBox) : QComboBox := {}

/-- `addItem`. The first item becomes the current one. -/
def addItem (combo : QComboBox) (text : String) (data : Int) : QComboBox where
  items := combo.items ++ [(text, data)]
  currentIndex := if combo.items.isEmpty then some 0 else combo.currentIndex

/-- `findText`, for the whole text. -/
def findText (combo : QComboBox) (text : String) : Option Nat :=
  combo.items.findIdx? fun item => item.1 == text

def setCurrentIndex (combo : QComboBox) (index : Option Nat) : QComboBox :=
  { combo with currentIndex := index }

/-- `currentData().toInt()`: without a current item there is no data, which
counts as 0. -/
def currentData (combo : QComboBox) : Int :=
  match combo.currentIndex.bind fun i => combo.items[i]? with
  | some item => item.2
  | none => 0

/-- `CB_FILL_MAP`. -/
def cbFillMap (combo : QComboBox) (map : OrderedMap Int String) : QComboBox :=
  map.entries.foldl (fun combo e => combo.addItem e.2 e.1) combo

/-- `CB_SET_INDEX`. -/
def cbSetIndex (combo : QComboBox) (text : String) : QComboBox :=
  combo.setCurrentIndex (combo.findText text)

/-- The entries are added with the keys as their data, in the order of the keys. -/
theorem items_cbFillMap (combo : QComboBox) (map : OrderedMap Int String) :
    (combo.cbFillMap map).items = combo.items ++ map.entries.map fun e => (e.2, e.1) := by
  have hFold : ∀ (entries : List (Int × String)) (combo : QComboBox),
      (entries.foldl (fun combo e => combo.addItem e.2 e.1) combo).items =
        combo.items ++ entries.map fun e => (e.2, e.1) := by
    intro entries
    induction entries with
    | nil => simp
    | cons e entries ih =>
      intro combo
      rw [List.foldl_cons, ih]
      simp [addItem]
  exact hFold _ _

/-- The data of the first item with the text. -/
theorem currentData_cbSetIndex (combo : QComboBox) (map : OrderedMap Int String) (text : String) :
    ((combo.clear.cbFillMap map).cbSetIndex text).currentData =
      ((map.entries.find? fun e => e.2 == text).map Prod.fst).getD 0 := by
  have hItems : (combo.clear.cbFillMap map).items = map.entries.map fun e => (e.2, e.1) := by
    rw [items_cbFillMap]
    rfl
  unfold cbSetIndex setCurrentIndex findText currentData
  rw [hItems, ← List.find?_eq_bind_findIdx?_getElem?, List.find?_map]
  show (match (map.entries.find? fun e => e.2 == text).map fun e => (e.2, e.1) with
    | some item => item.2
    | none => 0) = _
  cases map.entries.find? fun e => e.2 == text with
  | none => rfl
  | some e => rfl

end QComboBox
