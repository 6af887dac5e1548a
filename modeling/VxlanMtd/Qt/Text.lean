import VxlanMtd.Lib.Tag
import Mathlib.Algebra.GroupWithZero.Nat

/-!
# Qt — positions in a text

`QString` counts positions in UTF-16 code units: a character outside the Basic
Multilingual Plane takes two. The searches return such positions, −1 when
nothing is found, and the editing functions take them, with counts that may be
negative.

A position or count that falls inside a surrogate pair has no counterpart in a
text of characters; `left` and `dropUnits` then stop before the pair.
-/

namespace QString

open Text

/-- The code units of a character. -/
def units (c : Char) : Nat := if c.toNat < 0x10000 then 1 else 2

/-- `size`. -/
def size (cs : List Char) : Nat := (cs.map units).sum

/-- The characters of the first `n` code units. -/
def left : Nat → List Char → List Char
  | _, [] => []
  | n, c :: cs => if units c ≤ n then c :: left (n - units c) cs else []

/-- The characters after the first `n` code units. -/
def dropUnits : Nat → List Char → List Char
  | _, [] => []
  | n, c :: cs => if units c ≤ n then dropUnits (n - units c) cs else c :: cs

/-- `indexOf`: the position of the first occurrence. -/
def indexOf (text pat : List Char) : Int :=
  match firstBefore pat text with
  | some before => size before
  | none => -1

/-- `lastIndexOf`. -/
def lastIndexOf (text pat : List Char) : Int :=
  match lastBefore pat text with
  | some before => size before
  | none => -1

/-- `remove`, at a position in the text: a count that is not positive removes
nothing. -/
def remove (text : List Char) (pos len : Int) : List Char :=
  if 0 < len then left pos.toNat text ++ dropUnits (pos + len).toNat text else text

/-- `insert`, at a position in the text. -/
def insert (text : List Char) (pos : Int) (s : List Char) : List Char :=
  left pos.toNat text ++ s ++ dropUnits pos.toNat text

/-- `mid`, from a position in the text: a negative count takes everything up to
the end. -/
def mid (text : List Char) (pos n : Int) : List Char :=
  if n < 0 then dropUnits pos.toNat text else left n.toNat (dropUnits pos.toNat text)

/-- Every character has one unit or two. -/
theorem units_pos (c : Char) : 0 < units c := by
  rw [units]
  split <;> omega

@[simp] theorem size_nil : size [] = 0 := rfl

/-- Sizes add up. -/
@[simp] theorem size_append (a b : List Char) : size (a ++ b) = size a + size b := by
  simp [size]

/-- The first character counts with its units. -/
theorem size_cons (c : Char) (cs : List Char) : size (c :: cs) = units c + size cs := by
  simp [size]

/-- Only the empty text has no size. -/
theorem size_eq_zero {a : List Char} : size a = 0 ↔ a = [] := by
  cases a with
  | nil => simp
  | cons c cs =>
    have := units_pos c
    simp only [size_cons, reduceCtorEq, iff_false]
    omega

/-- What `left` gives is a beginning of the text. -/
theorem left_prefix (n : Nat) (a : List Char) : left n a <+: a := by
  induction a generalizing n with
  | nil => exact List.prefix_refl _
  | cons c cs ih =>
    rw [left]
    split
    · exact (List.prefix_cons_inj c).mpr (ih _)
    · exact List.nil_prefix

/-- Exactly the texts of at most `n` code units are left whole. -/
theorem left_eq_self_iff {n : Nat} {a : List Char} : left n a = a ↔ size a ≤ n := by
  induction a generalizing n with
  | nil => simp [left]
  | cons c cs ih =>
    have := units_pos c
    rw [left, size_cons]
    split
    · rw [List.cons.injEq, and_iff_right rfl, ih]
      omega
    · simp only [reduceCtorEq, false_iff]
      omega

/-- Cutting between two characters gives the characters before. -/
@[simp] theorem left_append (a b : List Char) : left (size a) (a ++ b) = a := by
  induction a with
  | nil =>
    cases b with
    | nil => rfl
    | cons c cs => exact if_neg (not_le.mpr (units_pos c))
  | cons c a ih =>
    rw [List.cons_append, size_cons, left, if_pos (by omega), Nat.add_sub_cancel_left, ih]

/-- Cutting between two characters leaves the characters after. -/
@[simp] theorem dropUnits_append (a b : List Char) : dropUnits (size a) (a ++ b) = b := by
  induction a with
  | nil =>
    cases b with
    | nil => rfl
    | cons c cs => exact if_neg (not_le.mpr (units_pos c))
  | cons c a ih =>
    rw [List.cons_append, size_cons, dropUnits, if_pos (by omega), Nat.add_sub_cancel_left, ih]

/-- Inserting between two parts of a text. -/
theorem insert_append (a b s : List Char) : insert (a ++ b) (size a) s = a ++ s ++ b := by
  rw [insert, Int.toNat_natCast, left_append, dropUnits_append]

/-- Removing the middle part of a text. -/
theorem remove_append {a m : List Char} (hm : m ≠ []) (b : List Char) {len : Int}
    (hLen : len = size m) : remove (a ++ m ++ b) (size a) len = a ++ b := by
  have hPos : 0 < size m := Nat.pos_of_ne_zero fun h => hm (size_eq_zero.mp h)
  have hEnd : ((size a : Int) + len).toNat = size (a ++ m) := by
    rw [size_append, hLen]
    omega
  rw [remove, if_pos (by omega), hEnd, dropUnits_append, Int.toNat_natCast, List.append_assoc,
    left_append]

/-- Removing nothing, or a negative number of units, changes nothing. -/
theorem remove_of_nonpos (text : List Char) (pos : Int) {len : Int} (hLen : len ≤ 0) :
    remove text pos len = text :=
  if_neg (Int.not_lt.mpr hLen)

/-- The middle part of a text. -/
theorem mid_append (a m b : List Char) {pos n : Int} (hPos : pos = size a)
    (hn : n = size m) : mid (a ++ m ++ b) pos n = m := by
  rw [mid, if_neg (by omega), hPos, hn, Int.toNat_natCast, Int.toNat_natCast,
    List.append_assoc, dropUnits_append, left_append]

end QString
