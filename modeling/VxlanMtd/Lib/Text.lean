import Mathlib.Data.List.Basic
import Mathlib.Tactic.Ring

/-!
# Text — separators, decimal and hexadecimal numerals

Facts about lists of characters that programs building and reading
line-oriented text rely on:

* `splitOnChar` — cutting a text at a separator, and putting pieces that do
  not contain the separator back together (`splitOnChar_append`,
  `splitOnChar_lines`);
* `strip`, `between` — the variable part of a line;
* `readNat` / `readInt` — reading a decimal numeral back
  (`readNat_repr`, `readInt_repr`);
* `hexValue` — the value of a lower-case hexadecimal numeral, with or without
  leading zeros (`hexValue_toDigits`, `hexValue_leftpad`).
-/

namespace Text

-- ---------------------------------------------------------------------------
-- Separators
-- ---------------------------------------------------------------------------

/-- The pieces of a text between the occurrences of `c`; one more piece than
there are separators. -/
def splitOnChar (c : Char) : List Char → List (List Char)
  | [] => [[]]
  | x :: xs =>
    if x = c then [] :: splitOnChar c xs
    else
      match splitOnChar c xs with
      | [] => [[x]]
      | p :: ps => (x :: p) :: ps

theorem splitOnChar_ne_nil (c : Char) (xs : List Char) : splitOnChar c xs ≠ [] := by
  cases xs with
  | nil => simp [splitOnChar]
  | cons x xs =>
    rw [splitOnChar]
    split
    · simp
    · split <;> simp

/-- A text without the separator is one piece. -/
theorem splitOnChar_of_notMem {c : Char} {xs : List Char} (h : c ∉ xs) :
    splitOnChar c xs = [xs] := by
  induction xs with
  | nil => rfl
  | cons x xs ih =>
    have hx : x ≠ c := fun hEq => h (by simp [hEq])
    have hxs : c ∉ xs := fun hMem => h (List.mem_cons_of_mem _ hMem)
    simp [splitOnChar, hx, ih hxs]

/-- The piece before the first separator. -/
theorem splitOnChar_append {c : Char} {xs : List Char} (h : c ∉ xs) (ys : List Char) :
    splitOnChar c (xs ++ c :: ys) = xs :: splitOnChar c ys := by
  induction xs with
  | nil => simp [splitOnChar]
  | cons x xs ih =>
    have hx : x ≠ c := fun hEq => h (by simp [hEq])
    have hxs : c ∉ xs := fun hMem => h (List.mem_cons_of_mem _ hMem)
    simp [splitOnChar, hx, ih hxs]

/-- Lines closed by the separator are the pieces of the text, followed by the
empty piece after the last separator. -/
theorem splitOnChar_lines {c : Char} {lines : List (List Char)}
    (h : ∀ l ∈ lines, c ∉ l) (ys : List Char) :
    splitOnChar c (lines.flatMap (· ++ [c]) ++ ys) = lines ++ splitOnChar c ys := by
  induction lines with
  | nil => rfl
  | cons l lines ih =>
    have hl : c ∉ l := h l (List.mem_cons_self ..)
    have hrest := ih fun l' hl' => h l' (List.mem_cons_of_mem _ hl')
    rw [List.flatMap_cons, List.append_assoc, List.append_assoc, List.singleton_append,
      splitOnChar_append hl, hrest, List.cons_append]

-- ---------------------------------------------------------------------------
-- Fixed parts of a line
-- ---------------------------------------------------------------------------

/-- The rest of a text that starts with `start`. -/
def strip (start cs : List Char) : Option (List Char) :=
  if start.isPrefixOf cs then some (cs.drop start.length) else none

/-- What stands between `start` and `stop`. -/
def between (start stop cs : List Char) : Option (List Char) :=
  (strip start cs).bind fun rest => (strip stop.reverse rest.reverse).map List.reverse

/-- What begins with the text is what is stripped of it. -/
@[simp] theorem strip_append (start cs : List Char) : strip start (start ++ cs) = some cs := by
  simp [strip]

/-- What stands between two texts. -/
@[simp] theorem between_append (start cs stop : List Char) :
    between start stop (start ++ (cs ++ stop)) = some cs := by
  rw [between, strip_append, Option.bind_some, List.reverse_append, strip_append, Option.map_some,
    List.reverse_reverse]

/-- The parts of a text before and after the last `c`. -/
def splitLast (c : Char) (cs : List Char) : Option (List Char × List Char) :=
  match cs.reverse.dropWhile (· != c) with
  | [] => none
  | _ :: before => some (before.reverse, (cs.reverse.takeWhile (· != c)).reverse)

/-- The last separator is the one with none after it. -/
theorem splitLast_append {c : Char} (before : List Char) {after : List Char} (h : c ∉ after) :
    splitLast c (before ++ c :: after) = some (before, after) := by
  have hAfter : ∀ x ∈ after.reverse, (x != c) = true := by
    intro x hx
    exact bne_iff_ne.mpr fun hEq => h (hEq ▸ List.mem_reverse.mp hx)
  have hReverse : (before ++ c :: after).reverse = after.reverse ++ c :: before.reverse := by
    simp
  unfold splitLast
  rw [hReverse, List.dropWhile_append_of_pos hAfter, List.takeWhile_append_of_pos hAfter]
  simp

-- ---------------------------------------------------------------------------
-- Decimal numerals
-- ---------------------------------------------------------------------------

/-- The value of a nonempty string of decimal digits. -/
def readNat (cs : List Char) : Option Nat :=
  if !cs.isEmpty && cs.all Char.isDigit then some (Nat.ofDigitChars 10 cs 0) else none

/-- The value of a decimal numeral with an optional minus sign. -/
def readInt : List Char → Option Int
  | '-' :: cs => (readNat cs).map fun n : Nat => -(n : Int)
  | cs => (readNat cs).map fun n : Nat => (n : Int)

theorem isDigit_of_mem_repr {n : Nat} {c : Char} (h : c ∈ n.repr.toList) : c.isDigit := by
  rw [Nat.toList_repr] at h
  exact Nat.isDigit_of_mem_toDigits (by decide) (by decide) h

/-- A numeral is read back. -/
theorem readNat_repr (n : Nat) : readNat n.repr.toList = some n := by
  have hDigits : n.repr.toList.all Char.isDigit = true :=
    List.all_eq_true.mpr fun c hc => isDigit_of_mem_repr hc
  rw [Nat.toList_repr] at hDigits ⊢
  simp [readNat, hDigits, Nat.toDigits_ne_nil]

/-- A character of a decimal numeral is a digit or the minus sign. -/
theorem isDigit_or_minus_of_mem_repr {i : Int} {c : Char} (h : c ∈ i.repr.toList) :
    c.isDigit ∨ c = '-' := by
  rw [Int.repr_eq_if] at h
  split at h
  · exact Or.inl (isDigit_of_mem_repr h)
  · rw [String.toList_append, List.mem_append] at h
    rcases h with h | h
    · exact Or.inr (by simpa using h)
    · exact Or.inl (isDigit_of_mem_repr h)

/-- A character that is neither a digit nor a minus sign does not occur in a
decimal numeral. -/
theorem notMem_repr {i : Int} {c : Char} (hDigit : c.isDigit = false) (hMinus : c ≠ '-') :
    c ∉ i.repr.toList := by
  intro h
  rcases isDigit_or_minus_of_mem_repr h with h | h
  · simp [hDigit] at h
  · exact hMinus h

/-- So is one with a sign. -/
@[simp] theorem readInt_repr (i : Int) : readInt i.repr.toList = some i := by
  rw [Int.repr_eq_if]
  split
  · rename_i hNonneg
    have hHead : ∀ cs, i.toNat.repr.toList ≠ '-' :: cs := by
      intro cs hEq
      have hDigit : ('-' : Char).isDigit = true :=
        @isDigit_of_mem_repr i.toNat _ (by rw [hEq]; exact List.mem_cons_self ..)
      exact absurd hDigit (by decide)
    rw [readInt, readNat_repr]
    · simpa using hNonneg
    · exact fun cs hEq => hHead cs hEq
  · rw [String.toList_append, show "-".toList = ['-'] from rfl, List.singleton_append,
      readInt, readNat_repr, Option.map_some, Option.some.injEq]
    omega

theorem readNat_repr_natCast (n : Nat) : readNat (n : Int).repr.toList = some n := by
  rw [Int.repr_eq_if, if_pos (Int.natCast_nonneg n), Int.toNat_natCast, readNat_repr]

/-- Different integers have different numerals. -/
theorem repr_inj {i j : Int} (h : i.repr.toList = j.repr.toList) : i = j := by
  have hRead := congrArg readInt h
  rwa [readInt_repr, readInt_repr, Option.some_inj] at hRead

-- ---------------------------------------------------------------------------
-- Lists of numerals
-- ---------------------------------------------------------------------------

/-- The integers of a comma-separated list; blanks may stand before each. -/
def readInts (cs : List Char) : Option (List Int) :=
  (splitOnChar ',' cs).mapM fun piece => readInt (piece.dropWhile (· == ' '))

/-- A blank in front changes nothing. -/
theorem readInts_blank (cs : List Char) : readInts (' ' :: cs) = readInts cs := by
  rw [readInts, readInts, splitOnChar, if_neg (by decide)]
  cases hPieces : splitOnChar ',' cs with
  | nil => exact absurd hPieces (splitOnChar_ne_nil _ _)
  | cons piece pieces => simp

/-- Reading a list inverts writing it. -/
theorem readInts_repr (x : Int) (ys : List Int) :
    readInts (x.repr.toList ++ ys.flatMap fun y => ',' :: ' ' :: y.repr.toList) =
      some (x :: ys) := by
  have hComma : ∀ x : Int, ',' ∉ x.repr.toList := fun x => notMem_repr (by decide) (by decide)
  have hBlank : ∀ x : Int, x.repr.toList.dropWhile (· == ' ') = x.repr.toList := by
    intro x
    have hNone : ' ' ∉ x.repr.toList := notMem_repr (by decide) (by decide)
    cases hChars : x.repr.toList with
    | nil => rfl
    | cons c cs =>
      rw [hChars] at hNone
      have hc : c ≠ ' ' := fun hEq => hNone (hEq ▸ List.mem_cons_self)
      simp [hc]
  induction ys generalizing x with
  | nil =>
    rw [List.flatMap_nil, List.append_nil, readInts, splitOnChar_of_notMem (hComma x)]
    simp [hBlank]
  | cons y ys ih =>
    rw [List.flatMap_cons, List.cons_append, List.cons_append, readInts,
      splitOnChar_append (hComma x), List.mapM_cons, ← readInts, readInts_blank, ih y, hBlank,
      readInt_repr]
    rfl

-- ---------------------------------------------------------------------------
-- Hexadecimal numerals
-- ---------------------------------------------------------------------------

/-- The value of a hexadecimal digit, lower case. -/
def hexDigitValue (c : Char) : Nat :=
  if c.isDigit then c.toNat - '0'.toNat else c.toNat - 'a'.toNat + 10

/-- The value of a hexadecimal numeral. -/
def hexValue (cs : List Char) : Nat :=
  cs.foldl (fun acc c => 16 * acc + hexDigitValue c) 0

theorem hexDigitValue_digitChar : ∀ d < 16, hexDigitValue d.digitChar = d := by decide

/-- The last digit counts once. -/
theorem hexValue_append_singleton (cs : List Char) (c : Char) :
    hexValue (cs ++ [c]) = 16 * hexValue cs + hexDigitValue c := by
  simp [hexValue, List.foldl_append]

/-- Reading a hexadecimal numeral inverts writing it. -/
@[simp] theorem hexValue_toDigits (n : Nat) : hexValue (Nat.toDigits 16 n) = n := by
  induction n using Nat.strong_induction_on with
  | _ n ih =>
    rcases Nat.lt_or_ge n 16 with hlt | hge
    · rw [Nat.toDigits_of_lt_base hlt]
      simp [hexValue, hexDigitValue_digitChar n hlt]
    · rw [Nat.toDigits_of_base_le (by decide) hge, hexValue_append_singleton,
        ih (n / 16) (by omega), hexDigitValue_digitChar _ (Nat.mod_lt _ (by decide))]
      omega

/-- A hexadecimal numeral is made of hexadecimal digits. -/
theorem mem_toDigits {n : Nat} {c : Char} (h : c ∈ Nat.toDigits 16 n) :
    ∃ d < 16, c = d.digitChar := by
  induction n using Nat.strong_induction_on with
  | _ n ih =>
    rcases Nat.lt_or_ge n 16 with hlt | hge
    · rw [Nat.toDigits_of_lt_base hlt] at h
      exact ⟨n, hlt, List.mem_singleton.mp h⟩
    · rw [Nat.toDigits_of_base_le (by decide) hge, List.mem_append] at h
      rcases h with h | h
      · exact ih (n / 16) (by omega) h
      · exact ⟨n % 16, Nat.mod_lt _ (by decide), List.mem_singleton.mp h⟩

/-- Leading zeros do not change the value. -/
theorem hexValue_leftpad (k : Nat) (cs : List Char) :
    hexValue (cs.leftpad k '0') = hexValue cs := by
  have hZeros : ∀ m, (List.replicate m '0').foldl
      (fun acc c => 16 * acc + hexDigitValue c) 0 = 0 := by
    intro m
    induction m with
    | zero => rfl
    | succ m ih =>
      rw [List.replicate_succ, List.foldl_cons]
      exact ih
  rw [List.leftpad, hexValue, List.foldl_append, hZeros]
  rfl

end Text
