import Mathlib.Data.List.Basic
import Mathlib.Data.List.Infix

/-!
# Tags in a text

Programs that keep a block of their own in a shared text file mark it with two
tags, and find it again by searching for the first or the last occurrence of a
tag.

* `firstBefore`, `lastBefore` — the text before the first or the last
  occurrence of a pattern;
* `Tag` — a pattern whose first character does not come back in it, so that
  occurrences cannot overlap;
* `Tag.count` — how often a tag occurs. Counting is additive wherever no
  occurrence can cross the cut (`count_append`), and decides where the
  searches stop (`firstBefore_append`, `lastBefore_append`);
* `outside` — the text outside of the blocks between two tags, cut off block
  by block (`outside_append`, `outside_open`, `outsideFrom_close`).
-/

namespace Text

variable {α : Type*} [DecidableEq α]

-- ---------------------------------------------------------------------------
-- Searching
-- ---------------------------------------------------------------------------

/-- The text before the first occurrence of `pat`. -/
def firstBefore (pat : List α) : List α → Option (List α)
  | [] => if pat.isPrefixOf [] then some [] else none
  | c :: cs =>
    if pat.isPrefixOf (c :: cs) then some []
    else (firstBefore pat cs).map fun before => c :: before

/-- The text before the last occurrence of `pat`. -/
def lastBefore (pat : List α) : List α → Option (List α)
  | [] => if pat.isPrefixOf [] then some [] else none
  | c :: cs =>
    match lastBefore pat cs with
    | some before => some (c :: before)
    | none => if pat.isPrefixOf (c :: cs) then some [] else none

/-- A pattern whose first character does not come back in it. -/
structure Tag (α : Type*) where
  head : α
  tail : List α
  head_notMem : head ∉ tail

namespace Tag

/-- The characters of a tag. -/
def text (t : Tag α) : List α := t.head :: t.tail

/-- How often a tag occurs in a text. -/
def count (t : Tag α) : List α → Nat
  | [] => 0
  | c :: cs => (if t.text.isPrefixOf (c :: cs) then 1 else 0) + t.count cs

variable (t : Tag α)

-- ---------------------------------------------------------------------------
-- Counting
-- ---------------------------------------------------------------------------

/-- An occurrence cannot reach into a text whose first character is not in the
tag's tail. -/
theorem isPrefixOf_append {c : α} {x y : List α} (hy : ∀ d ∈ y.head?, d ∉ t.tail) :
    t.text.isPrefixOf (c :: x ++ y) = t.text.isPrefixOf (c :: x) := by
  rw [Bool.eq_iff_iff, List.isPrefixOf_iff_prefix, List.isPrefixOf_iff_prefix]
  constructor
  · rintro ⟨r, hr⟩
    rcases List.append_eq_append_iff.mp hr with ⟨a, hx, -⟩ | ⟨b, hText, hb⟩
    · exact ⟨a, hx.symm⟩
    · -- the tag would end inside `y`
      cases b with
      | nil => exact ⟨[], by rw [List.append_nil, hText, List.append_nil]⟩
      | cons d b =>
        have hTail : t.tail = x ++ d :: b := (List.cons.inj hText).2
        exact absurd (by rw [hTail]; simp) (hy d (by rw [hb]; rfl))
  · exact fun h => h.trans (List.prefix_append _ _)

/-- Counts add up where no occurrence can cross the cut. -/
theorem count_append (x : List α) {y : List α} (hy : ∀ d ∈ y.head?, d ∉ t.tail) :
    t.count (x ++ y) = t.count x + t.count y := by
  induction x with
  | nil => exact (Nat.zero_add _).symm
  | cons c x ih =>
    rw [List.cons_append, count, count, ← List.cons_append, t.isPrefixOf_append hy, ih]
    omega

/-- Counts add up in front of a tag. -/
theorem count_append_text (x : List α) {u : Tag α} (hu : u.head ∉ t.tail) (y : List α) :
    t.count (x ++ (u.text ++ y)) = t.count x + t.count (u.text ++ y) := by
  refine t.count_append x fun d hd => ?_
  obtain rfl : u.head = d := by simpa [text] using hd
  exact hu

/-- Without the tag's first character there is no occurrence. -/
theorem count_append_of_notMem {x : List α} (hx : t.head ∉ x) (y : List α) :
    t.count (x ++ y) = t.count y := by
  induction x with
  | nil => rfl
  | cons c x ih =>
    rw [List.mem_cons, not_or] at hx
    have hNone : t.text.isPrefixOf (c :: x ++ y) = false := by
      simp [text, List.isPrefixOf, hx.1]
    rw [List.cons_append, count, ← List.cons_append, hNone, ih hx.2]
    simp

/-- The tag itself is one occurrence. -/
theorem count_text_append (y : List α) : t.count (t.text ++ y) = 1 + t.count y := by
  have hPrefix : t.text.isPrefixOf (t.text ++ y) = true :=
    List.isPrefixOf_iff_prefix.mpr (List.prefix_append _ _)
  rw [text, List.cons_append] at hPrefix ⊢
  rw [count, text, hPrefix, if_pos rfl, t.count_append_of_notMem t.head_notMem]

/-- Another tag is no occurrence. -/
theorem count_other_append {u : Tag α} (hHead : t.head ∉ u.tail)
    (htu : ¬ t.text <+: u.text) (hut : ¬ u.text <+: t.text) (y : List α) :
    t.count (u.text ++ y) = t.count y := by
  have hNone : t.text.isPrefixOf (u.text ++ y) = false := by
    rw [Bool.eq_false_iff, Ne, List.isPrefixOf_iff_prefix]
    intro h
    rcases List.prefix_or_prefix_of_prefix h (List.prefix_append u.text y) with h | h
    · exact htu h
    · exact hut h
  have hCons : u.text ++ y = u.head :: (u.tail ++ y) := rfl
  rw [hCons] at hNone ⊢
  rw [count, hNone, t.count_append_of_notMem hHead]
  simp

-- ---------------------------------------------------------------------------
-- Where the searches stop
-- ---------------------------------------------------------------------------

theorem isPrefixOf_of_count {c : α} {x : List α} (h : t.count (c :: x) = 0) :
    t.text.isPrefixOf (c :: x) = false ∧ t.count x = 0 := by
  rw [count] at h
  cases hPrefix : t.text.isPrefixOf (c :: x) with
  | true =>
    rw [hPrefix, if_pos rfl] at h
    omega
  | false => exact ⟨rfl, by omega⟩

/-- The first occurrence comes after a text without one. -/
theorem firstBefore_append {x : List α} (hx : t.count x = 0) (y : List α) :
    firstBefore t.text (x ++ t.text ++ y) = some x := by
  induction x with
  | nil =>
    have hPrefix : t.text.isPrefixOf (t.text ++ y) = true :=
      List.isPrefixOf_iff_prefix.mpr (List.prefix_append _ _)
    rw [List.nil_append]
    exact if_pos hPrefix
  | cons c x ih =>
    obtain ⟨hPrefix, hx⟩ := t.isPrefixOf_of_count hx
    have hHead : ∀ d ∈ (t.text ++ y).head?, d ∉ t.tail := by
      intro d hd
      obtain rfl : t.head = d := by simpa [text] using hd
      exact t.head_notMem
    rw [← t.isPrefixOf_append hHead] at hPrefix
    rw [List.append_assoc, List.cons_append, firstBefore, ← List.cons_append, hPrefix,
      ← List.append_assoc, ih hx]
    rfl

/-- Without an occurrence the searches fail. -/
theorem firstBefore_eq_none {x : List α} (hx : t.count x = 0) :
    firstBefore t.text x = none := by
  induction x with
  | nil => rfl
  | cons c x ih =>
    obtain ⟨hPrefix, hx⟩ := t.isPrefixOf_of_count hx
    rw [firstBefore, hPrefix, ih hx]
    rfl

theorem lastBefore_eq_none {x : List α} (hx : t.count x = 0) :
    lastBefore t.text x = none := by
  induction x with
  | nil => rfl
  | cons c x ih =>
    obtain ⟨hPrefix, hx⟩ := t.isPrefixOf_of_count hx
    rw [lastBefore, ih hx, hPrefix]
    rfl

/-- The last occurrence is followed by a text without one. -/
theorem lastBefore_append (x : List α) {y : List α} (hy : t.count y = 0) :
    lastBefore t.text (x ++ t.text ++ y) = some x := by
  induction x with
  | nil =>
    have hPrefix : t.text.isPrefixOf (t.text ++ y) = true :=
      List.isPrefixOf_iff_prefix.mpr (List.prefix_append _ _)
    have hTail : t.count (t.tail ++ y) = 0 := by
      rw [t.count_append_of_notMem t.head_notMem, hy]
    have hCons : t.text ++ y = t.head :: (t.tail ++ y) := rfl
    rw [List.nil_append]
    rw [hCons] at hPrefix ⊢
    rw [lastBefore, t.lastBefore_eq_none hTail, hPrefix]
    rfl
  | cons c x ih =>
    rw [List.cons_append, List.cons_append, lastBefore, ih]

/-- A text with an occurrence can be cut at the first one. -/
theorem exists_first {x : List α} (h : 0 < t.count x) :
    ∃ a y, x = a ++ t.text ++ y ∧ t.count a = 0 := by
  induction x with
  | nil => exact absurd h (Nat.lt_irrefl 0)
  | cons c x ih =>
    cases hPrefix : t.text.isPrefixOf (c :: x) with
    | true =>
      obtain ⟨y, hy⟩ := List.isPrefixOf_iff_prefix.mp hPrefix
      exact ⟨[], y, hy.symm, rfl⟩
    | false =>
      rw [count, hPrefix, if_neg Bool.false_ne_true, Nat.zero_add] at h
      obtain ⟨a, y, rfl, ha⟩ := ih h
      refine ⟨c :: a, y, rfl, ?_⟩
      -- the tag after `a` cannot be a part of one that starts at `c`
      have hHead : ∀ d ∈ (t.text ++ y).head?, d ∉ t.tail := by
        intro d hd
        obtain rfl : t.head = d := by simpa [text] using hd
        exact t.head_notMem
      rw [List.append_assoc, ← List.cons_append, t.isPrefixOf_append hHead] at hPrefix
      rw [count, hPrefix, ha]
      rfl

/-- And at the last one. -/
theorem exists_last {x : List α} (h : 0 < t.count x) :
    ∃ a y, x = a ++ t.text ++ y ∧ t.count y = 0 := by
  induction x with
  | nil => exact absurd h (Nat.lt_irrefl 0)
  | cons c x ih =>
    rcases Nat.eq_zero_or_pos (t.count x) with hNone | hPos
    · have hPrefix : t.text.isPrefixOf (c :: x) = true := by
        by_contra hNot
        rw [count, if_neg hNot, hNone] at h
        exact Nat.lt_irrefl 0 h
      obtain ⟨y, hy⟩ := List.isPrefixOf_iff_prefix.mp hPrefix
      have hTail : x = t.tail ++ y := (List.cons.inj hy).2.symm
      refine ⟨[], y, hy.symm, ?_⟩
      rwa [hTail, t.count_append_of_notMem t.head_notMem] at hNone
    · obtain ⟨a, y, rfl, hy⟩ := ih hPos
      exact ⟨c :: a, y, rfl, hy⟩

/-- The first occurrence is one place. -/
theorem append_text_inj {a b y z : List α} (ha : t.count a = 0) (hb : t.count b = 0)
    (h : a ++ t.text ++ y = b ++ t.text ++ z) : a = b ∧ y = z := by
  have hFirst := t.firstBefore_append ha y
  rw [h, t.firstBefore_append hb z] at hFirst
  obtain rfl := Option.some.inj hFirst
  exact ⟨rfl, List.append_cancel_left h⟩

end Tag

-- ---------------------------------------------------------------------------
-- Blocks
-- ---------------------------------------------------------------------------

/-- The text outside of the blocks that begin with the tag `b` and end with the
next `e`. The number says how many characters of a tag are still to be read, and
`inside` whether a block is open; a tag `b` that no `e` follows opens none. -/
def outsideFrom (b e : Tag α) : Nat → Bool → List α → List α
  | _, _, [] => []
  | skip + 1, inside, _ :: cs => outsideFrom b e skip inside cs
  | 0, false, c :: cs =>
    if b.text.isPrefixOf (c :: cs) then outsideFrom b e b.tail.length (decide (0 < e.count cs)) cs
    else c :: outsideFrom b e 0 false cs
  | 0, true, c :: cs =>
    if e.text.isPrefixOf (c :: cs) then outsideFrom b e e.tail.length false cs
    else outsideFrom b e 0 true cs

def outside (b e : Tag α) (cs : List α) : List α := outsideFrom b e 0 false cs

section
variable (b e : Tag α)

theorem outsideFrom_skip (inside : Bool) (x y : List α) :
    outsideFrom b e x.length inside (x ++ y) = outsideFrom b e 0 inside y := by
  induction x with
  | nil => rfl
  | cons c x ih => exact ih

/-- Text in front of the first block stays. -/
theorem outside_append {a y : List α} (ha : b.count a = 0) (hy : ∀ d ∈ y.head?, d ∉ b.tail) :
    outside b e (a ++ y) = a ++ outside b e y := by
  induction a with
  | nil => rfl
  | cons c a ih =>
    obtain ⟨hPrefix, ha⟩ := b.isPrefixOf_of_count ha
    rw [← b.isPrefixOf_append hy] at hPrefix
    rw [List.cons_append, outside, outsideFrom, ← List.cons_append, hPrefix,
      if_neg Bool.false_ne_true]
    exact congrArg (c :: ·) (ih ha)

/-- A text without the first tag has no blocks. -/
theorem outside_of_count {a : List α} (ha : b.count a = 0) : outside b e a = a := by
  have h := outside_append b e (y := []) ha fun _ hd => by cases hd
  rw [List.append_nil] at h
  exact h.trans (List.append_nil a)

theorem outside_open (hHead : e.head ∉ b.tail) (y : List α) :
    outside b e (b.text ++ y) = outsideFrom b e 0 (decide (0 < e.count y)) y := by
  have hPrefix : b.text.isPrefixOf (b.head :: (b.tail ++ y)) = true :=
    List.isPrefixOf_iff_prefix.mpr (List.prefix_append _ _)
  show outsideFrom b e 0 false (b.head :: (b.tail ++ y)) = _
  rw [outsideFrom, if_pos hPrefix, e.count_append_of_notMem hHead, outsideFrom_skip]

/-- What is inside a block, and the tag that ends it, is cut off. -/
theorem outsideFrom_close {m : List α} (hm : e.count m = 0) (y : List α) :
    outsideFrom b e 0 true (m ++ e.text ++ y) = outside b e y := by
  induction m with
  | nil =>
    have hPrefix : e.text.isPrefixOf (e.head :: (e.tail ++ y)) = true :=
      List.isPrefixOf_iff_prefix.mpr (List.prefix_append _ _)
    show outsideFrom b e 0 true (e.head :: (e.tail ++ y)) = _
    rw [outsideFrom, if_pos hPrefix, outsideFrom_skip]
    rfl
  | cons c m ih =>
    obtain ⟨hPrefix, hm⟩ := e.isPrefixOf_of_count hm
    have hHead : ∀ d ∈ (e.text ++ y).head?, d ∉ e.tail := by
      intro d hd
      obtain rfl : e.head = d := by simpa [Tag.text] using hd
      exact e.head_notMem
    rw [← e.isPrefixOf_append hHead] at hPrefix
    rw [List.append_assoc, List.cons_append, outsideFrom, ← List.cons_append, hPrefix,
      if_neg Bool.false_ne_true, ← List.append_assoc]
    exact ih hm

/-- Text after the last tag stays. -/
theorem outsideFrom_append_close (hbe : ∀ y, b.count (e.text ++ y) = b.count y)
    (hHead : e.head ∉ b.tail) {y : List α} (hy : b.count y = 0) :
    ∀ (skip : Nat) (inside : Bool) (x : List α), skip ≤ x.length →
      outsideFrom b e skip inside (x ++ e.text ++ y) =
        outsideFrom b e skip inside (x ++ e.text) ++ y
  | 0, true, [], _ => by
    have hEnd := outsideFrom_close b e (m := []) rfl []
    rw [List.append_nil] at hEnd
    rw [outsideFrom_close b e (m := []) rfl y, hEnd, outside_of_count b e hy]
    rfl
  | 0, false, [], _ => by
    have hEnd := outside_of_count b e (hbe [])
    rw [List.append_nil] at hEnd
    exact (outside_of_count b e ((hbe y).trans hy)).trans (congrArg (· ++ y) hEnd.symm)
  | skip + 1, _, [], hSkip => absurd hSkip (Nat.not_succ_le_zero skip)
  | skip + 1, inside, _ :: x, hSkip =>
    outsideFrom_append_close hbe hHead hy skip inside x (Nat.le_of_succ_le_succ hSkip)
  | 0, inside, c :: x, _ => by
    -- no tag that starts in `x` reaches beyond the last one
    have hSame : ∀ t : Tag α, e.head ∉ t.tail → ∀ z : List α,
        t.text.isPrefixOf (c :: (x ++ e.text ++ z)) = t.text.isPrefixOf (c :: x) := by
      intro t ht z
      rw [List.append_assoc, ← List.cons_append, t.isPrefixOf_append]
      intro d hd
      obtain rfl : e.head = d := by simpa [Tag.text] using hd
      exact ht
    have hLength : ∀ t : Tag α, t.text.isPrefixOf (c :: x) = true → t.tail.length ≤ x.length := by
      intro t hPrefix
      have := (List.isPrefixOf_iff_prefix.mp hPrefix).length_le
      simpa [Tag.text] using this
    have hCount : ∀ z : List α, 0 < e.count (x ++ e.text ++ z) := by
      intro z
      rw [List.append_assoc, e.count_append_text x e.head_notMem, e.count_text_append]
      omega
    have hEnd := fun t ht => hSame t ht []
    have hSome := hCount []
    rw [List.append_nil] at hSome
    simp only [List.append_nil] at hEnd
    cases inside with
    | true =>
      rw [List.cons_append, List.cons_append, outsideFrom, outsideFrom,
        hSame e e.head_notMem, hEnd e e.head_notMem]
      split
      · rename_i hPrefix
        exact outsideFrom_append_close hbe hHead hy _ _ x (hLength e hPrefix)
      · exact outsideFrom_append_close hbe hHead hy _ _ x (Nat.zero_le _)
    | false =>
      rw [List.cons_append, List.cons_append, outsideFrom, outsideFrom,
        hSame b hHead, hEnd b hHead, decide_eq_true (hCount y), decide_eq_true hSome]
      split
      · rename_i hPrefix
        exact outsideFrom_append_close hbe hHead hy _ _ x (hLength b hPrefix)
      · exact congrArg (c :: ·) (outsideFrom_append_close hbe hHead hy _ _ x (Nat.zero_le _))

end

end Text
