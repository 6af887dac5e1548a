import Mathlib.Data.List.Nodup

/-!
# Positions in a chain

A chain is a list without repetitions. Seen from one of its elements it has a
part that comes after, in order, and a part that comes before, nearest first.

* `after_split`, `before_split` — both parts, from a decomposition
  (`after_eq_of_split` and `before_eq_of_split` where nothing repeats);
* `mem_after_iff`, `mem_before_iff` — what is in them, by position;
* `after_head_iff` — the successor's predecessor is the element itself;
* `forall_after_iff`, `forall_before_iff` — what only one element can meet, all
  with a successor meet in a chain of two only.
-/

namespace Chain

variable {α : Type*} [DecidableEq α]

/-- What comes after `a`, nearest first. -/
def after (c : List α) (a : α) : List α := (c.dropWhile (· != a)).tail

/-- What comes before `a`, nearest first. -/
def before (c : List α) (a : α) : List α := (c.takeWhile (· != a)).reverse

variable {c pre suf : List α} {a b : α}

theorem after_split (h : a ∉ pre) : after (pre ++ a :: suf) a = suf := by
  have hPre : ∀ x ∈ pre, (x != a) = true := by
    intro x hx
    exact bne_iff_ne.mpr fun hEq => h (hEq ▸ hx)
  rw [after, List.dropWhile_append_of_pos hPre]
  simp

theorem before_split (h : a ∉ pre) : before (pre ++ a :: suf) a = pre.reverse := by
  have hPre : ∀ x ∈ pre, (x != a) = true := by
    intro x hx
    exact bne_iff_ne.mpr fun hEq => h (hEq ▸ hx)
  rw [before, List.takeWhile_append_of_pos hPre]
  simp

omit [DecidableEq α] in
/-- The element a chain is split at is in neither part. -/
theorem notMem_of_split (hNodup : c.Nodup) (hSplit : c = pre ++ a :: suf) : a ∉ pre ∧ a ∉ suf := by
  rw [hSplit] at hNodup
  obtain ⟨-, hSuf, hDisj⟩ := List.nodup_append.mp hNodup
  exact ⟨fun hPre => hDisj a hPre a List.mem_cons_self rfl, (List.nodup_cons.mp hSuf).1⟩

theorem after_eq_of_split (hNodup : c.Nodup) (hSplit : c = pre ++ a :: suf) : after c a = suf := by
  rw [hSplit, after_split (notMem_of_split hNodup hSplit).1]

/-- What comes before, read off the chain backwards. -/
theorem before_eq_of_split (hNodup : c.Nodup) (hSplit : c.reverse = pre ++ a :: suf) :
    before c a = suf := by
  have hSuf := (notMem_of_split (List.nodup_reverse.mpr hNodup) hSplit).2
  have hChain : c = suf.reverse ++ a :: pre.reverse := by
    rw [← List.reverse_reverse c, hSplit, List.reverse_append, List.reverse_cons, List.append_assoc,
      List.singleton_append]
  rw [hChain, before_split fun hMem => hSuf (List.mem_reverse.mp hMem), List.reverse_reverse]

omit [DecidableEq α] in
/-- An element of a chain has one place. -/
theorem exists_split (hNodup : c.Nodup) (ha : a ∈ c) :
    ∃ pre suf, c = pre ++ a :: suf ∧ a ∉ pre ∧ a ∉ suf ∧ List.Disjoint pre suf := by
  obtain ⟨pre, suf, hSplit⟩ := List.append_of_mem ha
  obtain ⟨hPre, hSuf⟩ := notMem_of_split hNodup hSplit
  rw [hSplit] at hNodup
  refine ⟨pre, suf, hSplit, hPre, hSuf, ?_⟩
  intro x hx hx'
  exact (List.nodup_append.mp hNodup).2.2 x hx x (List.mem_cons_of_mem _ hx') rfl

theorem idxOf_split (h : a ∉ pre) : (pre ++ a :: suf).idxOf a = pre.length := by
  rw [List.idxOf_append_of_notMem h, List.idxOf_cons_self, Nat.add_zero]

theorem mem_after_iff (hNodup : c.Nodup) (ha : a ∈ c) :
    b ∈ after c a ↔ b ∈ c ∧ c.idxOf a < c.idxOf b := by
  obtain ⟨pre, suf, rfl, hPre, hSuf, hDisj⟩ := exists_split hNodup ha
  rw [after_split hPre, idxOf_split hPre]
  constructor
  · intro hb
    have hbPre : b ∉ pre := fun h => hDisj h hb
    have hba : a ≠ b := fun h => hSuf (h ▸ hb)
    refine ⟨by simp [hb], ?_⟩
    rw [List.idxOf_append_of_notMem hbPre, List.idxOf_cons_ne _ hba]
    omega
  · rintro ⟨hb, hlt⟩
    rcases List.mem_append.mp hb with hb | hb
    · rw [List.idxOf_append_of_mem hb] at hlt
      have := List.idxOf_lt_length_of_mem hb
      omega
    · rcases List.mem_cons.mp hb with rfl | hb
      · rw [idxOf_split hPre] at hlt
        omega
      · exact hb

theorem mem_before_iff (hNodup : c.Nodup) (ha : a ∈ c) :
    b ∈ before c a ↔ b ∈ c ∧ c.idxOf b < c.idxOf a := by
  obtain ⟨pre, suf, rfl, hPre, hSuf, hDisj⟩ := exists_split hNodup ha
  rw [before_split hPre, idxOf_split hPre, List.mem_reverse]
  constructor
  · intro hb
    refine ⟨List.mem_append_left _ hb, ?_⟩
    rw [List.idxOf_append_of_mem hb]
    exact List.idxOf_lt_length_of_mem hb
  · rintro ⟨hb, hlt⟩
    by_contra hbPre
    rw [List.idxOf_append_of_notMem hbPre] at hlt
    omega

theorem before_nodup (hNodup : c.Nodup) : (before c a).Nodup :=
  List.nodup_reverse.mpr (hNodup.sublist (List.takeWhile_sublist _))

/-- The successor's place is the next one. -/
theorem idxOf_after_head {rest : List α} (hNodup : c.Nodup) (ha : a ∈ c)
    (h : after c a = b :: rest) : c.idxOf b = c.idxOf a + 1 := by
  obtain ⟨pre, suf, rfl, hPre, hSuf, hDisj⟩ := exists_split hNodup ha
  rw [after_split hPre] at h
  subst h
  have hbPre : b ∉ pre := fun hb => hDisj hb List.mem_cons_self
  have hba : a ≠ b := fun hEq => hSuf (hEq ▸ List.mem_cons_self)
  rw [idxOf_split hPre, List.idxOf_append_of_notMem hbPre, List.idxOf_cons_ne _ hba,
    List.idxOf_cons_self]

/-- What comes after the successor. -/
theorem after_after_head {rest : List α} (hNodup : c.Nodup) (ha : a ∈ c)
    (h : after c a = b :: rest) : after c b = rest := by
  obtain ⟨pre, suf, hSplit, hPre, -, -⟩ := exists_split hNodup ha
  rw [hSplit, after_split hPre] at h
  rw [h] at hSplit
  refine @after_eq_of_split _ _ c (pre ++ [a]) rest b hNodup ?_
  rw [hSplit, List.append_assoc, List.singleton_append]

/-- Only the last element has no successor. -/
theorem after_eq_nil_iff (hNodup : c.Nodup) (ha : a ∈ c) : after c a = [] ↔ c.getLast? = some a := by
  obtain ⟨pre, suf, rfl, hPre, hSuf, -⟩ := exists_split hNodup ha
  rw [after_split hPre, List.getLast?_append]
  cases suf with
  | nil => simp
  | cons b rest =>
    have hLast : (a :: b :: rest).getLast? = (b :: rest).getLast? := List.getLast?_cons_cons
    simp only [reduceCtorEq, hLast, false_iff]
    intro hEq
    have hSome : (b :: rest).getLast? = some a := by simpa using hEq
    exact hSuf (List.mem_of_getLast? hSome)

/-- In the chain of the first `k` numbers, all but the last have a
successor. -/
theorem after_range_ne_nil {k g : Nat} (h : g < k) : after (List.range k) g ≠ [] ↔ g + 1 < k := by
  obtain ⟨m, rfl⟩ : ∃ m, k = g + (m + 1) := ⟨k - g - 1, by omega⟩
  have hSplit : List.range (g + (m + 1)) =
      List.range g ++ g :: (List.range m).map fun i => g + (i + 1) := by
    rw [List.range_add, List.range_succ_eq_map]
    simp
  rw [hSplit, after_split (by simp), ne_eq, List.map_eq_nil_iff, List.range_eq_nil]
  omega

/-- The predecessor of the successor is the element itself. -/
theorem after_head_iff (hNodup : c.Nodup) (ha : a ∈ c) (hb : b ∈ c) :
    (after c a).head? = some b ↔ (before c b).head? = some a := by
  constructor
  · intro h
    obtain ⟨pre, suf, rfl, hPre, hSuf, hDisj⟩ := exists_split hNodup ha
    rw [after_split hPre] at h
    cases suf with
    | nil => simp at h
    | cons x suf =>
      obtain rfl : x = b := by simpa using h
      have hx : x ∉ pre ++ [a] := by
        intro hMem
        rcases List.mem_append.mp hMem with hMem | hMem
        · exact hDisj hMem List.mem_cons_self
        · exact hSuf (List.mem_singleton.mp hMem ▸ List.mem_cons_self)
      have hSplit : pre ++ a :: x :: suf = (pre ++ [a]) ++ x :: suf := by simp
      rw [hSplit, before_split hx]
      simp
  · intro h
    obtain ⟨pre, suf, rfl, hPre, hSuf, hDisj⟩ := exists_split hNodup hb
    rw [before_split hPre] at h
    obtain ⟨pre', rfl⟩ : ∃ pre', pre = pre' ++ [a] := by
      rw [List.head?_reverse] at h
      exact List.getLast?_eq_some_iff.mp h
    have ha' : a ∉ pre' := (notMem_of_split (List.nodup_append.mp hNodup).1 rfl).1
    rw [List.append_assoc, List.singleton_append, after_split ha']
    rfl

/-- What comes before is what comes after on the way back. -/
theorem before_eq_after_reverse (hNodup : c.Nodup) (ha : a ∈ c) :
    before c a = after c.reverse a := by
  obtain ⟨pre, suf, hSplit⟩ := List.append_of_mem (List.mem_reverse.mpr ha)
  rw [before_eq_of_split hNodup hSplit, after_eq_of_split (List.nodup_reverse.mpr hNodup) hSplit]

/-- All elements with a successor meet a condition at most one of them can meet
exactly when there is only one such element, and it does. -/
theorem forall_after_iff {P : α → Prop} (hNodup : c.Nodup) (hTwo : 2 ≤ c.length)
    (hOne : ∀ a ∈ c, ∀ b ∈ c, P a → P b → a = b) :
    (∀ a ∈ c, after c a ≠ [] → P a) ↔ c.length = 2 ∧ ∃ a, c.head? = some a ∧ P a := by
  obtain ⟨x, y, rest, rfl⟩ : ∃ x y rest, c = x :: y :: rest := by
    match c, hTwo with
    | x :: y :: rest, _ => exact ⟨x, y, rest, rfl⟩
  have hFirst : after (x :: y :: rest) x = y :: rest := @after_eq_of_split _ _ _ [] _ _ hNodup rfl
  have hSecond : after (x :: y :: rest) y = rest := @after_eq_of_split _ _ _ [x] _ _ hNodup rfl
  have hxy : x ≠ y := fun hEq => (List.nodup_cons.mp hNodup).1 (hEq ▸ List.mem_cons_self)
  have hx : x ∈ x :: y :: rest := List.mem_cons_self
  have hy : y ∈ x :: y :: rest := List.mem_cons_of_mem x List.mem_cons_self
  constructor
  · intro h
    have hPx := h x hx (by rw [hFirst]; exact List.cons_ne_nil _ _)
    refine ⟨?_, x, rfl, hPx⟩
    by_contra hLonger
    have hRest : rest ≠ [] := by
      rintro rfl
      exact hLonger rfl
    exact hxy (hOne x hx y hy hPx (h y hy (by rwa [hSecond])))
  · rintro ⟨hLength, a, hHead, hP⟩ b hb hNonempty
    obtain rfl : x = a := Option.some_inj.mp hHead
    obtain rfl : rest = [] := List.length_eq_zero_iff.mp (by simpa using hLength)
    rcases List.mem_cons.mp hb with rfl | hb
    · exact hP
    · rw [List.mem_singleton.mp hb, hSecond] at hNonempty
      exact absurd rfl hNonempty

/-- The same for the elements with a predecessor. -/
theorem forall_before_iff {P : α → Prop} (hNodup : c.Nodup) (hTwo : 2 ≤ c.length)
    (hOne : ∀ a ∈ c, ∀ b ∈ c, P a → P b → a = b) :
    (∀ a ∈ c, before c a ≠ [] → P a) ↔ c.length = 2 ∧ ∃ a, c.getLast? = some a ∧ P a := by
  have hBack := @forall_after_iff _ _ c.reverse P (List.nodup_reverse.mpr hNodup)
    (by rwa [List.length_reverse]) fun a ha b hb =>
      hOne a (List.mem_reverse.mp ha) b (List.mem_reverse.mp hb)
  rw [List.length_reverse, List.head?_reverse] at hBack
  rw [← hBack]
  constructor
  · exact fun h a ha hAfter =>
      h a (List.mem_reverse.mp ha) (before_eq_after_reverse hNodup (List.mem_reverse.mp ha) ▸ hAfter)
  · exact fun h a ha hBefore =>
      h a (List.mem_reverse.mpr ha) (before_eq_after_reverse hNodup ha ▸ hBefore)

end Chain
