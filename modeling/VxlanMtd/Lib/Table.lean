import Mathlib.Data.List.Basic
import Mathlib.Data.List.Induction
import Mathlib.Logic.Function.Basic

/-!
# Tables

Maps as lists of keys and values: looking a key up after all values changed
(`lookup_map`, `lookup_map_key`) or another key is gone (`lookup_filter_ne`),
looking one up that occurs once (`lookup_eq_some_iff_mem`, `flatMap_of_lookup`),
and the value of a key after any writes (`foldl_update`), also when the writes
come in parts that share no key (`filter_flatMap_parts`); the entry with a key
that occurs once (`filter_key_eq_singleton`).
-/

namespace Table

variable {κ α β : Type*} [BEq κ]

/-- A key has the changed value afterwards. -/
theorem lookup_map (f : α → β) (entries : List (κ × α)) (key : κ) :
    (entries.map fun entry => (entry.1, f entry.2)).lookup key =
      (entries.lookup key).map f := by
  induction entries with
  | nil => rfl
  | cons entry entries ih =>
    rw [List.map_cons, List.lookup_cons, List.lookup_cons, ih]
    cases key == entry.1 <;> rfl

/-- The same for a change that depends on the key. -/
theorem lookup_map_key [LawfulBEq κ] (f : κ → α → β) (entries : List (κ × α)) (key : κ) :
    (entries.map fun entry => (entry.1, f entry.1 entry.2)).lookup key =
      (entries.lookup key).map (f key) := by
  induction entries with
  | nil => rfl
  | cons entry entries ih =>
    rw [List.map_cons, List.lookup_cons, List.lookup_cons, ih]
    by_cases hKey : key = entry.1
    · rw [hKey, beq_self_eq_true]
      rfl
    · rw [beq_eq_false_iff_ne.mpr hKey]

/-- Other keys may go. -/
theorem lookup_filter_ne [LawfulBEq κ] {key key' : κ} (hne : key' ≠ key)
    (entries : List (κ × α)) :
    (entries.filter fun entry => entry.1 != key').lookup key = entries.lookup key := by
  induction entries with
  | nil => rfl
  | cons entry entries ih =>
    rw [List.filter_cons, List.lookup_cons]
    by_cases hGone : entry.1 = key'
    · rw [if_neg (by simp [hGone]), ih, beq_eq_false_iff_ne.mpr fun h => hne (hGone ▸ h).symm]
    · rw [if_pos (bne_iff_ne.mpr hGone), List.lookup_cons, ih]

/-- Where no key occurs twice, a lookup finds exactly the entries. -/
theorem lookup_eq_some_iff_mem [LawfulBEq κ] {entries : List (κ × α)}
    (hNodup : (entries.map Prod.fst).Nodup) {key : κ} {value : α} :
    entries.lookup key = some value ↔ (key, value) ∈ entries := by
  induction entries with
  | nil => simp
  | cons entry entries ih =>
    obtain ⟨first, firstValue⟩ := entry
    obtain ⟨hNew, hRest⟩ := List.nodup_cons.mp hNodup
    rw [List.lookup_cons, List.mem_cons, Prod.mk.injEq]
    by_cases hKey : key = first
    · subst hKey
      rw [beq_self_eq_true]
      constructor
      · intro h
        exact Or.inl ⟨rfl, (Option.some.inj h).symm⟩
      · rintro (⟨-, rfl⟩ | hMem)
        · rfl
        · exact absurd (List.mem_map_of_mem hMem) hNew
    · rw [beq_eq_false_iff_ne.mpr hKey]
      constructor
      · exact fun h => Or.inr ((ih hRest).mp h)
      · rintro (⟨rfl, -⟩ | hMem)
        · exact absurd rfl hKey
        · exact (ih hRest).mpr hMem

/-- Where no key occurs twice, and nothing comes of other keys, what comes of all
entries comes of one. -/
theorem flatMap_of_lookup [LawfulBEq κ] {entries : List (κ × α)}
    (hNodup : (entries.map Prod.fst).Nodup) {key : κ} {value : α}
    (h : entries.lookup key = some value) {g : κ × α → List β}
    (hOther : ∀ entry ∈ entries, entry.1 ≠ key → g entry = []) :
    entries.flatMap g = g (key, value) := by
  obtain ⟨before, after, rfl⟩ := List.append_of_mem ((lookup_eq_some_iff_mem hNodup).mp h)
  rw [List.map_append, List.map_cons] at hNodup
  obtain ⟨-, hAfter, hDisjoint⟩ := List.nodup_append.mp hNodup
  have hBefore : before.flatMap g = [] := by
    refine List.flatMap_eq_nil_iff.mpr fun entry hEntry => ?_
    refine hOther entry (List.mem_append_left _ hEntry) fun hKey => ?_
    exact hDisjoint _ (List.mem_map_of_mem hEntry) _ List.mem_cons_self hKey
  have hLater : after.flatMap g = [] := by
    refine List.flatMap_eq_nil_iff.mpr fun entry hEntry => ?_
    refine hOther entry (List.mem_append_right _ (List.mem_cons_of_mem _ hEntry)) fun hKey => ?_
    have hMem := List.mem_map_of_mem (f := Prod.fst) hEntry
    exact (List.nodup_cons.mp hAfter).1 (hKey ▸ hMem)
  rw [List.flatMap_append, List.flatMap_cons, hBefore, hLater, List.nil_append, List.append_nil]

/-- The last write of a key counts. -/
theorem foldl_update {κ α : Type*} [DecidableEq κ] (writes : List (κ × α)) (f : κ → Option α)
    (key : κ) :
    (writes.foldl (fun (f : κ → Option α) write => Function.update f write.1 (some write.2)) f)
        key = (writes.reverse.lookup key).or (f key) := by
  induction writes using List.reverseRecOn with
  | nil => rfl
  | append_singleton writes write ih =>
    rw [List.foldl_append, List.foldl_cons, List.foldl_nil, List.reverse_append,
      List.reverse_singleton, List.singleton_append, List.lookup_cons]
    by_cases hKey : key = write.1
    · rw [hKey, Function.update_self, beq_self_eq_true]
      rfl
    · rw [Function.update_of_ne hKey, ih, beq_eq_false_iff_ne.mpr hKey]

/-- Looking a key up from the back finds its last entry. -/
theorem lookup_reverse {κ α : Type*} [DecidableEq κ] (entries : List (κ × α)) (key : κ) :
    entries.reverse.lookup key =
      ((entries.filter fun entry => entry.1 = key).getLast?).map Prod.snd := by
  induction entries using List.reverseRecOn with
  | nil => rfl
  | append_singleton entries entry ih =>
    rw [List.reverse_append, List.reverse_singleton, List.singleton_append, List.lookup_cons,
      List.filter_append]
    by_cases hKey : key = entry.1
    · subst hKey
      simp
    · rw [beq_eq_false_iff_ne.mpr hKey, ih, List.filter_cons_of_neg (by simp [Ne.symm hKey]),
        List.filter_nil, List.append_nil]

/-- Where no key occurs twice, a key selects its entry alone. -/
theorem filter_key_eq_singleton {κ β : Type*} [DecidableEq κ] {key : β → κ} {xs : List β}
    (hNodup : (xs.map key).Nodup) {x : β} (hx : x ∈ xs) :
    (xs.filter fun y => key y = key x) = [x] := by
  obtain ⟨before, after, rfl⟩ := List.append_of_mem hx
  rw [List.map_append, List.map_cons] at hNodup
  obtain ⟨-, hAfter, hDisjoint⟩ := List.nodup_append.mp hNodup
  have hBefore : ∀ y ∈ before, ¬ decide (key y = key x) = true := by
    intro y hy hEq
    exact hDisjoint _ (List.mem_map_of_mem hy) _ List.mem_cons_self (of_decide_eq_true hEq)
  have hLater : ∀ y ∈ after, ¬ decide (key y = key x) = true := by
    intro y hy hEq
    exact (List.nodup_cons.mp hAfter).1 (of_decide_eq_true hEq ▸ List.mem_map_of_mem hy)
  have hSelf : decide (key x = key x) = true := decide_eq_true rfl
  rw [List.filter_append, List.filter_eq_nil_iff.mpr hBefore,
    List.filter_cons_of_pos (p := fun y => decide (key y = key x)) hSelf,
    List.filter_eq_nil_iff.mpr hLater]
  rfl

/-- What is selected lies in one part, so going through the parts one by one
changes nothing. -/
theorem filter_flatMap_parts {β τ : Type*} [DecidableEq τ] {parts : List τ}
    (hNodup : parts.Nodup) (part : β → τ) {P : β → Bool} {t : τ} (hPart : ∀ b, P b → part b = t)
    {xs : List β} (hMem : ∀ x ∈ xs, part x ∈ parts) :
    (parts.flatMap fun t => xs.filter fun x => part x == t).filter P = xs.filter P := by
  have hOther : ∀ t', t' ≠ t → (xs.filter fun x => part x == t').filter P = [] := by
    intro t' hne
    rw [List.filter_eq_nil_iff]
    intro x hx hP
    have hEq := beq_iff_eq.mp (List.mem_filter.mp hx).2
    exact hne (hEq.symm.trans (hPart x hP))
  have hSame : (xs.filter fun x => part x == t).filter P = xs.filter P := by
    rw [List.filter_filter]
    refine List.filter_congr fun x _ => ?_
    by_cases hP : P x = true
    · simp [hP, hPart x hP]
    · simp [hP]
  rw [List.filter_flatMap]
  by_cases ht : t ∈ parts
  · obtain ⟨before, after, rfl⟩ := List.append_of_mem ht
    obtain ⟨-, hAfter, hDisjoint⟩ := List.nodup_append.mp hNodup
    have hNil : ∀ {ts : List τ}, t ∉ ts →
        (ts.flatMap fun t => (xs.filter fun x => part x == t).filter P) = [] := by
      intro ts hts
      exact List.flatMap_eq_nil_iff.mpr fun t' ht' => hOther t' fun hEq => hts (hEq ▸ ht')
    rw [List.flatMap_append, List.flatMap_cons, hSame,
      hNil fun hIn => hDisjoint t hIn t List.mem_cons_self rfl,
      hNil (List.nodup_cons.mp hAfter).1, List.nil_append, List.append_nil]
  · -- nothing is selected
    have hNone : xs.filter P = [] :=
      List.filter_eq_nil_iff.mpr fun x hx hP => ht (hPart x hP ▸ hMem x hx)
    rw [hNone]
    exact List.flatMap_eq_nil_iff.mpr fun t' ht' => hOther t' fun hEq => ht (hEq ▸ ht')

end Table
