import Mathlib.Data.List.Basic
import Mathlib.Data.List.Nodup
import Mathlib.Logic.Function.Basic

/-!
# Lists given by a function of the position

A table whose entries are a function of the position stays one under the
updates loops make: writing an entry (`set_map_range`), changing an entry in
place (`modify_mapIdx`) and changing the entries at a list of positions
(`foldl_modify_mapIdx`).
-/

namespace Indexed

variable {α β γ : Type*}

theorem getElem?_map_range (f : Nat → α) {k i : Nat} (h : i < k) :
    ((List.range k).map f)[i]? = some (f i) := by
  simp [h]

theorem exists_getElem? {l : List α} {i : Nat} (h : i < l.length) : ∃ a, l[i]? = some a :=
  ⟨_, List.getElem?_eq_getElem h⟩

/-- Setting one entry is updating the function. -/
theorem set_map_range (f : Nat → α) (k i : Nat) (x : α) :
    ((List.range k).map f).set i x = (List.range k).map (Function.update f i x) := by
  refine List.ext_getElem? fun j => ?_
  rw [List.getElem?_set]
  by_cases hij : i = j
  · subst hij
    by_cases hi : i < k <;> simp [hi]
  · rw [if_neg hij]
    by_cases hj : j < k <;> simp [hj, Ne.symm hij]

/-- Only the indices below the length matter. -/
theorem map_range_congr {f g : Nat → α} {k : Nat} (h : ∀ i < k, f i = g i) :
    (List.range k).map f = (List.range k).map g :=
  List.map_congr_left fun i hi => h i (List.mem_range.mp hi)

/-- Only the entries that are there matter. -/
theorem mapIdx_congr {f g : Nat → α → β} {l : List α}
    (h : ∀ i a, l[i]? = some a → f i a = g i a) : l.mapIdx f = l.mapIdx g := by
  refine List.ext_getElem? fun i => ?_
  rw [List.getElem?_mapIdx, List.getElem?_mapIdx]
  cases hi : l[i]? with
  | none => rfl
  | some a => simp [h i a hi]

/-- Pieces that only depend on the position. -/
theorem flatMap_mapIdx {f : Nat → α → β} {g : β → List γ} {k : Nat → List γ} {l : List α}
    (h : ∀ i a, l[i]? = some a → g (f i a) = k i) :
    (l.mapIdx f).flatMap g = (List.range l.length).flatMap k := by
  rw [List.flatMap_def, List.flatMap_def]
  congr 1
  refine List.ext_getElem? fun i => ?_
  rw [List.getElem?_map, List.getElem?_mapIdx]
  cases hi : l[i]? with
  | none => simp [List.getElem?_eq_none_iff.mp hi]
  | some a =>
    rw [getElem?_map_range _ (List.getElem?_eq_some_iff.mp hi).1]
    simp [h i a hi]

/-- A selection, by position. -/
theorem filter_map_range {f : α → β} {g : Nat → β} {l : List α} (c : α → Bool)
    (h : ∀ (i : Nat) a, l[i]? = some a → g i = f a) :
    (l.filter c).map f = ((List.range l.length).filter fun i => (l[i]?).any c).map g := by
  induction l generalizing g with
  | nil => rfl
  | cons a l ih =>
    have hTail := @ih (fun i => g (i + 1)) fun i b hb => h (i + 1) b hb
    have hHead : g 0 = f a := h 0 a rfl
    rw [List.length_cons, List.range_succ_eq_map, List.filter_cons, List.filter_cons,
      List.filter_map]
    cases hc : c a <;> simp [hc, hHead, hTail, Function.comp_def]

/-- A change to one entry. -/
theorem modify_mapIdx (f : Nat → α → β) (l : List α) (i : Nat) (u : β → β) :
    (l.mapIdx f).modify i u = l.mapIdx fun j a => if j = i then u (f j a) else f j a := by
  refine List.ext_getElem? fun j => ?_
  rw [List.getElem?_modify, List.getElem?_mapIdx, List.getElem?_mapIdx]
  by_cases hij : i = j
  · subst hij
    cases l[i]? <;> simp
  · cases l[j]? <;> simp [hij, Ne.symm hij]

/-- Changing one entry twice leaves the others alone. -/
theorem getElem?_modify_modify_ne {l : List α} {i j : Nat} (h : j ≠ i) (u v : α → α) :
    ((l.modify i u).modify i v)[j]? = l[j]? := by
  rw [List.getElem?_modify_ne _ _ h.symm, List.getElem?_modify_ne _ _ h.symm]

/-- Changing the entries at the positions `is` that meet `c`, one after the
other. -/
theorem foldl_modify_mapIdx (f : Nat → α → β) (l : List α) {is : List Nat} (hNodup : is.Nodup)
    (c : Nat → Prop) [DecidablePred c] (u : β → β) :
    is.foldl (fun r i => if c i then r.modify i u else r) (l.mapIdx f) =
      l.mapIdx fun j a => if j ∈ is ∧ c j then u (f j a) else f j a := by
  induction is generalizing f with
  | nil => simp
  | cons i is ih =>
    obtain ⟨hi, hNodup⟩ := List.nodup_cons.mp hNodup
    rw [List.foldl_cons]
    by_cases hc : c i
    · rw [if_pos hc, modify_mapIdx, ih _ hNodup]
      refine mapIdx_congr fun j a _ => ?_
      by_cases hji : j = i
      · subst hji
        simp [hi, hc]
      · simp [hji]
    · rw [if_neg hc, ih _ hNodup]
      refine mapIdx_congr fun j a _ => ?_
      by_cases hji : j = i
      · subst hji
        simp [hi, hc]
      · simp [hji]

/-- In a loop that returns, every pass does. -/
theorem exists_pass_of_foldlM {α σ : Type*} {f : σ → α → Option σ} {xs : List α} {s s' : σ}
    (h : xs.foldlM f s = some s') {x : α} (hx : x ∈ xs) : ∃ t t', f t x = some t' := by
  induction xs generalizing s with
  | nil => exact absurd hx List.not_mem_nil
  | cons y ys ih =>
    rw [List.foldlM_cons] at h
    obtain ⟨t, hPass, hRest⟩ := Option.bind_eq_some_iff.mp h
    rcases List.mem_cons.mp hx with rfl | hx
    · exact ⟨s, t, hPass⟩
    · exact ih hRest hx

end Indexed
