import Mathlib.Data.List.Basic
import Mathlib.Order.Lattice

/-!
# Maps in the order of their keys

A map that is gone through by ascending keys, as the list of its entries with
the proof that they ascend.

* `mem_ofList_iff` — filled in with entries of distinct keys, in whatever order,
  it has exactly these;
* **`find?_eq_some_iff`** — a search finds the least key of those it looks for.
-/

/-- The entries by ascending keys. -/
structure OrderedMap (κ α : Type*) [LinearOrder κ] where
  entries : List (κ × α)
  ascending : entries.Pairwise fun a b => a.1 < b.1

namespace OrderedMap

variable {κ α : Type*} [LinearOrder κ]

def empty : OrderedMap κ α where
  entries := []
  ascending := List.Pairwise.nil

/-- A key gets a value, whatever it had. -/
def insert (map : OrderedMap κ α) (key : κ) (value : α) : OrderedMap κ α where
  entries := (map.entries.filter fun e => e.1 < key) ++
    (key, value) :: map.entries.filter fun e => key < e.1
  ascending := by
    rw [List.pairwise_append, List.pairwise_cons]
    refine ⟨map.ascending.filter _, ⟨fun e he => ?_, map.ascending.filter _⟩, ?_⟩
    · exact of_decide_eq_true (List.mem_filter.mp he).2
    · intro a ha b hb
      have hLow : a.1 < key := of_decide_eq_true (List.mem_filter.mp ha).2
      rcases List.mem_cons.mp hb with rfl | hb
      · exact hLow
      · exact lt_trans hLow (of_decide_eq_true (List.mem_filter.mp hb).2)

/-- The entries one after the other. -/
def insertAll (map : OrderedMap κ α) (entries : List (κ × α)) : OrderedMap κ α :=
  entries.foldl (fun map e => map.insert e.1 e.2) map

def ofList (entries : List (κ × α)) : OrderedMap κ α := empty.insertAll entries

/-- An insertion replaces the entry of its key and leaves the others. -/
theorem mem_insert_iff {map : OrderedMap κ α} {key : κ} {value : α} {e : κ × α} :
    e ∈ (map.insert key value).entries ↔ e = (key, value) ∨ e ∈ map.entries ∧ e.1 ≠ key := by
  simp only [insert, List.mem_append, List.mem_cons, List.mem_filter, decide_eq_true_eq]
  constructor
  · rintro (⟨hMem, hLow⟩ | rfl | ⟨hMem, hHigh⟩)
    · exact Or.inr ⟨hMem, ne_of_lt hLow⟩
    · exact Or.inl rfl
    · exact Or.inr ⟨hMem, ne_of_gt hHigh⟩
  · rintro (rfl | ⟨hMem, hne⟩)
    · exact Or.inr (Or.inl rfl)
    · rcases lt_or_gt_of_ne hne with hLow | hHigh
      · exact Or.inl ⟨hMem, hLow⟩
      · exact Or.inr (Or.inr ⟨hMem, hHigh⟩)

theorem mem_insertAll_iff {entries : List (κ × α)} (hNodup : (entries.map Prod.fst).Nodup)
    {map : OrderedMap κ α} {e : κ × α} :
    e ∈ (map.insertAll entries).entries ↔
      e ∈ entries ∨ e ∈ map.entries ∧ e.1 ∉ entries.map Prod.fst := by
  induction entries generalizing map with
  | nil => simp [insertAll]
  | cons first entries ih =>
    obtain ⟨hNew, hRest⟩ := List.nodup_cons.mp hNodup
    show e ∈ ((map.insert first.1 first.2).insertAll entries).entries ↔ _
    rw [ih hRest, mem_insert_iff, List.mem_cons, List.map_cons, List.mem_cons, not_or]
    constructor
    · rintro (hMem | ⟨rfl | ⟨hMem, hne⟩, hNot⟩)
      · exact Or.inl (Or.inr hMem)
      · exact Or.inl (Or.inl rfl)
      · exact Or.inr ⟨hMem, hne, hNot⟩
    · rintro ((rfl | hMem) | ⟨hMem, hne, hNot⟩)
      · exact Or.inr ⟨Or.inl rfl, hNew⟩
      · exact Or.inl hMem
      · exact Or.inr ⟨Or.inr ⟨hMem, hne⟩, hNot⟩

/-- Entries of distinct keys all stay. -/
theorem mem_ofList_iff {entries : List (κ × α)} (hNodup : (entries.map Prod.fst).Nodup)
    {e : κ × α} : e ∈ (ofList entries).entries ↔ e ∈ entries := by
  rw [ofList, mem_insertAll_iff hNodup]
  simp [empty]

/-- **What a search finds** is the entry of the least key. -/
theorem find?_eq_some_iff {map : OrderedMap κ α} {p : κ × α → Bool} {e : κ × α} :
    map.entries.find? p = some e ↔
      (e ∈ map.entries ∧ p e = true) ∧ ∀ e' ∈ map.entries, p e' = true → e.1 ≤ e'.1 := by
  obtain ⟨entries, hAscending⟩ := map
  show entries.find? p = some e ↔ (e ∈ entries ∧ p e = true) ∧ ∀ e' ∈ entries, _
  induction entries with
  | nil => simp
  | cons first entries ih =>
    obtain ⟨hFirst, hRest⟩ := List.pairwise_cons.mp hAscending
    by_cases hp : p first = true
    · rw [List.find?_cons_of_pos hp, Option.some.injEq]
      constructor
      · rintro rfl
        refine ⟨⟨List.mem_cons_self, hp⟩, fun e' he' _ => ?_⟩
        rcases List.mem_cons.mp he' with rfl | he'
        · exact le_refl _
        · exact le_of_lt (hFirst e' he')
      · rintro ⟨⟨hMem, -⟩, hLeast⟩
        rcases List.mem_cons.mp hMem with rfl | hMem
        · rfl
        · exact absurd (hFirst e hMem) (not_lt.mpr (hLeast first List.mem_cons_self hp))
    · rw [List.find?_cons_of_neg hp, ih hRest]
      constructor
      · rintro ⟨⟨hMem, hpe⟩, hLeast⟩
        refine ⟨⟨List.mem_cons_of_mem _ hMem, hpe⟩, fun e' he' hpe' => ?_⟩
        rcases List.mem_cons.mp he' with rfl | he'
        · exact absurd hpe' hp
        · exact hLeast e' he' hpe'
      · rintro ⟨⟨hMem, hpe⟩, hLeast⟩
        refine ⟨⟨?_, hpe⟩, fun e' he' => hLeast e' (List.mem_cons_of_mem _ he')⟩
        rcases List.mem_cons.mp hMem with rfl | hMem
        · exact absurd hpe hp
        · exact hMem

end OrderedMap
