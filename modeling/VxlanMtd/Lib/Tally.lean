import Mathlib.Data.List.Basic
import Mathlib.Data.List.Perm.Subperm

/-!
# Tallies

Things that events move between the parts of a state, each part a list: nothing
is doubled if the weights of all parts together never exceed what was put in,
whatever weights the things are given.

* `total`, `totalAt` — the weight of a list, and of what is entered under one key
  (`under`);
* `total_modify` — one part changes;
* `totalAt_le_of_nodup` — a key that is there once;
* `subperm_of_total` — a comparison by all weights is one of lists.
-/

namespace Tally

variable {α β κ : Type*}

/-- The sum of the weights. -/
def total (f : α → ℕ) : List α → ℕ
  | [] => 0
  | a :: l => f a + total f l

/-- What is entered under a key. -/
def under [DecidableEq κ] (key : κ) (l : List (κ × α)) : List α :=
  l.filterMap fun e => if e.1 = key then some e.2 else none

/-- The sum of the weights under a key. -/
def totalAt [DecidableEq κ] (key : κ) (f : α → ℕ) (l : List (κ × α)) : ℕ :=
  total (fun e => if e.1 = key then f e.2 else 0) l

/-- What is entered later comes later. -/
theorem under_append [DecidableEq κ] (key : κ) (l l' : List (κ × α)) :
    under key (l ++ l') = under key l ++ under key l' := List.filterMap_append

/-- Everything entered under one key is found there. -/
theorem under_map [DecidableEq κ] (key : κ) (f : β → α) (l : List β) :
    under key (l.map fun b => (key, f b)) = l.map f := by
  rw [under, List.filterMap_map]
  exact (List.filterMap_congr fun _ _ => if_pos rfl).trans (congrFun List.filterMap_eq_map' l)

/-- The entries of a key, without the key. -/
theorem under_eq_filter [DecidableEq κ] (key : κ) (l : List (κ × α)) :
    under key l = (l.filter fun e => e.1 = key).map Prod.snd := by
  induction l with
  | nil => rfl
  | cons e l ih =>
    rw [under, List.filterMap_cons, List.filter_cons]
    by_cases hKey : e.1 = key
    · simp only [hKey, if_true, decide_true, List.map_cons]
      exact congrArg _ ih
    · simp only [hKey, if_false, decide_false, Bool.false_eq_true]
      exact ih

variable {f g : α → ℕ} {l : List α}

@[simp] theorem total_nil : total f [] = 0 := rfl

@[simp] theorem total_cons (a : α) : total f (a :: l) = f a + total f l := rfl

theorem total_singleton (a : α) : total f [a] = f a := by
  rw [total_cons, total_nil, Nat.add_zero]

/-- The parts of a list weigh as much as the list. -/
@[simp] theorem total_append (l l' : List α) : total f (l ++ l') = total f l + total f l' := by
  induction l with
  | nil => exact (Nat.zero_add _).symm
  | cons a l ih => rw [List.cons_append, total_cons, total_cons, ih, Nat.add_assoc]

/-- A thing weighs what it is made into. -/
theorem total_map (h : β → α) (l : List β) : total f (l.map h) = total (fun b => f (h b)) l := by
  induction l with
  | nil => rfl
  | cons b l ih => rw [List.map_cons, total_cons, total_cons, ih]

/-- A thing weighs as much as all that is made of it. -/
theorem total_flatMap (h : β → List α) (l : List β) :
    total f (l.flatMap h) = total (fun b => total f (h b)) l := by
  induction l with
  | nil => rfl
  | cons b l ih => rw [List.flatMap_cons, total_append, total_cons, ih]

/-- A list of lists weighs as much as its members. -/
theorem total_flatten (l : List (List α)) : total f l.flatten = total (total f) l := by
  rw [← List.flatMap_id', total_flatMap]

/-- What is left out weighs nothing. -/
theorem total_filter (p : α → Bool) :
    total f (l.filter p) = total (fun a => if p a then f a else 0) l := by
  induction l with
  | nil => rfl
  | cons a l ih =>
    rw [List.filter_cons, total_cons, ← ih]
    split
    · exact total_cons a
    · exact (Nat.zero_add _).symm

/-- Two weights of each thing. -/
theorem total_add : total (fun a => f a + g a) l = total f l + total g l := by
  induction l with
  | nil => rfl
  | cons a l ih =>
    rw [total_cons, total_cons, total_cons, ih]
    omega

/-- Lighter things are lighter together. -/
theorem total_le_total (h : ∀ a ∈ l, f a ≤ g a) : total f l ≤ total g l := by
  induction l with
  | nil => exact Nat.le_refl 0
  | cons a l ih =>
    have hFirst := h a List.mem_cons_self
    have hRest := ih fun b hb => h b (List.mem_cons_of_mem _ hb)
    rw [total_cons, total_cons]
    omega

/-- Things without weight. -/
theorem total_zero (h : ∀ a ∈ l, f a = 0) : total f l = 0 := by
  induction l with
  | nil => rfl
  | cons a l ih =>
    rw [total_cons, h a List.mem_cons_self, ih fun b hb => h b (List.mem_cons_of_mem _ hb)]

/-- A part weighs no more than the whole. -/
theorem total_sublist {l l' : List α} (h : l.Sublist l') : total f l ≤ total f l' := by
  induction h with
  | slnil => exact Nat.le_refl 0
  | cons a _ ih =>
    rw [total_cons]
    omega
  | cons_cons a _ ih =>
    rw [total_cons, total_cons]
    omega

/-- One entry is replaced. -/
theorem total_modify {n : ℕ} {a : α} (h : l[n]? = some a) (change : α → α) :
    total f (l.modify n change) + f a = total f l + f (change a) := by
  induction l generalizing n with
  | nil => exact nomatch h
  | cons b l ih =>
    cases n with
    | zero =>
      obtain rfl := Option.some.inj h
      rw [List.modify_zero_cons, total_cons, total_cons]
      omega
    | succ n =>
      have hRest := ih (n := n) h
      rw [List.modify_succ_cons, total_cons, total_cons]
      omega

/-- An entry that becomes no heavier. -/
theorem total_modify_le {change : α → α} (h : ∀ a, f (change a) ≤ f a) (n : ℕ) :
    total f (l.modify n change) ≤ total f l := by
  cases hGet : l[n]? with
  | none =>
    exact Nat.le_of_eq (congrArg (total f)
      (List.modify_eq_self (List.getElem?_eq_none_iff.mp hGet)))
  | some a =>
    have hModify := total_modify (f := f) hGet change
    have hLe := h a
    omega

-- ---------------------------------------------------------------------------
-- Keys
-- ---------------------------------------------------------------------------

section Keys

variable [DecidableEq κ] {key : κ} {entries : List (κ × α)}

/-- Under its key a thing has its own weight. -/
theorem total_under : total f (under key entries) = totalAt key f entries := by
  induction entries with
  | nil => rfl
  | cons e entries ih =>
    rw [totalAt, total_cons, ← totalAt, ← ih, under, List.filterMap_cons]
    by_cases hKey : e.1 = key
    · rw [if_pos hKey, if_pos hKey]
      exact total_cons _
    · rw [if_neg hKey, if_neg hKey, Nat.zero_add]
      rfl

/-- What is entered later adds to the weight of its key. -/
theorem totalAt_append (more : List (κ × α)) :
    totalAt key f (entries ++ more) = totalAt key f entries + totalAt key f more :=
  total_append entries more

theorem totalAt_singleton (e : κ × α) :
    totalAt key f [e] = if e.1 = key then f e.2 else 0 := total_singleton e

/-- A single entry weighs no more than its key. -/
theorem totalAt_of_mem {a : α} (h : (key, a) ∈ entries) : f a ≤ totalAt key f entries := by
  have hOne := total_sublist (f := fun e : κ × α => if e.1 = key then f e.2 else 0)
    (List.singleton_sublist.mpr h)
  rw [total_singleton, if_pos rfl] at hOne
  exact hOne

/-- A list entered under one key weighs there what it weighs. -/
theorem totalAt_map (key' : κ) (l : List α) :
    totalAt key f (l.map fun a => (key', a)) = if key' = key then total f l else 0 := by
  rw [totalAt, total_map]
  split
  · rfl
  · exact total_zero fun _ _ => rfl

/-- Entries of one key each. -/
theorem totalAt_le_of_nodup (h : (entries.map Prod.fst).Nodup) {x : ℕ}
    (hLe : ∀ e ∈ entries, e.1 = key → f e.2 ≤ x) : totalAt key f entries ≤ x := by
  induction entries with
  | nil => exact Nat.zero_le x
  | cons e entries ih =>
    obtain ⟨hFirst, hRest⟩ := List.nodup_cons.mp h
    rw [totalAt, total_cons, ← totalAt]
    by_cases hKey : e.1 = key
    · -- no other entry has the key
      have hZero : totalAt key f entries = 0 := total_zero fun other hOther =>
        if_neg fun hSame => hFirst (List.mem_map.mpr ⟨other, hOther, hSame.trans hKey.symm⟩)
      rw [if_pos hKey, hZero]
      exact hLe e List.mem_cons_self hKey
    · rw [if_neg hKey, Nat.zero_add]
      exact ih hRest fun other hOther => hLe other (List.mem_cons_of_mem _ hOther)

end Keys

/-- The weight 1 for each is the length. -/
theorem total_one : total (fun _ => 1) l = l.length := by
  induction l with
  | nil => rfl
  | cons a l ih => rw [total_cons, ih, List.length_cons, Nat.add_comm]

/-- As weights, the occurrences in all lists together. -/
theorem total_count [BEq β] (h : α → List β) (b : β) :
    total (fun a => (h a).count b) l = (l.flatMap h).count b := by
  induction l with
  | nil => rfl
  | cons a l ih => rw [total_cons, ih, List.flatMap_cons, List.count_append]

/-- As weights, the number of things that meet a condition. -/
theorem total_countP (p : α → Bool) : total (fun a => if p a then 1 else 0) l = l.countP p := by
  induction l with
  | nil => rfl
  | cons a l ih => rw [total_cons, ih, List.countP_cons, Nat.add_comm]

/-- Weights compare lists. -/
theorem subperm_of_total {l l' : List α} (h : ∀ w : α → ℕ, total w l ≤ total w l') :
    l.Subperm l' := by
  classical
  refine List.subperm_ext_iff.mpr fun a _ => ?_
  rw [List.count_eq_countP, List.count_eq_countP, ← total_countP, ← total_countP]
  exact h _

end Tally
