import Mathlib.Data.List.Infix
import VxlanMtd.Lib.Run

/-!
# Lists that grow

What a component was given by a time `n`, and what it has put out by then: two
lists that only grow. `Covers out given` says that whatever was given is put out
at some time, in the same order.

* `covers_of_progress` — so it is if, as long as something is missing, more is
  put out at some time;
* `Covers.trans` — stages one after the other;
* `gathered` — what comes piece by piece, as a record of a run (`record_states`);
* `rounds` — a list of events again and again, in which each recurs.
-/

namespace Progress

variable {α : Type*}

/-- A list that only grows. -/
def Growing (list : ℕ → List α) : Prop := ∀ n, list n <+: list (n + 1)

/-- Everything given is put out at some time. -/
def Covers (out given : ℕ → List α) : Prop := ∀ n, ∃ m ≥ n, given n <+: out m

variable {out middle given : ℕ → List α}

/-- What is out at a time stays out. -/
theorem Growing.mono (h : Growing out) {n m : ℕ} (hLe : n ≤ m) : out n <+: out m := by
  induction hLe with
  | refl => exact List.prefix_refl _
  | step _ ih => exact ih.trans (h _)

/-- Two stages, one after the other. -/
theorem Covers.trans (h : Covers middle given) (h' : Covers out middle) : Covers out given := by
  intro n
  obtain ⟨m, hm, hPrefix⟩ := h n
  obtain ⟨k, hk, hPrefix'⟩ := h' m
  exact ⟨k, hm.trans hk, hPrefix.trans hPrefix'⟩

/-- What was put out later is longer, if it is not the same. -/
theorem Growing.length_lt (h : Growing out) {n : ℕ} (hne : out (n + 1) ≠ out n) :
    (out n).length < (out (n + 1)).length := by
  refine lt_of_le_of_ne (h n).length_le fun hEq => hne ?_
  exact ((h n).eq_of_length hEq).symm

/-- **More and more is put out** until everything is. -/
theorem covers_of_progress (hOut : Growing out) (hGiven : Growing given)
    (hWithin : ∀ n, out n <+: given n)
    (hMore : ∀ n, out n ≠ given n → ∃ m ≥ n, out (m + 1) ≠ out m) : Covers out given := by
  intro n
  -- by the number of items put out
  have hCount : ∀ k, ∃ m ≥ n, given n <+: out m ∨ k ≤ (out m).length := by
    intro k
    induction k with
    | zero => exact ⟨n, le_rfl, Or.inr (Nat.zero_le _)⟩
    | succ k ih =>
      obtain ⟨m, hm, hDone | hLength⟩ := ih
      · exact ⟨m, hm, Or.inl hDone⟩
      by_cases hAll : out m = given m
      · exact ⟨m, hm, Or.inl (hAll ▸ hGiven.mono hm)⟩
      obtain ⟨m', hm', hNew⟩ := hMore m hAll
      have hMono := (hOut.mono hm').length_le
      have hLonger := hOut.length_lt hNew
      exact ⟨m' + 1, by omega, Or.inr (by omega)⟩
  obtain ⟨m, hm, hDone | hLength⟩ := hCount (given n).length
  · exact ⟨m, hm, hDone⟩
  · exact ⟨m, hm, List.prefix_of_prefix_length_le (hGiven.mono hm) (hWithin m) hLength⟩

/-- Nothing is put out forever, and everything was put out: then everything
given is there already. -/
theorem eq_of_covers (hCovers : Covers out given) (hWithin : ∀ n, out n <+: given n) {n : ℕ}
    (hNone : ∀ m ≥ n, out m = out n) : out n = given n := by
  obtain ⟨m, hm, hPrefix⟩ := hCovers n
  rw [hNone m hm] at hPrefix
  exact (hWithin n).eq_of_length (Nat.le_antisymm (hWithin n).length_le hPrefix.length_le)

/-- The pieces of the times before `n`. -/
def gathered (pieces : ℕ → List α) (n : ℕ) : List α := (List.range n).flatMap pieces

variable {pieces : ℕ → List α}

theorem gathered_succ (n : ℕ) : gathered pieces (n + 1) = gathered pieces n ++ pieces n := by
  rw [gathered, List.range_succ, List.flatMap_append, List.flatMap_singleton, gathered]

/-- What is gathered only grows. -/
theorem growing_gathered : Growing (gathered pieces) :=
  fun n => gathered_succ n ▸ List.prefix_append _ _

/-- A record of what every step adds. -/
theorem record_states {σ ε : Type*} {step : σ → ε → σ} {record : σ → List α} {new : σ → ε → List α}
    (h : ∀ s e, record (step s e) = record s ++ new s e) (initial : σ) (events : ℕ → ε) (n : ℕ) :
    record (EventRun.states step initial events n) = record initial ++
      gathered (fun i => new (EventRun.states step initial events i) (events i)) n := by
  induction n with
  | zero => exact (List.append_nil _).symm
  | succ n ih =>
    rw [gathered_succ, ← List.append_assoc, ← ih]
    exact h _ _

/-- A list of events, again and again. -/
def rounds {ε : Type*} (first : ε) (rest : List ε) (n : ℕ) : ε :=
  (first :: rest).get ⟨n % (first :: rest).length, Nat.mod_lt _ (Nat.succ_pos _)⟩

theorem rounds_mem {ε : Type*} (first : ε) (rest : List ε) (n : ℕ) :
    rounds first rest n ∈ first :: rest := List.get_mem _ _

/-- Every event of a round comes again. -/
theorem rounds_recurs {ε : Type*} {first event : ε} {rest : List ε} (h : event ∈ first :: rest)
    (n : ℕ) : ∃ m ≥ n, rounds first rest m = event := by
  obtain ⟨i, rfl⟩ := List.get_of_mem h
  refine ⟨n * (first :: rest).length + i, ?_, ?_⟩
  · exact (Nat.le_mul_of_pos_right n (Nat.succ_pos _)).trans (Nat.le_add_right _ _)
  · exact congrArg (first :: rest).get (Fin.ext (Nat.mul_add_mod_of_lt i.isLt))

end Progress
