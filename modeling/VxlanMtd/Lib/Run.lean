import Mathlib.Data.List.Basic

/-!
# Runs of an event-driven machine

A component that reacts to one event at a time is a step function
`step : σ → ε → σ`; its environment is the list of events it happens to
receive. This module has the three things every such component needs:

* `run` — the state after a list of events;
* `Along` — a condition on (state before, event) that holds at every event
  of a run;
* `Reachable` — the states some run ends in.

The rules package the induction over a run once: an invariant that each
step keeps holds along the run (`along_of_invariant`), and a step condition
that is exact in every state the invariant allows is exact for whole runs
(`along_iff_of_invariant`). `states` is for runs without an end.
-/

namespace EventRun

variable {σ ε : Type*}

/-- The state after the events `es`, received in order from the state `s`. -/
def run (step : σ → ε → σ) (s : σ) (es : List ε) : σ :=
  es.foldl step s

/-- `C` holds at every event of the run `es` from `s`, of the state the event
finds and the event itself. -/
def Along (step : σ → ε → σ) (C : σ → ε → Prop) : σ → List ε → Prop
  | _, [] => True
  | s, e :: es => C s e ∧ Along step C (step s e) es

/-- Some run from `init` ends in `s`. -/
def Reachable (step : σ → ε → σ) (init s : σ) : Prop :=
  ∃ es, run step init es = s

variable {step : σ → ε → σ} {C P : σ → ε → Prop} {Inv : σ → Prop} {s : σ}

@[simp] theorem run_nil : run step s [] = s := rfl

@[simp] theorem run_cons (e : ε) (es : List ε) :
    run step s (e :: es) = run step (step s e) es := rfl

/-- A run in two parts. -/
theorem run_append (es fs : List ε) :
    run step s (es ++ fs) = run step (run step s es) fs := by
  simp [run, List.foldl_append]

@[simp] theorem along_nil : Along step C s [] := trivial

@[simp] theorem along_cons (e : ε) (es : List ε) :
    Along step C s (e :: es) ↔ C s e ∧ Along step C (step s e) es := Iff.rfl

instance decidableAlong (step : σ → ε → σ) (C : σ → ε → Prop) [∀ s e, Decidable (C s e)] :
    ∀ s es, Decidable (Along step C s es)
  | _, [] => isTrue trivial
  | s, e :: es =>
    have := decidableAlong step C (step s e) es
    inferInstanceAs (Decidable (C s e ∧ Along step C (step s e) es))

/-- A condition along both parts of a run. -/
theorem along_append (es fs : List ε) :
    Along step C s (es ++ fs) ↔ Along step C s es ∧ Along step C (run step s es) fs := by
  induction es generalizing s with
  | nil => simp
  | cons e es ih => simp [ih, and_assoc]

/-- A run meets a step condition exactly when each of its events does, in the
state its predecessors lead to. -/
theorem along_iff_forall_prefix {es : List ε} :
    Along step C s es ↔
      ∀ pre e post, es = pre ++ e :: post → C (run step s pre) e := by
  constructor
  · rintro h pre e post rfl
    exact ((along_append pre (e :: post)).mp h).2.1
  · intro h
    induction es generalizing s with
    | nil => trivial
    | cons e es ih =>
      refine ⟨h [] e es rfl, ih fun pre e' post hsplit => ?_⟩
      exact h (e :: pre) e' post (by rw [hsplit]; rfl)

/-- **Invariant rule.** If every event that meets `C` keeps `Inv` and
establishes `P`, a run whose events all meet `C` has `P` at every event. -/
theorem along_of_invariant (hInv : Inv s)
    (hStep : ∀ s e, Inv s → C s e → Inv (step s e) ∧ P s e)
    {es : List ε} (hC : Along step C s es) : Along step P s es := by
  induction es generalizing s with
  | nil => trivial
  | cons e es ih =>
    obtain ⟨hInv', hP⟩ := hStep s e hInv hC.1
    exact ⟨hP, ih hInv' hC.2⟩

/-- **Exact step conditions.** If, wherever the invariant and the assumption `N`
on the event hold, `C` decides whether the event has `P`, and `C` keeps the
invariant, then a run whose events are all as assumed has `P` throughout
exactly when it meets `C` throughout: the first event that misses `C` is the
first that misses `P`. -/
theorem along_iff_of_along {N : σ → ε → Prop} (hInv : Inv s)
    (hExact : ∀ s e, Inv s → N s e → (P s e ↔ C s e))
    (hKeep : ∀ s e, Inv s → N s e → C s e → Inv (step s e)) {es : List ε}
    (hN : Along step N s es) : Along step P s es ↔ Along step C s es := by
  induction es generalizing s with
  | nil => exact Iff.rfl
  | cons e es ih =>
    rw [along_cons, along_cons, hExact s e hInv hN.1]
    exact and_congr_right fun hC => ih (hKeep s e hInv hN.1 hC) hN.2

/-- The same without an assumption on the events. -/
theorem along_iff_of_invariant (hInv : Inv s)
    (hExact : ∀ s e, Inv s → (P s e ↔ C s e))
    (hKeep : ∀ s e, Inv s → C s e → Inv (step s e)) {es : List ε} :
    Along step P s es ↔ Along step C s es := by
  have hTrivial : Along step (fun _ _ => True) s es :=
    along_iff_forall_prefix.mpr fun _ _ _ _ => trivial
  exact along_iff_of_along hInv (fun s e hs _ => hExact s e hs) (fun s e hs _ => hKeep s e hs)
    hTrivial

/-- What holds initially and survives every event of a run holds after it. -/
theorem invariant_of_run {es : List ε} (hInit : Inv s)
    (hStep : ∀ e ∈ es, ∀ s, Inv s → Inv (step s e)) : Inv (run step s es) := by
  induction es generalizing s with
  | nil => exact hInit
  | cons e es ih =>
    exact ih (hStep e List.mem_cons_self s hInit) fun e' he' => hStep e' (List.mem_cons_of_mem _ he')

/-- What holds initially and survives the events that meet a condition holds
after a run of such. -/
theorem invariant_of_along (hInit : Inv s) (hStep : ∀ s e, Inv s → C s e → Inv (step s e))
    {es : List ε} (hC : Along step C s es) : Inv (run step s es) := by
  induction es generalizing s with
  | nil => exact hInit
  | cons e es ih => exact ih (hStep s e hInit hC.1) hC.2

/-- What holds initially and survives every step holds of every reachable
state. -/
theorem invariant_of_reachable {init : σ} (hInit : Inv init)
    (hStep : ∀ s e, Inv s → Inv (step s e)) (h : Reachable step init s) : Inv s := by
  obtain ⟨es, rfl⟩ := h
  induction es generalizing init with
  | nil => exact hInit
  | cons e es ih => exact ih (hStep init e hInit)

/-- The states of an endless run. -/
def states (step : σ → ε → σ) (s : σ) (events : ℕ → ε) : ℕ → σ
  | 0 => s
  | n + 1 => step (states step s events n) (events n)

/-- What holds initially and survives every step holds throughout an endless
run. -/
theorem invariant_of_states {init : σ} (hInit : Inv init)
    (hStep : ∀ s e, Inv s → Inv (step s e)) (events : ℕ → ε) (n : ℕ) :
    Inv (states step init events n) := by
  induction n with
  | zero => exact hInit
  | succ n ih => exact hStep _ _ ih

end EventRun
