import VxlanMtd.Lib.Progress
import Mathlib.Data.Nat.Find

/-!
# Queues with a ticket

A component that hands out the items of a queue one at a time: it takes the
first one while it is ready, and then waits until its ticket is given back.
A `Behaviour` is an endless run of such a component.

* `sent_append_queue` — nothing is lost, doubled or overtaken while the queue is
  not cleared;
* `served_of_fair` — a component that is asked again and again, and never waits
  forever, is asked again and again while it is ready;
* **`sendsAll_iff`** — everything is handed out in the end exactly if a
  component with items left is always asked again while it is ready.
-/

open Progress

/-- What is queued, and whether the ticket is out. -/
structure TicketQueue (α : Type*) where
  queue : List α
  isWaiting : Bool

namespace TicketQueue

variable {α : Type*}

/-- What can happen to a queue. `hold` takes the ticket without sending. -/
inductive Action (α : Type*) where
  | append (items : List α)
  | send
  | giveBack
  | hold
  | clear (isGivenBack : Bool)

/-- The items an action appends. -/
def Action.appended : Action α → List α
  | .append items => items
  | _ => []

def Action.IsClear : Action α → Prop
  | .clear _ => True
  | _ => False

/-- The queue after an action. -/
def act (state : TicketQueue α) : Action α → TicketQueue α
  | .append items => { state with queue := state.queue ++ items }
  | .send =>
    match state.queue, state.isWaiting with
    | _ :: queue, false => ⟨queue, true⟩
    | _, _ => state
  | .giveBack => { state with isWaiting := false }
  | .hold => { state with isWaiting := true }
  | .clear isGivenBack => ⟨[], state.isWaiting && !isGivenBack⟩

/-- What an action hands out. -/
def sent (state : TicketQueue α) : Action α → List α
  | .send =>
    match state.queue, state.isWaiting with
    | item :: _, false => [item]
    | _, _ => []
  | _ => []

/-- What one action does to the items, unless it clears the queue. -/
theorem sent_append_act (state : TicketQueue α) {action : Action α} (h : ¬ action.IsClear) :
    state.sent action ++ (state.act action).queue = state.queue ++ action.appended := by
  obtain ⟨queue, isWaiting⟩ := state
  cases action with
  | append items => rfl
  | send =>
    cases queue with
    | nil => rfl
    | cons item queue => cases isWaiting <;> simp [sent, act, Action.appended]
  | giveBack | hold => simp [sent, act, Action.appended]
  | clear isGivenBack => exact absurd trivial h

/-- Only a component that is ready and asked hands anything out. -/
theorem sent_ne_nil_iff {state : TicketQueue α} {action : Action α} :
    state.sent action ≠ [] ↔ action = .send ∧ state.isWaiting = false ∧ state.queue ≠ [] := by
  obtain ⟨queue, isWaiting⟩ := state
  cases action with
  | send => cases queue <;> cases isWaiting <;> simp [sent]
  | append | giveBack | hold | clear => simp [sent]

/-- An endless run. -/
structure Behaviour (α : Type*) where
  state : ℕ → TicketQueue α
  action : ℕ → Action α
  step : ∀ n, state (n + 1) = (state n).act (action n)

namespace Behaviour

variable (b : Behaviour α)

/-- What was handed out before time `n`. -/
def sentBy (n : ℕ) : List α := (List.range n).flatMap fun i => (b.state i).sent (b.action i)

/-- What there was at first, and what was appended before time `n`. -/
def givenBy (n : ℕ) : List α :=
  (b.state 0).queue ++ (List.range n).flatMap fun i => (b.action i).appended

/-- A component with items left is asked for one again while it is ready. -/
def Served : Prop :=
  ∀ n, (b.state n).queue ≠ [] → ∃ m ≥ n, b.action m = .send ∧ (b.state m).isWaiting = false

variable {b}

theorem sentBy_succ (n : ℕ) :
    b.sentBy (n + 1) = b.sentBy n ++ (b.state n).sent (b.action n) := gathered_succ n

theorem givenBy_succ (n : ℕ) : b.givenBy (n + 1) = b.givenBy n ++ (b.action n).appended :=
  (congrArg ((b.state 0).queue ++ ·) (gathered_succ n)).trans (List.append_assoc _ _ _).symm

/-- What is sent only grows. -/
theorem grows_sentBy : Growing b.sentBy := fun n => sentBy_succ n ▸ List.prefix_append _ _

theorem grows_givenBy : Growing b.givenBy := fun n => givenBy_succ n ▸ List.prefix_append _ _

/-- Something is sent exactly at a send that finds the queue ready. -/
theorem sentBy_succ_ne_iff (n : ℕ) : b.sentBy (n + 1) ≠ b.sentBy n ↔
    b.action n = .send ∧ (b.state n).isWaiting = false ∧ (b.state n).queue ≠ [] := by
  rw [sentBy_succ, ne_eq, List.append_right_eq_self, ← sent_ne_nil_iff]

/-- **Nothing is lost.** What was handed out, and then what is queued, is what
there was to hand out. -/
theorem sent_append_queue (hClear : ∀ n, ¬ (b.action n).IsClear) (n : ℕ) :
    b.sentBy n ++ (b.state n).queue = b.givenBy n := by
  induction n with
  | zero => simp [sentBy, givenBy]
  | succ n ih =>
    have hAct := (b.state n).sent_append_act (hClear n)
    rw [sentBy_succ, givenBy_succ, ← ih, b.step, List.append_assoc, List.append_assoc, hAct]

theorem sentBy_within (hClear : ∀ n, ¬ (b.action n).IsClear) (n : ℕ) :
    b.sentBy n <+: b.givenBy n := sent_append_queue hClear n ▸ List.prefix_append _ _

/-- Something is missing exactly while something is queued. -/
theorem sentBy_ne_givenBy_iff (hClear : ∀ n, ¬ (b.action n).IsClear) (n : ℕ) :
    b.sentBy n ≠ b.givenBy n ↔ (b.state n).queue ≠ [] := by
  rw [← sent_append_queue hClear, ne_eq, List.self_eq_append_right]

/-- Being ready lasts until the next item is asked for. -/
theorem ready_until_send (hHold : ∀ n, b.action n ≠ .hold) {n m : ℕ} (h : n ≤ m)
    (hReady : (b.state n).isWaiting = false) (hNone : ∀ i, n ≤ i → i < m → b.action i ≠ .send) :
    (b.state m).isWaiting = false := by
  induction h with
  | refl => exact hReady
  | @step m hLe ih =>
    have hBefore := ih fun i hi hlt => hNone i hi (Nat.lt_succ_of_lt hlt)
    have hOther := hNone m hLe (Nat.lt_succ_self m)
    have hNotHold := hHold m
    rw [b.step]
    cases hAction : b.action m with
    | append items => exact hBefore
    | send => exact absurd hAction hOther
    | giveBack => rfl
    | hold => exact absurd hAction hNotHold
    | clear isGivenBack =>
      show ((b.state m).isWaiting && !isGivenBack) = false
      rw [hBefore, Bool.false_and]

/-- A ticket that is given back whenever it has been out for long. -/
theorem ready_of_timer (hTimer : ∀ n, (b.state n).isWaiting = true →
    ∃ m ≥ n, b.action m = .giveBack ∨ (b.state m).isWaiting = false) (n : ℕ) :
    ∃ m ≥ n, (b.state m).isWaiting = false := by
  by_cases hWaits : (b.state n).isWaiting = true
  · obtain ⟨m, hm, hGiven | hReady⟩ := hTimer n hWaits
    · refine ⟨m + 1, by omega, ?_⟩
      rw [b.step, hGiven]
      rfl
    · exact ⟨m, hm, hReady⟩
  · exact ⟨n, le_rfl, Bool.eq_false_iff.mpr hWaits⟩

/-- **Fairness is enough** where nothing else takes the ticket. -/
theorem served_of_fair (hHold : ∀ n, b.action n ≠ .hold)
    (hAsked : ∀ n, ∃ m ≥ n, b.action m = .send)
    (hReady : ∀ n, ∃ m ≥ n, (b.state m).isWaiting = false) : b.Served := by
  classical
  intro n _
  obtain ⟨k, hk, hFree⟩ := hReady n
  -- the first time it is asked after it became ready
  have hLater : ∃ m, k ≤ m ∧ b.action m = .send := hAsked k
  refine ⟨Nat.find hLater, hk.trans (Nat.find_spec hLater).1, (Nat.find_spec hLater).2, ?_⟩
  exact ready_until_send hHold (Nat.find_spec hLater).1 hFree fun i hi hlt hSend =>
    Nat.find_min hLater hlt ⟨hi, hSend⟩

/-- **When everything is handed out.** -/
theorem sendsAll_iff (hClear : ∀ n, ¬ (b.action n).IsClear) :
    Covers b.sentBy b.givenBy ↔ b.Served := by
  constructor
  · intro hAll n hSome
    by_contra hNever
    -- otherwise nothing is handed out any more
    have hNone : ∀ m ≥ n, b.sentBy m = b.sentBy n := by
      intro m hm
      induction hm with
      | refl => rfl
      | @step m hm ih =>
        rw [← ih]
        by_contra hNew
        obtain ⟨hSend, hReady, -⟩ := (sentBy_succ_ne_iff m).mp hNew
        exact hNever ⟨m, hm, hSend, hReady⟩
    have hEq := eq_of_covers hAll (sentBy_within hClear) hNone
    exact (sentBy_ne_givenBy_iff hClear n).mpr hSome hEq
  · intro hServed
    refine covers_of_progress grows_sentBy grows_givenBy (sentBy_within hClear) fun n hMissing => ?_
    have hSome := (sentBy_ne_givenBy_iff hClear n).mp hMissing
    by_contra hNever
    -- the queue keeps its items, so one is handed out
    have hKept : ∀ m ≥ n, (b.state m).queue ≠ [] ∧ b.sentBy m = b.sentBy n := by
      intro m hm
      have hSame : b.sentBy m = b.sentBy n := by
        induction hm with
        | refl => rfl
        | @step m hm ih =>
          rw [← ih]
          by_contra hNew
          exact hNever ⟨m, hm, hNew⟩
      refine ⟨(sentBy_ne_givenBy_iff hClear m).mp fun hEq => ?_, hSame⟩
      have hLength := ((grows_givenBy (b := b)).mono hm).length_le
      have hShort := (sentBy_within hClear n).length_le
      rw [← hEq, hSame] at hLength
      exact hMissing ((sentBy_within hClear n).eq_of_length (Nat.le_antisymm hShort hLength))
    obtain ⟨m, hm, hSend, hReady⟩ := hServed n hSome
    exact hNever ⟨m, hm, (sentBy_succ_ne_iff m).mpr ⟨hSend, hReady, (hKept m hm).1⟩⟩

end Behaviour

end TicketQueue
