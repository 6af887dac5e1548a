import VxlanMtd.Lib.Ticketed

/-!
# Queues that feed a channel

A queue with a ticket whose items go over a channel: what is handed out is in
flight until it is delivered, in order.

* `pending_eq` — while the queue is not cleared, what was delivered, is in
  flight or queued is what there was at first, and what was appended;
* `covers_delivered` — what is handed out is delivered, if deliveries go on;
* **`covers_pending`** — and so is whatever is appended, if the queue is served.
-/

open Progress

/-- An endless run of a queue and its channel. -/
structure Link (α : Type*) where
  queue : TicketQueue.Behaviour α
  delivered : ℕ → List α
  inFlight : ℕ → List α
  grows : Growing delivered
  carried : ∀ n, delivered (n + 1) ++ inFlight (n + 1) =
    delivered n ++ inFlight n ++ (queue.state n).sent (queue.action n)

namespace Link

variable {α : Type*} (link : Link α)

/-- What was delivered or is still to be. -/
def pending (n : ℕ) : List α := link.delivered n ++ link.inFlight n ++ (link.queue.state n).queue

/-- Nothing is queued for ever, nor cleared. -/
structure Lively : Prop where
  noClear : ∀ n, ¬ (link.queue.action n).IsClear
  served : link.queue.Served
  /-- Again and again, something is delivered if anything is in flight. -/
  delivery : ∀ n, ∃ m ≥ n, link.inFlight m ≠ [] → link.delivered (m + 1) ≠ link.delivered m

/-- What is sent is delivered or in flight, in that order. -/
theorem sent_eq (n : ℕ) : link.delivered n ++ link.inFlight n =
    link.delivered 0 ++ link.inFlight 0 ++ link.queue.sentBy n := by
  induction n with
  | zero => exact (List.append_nil _).symm
  | succ n ih =>
    rw [TicketQueue.Behaviour.sentBy_succ, ← List.append_assoc, ← ih]
    exact link.carried n

variable {link}

/-- Without a clearing, what is given is delivered, in flight or queued, in that
order. -/
theorem pending_eq (hClear : ∀ n, ¬ (link.queue.action n).IsClear) (n : ℕ) :
    link.pending n = link.delivered 0 ++ link.inFlight 0 ++ link.queue.givenBy n := by
  rw [pending, sent_eq, ← TicketQueue.Behaviour.sent_append_queue hClear, ← List.append_assoc]

/-- A step adds what it is given, at the end. -/
theorem pending_succ (hClear : ∀ n, ¬ (link.queue.action n).IsClear) (n : ℕ) :
    link.pending (n + 1) = link.pending n ++ (link.queue.action n).appended := by
  rw [pending_eq hClear, pending_eq hClear, TicketQueue.Behaviour.givenBy_succ,
    ← List.append_assoc]

/-- What is delivered comes first. -/
theorem delivered_within (n : ℕ) : link.delivered n <+: link.pending n := by
  rw [pending, List.append_assoc]
  exact List.prefix_append _ _

/-- **The channel**: whatever is handed out is delivered. -/
theorem covers_delivered
    (hDelivery : ∀ n, ∃ m ≥ n, link.inFlight m ≠ [] → link.delivered (m + 1) ≠ link.delivered m) :
    Covers link.delivered fun n =>
      link.delivered 0 ++ link.inFlight 0 ++ link.queue.sentBy n := by
  have hSent : Growing fun n => link.delivered 0 ++ link.inFlight 0 ++ link.queue.sentBy n :=
    fun n => (List.prefix_append_right_inj _).mpr (TicketQueue.Behaviour.grows_sentBy n)
  have hWithin : ∀ n, link.delivered n <+:
      link.delivered 0 ++ link.inFlight 0 ++ link.queue.sentBy n :=
    fun n => link.sent_eq n ▸ List.prefix_append _ _
  refine covers_of_progress link.grows hSent hWithin fun n hMissing => ?_
  by_contra hNever
  -- nothing more arrives, although something is in flight at the next delivery
  obtain ⟨m, hm, hDelivered⟩ := hDelivery n
  have hSame : link.delivered m = link.delivered n := by
    clear hDelivered
    induction hm with
    | refl => rfl
    | @step m hm ih =>
      rw [← ih]
      by_contra hNew
      exact hNever ⟨m, hm, hNew⟩
  refine hNever ⟨m, hm, hDelivered fun hNone => ?_⟩
  have hAll := link.sent_eq m
  rw [hNone, List.append_nil, hSame] at hAll
  exact hMissing ((hWithin n).eq_of_length_le (hAll ▸ hSent.mono hm).length_le)

/-- **Both stages**: whatever is appended is delivered. -/
theorem covers_pending (h : link.Lively) : Covers link.delivered link.pending := by
  have hQueue : Covers (fun n => link.delivered 0 ++ link.inFlight 0 ++ link.queue.sentBy n)
      link.pending := by
    intro n
    obtain ⟨m, hm, hPrefix⟩ := (TicketQueue.Behaviour.sendsAll_iff h.noClear).mpr h.served n
    refine ⟨m, hm, ?_⟩
    dsimp only
    rw [pending_eq h.noClear]
    exact (List.prefix_append_right_inj _).mpr hPrefix
  exact hQueue.trans (covers_delivered h.delivery)

end Link
