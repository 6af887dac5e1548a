import Mathlib.Data.List.Basic

/-!
# Signals and connections

Objects that talk to each other through connections: a connection leads from a
signal of one object to a slot of another. Destroying an object takes its
connections with it, in either direction; an object nobody destroys keeps
them all.

* `receivers` — what a signal of an object reaches, in the order of connection;
* `cut` — the connections that are left when some objects are gone.
-/

namespace Signals

/-- A connection from a signal to a slot. -/
structure Connection (Obj Sig Slot : Type*) where
  sender : Obj
  signal : Sig
  receiver : Obj
  slot : Slot
  deriving DecidableEq

variable {Obj Sig Slot : Type*} [DecidableEq Obj] [DecidableEq Sig]

/-- The objects and slots a signal reaches, once for each connection. -/
def receivers (cs : List (Connection Obj Sig Slot)) (o : Obj) (sig : Sig) :
    List (Obj × Slot) :=
  (cs.filter fun c => c.sender = o ∧ c.signal = sig).map fun c => (c.receiver, c.slot)

/-- The connections between objects that are still there. -/
def cut (gone : Obj → Bool) (cs : List (Connection Obj Sig Slot)) :
    List (Connection Obj Sig Slot) :=
  cs.filter fun c => !gone c.sender && !gone c.receiver

variable {cs ds : List (Connection Obj Sig Slot)} {o : Obj} {sig : Sig} {gone : Obj → Bool}

/-- The receivers of a signal are those connected to it. -/
theorem mem_receivers {r : Obj} {slot : Slot} :
    (r, slot) ∈ receivers cs o sig ↔ ⟨o, sig, r, slot⟩ ∈ cs := by
  constructor
  · intro h
    obtain ⟨c, hc, hEq⟩ := List.mem_map.mp h
    obtain ⟨hMem, hSender⟩ := List.mem_filter.mp hc
    obtain ⟨rfl, rfl⟩ := of_decide_eq_true hSender
    obtain ⟨rfl, rfl⟩ := Prod.mk.inj hEq
    exact hMem
  · intro h
    exact List.mem_map.mpr ⟨_, List.mem_filter.mpr ⟨h, decide_eq_true ⟨rfl, rfl⟩⟩, rfl⟩

/-- Connections made later are served later. -/
theorem receivers_append : receivers (cs ++ ds) o sig = receivers cs o sig ++ receivers ds o sig := by
  rw [receivers, List.filter_append, List.map_append]
  rfl

omit [DecidableEq Obj] [DecidableEq Sig] in
theorem mem_of_mem_cut {c : Connection Obj Sig Slot} (h : c ∈ cut gone cs) : c ∈ cs :=
  (List.mem_filter.mp h).1

/-- A signal between objects that stay reaches whom it reached before. -/
theorem receivers_cut (ho : gone o = false) (hr : ∀ r ∈ receivers cs o sig, gone r.1 = false) :
    receivers (cut gone cs) o sig = receivers cs o sig := by
  rw [receivers, receivers, cut, List.filter_filter]
  congr 1
  refine List.filter_congr fun c hc => ?_
  by_cases hMatch : c.sender = o ∧ c.signal = sig
  · have hReceiver : gone c.receiver = false := by
      obtain ⟨rfl, rfl⟩ := hMatch
      exact hr _ (mem_receivers.mpr hc)
    rw [hMatch.1, ho, hReceiver]
    simp
  · simp [hMatch]

end Signals
