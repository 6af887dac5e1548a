import Mathlib.Data.List.Nodup
import Mathlib.Logic.Relation

/-!
# Arrival

A packet that may have several next hops: which one it takes is not known, so
it arrives somewhere if it does whatever it takes.

* `Arrives` — from a node, every choice of hops leads to the target;
* `Arrives.nodup` — then no trip to the target comes back to a node
  (`Delivered`);
* **`arrives_of_rank`** — hops that decrease a rank arrive;
* `Arrives.exists_hop`, `not_arrives_of_cycle` — where packets do not arrive.
-/

namespace Arrival

variable {α : Type*} (hop : α → α → Prop) (target : α)

/-- Whatever hops are taken, they lead to the target. -/
inductive Arrives : α → Prop
  | here : Arrives target
  | hop {a : α} (hNext : ∃ b, hop a b) (hAll : ∀ b, hop a b → Arrives b) : Arrives a

/-- The nodes of a trip from `a` to the target, which is visited last. -/
inductive Trip : α → List α → Prop
  | here : Trip target [target]
  | hop {a b : α} {path : List α} (hOther : a ≠ target) (hHop : hop a b) (hRest : Trip b path) :
      Trip a (a :: path)

/-- A packet arrives, and visits no node twice on the way. -/
structure Delivered (a : α) : Prop where
  arrives : Arrives hop target a
  once : ∀ path, Trip hop target a path → path.Nodup

/-- `b` comes directly after `a` on a trip. -/
def After (b a : α) : Prop := a ≠ target ∧ hop a b

variable {hop target} {a b : α} {path : List α}

/-- Where a packet arrives, no trip is endless. -/
theorem Arrives.acc (h : Arrives hop target a) : Acc (After hop target) a := by
  induction h with
  | here => exact Acc.intro _ fun _ hAfter => absurd rfl hAfter.1
  | hop _ _ ih => exact Acc.intro _ fun b hAfter => ih b hAfter.2

/-- What is accessible is on no cycle. -/
theorem not_transGen_of_acc {r : α → α → Prop} (h : Acc r a) : ¬ Relation.TransGen r a a := by
  have hTrans : Acc (Relation.TransGen r) a := h.transGen
  induction hTrans with
  | intro x _ ih => exact fun hSelf => ih x hSelf (h.inv_of_transGen hSelf) hSelf

/-- What comes later on a trip. -/
theorem Trip.after (h : Trip hop target a path) :
    ∀ x ∈ path.tail, Relation.TransGen (After hop target) x a := by
  induction h with
  | here => exact fun x hx => absurd hx List.not_mem_nil
  | @hop a b path hOther hHop hRest ih =>
    intro x hx
    have hFirst : After hop target b a := ⟨hOther, hHop⟩
    have hPath : x = b ∨ x ∈ path.tail := by
      cases hRest with
      | here => exact Or.inl (List.mem_singleton.mp hx)
      | hop _ _ _ => exact List.mem_cons.mp hx
    rcases hPath with rfl | hx
    · exact .single hFirst
    · exact (ih x hx).tail hFirst

/-- **No node is visited twice.** -/
theorem Arrives.nodup (h : Arrives hop target a) (hTrip : Trip hop target a path) :
    path.Nodup := by
  induction hTrip with
  | here => exact List.nodup_singleton _
  | @hop a b path hOther hHop hRest ih =>
    have hNext : Arrives hop target b := by
      cases h with
      | here => exact absurd rfl hOther
      | hop _ hAll => exact hAll b hHop
    refine List.nodup_cons.mpr ⟨fun hIn => ?_, ih hNext⟩
    exact not_transGen_of_acc h.acc ((Trip.hop hOther hHop hRest).after a hIn)

theorem delivered_iff : Delivered hop target a ↔ Arrives hop target a :=
  ⟨Delivered.arrives, fun h => ⟨h, fun _ hTrip => h.nodup hTrip⟩⟩

/-- **Arrival by rank.** -/
theorem arrives_of_rank {Inv : α → Prop} {rank : α → Nat}
    (hStep : ∀ a, Inv a → a ≠ target →
      (∃ b, hop a b) ∧ ∀ b, hop a b → Inv b ∧ rank b < rank a)
    (hInv : Inv a) : Arrives hop target a := by
  induction hRank : rank a using Nat.strongRecOn generalizing a with
  | _ r ih =>
    by_cases hTarget : a = target
    · exact hTarget ▸ .here
    · obtain ⟨hNext, hAll⟩ := hStep a hInv hTarget
      refine .hop hNext fun b hHop => ?_
      obtain ⟨hInv', hLower⟩ := hAll b hHop
      exact ih (rank b) (hRank ▸ hLower) hInv' rfl

theorem Arrives.exists_hop (h : Arrives hop target a) (hOther : a ≠ target) : ∃ b, hop a b := by
  cases h with
  | here => exact absurd rfl hOther
  | hop hNext _ => exact hNext

/-- Two nodes that may send a packet to each other. -/
theorem not_arrives_of_cycle (ha : a ≠ target) (hb : b ≠ target) (hab : hop a b)
    (hba : hop b a) : ¬ Arrives hop target a := by
  intro h
  refine not_transGen_of_acc h.acc (Relation.TransGen.tail (.single (?_ : After hop target a b)) ?_)
  · exact ⟨hb, hba⟩
  · exact ⟨ha, hab⟩

end Arrival
