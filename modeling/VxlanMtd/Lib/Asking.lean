import Mathlib.Data.List.Basic

/-!
# Programs that ask

A program that now and then asks a question — for a random number, say — and
goes on with the answer it gets. Which answers a question can get is a relation
`accepts`; a question that can get none is one the program never returns from.
`stuck` is a step that is not defined, such as a read past the end of a list.

`Always` looks at every course such a program can take: what it asks, whether
it gets stuck, and what it returns. The rules follow the ways programs are put
together (`always_bind_iff`, `Always.foldlM_range`); `Always.exists_result`
says that a program all of whose questions can be answered does return.

`run` is the one course in which the answers come from a function of the
question, and `Always.run` what holds of its result.
-/

/-- A program with questions `q : Q`, their answers in `A q`, and results in
`α`. -/
inductive Asking (Q : Type) (A : Q → Type) (α : Type) where
  | done (a : α)
  | stuck
  | ask (q : Q) (next : A q → Asking Q A α)

namespace Asking

variable {Q : Type} {A : Q → Type} {α β σ : Type}

/-- One program after another. -/
protected def bind : Asking Q A α → (α → Asking Q A β) → Asking Q A β
  | done a, f => f a
  | stuck, _ => stuck
  | ask q next, f => ask q fun a => (next a).bind f

instance : Monad (Asking Q A) where
  pure := done
  bind := Asking.bind

/-- A read that may be out of range. -/
def ofOption : Option α → Asking Q A α
  | some a => done a
  | none => stuck

/-- Handing the result on changes nothing. -/
theorem bind_done (x : Asking Q A α) : x.bind done = x := by
  induction x with
  | done a => rfl
  | stuck => rfl
  | ask q next ih => exact congrArg (ask q) (funext ih)

/-- Programs in a row can be read from either side. -/
theorem bind_assoc' {γ : Type} (x : Asking Q A α) (f : α → Asking Q A β)
    (g : β → Asking Q A γ) : (x.bind f).bind g = x.bind fun a => (f a).bind g := by
  induction x with
  | done a => rfl
  | stuck => rfl
  | ask q next ih => exact congrArg (ask q) (funext ih)

instance : LawfulMonad (Asking Q A) :=
  LawfulMonad.mk' _ bind_done (fun _ _ => rfl) bind_assoc'

theorem ofOption_some_bind (a : α) (f : α → Asking Q A β) : ofOption (some a) >>= f = f a := rfl

-- ---------------------------------------------------------------------------
-- Every course
-- ---------------------------------------------------------------------------

/-- Whatever accepted answers it gets, the program asks only questions in
`asked`, gets stuck only if `fails`, and returns only results in `post`. -/
def Always (accepts : ∀ q, A q → Prop) (asked : Q → Prop) (fails : Prop) (post : α → Prop) :
    Asking Q A α → Prop
  | done a => post a
  | stuck => fails
  | ask q next => asked q ∧ ∀ a, accepts q a → (next a).Always accepts asked fails post

/-- A question some answer is accepted for. -/
def Answerable (accepts : ∀ q, A q → Prop) (q : Q) : Prop := ∃ a, accepts q a

/-- Wherever the answers so far have led, the program can still return. -/
def CanFinish (accepts : ∀ q, A q → Prop) (x : Asking Q A α) : Prop :=
  x.Always accepts (Answerable accepts) False fun _ => True

section

variable {accepts : ∀ q, A q → Prop} {asked asked' : Q → Prop} {fails fails' : Prop}
  {post post' : α → Prop} {x : Asking Q A α}

/-- A program that asks nothing. -/
@[simp] theorem always_pure {a : α} :
    (pure a : Asking Q A α).Always accepts asked fails post ↔ post a := Iff.rfl

@[simp] theorem always_ofOption_some {a : α} :
    (ofOption (some a) : Asking Q A α).Always accepts asked fails post ↔ post a := Iff.rfl

/-- A program that has failed. -/
@[simp] theorem always_ofOption_none :
    (ofOption none : Asking Q A α).Always accepts asked fails post ↔ fails := Iff.rfl

/-- A question, and every course after an accepted answer. -/
theorem always_ask {q : Q} {next : A q → Asking Q A α} :
    (ask q next).Always accepts asked fails post ↔
      asked q ∧ ∀ a, accepts q a → (next a).Always accepts asked fails post := Iff.rfl

/-- **Rule of sequence.** -/
theorem always_bind_iff {f : α → Asking Q A β} {post : β → Prop} :
    (x >>= f).Always accepts asked fails post ↔
      x.Always accepts asked fails fun a => (f a).Always accepts asked fails post := by
  induction x with
  | done a => rfl
  | stuck => rfl
  | ask q next ih => exact and_congr_right fun _ => forall₂_congr fun a _ => ih a

/-- **Rule of consequence.** -/
theorem Always.mono (h : x.Always accepts asked fails post) (hAsked : ∀ q, asked q → asked' q)
    (hFails : fails → fails') (hPost : ∀ a, post a → post' a) :
    x.Always accepts asked' fails' post' := by
  induction x with
  | done a => exact hPost a h
  | stuck => exact hFails h
  | ask q next ih => exact ⟨hAsked q h.1, fun a ha => ih a (h.2 a ha)⟩

/-- What every course ends in can be weakened. -/
theorem Always.imp (h : x.Always accepts asked fails post) (hPost : ∀ a, post a → post' a) :
    x.Always accepts asked fails post' :=
  h.mono (fun _ => id) id hPost

/-- Two things that hold of every course hold together. -/
theorem Always.and (h : x.Always accepts asked fails post)
    (h' : x.Always accepts asked' fails' post') :
    x.Always accepts (fun q => asked q ∧ asked' q) (fails ∧ fails') fun a => post a ∧ post' a := by
  induction x with
  | done a => exact ⟨h, h'⟩
  | stuck => exact ⟨h, h'⟩
  | ask q next ih => exact ⟨⟨h.1, h'.1⟩, fun a ha => ih a (h.2 a ha) (h'.2 a ha)⟩

/-- Sequence, with a postcondition for the first part. -/
theorem Always.bind {f : α → Asking Q A β} {post' : β → Prop}
    (h : x.Always accepts asked fails post)
    (hf : ∀ a, post a → (f a).Always accepts asked fails post') :
    (x >>= f).Always accepts asked fails post' :=
  always_bind_iff.mpr (h.imp hf)

/-- **Rule of iteration**, for a loop over `0 … k - 1`. -/
theorem Always.foldlM_range {f : σ → Nat → Asking Q A σ} (Inv : Nat → σ → Prop) {k : Nat} {s : σ}
    (hStart : Inv 0 s)
    (hStep : ∀ i < k, ∀ s, Inv i s → (f s i).Always accepts asked fails (Inv (i + 1))) :
    ((List.range k).foldlM f s).Always accepts asked fails (Inv k) := by
  induction k with
  | zero => exact hStart
  | succ k ih =>
    rw [List.range_succ, List.foldlM_append]
    refine (ih fun i hi => hStep i (by omega)).bind fun s hs => ?_
    rw [List.foldlM_cons]
    exact (hStep k (by omega) s hs).bind fun _ h => h

/-- A program that never gets stuck and whose questions can all be answered
returns something. -/
theorem Always.exists_result (h : x.Always accepts (Answerable accepts) False post) :
    ∃ a, post a := by
  induction x with
  | done a => exact ⟨a, h⟩
  | stuck => exact h.elim
  | ask q next ih =>
    obtain ⟨a, ha⟩ := h.1
    exact ih a (h.2 a ha)

end

-- ---------------------------------------------------------------------------
-- One course
-- ---------------------------------------------------------------------------

section Run

variable (accepts : ∀ q, A q → Prop) [∀ q a, Decidable (accepts q a)] (answer : ∀ q, A q)

/-- The result when each question gets the answer `answer` has for it; none if
that is not accepted. -/
def run : Asking Q A α → Option α
  | done a => some a
  | stuck => none
  | ask q next => if accepts q (answer q) then (next (answer q)).run else none

@[simp] theorem run_pure (a : α) :
    (pure a : Asking Q A α).run accepts answer = some a := rfl

/-- What does not ask does not need answers. -/
@[simp] theorem run_ofOption (o : Option α) :
    (ofOption o : Asking Q A α).run accepts answer = o := by
  cases o <;> rfl

/-- One after the other, with the same table of answers. -/
@[simp] theorem run_bind (x : Asking Q A α) (f : α → Asking Q A β) :
    (x >>= f).run accepts answer =
      (x.run accepts answer).bind fun a => (f a).run accepts answer := by
  induction x with
  | done a => rfl
  | stuck => rfl
  | ask q next ih =>
    change (if accepts q (answer q) then ((next (answer q)) >>= f).run accepts answer else none) =
      Option.bind (if accepts q (answer q) then (next (answer q)).run accepts answer else none) _
    split
    · exact ih _
    · rfl

/-- A loop with answers is the loop of its bodies with answers. -/
theorem run_foldlM (f : σ → β → Asking Q A σ) (bs : List β) (s : σ) :
    (bs.foldlM f s).run accepts answer =
      bs.foldlM (fun s b => (f s b).run accepts answer) s := by
  induction bs generalizing s with
  | nil => rfl
  | cons b bs ih =>
    rw [List.foldlM_cons, List.foldlM_cons, run_bind]
    exact congrArg _ (funext ih)

/-- What holds of every course holds of this one. -/
theorem Always.run {asked : Q → Prop} {fails : Prop} {post : α → Prop} {x : Asking Q A α} {a : α}
    (h : x.Always accepts asked fails post) (hRun : x.run accepts answer = some a) : post a := by
  induction x with
  | done b =>
    obtain rfl := Option.some.inj hRun
    exact h
  | stuck => exact absurd hRun (by simp [Asking.run])
  | ask q next ih =>
    rw [Asking.run] at hRun
    split at hRun
    case isTrue hAccept => exact ih _ (h.2 _ hAccept) hRun
    case isFalse => exact absurd hRun (by simp)

end Run

end Asking
