import Mathlib.Data.List.Basic

/-!
# Sequential patterns

The fragment of regular expressions that log scrapers use: a sequence of
items, each one character of a class or a greedy `+` repetition of a class.
A match records the text each item took, so a capture group is the text of a
range of items.

* `matchHere` — a match starting at the first character, with the backtracking
  order of a Perl-style engine: a repetition takes as much as it can and gives
  characters back one at a time;
* `search` — the leftmost match;
* `globalMatch` — the matches found one after the other, each search starting
  where the previous match ended.

`matchHere_literal`, `greedyPlus_stop` and `search_here` find a match;
`matchHere_sound` says that a match is the beginning of the text.
-/

namespace Pattern

/-- One character of a class, or one or more of them. -/
inductive Item where
  | one (p : Char → Bool)
  | plus (p : Char → Bool)

/-- A match: the text each item took, and what is left of the input. -/
abbrev Found := List (List Char) × List Char

/-- One or more characters of the class, as many as the continuation `k`
allows. -/
def greedyPlus {α : Type*} (p : Char → Bool) (k : List Char → Option α) :
    List Char → Option (List Char × α)
  | [] => none
  | c :: cs =>
    if p c then
      match greedyPlus p k cs with
      | some (taken, found) => some (c :: taken, found)
      | none => (k cs).map fun found => ([c], found)
    else none

/-- The match that starts at the first character. -/
def matchHere : List Item → List Char → Option Found
  | [], cs => some ([], cs)
  | .one p :: items, cs =>
    match cs with
    | [] => none
    | c :: cs =>
      if p c then (matchHere items cs).map fun found => ([c] :: found.1, found.2) else none
  | .plus p :: items, cs =>
    (greedyPlus p (matchHere items) cs).map fun taken => (taken.1 :: taken.2.1, taken.2.2)

/-- The leftmost match. -/
def search (items : List Item) : List Char → Option Found
  | [] => matchHere items []
  | c :: cs =>
    match matchHere items (c :: cs) with
    | some found => some found
    | none => search items cs

/-- At most `fuel` matches, one after the other. -/
def globalMatchUpTo (items : List Item) : Nat → List Char → List (List (List Char))
  | 0, _ => []
  | fuel + 1, cs =>
    match search items cs with
    | none => []
    | some (pieces, rest) => pieces :: globalMatchUpTo items fuel rest

/-- All matches, one after the other. A match of a nonempty pattern takes at
least one character, so there are no more of them than characters. -/
def globalMatch (items : List Item) (cs : List Char) : List (List (List Char)) :=
  globalMatchUpTo items cs.length cs

/-- The items of a literal text. -/
def literal (s : String) : List Item := s.toList.map fun c => .one (· == c)

/-- Whether the text `needle` occurs in `text`. -/
def contains (needle text : String) : Bool := (search (literal needle) text.toList).isSome

/-- Any character but a line break. -/
def dot : Item := .one (· != '\n')

-- ---------------------------------------------------------------------------
-- Finding a match
-- ---------------------------------------------------------------------------

/-- A repetition takes all there is where the rest of the pattern matches
after it. -/
theorem greedyPlus_stop {α : Type*} {p : Char → Bool} {k : List Char → Option α}
    {taken rest : List Char} {found : α} (hSome : taken ≠ []) (hTaken : ∀ c ∈ taken, p c = true)
    (hStop : ∀ c ∈ rest.head?, p c = false) (hRest : k rest = some found) :
    greedyPlus p k (taken ++ rest) = some (taken, found) := by
  have hNone : greedyPlus p k rest = none := by
    cases rest with
    | nil => rfl
    | cons c rest => simp [greedyPlus, hStop c rfl]
  induction taken with
  | nil => exact absurd rfl hSome
  | cons c taken ih =>
    have hc : p c = true := hTaken c List.mem_cons_self
    rw [List.cons_append, greedyPlus, if_pos hc]
    cases taken with
    | nil =>
      rw [List.nil_append, hNone, hRest]
      rfl
    | cons d taken => rw [ih (List.cons_ne_nil _ _) fun x hx => hTaken x (List.mem_cons_of_mem _ hx)]

/-- A repetition at the end of a pattern takes all there is. -/
theorem greedyPlus_end {p : Char → Bool} {taken rest : List Char} (hSome : taken ≠ [])
    (hTaken : ∀ c ∈ taken, p c = true) (hStop : ∀ c ∈ rest.head?, p c = false) :
    greedyPlus p (matchHere []) (taken ++ rest) = some (taken, ([], rest)) :=
  greedyPlus_stop hSome hTaken hStop rfl

/-- A literal matches itself. -/
theorem matchHere_literal (s : String) (items : List Item) (cs : List Char) :
    matchHere (literal s ++ items) (s.toList ++ cs) =
      (matchHere items cs).map fun found => (s.toList.map ([·]) ++ found.1, found.2) := by
  have hChars : ∀ text : List Char,
      matchHere ((text.map fun c => Item.one (· == c)) ++ items) (text ++ cs) =
        (matchHere items cs).map fun found => (text.map ([·]) ++ found.1, found.2) := by
    intro text
    induction text with
    | nil => simp
    | cons c text ih =>
      rw [List.map_cons, List.cons_append, List.cons_append, matchHere, if_pos (beq_self_eq_true c),
        ih, Option.map_map]
      rfl
  exact hChars s.toList

/-- A match at the first character is the leftmost. -/
theorem search_here {items : List Item} {cs : List Char} {found : Found}
    (h : matchHere items cs = some found) : search items cs = some found := by
  cases cs with
  | nil => exact h
  | cons c cs => rw [search, h]

-- ---------------------------------------------------------------------------
-- Matches are pieces of the text
-- ---------------------------------------------------------------------------

theorem greedyPlus_sound {α : Type*} {p : Char → Bool} {k : List Char → Option α} {cs : List Char}
    {taken : List Char} {found : α} (h : greedyPlus p k cs = some (taken, found)) :
    ∃ rest, cs = taken ++ rest ∧ k rest = some found := by
  induction cs generalizing taken with
  | nil => simp [greedyPlus] at h
  | cons c cs ih =>
    rw [greedyPlus] at h
    split at h
    · split at h
      · rename_i taken' found' hMore
        obtain ⟨rfl, rfl⟩ : c :: taken' = taken ∧ found' = found := by simpa using h
        obtain ⟨rest, hSplit, hFound⟩ := ih hMore
        exact ⟨rest, by rw [hSplit]; rfl, hFound⟩
      · obtain ⟨found', hFound, hEq⟩ := Option.map_eq_some_iff.mp h
        obtain ⟨rfl, rfl⟩ : [c] = taken ∧ found' = found := by simpa using hEq
        exact ⟨cs, rfl, hFound⟩
    · simp at h

theorem matchHere_sound {items : List Item} {cs : List Char} {pieces : List (List Char)}
    {rest : List Char} (h : matchHere items cs = some (pieces, rest)) :
    cs = pieces.flatten ++ rest := by
  induction items generalizing cs pieces with
  | nil =>
    obtain ⟨rfl, rfl⟩ : [] = pieces ∧ cs = rest := by simpa [matchHere] using h
    rfl
  | cons item items ih =>
    cases item with
    | one p =>
      cases cs with
      | nil => simp [matchHere] at h
      | cons c cs =>
        rw [matchHere] at h
        split at h
        · obtain ⟨found, hFound, hEq⟩ := Option.map_eq_some_iff.mp h
          obtain ⟨rfl, rfl⟩ : [c] :: found.1 = pieces ∧ found.2 = rest := by simpa using hEq
          rw [List.flatten_cons, List.append_assoc, ← ih hFound]
          rfl
        · simp at h
    | plus p =>
      rw [matchHere] at h
      obtain ⟨⟨taken, found⟩, hTaken, hEq⟩ := Option.map_eq_some_iff.mp h
      obtain ⟨rfl, rfl⟩ : taken :: found.1 = pieces ∧ found.2 = rest := by simpa using hEq
      obtain ⟨rest', hSplit, hFound⟩ := greedyPlus_sound hTaken
      rw [List.flatten_cons, List.append_assoc, ← ih hFound, hSplit]

end Pattern
