import VxlanMtd.Lib.Pattern
import Mathlib.Data.List.Forall2

/-!
# What a global search captures

* `Matches` — the pieces a pattern can be taken apart into, whatever the order
  of backtracking (`matchHere_matches`);
* `Reads` — a text that a pattern takes apart in one way, whatever follows;
* `Tries` — the places where a global search looks for a match: after every
  character up to a match, and again after the match;
* **`mem_globalMatch_iff`** — the matches of a global search are those at the
  places it tries, and `tries_or_inside` says that every other place is inside
  one of them.
-/

namespace Pattern

/-- The pieces an item can take. -/
def Item.Takes : Item → List Char → Prop
  | .one p, piece => ∃ c, piece = [c] ∧ p c = true
  | .plus p, piece => piece ≠ [] ∧ ∀ c ∈ piece, p c = true

/-- A piece for every item. -/
def Matches (items : List Item) (pieces : List (List Char)) : Prop :=
  List.Forall₂ Item.Takes items pieces

variable {items later : List Item} {p : Char → Bool} {c : Char} {text cs cs' rest taken : List Char}
  {pieces pieces' : List (List Char)} {found : Found}

-- ---------------------------------------------------------------------------
-- Pieces
-- ---------------------------------------------------------------------------

/-- A repetition takes characters of its class, at least one. -/
theorem greedyPlus_takes {α : Type*} {k : List Char → Option α} {result : α}
    (h : greedyPlus p k cs = some (taken, result)) : (Item.plus p).Takes taken := by
  induction cs generalizing taken with
  | nil => simp [greedyPlus] at h
  | cons c cs ih =>
    rw [greedyPlus] at h
    split at h
    · rename_i hc
      split at h
      · rename_i taken' result' hMore
        obtain ⟨rfl, rfl⟩ : c :: taken' = taken ∧ result' = result := by simpa using h
        refine ⟨List.cons_ne_nil _ _, fun x hx => ?_⟩
        rcases List.mem_cons.mp hx with rfl | hx
        · exact hc
        · exact (ih hMore).2 x hx
      · obtain ⟨result', -, hEq⟩ := Option.map_eq_some_iff.mp h
        obtain ⟨rfl, -⟩ : [c] = taken ∧ result' = result := by simpa using hEq
        exact ⟨List.cons_ne_nil _ _, fun x hx => List.mem_singleton.mp hx ▸ hc⟩
    · simp at h

/-- A match has a piece for every item. -/
theorem matchHere_matches (h : matchHere items cs = some (pieces, rest)) : Matches items pieces := by
  induction items generalizing cs pieces with
  | nil =>
    obtain ⟨rfl, -⟩ : [] = pieces ∧ cs = rest := by simpa [matchHere] using h
    exact .nil
  | cons item items ih =>
    cases item with
    | one p =>
      cases cs with
      | nil => simp [matchHere] at h
      | cons c cs =>
        rw [matchHere] at h
        split at h
        · rename_i hc
          obtain ⟨found, hFound, hEq⟩ := Option.map_eq_some_iff.mp h
          obtain ⟨rfl, rfl⟩ : [c] :: found.1 = pieces ∧ found.2 = rest := by simpa using hEq
          exact .cons ⟨c, rfl, hc⟩ (ih hFound)
        · simp at h
    | plus p =>
      rw [matchHere] at h
      obtain ⟨⟨taken, found⟩, hTaken, hEq⟩ := Option.map_eq_some_iff.mp h
      obtain ⟨rfl, rfl⟩ : taken :: found.1 = pieces ∧ found.2 = rest := by simpa using hEq
      obtain ⟨rest', -, hFound⟩ := greedyPlus_sound hTaken
      exact .cons (greedyPlus_takes hTaken) (ih hFound)

/-- No item takes nothing. -/
theorem Item.Takes.ne_nil {item : Item} {piece : List Char} (h : item.Takes piece) : piece ≠ [] := by
  cases item with
  | one p =>
    obtain ⟨c, rfl, -⟩ := h
    exact List.cons_ne_nil _ _
  | plus p => exact h.1

/-- A match of a nonempty pattern is not empty. -/
theorem flatten_ne_nil (h : Matches items pieces) (hItems : items ≠ []) : pieces.flatten ≠ [] := by
  cases h with
  | nil => exact absurd rfl hItems
  | cons hPiece _ =>
    rw [List.flatten_cons]
    exact List.append_ne_nil_of_left_ne_nil hPiece.ne_nil _

/-- A match of two patterns in a row is a match of each. -/
theorem matches_append : Matches (items ++ later) pieces ↔
    ∃ front back, pieces = front ++ back ∧ Matches items front ∧ Matches later back := by
  constructor
  · intro h
    induction items generalizing pieces with
    | nil => exact ⟨[], pieces, rfl, .nil, h⟩
    | cons item items ih =>
      cases h with
      | @cons _ piece _ pieces hPiece hRest =>
        obtain ⟨front, back, rfl, hFront, hBack⟩ := ih hRest
        exact ⟨piece :: front, back, rfl, .cons hPiece hFront, hBack⟩
  · rintro ⟨front, back, rfl, hFront, hBack⟩
    exact List.rel_append hFront hBack

/-- A literal matches itself only. -/
theorem matches_literal {s : String} (h : Matches (literal s) pieces) :
    pieces.flatten = s.toList := by
  have hChars : ∀ (text : List Char) (pieces : List (List Char)),
      Matches (text.map fun c => Item.one (· == c)) pieces → pieces.flatten = text := by
    intro text
    induction text with
    | nil =>
      rintro _ ⟨⟩
      rfl
    | cons c text ih =>
      rintro _ (_ | ⟨⟨d, rfl, hd⟩, hRest⟩)
      rw [List.flatten_cons, ih _ hRest, beq_iff_eq.mp hd]
      rfl
  exact hChars s.toList pieces h

-- ---------------------------------------------------------------------------
-- Reading in one way
-- ---------------------------------------------------------------------------

/-- The pattern takes the text apart into these pieces, whatever follows. -/
def Reads (items : List Item) (text : List Char) (pieces : List (List Char)) : Prop :=
  ∀ later cs found, matchHere later cs = some found →
    matchHere (items ++ later) (text ++ cs) = some (pieces ++ found.1, found.2)

/-- Two patterns in a row read two texts in a row. -/
theorem Reads.append {text' : List Char} (h : Reads items text pieces)
    (h' : Reads later text' pieces') : Reads (items ++ later) (text ++ text') (pieces ++ pieces') := by
  intro last cs found hFound
  rw [List.append_assoc, List.append_assoc, h _ _ _ (h' _ _ _ hFound), List.append_assoc]

theorem reads_one (hc : p c = true) : Reads [.one p] [c] [[c]] := by
  intro later cs found hFound
  rw [List.singleton_append, List.singleton_append, matchHere, if_pos hc, hFound]
  rfl

theorem reads_literal (s : String) : Reads (literal s) s.toList (s.toList.map ([·])) := by
  intro later cs found hFound
  rw [matchHere_literal, hFound]
  rfl

/-- A repetition before another character takes all there is. -/
theorem reads_plus {r : Char → Bool} (hSome : taken ≠ []) (hTaken : ∀ x ∈ taken, p x = true)
    (hStop : p c = false) (hc : r c = true) :
    Reads [.plus p, .one r] (taken ++ [c]) [taken, [c]] := by
  intro later cs found hFound
  have hRest : matchHere (.one r :: later) (c :: cs) = some ([c] :: found.1, found.2) := by
    rw [matchHere, if_pos hc, hFound]
    rfl
  have hNext : ∀ x ∈ (c :: cs).head?, p x = false := by
    intro x hx
    rwa [← Option.some_inj.mp hx]
  have hGreedy := greedyPlus_stop hSome hTaken hNext hRest
  rw [List.append_assoc, List.singleton_append, List.cons_append, matchHere]
  exact (congrArg _ hGreedy).trans rfl

/-- A repetition at the end finds one character enough. -/
theorem exists_matchHere_plus (hc : p c = true) (cs : List Char) :
    ∃ last rest, matchHere [.plus p] (c :: cs) = some ([last], rest) := by
  have hSome : (c :: cs).takeWhile p ≠ [] := by simp [hc]
  have hTaken : ∀ x ∈ (c :: cs).takeWhile p, p x = true := List.all_eq_true.mp List.all_takeWhile
  have hStop : ∀ x ∈ ((c :: cs).dropWhile p).head?, p x = false := by
    intro x hx
    have hNot := List.head?_dropWhile_not p (c :: cs)
    rw [Option.mem_def.mp hx] at hNot
    simpa using hNot
  have hGreedy := greedyPlus_end hSome hTaken hStop
  rw [List.takeWhile_append_dropWhile] at hGreedy
  refine ⟨(c :: cs).takeWhile p, (c :: cs).dropWhile p, ?_⟩
  rw [matchHere]
  exact (congrArg _ hGreedy).trans rfl

/-- What is read is a match. -/
theorem Reads.matches (h : Reads items text pieces) : Matches items pieces := by
  have hAlone := h [] [] ([], []) rfl
  rw [List.append_nil, List.append_nil, List.append_nil] at hAlone
  exact matchHere_matches hAlone

-- ---------------------------------------------------------------------------
-- Where a global search looks
-- ---------------------------------------------------------------------------

/-- A global search of the first text looks for a match at the second. -/
inductive Tries (items : List Item) : List Char → List Char → Prop
  | here (cs : List Char) : Tries items cs cs
  | next {c : Char} {cs cs' : List Char} (hNone : matchHere items (c :: cs) = none)
      (h : Tries items cs cs') : Tries items (c :: cs) cs'
  | after {cs rest cs' : List Char} {pieces : List (List Char)}
      (hFound : matchHere items cs = some (pieces, rest)) (h : Tries items rest cs') :
      Tries items cs cs'

/-- Attempts go on to the right. -/
theorem Tries.suffix (h : Tries items cs cs') : cs' <:+ cs := by
  induction h with
  | here cs => exact List.suffix_refl cs
  | next _ _ ih => exact ih.trans (List.suffix_cons _ _)
  | after hFound _ ih =>
    rw [matchHere_sound hFound]
    exact ih.trans (List.suffix_append _ _)

theorem Tries.trans {cs'' : List Char} (h : Tries items cs cs') (h' : Tries items cs' cs'') :
    Tries items cs cs'' := by
  induction h with
  | here cs => exact h'
  | next hNone _ ih => exact .next hNone (ih h')
  | after hFound _ ih => exact .after hFound (ih h')

/-- A search tries the places before the match it finds. -/
theorem tries_search (h : search items cs = some (pieces, rest)) :
    ∃ place, Tries items cs place ∧ matchHere items place = some (pieces, rest) := by
  induction cs with
  | nil => exact ⟨[], .here [], h⟩
  | cons c cs ih =>
    rw [search] at h
    cases hFound : matchHere items (c :: cs) with
    | some found =>
      rw [hFound] at h
      exact ⟨c :: cs, .here _, hFound.trans h⟩
    | none =>
      rw [hFound] at h
      obtain ⟨place, hTries, hMatch⟩ := ih h
      exact ⟨place, .next hFound hTries, hMatch⟩

/-- The second text begins inside a match of a global search of the first. -/
def Inside (items : List Item) (cs cs' : List Char) : Prop :=
  ∃ place pieces rest front, Tries items cs place ∧ matchHere items place = some (pieces, rest) ∧
    place = front ++ cs' ∧ front ≠ [] ∧ front.length < pieces.flatten.length

/-- The rest after a match is shorter. -/
theorem length_rest_lt (hItems : items ≠ []) (h : matchHere items cs = some (pieces, rest)) :
    rest.length < cs.length := by
  have hSome := List.length_pos_of_ne_nil (flatten_ne_nil (matchHere_matches h) hItems)
  rw [matchHere_sound h, List.length_append]
  omega

/-- **Every place is tried, or inside a match.** -/
theorem tries_or_inside (hItems : items ≠ []) (h : cs' <:+ cs) :
    Tries items cs cs' ∨ Inside items cs cs' := by
  induction hLength : cs.length using Nat.strongRecOn generalizing cs with
  | _ k ih =>
    by_cases hSame : cs' = cs
    · exact Or.inl (hSame ▸ .here _)
    cases hFound : matchHere items cs with
    | none =>
      obtain ⟨front, rfl⟩ := h
      cases front with
      | nil => exact absurd rfl hSame
      | cons c front =>
        have hShorter : (front ++ cs').length < k := by
          rw [← hLength, List.cons_append, List.length_cons]
          omega
        rcases ih _ hShorter (List.suffix_append _ _) rfl with hTries | ⟨place, pieces, rest, inner,
          hTries, hRest⟩
        · exact Or.inl (.next hFound hTries)
        · exact Or.inr ⟨place, pieces, rest, inner, .next hFound hTries, hRest⟩
    | some found =>
      obtain ⟨pieces, rest⟩ := found
      have hSplit := matchHere_sound hFound
      rcases Nat.lt_or_ge rest.length cs'.length with hInside | hLater
      · obtain ⟨front, hFront⟩ := h
        refine Or.inr ⟨cs, pieces, rest, front, .here _, hFound, hFront.symm, ?_, ?_⟩
        · rintro rfl
          exact hSame hFront
        · have hLengths := congrArg List.length (hFront.trans hSplit)
          rw [List.length_append, List.length_append] at hLengths
          omega
      · have hSuffix : cs' <:+ rest :=
          List.suffix_of_suffix_length_le h (hSplit ▸ List.suffix_append _ _) hLater
        have hShorter : rest.length < k := hLength ▸ length_rest_lt hItems hFound
        rcases ih _ hShorter hSuffix rfl with hTries | ⟨place, pieces', rest', inner, hTries, hRest⟩
        · exact Or.inl (.after hFound hTries)
        · exact Or.inr ⟨place, pieces', rest', inner, .after hFound hTries, hRest⟩

/-- **What a global search finds**: the matches where it tries. -/
theorem mem_globalMatch_iff (hItems : items ≠ []) :
    pieces ∈ globalMatch items cs ↔
      ∃ place rest, Tries items cs place ∧ matchHere items place = some (pieces, rest) := by
  have hFinds : ∀ fuel cs, pieces ∈ globalMatchUpTo items fuel cs →
      ∃ place rest, Tries items cs place ∧ matchHere items place = some (pieces, rest) := by
    intro fuel
    induction fuel with
    | zero => exact fun cs hMem => absurd hMem List.not_mem_nil
    | succ fuel ih =>
      intro cs hMem
      rw [globalMatchUpTo] at hMem
      split at hMem
      · exact absurd hMem List.not_mem_nil
      · rename_i first rest hSearch
        obtain ⟨place, hTries, hMatch⟩ := tries_search hSearch
        rcases List.mem_cons.mp hMem with rfl | hLater
        · exact ⟨place, rest, hTries, hMatch⟩
        · obtain ⟨place', rest', hTries', hMatch'⟩ := ih rest hLater
          exact ⟨place', rest', hTries.trans (.after hMatch hTries'), hMatch'⟩
  have hFound : ∀ {place rest}, Tries items cs place → matchHere items place = some (pieces, rest) →
      ∀ fuel, cs.length ≤ fuel → pieces ∈ globalMatchUpTo items fuel cs := by
    intro place rest hTries hMatch
    induction hTries with
    | here cs =>
      intro fuel hFuel
      obtain ⟨fuel, rfl⟩ : ∃ n, fuel = n + 1 :=
        ⟨fuel - 1, by have := length_rest_lt hItems hMatch; omega⟩
      rw [globalMatchUpTo, search_here hMatch]
      exact List.mem_cons_self
    | @next c cs _ hNone _ ih =>
      intro fuel hFuel
      rw [List.length_cons] at hFuel
      obtain ⟨fuel, rfl⟩ : ∃ n, fuel = n + 1 := ⟨fuel - 1, by omega⟩
      have hLater := ih hMatch (fuel + 1) (by omega)
      have hSearch : search items (c :: cs) = search items cs := by rw [search, hNone]
      rw [globalMatchUpTo] at hLater ⊢
      rwa [hSearch]
    | after hFirst _ ih =>
      intro fuel hFuel
      have hShorter := length_rest_lt hItems hFirst
      obtain ⟨fuel, rfl⟩ : ∃ n, fuel = n + 1 := ⟨fuel - 1, by omega⟩
      rw [globalMatchUpTo, search_here hFirst]
      exact List.mem_cons_of_mem _ (ih hMatch fuel (by omega))
  constructor
  · exact hFinds cs.length cs
  · rintro ⟨place, rest, hTries, hMatch⟩
    exact hFound hTries hMatch cs.length (Nat.le_refl _)

end Pattern
