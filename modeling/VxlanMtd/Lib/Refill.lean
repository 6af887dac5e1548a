import VxlanMtd.Lib.Template

/-!
# Chains of `arg` calls, exactly

`foldl_arg_stopped` says that a chain of `arg` calls fills a template in when
no value has a marker a later call could take for the template's. Here is what
a chain does otherwise.

* `Template.fill` — one call on the values filled in so far: it replaces the
  lowest marker, wherever that is (`arg_render_fill`, `foldl_arg_render`);
* `standing_foldl` — a call that does not reach the marker of its own number
  leaves the last marker of the template where it was;
* **`markers_of_kept`** — so if the last marker is gone, a value that is still
  what it was, and is followed by values without `%`, has no marker the later
  calls look for; `foldl_fill_of_plain`: a value without `%` is in its place.
-/

namespace PlaceMarker

-- ---------------------------------------------------------------------------
-- One piece
-- ---------------------------------------------------------------------------

/-- A text with its markers numbered `k` replaced by `value`. -/
def replaced (k : Nat) (value cs : List Char) : List Char :=
  (tokens 0 cs).flatMap (Token.expand k value)

theorem replaced_of_notMem {k : Nat} {cs : List Char} (h : k ∉ markers cs) (value : List Char) :
    replaced k value cs = cs := expand_tokens value 0 cs h

theorem markers_markerText {k : Nat} (hk : k < 10) : markers (markerText k) = [k] := by
  rw [markers, tokens_markerText hk]
  rfl

theorem replaced_markerText {k : Nat} (hk : k < 10) (value : List Char) :
    replaced k value (markerText k) = value := by
  rw [replaced, tokens_markerText hk, List.flatMap_singleton, Token.expand, if_pos rfl]

/-- The characters of a text with markers replaced come from the text or the
value. -/
theorem mem_replaced {k : Nat} {value : List Char} {c : Char} :
    ∀ (skip : Nat) (cs : List Char), c ∈ (tokens skip cs).flatMap (Token.expand k value) →
      c ∈ cs ∨ c ∈ value
  | skip, [], h => by cases skip <;> simp [tokens] at h
  | skip + 1, d :: cs, h => (mem_replaced skip cs h).imp_left (List.mem_cons_of_mem d)
  | 0, d :: cs, h => by
    rw [tokens] at h
    by_cases hd : d = '%'
    · rw [if_pos hd] at h
      cases hEscape : escapeAt cs with
      | none =>
        simp only [hEscape, List.flatMap_cons, Token.expand, List.mem_append,
          List.mem_singleton] at h
        rcases h with rfl | h
        · exact Or.inl List.mem_cons_self
        · exact (mem_replaced 0 cs h).imp_left (List.mem_cons_of_mem d)
      | some marker =>
        simp only [hEscape, List.flatMap_cons, Token.expand, List.mem_append] at h
        rcases h with h | h
        · split at h
          · exact Or.inr h
          · rcases List.mem_cons.mp h with rfl | h
            · exact Or.inl (hd ▸ List.mem_cons_self)
            · exact Or.inl (List.mem_cons_of_mem d (List.mem_of_mem_take h))
        · exact (mem_replaced marker.2 cs h).imp_left (List.mem_cons_of_mem d)
    · rw [if_neg hd, List.flatMap_cons, Token.expand, List.singleton_append] at h
      rcases List.mem_cons.mp h with rfl | h
      · exact Or.inl List.mem_cons_self
      · exact (mem_replaced 0 cs h).imp_left (List.mem_cons_of_mem d)

/-- A value without `%` takes at least the `%` of each marker it replaces. -/
theorem count_replaced (k : Nat) {value : List Char} (hValue : '%' ∉ value) :
    ∀ (skip : Nat) (cs : List Char),
      ((tokens skip cs).flatMap (Token.expand k value)).count '%' +
        ((tokens skip cs).filterMap Token.number?).count k ≤ (cs.drop skip).count '%'
  | skip, [] => by cases skip <;> simp [tokens]
  | skip + 1, _ :: cs => count_replaced k hValue skip cs
  | 0, d :: cs => by
    rw [tokens]
    by_cases hd : d = '%'
    · rw [if_pos hd]
      cases hEscape : escapeAt cs with
      | none =>
        have hRest := count_replaced k hValue 0 cs
        simp only [List.flatMap_cons, List.filterMap_cons, Token.expand, Token.number?,
          List.count_append, List.drop_zero, hd, List.count_cons_self, List.count_nil] at hRest ⊢
        omega
      | some marker =>
        have hRest := count_replaced k hValue marker.2 cs
        have hSplit : (cs.take marker.2).count '%' + (cs.drop marker.2).count '%' =
            cs.count '%' := by rw [← List.count_append, List.take_append_drop]
        have hNone : value.count '%' = 0 := List.count_eq_zero.mpr hValue
        simp only [List.flatMap_cons, List.filterMap_cons, Token.expand, Token.number?,
          List.count_append, List.drop_zero, hd, List.count_cons_self]
        by_cases hk : marker.1 = k
        · rw [if_pos hk, hk, List.count_cons_self]
          omega
        · rw [if_neg hk, List.count_cons_self, List.count_cons_of_ne hk]
          omega
    · have hRest := count_replaced k hValue 0 cs
      rw [if_neg hd]
      simp only [List.flatMap_cons, List.filterMap_cons, Token.expand, Token.number?,
        List.count_append, List.drop_zero] at hRest ⊢
      have hOne : [d].count '%' = 0 := List.count_eq_zero.mpr (by simpa using Ne.symm hd)
      have hCons : (d :: cs).count '%' = cs.count '%' := List.count_cons_of_ne hd
      omega

theorem count_replaced_le {k : Nat} {value : List Char} (hValue : '%' ∉ value) (cs : List Char) :
    (replaced k value cs).count '%' + (markers cs).count k ≤ cs.count '%' :=
  count_replaced k hValue 0 cs

-- ---------------------------------------------------------------------------
-- The pieces of a template
-- ---------------------------------------------------------------------------

namespace Template

variable {t : Template} {f : Nat → List Char} {i : Nat}

/-- The numbers of the template's own markers. -/
def numbers (t : Template) : List Nat := t.tail.map Prod.fst

/-- The markers in a template whose markers are filled in by `f`. -/
def markersIn (t : Template) (f : Nat → List Char) : List Nat :=
  t.numbers.flatMap fun n => markers (f n)

/-- One `arg` call on the pieces: the lowest marker is replaced in each. -/
def fill (t : Template) (f : Nat → List Char) (value : List Char) : Nat → List Char :=
  match (t.markersIn f).min? with
  | none => f
  | some k => fun n => replaced k value (f n)

theorem fill_of_lowest {k : Nat} (h : (t.markersIn f).min? = some k) (value : List Char) :
    t.fill f value = fun n => replaced k value (f n) := by
  rw [fill, h]

/-- A call changes nothing, or replaces one number in every piece. -/
theorem fill_cases (t : Template) (f : Nat → List Char) (value : List Char) :
    t.fill f value = f ∨ ∃ k, ∀ n, t.fill f value n = replaced k value (f n) := by
  unfold fill
  cases (t.markersIn f).min? with
  | none => exact Or.inl rfl
  | some k => exact Or.inr ⟨k, fun _ => rfl⟩

theorem markers_render (h : t.Ok) (hStop : t.Stopped) (f : Nat → List Char) :
    markers (t.render f).toList = t.markersIn f := by
  rw [markers, tokens_render h hStop, List.filterMap_append, numbers_map_lit, List.nil_append,
    markersIn, numbers, List.filterMap_flatMap, List.flatMap_map]
  refine List.flatMap_congr fun m _ => ?_
  rw [List.filterMap_append, numbers_map_lit, List.append_nil]
  rfl

/-- **One call acts on each piece by itself.** -/
theorem arg_render_fill (h : t.Ok) (hStop : t.Stopped) (f : Nat → List Char) (value : String) :
    arg (t.render f) value = t.render (t.fill f value.toList) := by
  have hLow : PlaceMarker.lowest (tokens 0 (t.render f).toList) = (t.markersIn f).min? := by
    rw [← markers_render h hStop]
    rfl
  rw [arg, hLow]
  cases hMin : (t.markersIn f).min? with
  | none =>
    rw [fill, hMin]
  | some k =>
    rw [fill_of_lowest hMin]
    dsimp only
    rw [tokens_render h hStop, List.flatMap_append, expand_map_lit, List.flatMap_assoc, render]
    congr 2
    refine List.flatMap_congr fun m _ => ?_
    rw [List.flatMap_append, expand_map_lit]
    rfl

/-- The pieces after a chain of calls. -/
theorem foldl_arg_render (h : t.Ok) (hStop : t.Stopped) (values : List String)
    (f : Nat → List Char) :
    values.foldl arg (t.render f) = t.render ((values.map String.toList).foldl t.fill f) := by
  induction values generalizing f with
  | nil => rfl
  | cons value values ih =>
    rw [List.foldl_cons, arg_render_fill h hStop, ih, List.map_cons, List.foldl_cons]

-- ---------------------------------------------------------------------------
-- What a chain keeps
-- ---------------------------------------------------------------------------

/-- A character of neither a piece nor a value does not get into the piece. -/
theorem foldl_fill_free {c : Char} {n : Nat} {values : List (List Char)} (hPiece : c ∉ f n)
    (hValues : ∀ v ∈ values, c ∉ v) : c ∉ values.foldl t.fill f n := by
  induction values generalizing f with
  | nil => exact hPiece
  | cons v values ih =>
    refine ih ?_ fun w hw => hValues w (List.mem_cons_of_mem _ hw)
    rcases t.fill_cases f v with hSame | ⟨k, hFill⟩
    · rwa [hSame]
    · rw [hFill]
      exact fun hIn => (mem_replaced 0 (f n) hIn).elim hPiece (hValues v List.mem_cons_self)

/-- A piece without `%` stays. -/
theorem foldl_fill_plain {n : Nat} (hPiece : '%' ∉ f n) (values : List (List Char)) :
    values.foldl t.fill f n = f n := by
  induction values generalizing f with
  | nil => rfl
  | cons v values ih =>
    have hStep : t.fill f v n = f n := by
      rcases t.fill_cases f v with hSame | ⟨k, hFill⟩
      · rw [hSame]
      · rw [hFill]
        refine replaced_of_notMem ?_ v
        rw [markers_of_notMem hPiece]
        exact List.not_mem_nil
    rw [List.foldl_cons, ih (hStep ▸ hPiece), hStep]

/-- Values without `%` bring none into a piece. -/
theorem count_foldl_fill {n : Nat} {values : List (List Char)} (hValues : ∀ v ∈ values, '%' ∉ v) :
    (values.foldl t.fill f n).count '%' ≤ (f n).count '%' := by
  induction values generalizing f with
  | nil => exact Nat.le_refl _
  | cons v values ih =>
    refine Nat.le_trans (ih fun w hw => hValues w (List.mem_cons_of_mem _ hw)) ?_
    rcases t.fill_cases f v with hSame | ⟨k, hFill⟩
    · exact Nat.le_of_eq (congrArg (fun g => (g n).count '%') hSame)
    · have hCount := @count_replaced_le k v (hValues v List.mem_cons_self) (f n)
      rw [hFill]
      omega

/-- The markers from `i` on still stand. -/
def Standing (t : Template) (f : Nat → List Char) (i : Nat) : Prop :=
  ∀ n ∈ t.numbers, i ≤ n → f n = markerText n

/-- A standing marker bounds the lowest one. -/
theorem Standing.lowest_le (hOk : t.Ok) (h : t.Standing f i) (hMem : i ∈ t.numbers) :
    ∃ k ≤ i, (t.markersIn f).min? = some k := by
  have hIn : i ∈ t.markersIn f := by
    refine List.mem_flatMap.mpr ⟨i, hMem, ?_⟩
    rw [h i hMem (Nat.le_refl i), markers_markerText (hOk.tail_ok.lt_ten i hMem)]
    exact List.mem_singleton_self i
  obtain ⟨k, hk⟩ := Option.isSome_iff_exists.mp (List.isSome_min?_of_mem hIn)
  exact ⟨k, (List.min?_eq_some_iff.mp hk).2 i hIn, hk⟩

/-- One call leaves the markers above the one it may reach. -/
theorem Standing.fill (hOk : t.Ok) (h : t.Standing f i) (hMem : i ∈ t.numbers)
    (value : List Char) : t.Standing (t.fill f value) (i + 1) := by
  obtain ⟨k, hk, hMin⟩ := h.lowest_le hOk hMem
  intro n hn hLe
  rw [fill_of_lowest hMin]
  dsimp only
  rw [h n hn (by omega)]
  refine replaced_of_notMem ?_ value
  rw [markers_markerText (hOk.tail_ok.lt_ten n hn), List.mem_singleton]
  omega

/-- **A chain that lags behind** leaves the last marker. -/
theorem standing_foldl (hOk : t.Ok) {values : List (List Char)} (h : t.Standing f i)
    (hMem : ∀ n, i ≤ n → n < i + values.length → n ∈ t.numbers) :
    t.Standing (values.foldl t.fill f) (i + values.length) := by
  induction values generalizing f i with
  | nil => exact h
  | cons v values ih =>
    rw [List.length_cons] at hMem ⊢
    have hNext := ih (h.fill hOk (hMem i (Nat.le_refl i) (by omega)) v)
      fun n hLe hLt => hMem n (by omega) (by omega)
    rwa [Nat.add_assoc, Nat.add_comm 1] at hNext

/-- If the last marker is gone in the end, the next call replaces the marker of
its own number. -/
theorem Standing.lowest_eq (hOk : t.Ok) {v : List Char} {values : List (List Char)}
    (h : t.Standing f (i + 1))
    (hMem : ∀ n, i < n → n ≤ i + (values.length + 1) → n ∈ t.numbers)
    (hLast : (v :: values).foldl t.fill f (i + (values.length + 1)) ≠
      markerText (i + (values.length + 1))) :
    (t.markersIn f).min? = some (i + 1) := by
  obtain ⟨k, hk, hMin⟩ := h.lowest_le hOk (hMem (i + 1) (by omega) (by omega))
  rcases Nat.lt_or_eq_of_le hk with hLow | rfl
  · -- a lower marker is replaced, so all of the template's still stand
    have hStanding : t.Standing (t.fill f v) (i + 1) := by
      intro n hn hLe
      rw [fill_of_lowest hMin]
      dsimp only
      rw [h n hn hLe]
      refine replaced_of_notMem ?_ v
      rw [markers_markerText (hOk.tail_ok.lt_ten n hn), List.mem_singleton]
      omega
    have hRest : ∀ n, i + 1 ≤ n → n < i + 1 + values.length → n ∈ t.numbers :=
      fun n hLe hLt => hMem n (by omega) (by omega)
    have hEnd := standing_foldl hOk hStanding hRest
    exact absurd (hEnd _ (hMem _ (by omega) (Nat.le_refl _)) (by omega)) hLast
  · exact hMin

/-- The next call then fills in its own marker. -/
theorem Standing.fill_self (hOk : t.Ok) (h : t.Standing f (i + 1)) (hMem : i + 1 ∈ t.numbers)
    (hMin : (t.markersIn f).min? = some (i + 1)) (value : List Char) :
    t.fill f value (i + 1) = value := by
  rw [fill_of_lowest hMin]
  dsimp only
  rw [h (i + 1) hMem (Nat.le_refl _), replaced_markerText (hOk.tail_ok.lt_ten _ hMem)]

/-- **A value without `%`** is in its place in the end, if the last marker is
gone. -/
theorem foldl_fill_of_plain (hOk : t.Ok) {values : List (List Char)} (h : t.Standing f (i + 1))
    (hMem : ∀ n, i < n → n ≤ i + values.length → n ∈ t.numbers)
    (hLast : values.foldl t.fill f (i + values.length) ≠ markerText (i + values.length))
    {j : Nat} {value : List Char} (hValue : values[j]? = some value) (hPlain : '%' ∉ value) :
    values.foldl t.fill f (i + 1 + j) = value := by
  induction values generalizing f i j with
  | nil => cases hValue
  | cons v values ih =>
    rw [List.length_cons] at hMem hLast
    have hMin := h.lowest_eq hOk hMem hLast
    have hFirst : i + 1 ∈ t.numbers := hMem (i + 1) (by omega) (by omega)
    cases j with
    | zero =>
      obtain rfl : v = value := Option.some_inj.mp hValue
      have hPut := h.fill_self hOk hFirst hMin v
      have hStay : '%' ∉ t.fill f v (i + 1) := hPut.symm ▸ hPlain
      exact (foldl_fill_plain hStay values).trans hPut
    | succ j =>
      have hShift : i + 1 + values.length = i + (values.length + 1) := by omega
      rw [show i + 1 + (j + 1) = i + 1 + 1 + j by omega]
      exact ih (h.fill hOk hFirst v) (fun n hLt hLe => hMem n (by omega) (by omega))
        (hShift ▸ hLast) hValue

/-- The calls that follow a piece they leave as it is, with values without `%`,
do not look for any marker in it. -/
theorem markers_of_foldl (hOk : t.Ok) {values : List (List Char)} (h : t.Standing f (i + 1))
    (hMem : ∀ n, i < n → n ≤ i + values.length → n ∈ t.numbers)
    (hLast : values.foldl t.fill f (i + values.length) ≠ markerText (i + values.length))
    (hValues : ∀ v ∈ values, '%' ∉ v) (hSome : values ≠ []) {n : Nat} (hn : n ∈ t.numbers)
    (hKept : values.foldl t.fill f n = f n) : ∀ x ∈ markers (f n), i + values.length < x := by
  induction values generalizing f i with
  | nil => exact absurd rfl hSome
  | cons v values ih =>
    rw [List.length_cons] at hMem hLast ⊢
    have hMin := h.lowest_eq hOk hMem hLast
    have hFill : t.fill f v n = replaced (i + 1) v (f n) := by rw [fill_of_lowest hMin]
    have hRest : ∀ w ∈ values, '%' ∉ w := fun w hw => hValues w (List.mem_cons_of_mem _ hw)
    -- a marker of this number would have cost a `%`
    have hFree : i + 1 ∉ markers (f n) := by
      have hCount := @count_replaced_le (i + 1) v (hValues v List.mem_cons_self) (f n)
      have hLater := @count_foldl_fill t (t.fill f v) n values hRest
      rw [List.foldl_cons] at hKept
      rw [hKept, hFill] at hLater
      exact List.count_eq_zero.mp (by omega)
    have hSame : t.fill f v n = f n := hFill.trans (replaced_of_notMem hFree v)
    intro x hx
    by_cases hNone : values = []
    · have hLe := (List.min?_eq_some_iff.mp hMin).2 x (List.mem_flatMap.mpr ⟨n, hn, hx⟩)
      have hNe : x ≠ i + 1 := fun hEq => hFree (hEq ▸ hx)
      rw [hNone, List.length_nil]
      omega
    · have hShift : i + 1 + values.length = i + (values.length + 1) := by omega
      have hBound := ih (h.fill hOk (hMem (i + 1) (by omega) (by omega)) v)
        (fun m hLt hLe => hMem m (by omega) (by omega)) (hShift ▸ hLast) hRest hNone
        (hKept.trans hSame.symm) x (hSame.symm ▸ hx)
      omega

/-- **A value that is kept**, though calls with values without `%` follow it,
has no marker they look for. -/
theorem markers_of_kept (hOk : t.Ok) {values : List (List Char)} (h : t.Standing f (i + 1))
    (hMem : ∀ n, i < n → n ≤ i + values.length → n ∈ t.numbers)
    (hLast : values.foldl t.fill f (i + values.length) ≠ markerText (i + values.length))
    {j : Nat} (hj : j + 1 < values.length) (hValues : ∀ v ∈ values.drop (j + 1), '%' ∉ v)
    {value : List Char} (hValue : values[j]? = some value)
    (hKept : values.foldl t.fill f (i + 1 + j) = value) :
    ∀ x ∈ markers value, i + values.length < x := by
  induction values generalizing f i j with
  | nil => exact absurd hj (Nat.not_lt_zero _)
  | cons v values ih =>
    rw [List.length_cons] at hMem hLast hj ⊢
    have hMin := h.lowest_eq hOk hMem hLast
    have hFirst : i + 1 ∈ t.numbers := hMem (i + 1) (by omega) (by omega)
    have hStep := h.fill hOk hFirst v
    have hShift : i + 1 + values.length = i + (values.length + 1) := by omega
    have hMem' : ∀ n, i + 1 < n → n ≤ i + 1 + values.length → n ∈ t.numbers :=
      fun n hLt hLe => hMem n (by omega) (by omega)
    intro x hx
    rw [← hShift]
    cases j with
    | zero =>
      obtain rfl : v = value := Option.some_inj.mp hValue
      have hPut := h.fill_self hOk hFirst hMin v
      have hSome : values ≠ [] := List.ne_nil_of_length_pos (by omega)
      exact markers_of_foldl hOk hStep hMem' (hShift ▸ hLast) hValues hSome hFirst
        (hKept.trans hPut.symm) x (hPut.symm ▸ hx)
    | succ j =>
      rw [show i + 1 + (j + 1) = i + 1 + 1 + j by omega] at hKept
      exact ih hStep hMem' (hShift ▸ hLast) (by omega) hValues hValue hKept x hx

-- ---------------------------------------------------------------------------
-- Whole chains
-- ---------------------------------------------------------------------------

/-- What stands for the markers after a chain of calls on the template. -/
def filled (t : Template) (values : List String) : Nat → List Char :=
  (values.map String.toList).foldl t.fill markerText

theorem foldl_arg_filled (h : t.Ok) (hStop : t.Stopped) (values : List String) :
    values.foldl arg t.text = t.render (t.filled values) := by
  rw [t.text_eq_render, foldl_arg_render h hStop, filled]

theorem standing_markerText (t : Template) : t.Standing markerText (0 + 1) := fun _ _ _ => rfl

/-- A chain on a template numbered from 1, as `foldl_fill_of_plain` sees it. -/
theorem NumberedFrom.mem {values : List String} (h : t.NumberedFrom 0 values.length) :
    ∀ n, 0 < n → n ≤ 0 + (values.map String.toList).length → n ∈ t.numbers := by
  intro n hPos hLe
  rw [List.length_map] at hLe
  have hMem := h.2 (n - 1) (by omega)
  rwa [show 0 + (n - 1) + 1 = n by omega] at hMem

theorem filled_of_plain (hOk : t.Ok) {values : List String}
    (hNum : t.NumberedFrom 0 values.length)
    (hLast : t.filled values values.length ≠ markerText values.length) {j : Nat} {value : String}
    (hValue : values[j]? = some value) (hPlain : '%' ∉ value.toList) :
    t.filled values (j + 1) = value.toList := by
  have hEnd : (values.map String.toList).foldl t.fill markerText
      (0 + (values.map String.toList).length) ≠
        markerText (0 + (values.map String.toList).length) := by
    rwa [List.length_map, Nat.zero_add]
  have hAt : (values.map String.toList)[j]? = some value.toList := by
    rw [List.getElem?_map, hValue, Option.map_some]
  have hKept := foldl_fill_of_plain hOk t.standing_markerText hNum.mem hEnd hAt hPlain
  rwa [Nat.zero_add, Nat.add_comm 1] at hKept

theorem markers_of_filled (hOk : t.Ok) {values : List String}
    (hNum : t.NumberedFrom 0 values.length)
    (hLast : t.filled values values.length ≠ markerText values.length) {j : Nat} {value : String}
    (hj : j + 1 < values.length) (hLater : ∀ v ∈ values.drop (j + 1), '%' ∉ v.toList)
    (hValue : values[j]? = some value) (hKept : t.filled values (j + 1) = value.toList) :
    ∀ x ∈ markers value.toList, values.length < x := by
  have hEnd : (values.map String.toList).foldl t.fill markerText
      (0 + (values.map String.toList).length) ≠
        markerText (0 + (values.map String.toList).length) := by
    rwa [List.length_map, Nat.zero_add]
  have hAt : (values.map String.toList)[j]? = some value.toList := by
    rw [List.getElem?_map, hValue, Option.map_some]
  have hFree : ∀ v ∈ (values.map String.toList).drop (j + 1), '%' ∉ v := by
    rw [← List.map_drop]
    exact List.forall_mem_map.mpr hLater
  have hLength : j + 1 < (values.map String.toList).length := by rwa [List.length_map]
  have hPlace : (values.map String.toList).foldl t.fill markerText (0 + 1 + j) =
      value.toList := by
    rw [Nat.zero_add, Nat.add_comm 1]
    exact hKept
  have hHigh := markers_of_kept hOk t.standing_markerText hNum.mem hEnd hLength hFree hAt hPlace
  rwa [List.length_map, Nat.zero_add] at hHigh

/-- The value of a marker: the values are numbered from 1. -/
def valueAt (values : List String) (k : Nat) : List Char := ((values[k - 1]?).getD "").toList

/-- No value but the last has a marker that a call looks for. -/
def MarkersHigh (values : List String) : Prop :=
  ∀ v ∈ values.dropLast, ∀ x ∈ markers v.toList, values.length < x

/-- No value that only values without `%` follow has such a marker. -/
def LastMarkersHigh (values : List String) : Prop :=
  ∀ j value, j + 1 < values.length → values[j]? = some value →
    (∀ v ∈ values.drop (j + 1), '%' ∉ v.toList) → ∀ x ∈ markers value.toList, values.length < x

theorem render_filled (hOk : t.Ok) (hStop : t.Stopped) {values : List String}
    (hNum : t.NumberedFrom 0 values.length) (hHigh : MarkersHigh values) :
    t.render (t.filled values) = t.render (valueAt values) :=
  (foldl_arg_filled hOk hStop values).symm.trans (foldl_arg_stopped hOk hStop hNum hHigh)

/-- Only values with high markers are all in their places in the end. -/
theorem lastMarkersHigh_of_filled (hOk : t.Ok) {values : List String}
    (hNum : t.NumberedFrom 0 values.length)
    (hLast : t.filled values values.length ≠ markerText values.length)
    (hKept : ∀ j < values.length, t.filled values (j + 1) = valueAt values (j + 1)) :
    LastMarkersHigh values := by
  intro j value hj hValue hLater
  refine markers_of_filled hOk hNum hLast hj hLater hValue ?_
  rw [hKept j (by omega), valueAt, Nat.add_sub_cancel, hValue, Option.getD_some]

/-- A character of no value and no marker is in no place. -/
theorem filled_free {c : Char} {values : List String} (hValues : ∀ v ∈ values, c ∉ v.toList)
    {n : Nat} (hn : c ∉ markerText n) : c ∉ t.filled values n :=
  foldl_fill_free hn (List.forall_mem_map.mpr hValues)

end Template

end PlaceMarker
