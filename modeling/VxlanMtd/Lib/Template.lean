import Mathlib.Data.List.Basic
import Mathlib.Logic.Function.Basic

/-!
# Numbered place markers

Qt's `QString::arg` fills a text with one value at a time: it looks for the
place markers `%1` … `%99` anywhere in the text, and replaces every
occurrence of the lowest-numbered one. A value that itself contains `%` is
therefore seen by the calls after it. `arg` is that function;
`Template` is the well-behaved use of it.

* `arg` — one substitution, on the text as it is;
* `Template` — literal text between one-digit markers, `Template.Ok` when the
  literals cannot be mistaken for parts of a marker;
* `arg_text` — on such a template, with a value free of `%`, `arg` puts the
  value where the marker was and changes nothing else, and the result is
  again such a template (`Template.Ok.subst`);
* `foldl_arg_text`, `foldl_arg_stopped` — a chain of `arg` calls, with values
  free of `%`, and with values whose markers no later call mistakes.
-/

namespace PlaceMarker

-- ---------------------------------------------------------------------------
-- The substitution
-- ---------------------------------------------------------------------------

/-- One or two decimal digits at the start of a text: their value and how many
they are. Qt asks `QChar::digitValue`, which knows the digits of other scripts
too; only the ASCII ones are digits here. -/
def digitsAt : List Char → Option (Nat × Nat)
  | [] => none
  | [c] => if c.isDigit then some (c.toNat - '0'.toNat, 1) else none
  | c :: d :: _ =>
    if !c.isDigit then none
    else if d.isDigit then some (10 * (c.toNat - '0'.toNat) + (d.toNat - '0'.toNat), 2)
    else some (c.toNat - '0'.toNat, 1)

/-- The marker that follows a `%`: its number and the characters it takes, an
optional `L` (localized) included. -/
def escapeAt : List Char → Option (Nat × Nat)
  | 'L' :: cs => (digitsAt cs).map fun kn => (kn.1, kn.2 + 1)
  | cs => digitsAt cs

/-- A character on its own, or a marker with the text after its `%`. -/
inductive Token where
  | lit (c : Char)
  | mark (number : Nat) (text : List Char)
  deriving DecidableEq, Repr

/-- The tokens of a text; the first argument counts the characters that still
belong to the marker just read. -/
def tokens : Nat → List Char → List Token
  | _, [] => []
  | skip + 1, _ :: cs => tokens skip cs
  | 0, c :: cs =>
    if c = '%' then
      match escapeAt cs with
      | some (number, len) => .mark number (cs.take len) :: tokens len cs
      | none => .lit c :: tokens 0 cs
    else .lit c :: tokens 0 cs

/-- The number of a marker token. -/
def Token.number? : Token → Option Nat
  | .lit _ => none
  | .mark number _ => some number

/-- The lowest marker number among the tokens. -/
def lowest (ts : List Token) : Option Nat := (ts.filterMap Token.number?).min?

/-- The text of a token, markers numbered `k` replaced by `value`. -/
def Token.expand (k : Nat) (value : List Char) : Token → List Char
  | .lit c => [c]
  | .mark number text => if number = k then value else '%' :: text

/-- `QString::arg`: every occurrence of the lowest-numbered marker is replaced
by `value`; a text without markers is returned as it is. -/
def arg (text value : String) : String :=
  match lowest (tokens 0 text.toList) with
  | none => text
  | some k =>
    String.ofList ((tokens 0 text.toList).flatMap (Token.expand k value.toList))

-- ---------------------------------------------------------------------------
-- Templates
-- ---------------------------------------------------------------------------

/-- Literal text with one-digit markers in it: the text before the first
marker, then each marker with the text that follows it. -/
structure Template where
  head : List Char
  tail : List (Nat × List Char)

/-- The characters of markers and the literal text after them. -/
def tailChars : List (Nat × List Char) → List Char
  | [] => []
  | (k, l) :: ts => '%' :: k.digitChar :: l ++ tailChars ts

/-- The text a template stands for. -/
def Template.text (t : Template) : String := String.ofList (t.head ++ tailChars t.tail)

/-- The literals cannot be confused with markers: no `%` in them, no digit
right after a marker, and no two markers side by side. -/
def TailOk : List (Nat × List Char) → Prop
  | [] => True
  | (k, l) :: ts =>
    k < 10 ∧ '%' ∉ l ∧ (∀ c ∈ l.head?, c.isDigit = false) ∧ (ts ≠ [] → l ≠ []) ∧ TailOk ts

/-- A template on which `arg` behaves as a substitution. -/
structure Template.Ok (t : Template) : Prop where
  head_ok : '%' ∉ t.head
  tail_ok : TailOk t.tail

instance decidableHead : ∀ l : List Char, Decidable (∀ c ∈ l.head?, c.isDigit = false)
  | [] => isTrue fun _ h => by simp at h
  | c :: _ => decidable_of_iff (c.isDigit = false) (by simp)

instance decidableTailOk : ∀ ts, Decidable (TailOk ts)
  | [] => isTrue trivial
  | (k, l) :: ts =>
    have := decidableTailOk ts
    inferInstanceAs (Decidable (k < 10 ∧ '%' ∉ l ∧ (∀ c ∈ l.head?, c.isDigit = false) ∧
      (ts ≠ [] → l ≠ []) ∧ TailOk ts))

instance (t : Template) : Decidable t.Ok :=
  decidable_of_iff ('%' ∉ t.head ∧ TailOk t.tail) ⟨fun h => ⟨h.1, h.2⟩, fun h => ⟨h.1, h.2⟩⟩

/-- Markers `k` replaced by `value`: the literal text they leave in front, and
the markers that remain. -/
def substTail (k : Nat) (value : List Char) :
    List (Nat × List Char) → List Char × List (Nat × List Char)
  | [] => ([], [])
  | (n, l) :: ts =>
    let rest := substTail k value ts
    if n = k then (value ++ l ++ rest.1, rest.2) else ([], (n, l ++ rest.1) :: rest.2)

/-- The template after its markers `k` were replaced by `value`. -/
def Template.subst (t : Template) (k : Nat) (value : List Char) : Template :=
  let rest := substTail k value t.tail
  ⟨t.head ++ rest.1, rest.2⟩

/-- The lowest marker number of a template. -/
def Template.lowest (t : Template) : Option Nat := (t.tail.map Prod.fst).min?

-- ---------------------------------------------------------------------------
-- Tokens of a template
-- ---------------------------------------------------------------------------

theorem tokens_append_of_notMem {xs : List Char} (h : '%' ∉ xs) (ys : List Char) :
    tokens 0 (xs ++ ys) = xs.map .lit ++ tokens 0 ys := by
  induction xs with
  | nil => rfl
  | cons x xs ih =>
    have hx : x ≠ '%' := fun hEq => h (by simp [hEq])
    have hxs : '%' ∉ xs := fun hMem => h (List.mem_cons_of_mem _ hMem)
    simp [tokens, hx, ih hxs]

/-- A one-digit marker is read as such when no digit follows it. -/
theorem escapeAt_digitChar {k : Nat} (hk : k < 10) {cs : List Char}
    (hcs : ∀ c ∈ cs.head?, c.isDigit = false) :
    escapeAt (k.digitChar :: cs) = some (k, 1) := by
  have hDigit : k.digitChar.isDigit = true := by
    rw [Nat.isDigit_digitChar]
    simpa using hk
  have hL : k.digitChar ≠ 'L' := by
    intro hEq
    rw [hEq] at hDigit
    exact absurd hDigit (by decide)
  rw [escapeAt]
  · cases cs with
    | nil => simp [digitsAt, hk, Nat.toNat_digitChar_of_lt_ten hk]
    | cons c cs =>
      have hc : c.isDigit = false := hcs c rfl
      simp [digitsAt, hk, hc, Nat.toNat_digitChar_of_lt_ten hk]
  · intro cs' hEq
    exact hL (List.cons.inj hEq).1

/-- The tokens of markers and the literal text after them. -/
def tailTokens : List (Nat × List Char) → List Token
  | [] => []
  | (k, l) :: ts => .mark k [k.digitChar] :: l.map .lit ++ tailTokens ts

/-- The tail of a template, token by token. -/
theorem tokens_tailChars {ts : List (Nat × List Char)} (h : TailOk ts) :
    tokens 0 (tailChars ts) = tailTokens ts := by
  induction ts with
  | nil => rfl
  | cons p ts ih =>
    obtain ⟨k, l⟩ := p
    obtain ⟨hk, hPercent, hHead, hSep, hRest⟩ := h
    have hFollow : ∀ c ∈ (l ++ tailChars ts).head?, c.isDigit = false := by
      intro c hc
      cases l with
      | nil =>
        have hEnd : ts = [] := by
          by_contra hne
          exact hSep hne rfl
        simp [hEnd, tailChars] at hc
      | cons x l => exact hHead c (by simpa using hc)
    rw [tailChars, List.cons_append, List.cons_append, tokens, if_pos rfl,
      escapeAt_digitChar hk hFollow, tailTokens]
    simp only [List.take_succ_cons, List.take_zero, tokens, List.cons_append]
    rw [tokens_append_of_notMem hPercent, ih hRest]

/-- The text of a template, token by token. -/
theorem tokens_text {t : Template} (h : t.Ok) :
    tokens 0 t.text.toList = t.head.map .lit ++ tailTokens t.tail := by
  rw [Template.text, String.toList_ofList, tokens_append_of_notMem h.head_ok,
    tokens_tailChars h.tail_ok]

-- ---------------------------------------------------------------------------
-- Substitution
-- ---------------------------------------------------------------------------

theorem numbers_map_lit (cs : List Char) : (cs.map Token.lit).filterMap Token.number? = [] := by
  induction cs with
  | nil => rfl
  | cons c cs ih => simp [Token.number?]

theorem numbers_tailTokens (ts : List (Nat × List Char)) :
    (tailTokens ts).filterMap Token.number? = ts.map Prod.fst := by
  induction ts with
  | nil => rfl
  | cons p ts ih =>
    rw [tailTokens, List.cons_append, List.filterMap_cons, List.filterMap_append,
      numbers_map_lit, List.nil_append, ih, List.map_cons]
    rfl

/-- Text without markers stays. -/
theorem expand_map_lit (k : Nat) (value cs : List Char) :
    (cs.map Token.lit).flatMap (Token.expand k value) = cs := by
  induction cs with
  | nil => rfl
  | cons c cs ih => simpa [Token.expand] using ih

/-- Filling in token by token is filling in the tail. -/
theorem expand_tailTokens (k : Nat) (value : List Char) (ts : List (Nat × List Char)) :
    (tailTokens ts).flatMap (Token.expand k value) =
      (substTail k value ts).1 ++ tailChars (substTail k value ts).2 := by
  induction ts with
  | nil => rfl
  | cons p ts ih =>
    obtain ⟨n, l⟩ := p
    rw [tailTokens, List.cons_append, List.flatMap_cons, List.flatMap_append,
      expand_map_lit, ih, substTail]
    by_cases hn : n = k
    · simp [Token.expand, hn]
    · simp [Token.expand, hn, tailChars]

/-- The template a substitution leaves is again well formed. -/
theorem Template.Ok.subst {t : Template} (h : t.Ok) (k : Nat) {value : List Char}
    (hv : '%' ∉ value) : (t.subst k value).Ok := by
  have hTail : ∀ ts, TailOk ts →
      '%' ∉ (substTail k value ts).1 ∧ TailOk (substTail k value ts).2 ∧
        (ts = [] → substTail k value ts = ([], [])) := by
    intro ts hts
    induction ts with
    | nil => exact ⟨by simp [substTail], trivial, fun _ => rfl⟩
    | cons p ts ih =>
      obtain ⟨n, l⟩ := p
      obtain ⟨hn, hPercent, hHead, hSep, hRest⟩ := hts
      obtain ⟨ih1, ih2, ih3⟩ := ih hRest
      rw [substTail]
      by_cases hnk : n = k
      · simp only [hnk, if_true]
        refine ⟨?_, ih2, fun hNil => absurd hNil (by simp)⟩
        simp [hv, hPercent, ih1]
      · simp only [hnk, if_false]
        refine ⟨by simp, ⟨hn, by simp [hPercent, ih1], ?_, ?_, ih2⟩,
          fun hNil => absurd hNil (by simp)⟩
        · -- the literal keeps its first character, unless nothing followed it
          cases l with
          | nil =>
            have hEnd : ts = [] := by
              by_contra hne
              exact hSep hne rfl
            simp [ih3 hEnd]
          | cons x l => simpa using hHead
        · intro hne
          have hts : ts ≠ [] := fun hEnd => hne (by rw [ih3 hEnd])
          simp [hSep hts]
  obtain ⟨hHead, hRest, -⟩ := hTail t.tail h.tail_ok
  exact ⟨by simp [Template.subst, h.head_ok, hHead], hRest⟩

/-- **`arg` on a template.** With a value free of `%`, the lowest marker is
replaced by the value and the rest of the text stays as it is. -/
theorem arg_text {t : Template} (h : t.Ok) {k : Nat} (hk : t.lowest = some k) (value : String) :
    arg t.text value = (t.subst k value.toList).text := by
  have hLow : PlaceMarker.lowest (tokens 0 t.text.toList) = some k := by
    rw [tokens_text h, PlaceMarker.lowest, List.filterMap_append, numbers_map_lit,
      List.nil_append, numbers_tailTokens]
    exact hk
  rw [arg, hLow]
  show String.ofList _ = _
  rw [tokens_text h, List.flatMap_append, expand_map_lit, expand_tailTokens,
    Template.subst, Template.text, ← List.append_assoc]

/-- `arg` on the characters. -/
def argChars (cs value : List Char) : List Char :=
  match lowest (tokens 0 cs) with
  | none => cs
  | some k => (tokens 0 cs).flatMap (Token.expand k value)

/-- `arg` on characters. -/
theorem toList_arg (text value : String) :
    (arg text value).toList = argChars text.toList value.toList := by
  rw [arg, argChars]
  split
  · rfl
  · rw [String.toList_ofList]

/-- A chain of `arg` calls on characters. -/
theorem toList_foldl_arg (text : String) (values : List String) :
    (values.foldl arg text).toList = (values.map String.toList).foldl argChars text.toList := by
  induction values generalizing text with
  | nil => rfl
  | cons value values ih => rw [List.foldl_cons, ih, toList_arg, List.map_cons, List.foldl_cons]

/-- A text that ends in its only marker. -/
theorem arg_suffix {head : String} (h : '%' ∉ head.toList) (value : String) :
    arg (head ++ "%1") value = head ++ value := by
  have hOk : (⟨head.toList, [(1, [])]⟩ : Template).Ok := ⟨h, (by decide : TailOk [(1, [])])⟩
  have hText : head ++ "%1" = (⟨head.toList, [(1, [])]⟩ : Template).text := by
    refine String.toList_injective ?_
    rw [Template.text, String.toList_ofList, String.toList_append]
    rfl
  rw [hText, @arg_text _ hOk 1 rfl]
  refine String.toList_injective ?_
  simp [Template.subst, substTail, Template.text, tailChars]

-- ---------------------------------------------------------------------------
-- Filling a template in
-- ---------------------------------------------------------------------------

/-- The text of a template with values for its markers. -/
def Template.render (t : Template) (value : Nat → List Char) : String :=
  String.ofList (t.head ++ t.tail.flatMap fun marker => value marker.1 ++ marker.2)

/-- The markers of `t` are the numbers from `i + 1` to `i + m`. -/
def Template.NumberedFrom (t : Template) (i m : Nat) : Prop :=
  (∀ marker ∈ t.tail, i < marker.1 ∧ marker.1 ≤ i + m) ∧
    ∀ k < m, i + k + 1 ∈ t.tail.map Prod.fst

instance (t : Template) (i m : Nat) : Decidable (t.NumberedFrom i m) :=
  inferInstanceAs (Decidable ((∀ marker ∈ t.tail, _) ∧ ∀ k < m, _))

/-- The markers of other numbers are left. -/
theorem mem_substTail {k : Nat} {value : List Char} {ts : List (Nat × List Char)} {n : Nat} :
    n ∈ (substTail k value ts).2.map Prod.fst ↔ n ≠ k ∧ n ∈ ts.map Prod.fst := by
  induction ts with
  | nil => simp [substTail]
  | cons p ts ih =>
    obtain ⟨m, l⟩ := p
    rw [substTail]
    by_cases hm : m = k
    · simp only [hm, if_true, List.map_cons, List.mem_cons, ih]
      constructor
      · rintro ⟨hne, hIn⟩
        exact ⟨hne, Or.inr hIn⟩
      · rintro ⟨hne, hEq | hIn⟩
        · exact absurd hEq hne
        · exact ⟨hne, hIn⟩
    · simp only [hm, if_false, List.map_cons, List.mem_cons, ih]
      constructor
      · rintro (rfl | ⟨hne, hIn⟩)
        · exact ⟨hm, Or.inl rfl⟩
        · exact ⟨hne, Or.inr hIn⟩
      · rintro ⟨hne, rfl | hIn⟩
        · exact Or.inl rfl
        · exact Or.inr ⟨hne, hIn⟩

/-- Filling in one marker first does not change the filled text. -/
theorem render_subst (t : Template) (k : Nat) (value : Nat → List Char) :
    (t.subst k (value k)).render value = t.render value := by
  have hTail : ∀ ts : List (Nat × List Char),
      (substTail k (value k) ts).1 ++
        (substTail k (value k) ts).2.flatMap (fun m => value m.1 ++ m.2) =
      ts.flatMap fun m => value m.1 ++ m.2 := by
    intro ts
    induction ts with
    | nil => rfl
    | cons p ts ih =>
      obtain ⟨n, l⟩ := p
      rw [substTail, List.flatMap_cons, ← ih]
      by_cases hn : n = k
      · simp [hn]
      · simp [hn]
  rw [Template.render, Template.render, ← hTail t.tail, ← List.append_assoc]
  rfl

/-- Only the values of markers that occur matter. -/
theorem render_congr {t : Template} {value value' : Nat → List Char}
    (h : ∀ m ∈ t.tail.map Prod.fst, value m = value' m) : t.render value = t.render value' := by
  rw [Template.render, Template.render]
  congr 2
  refine List.flatMap_congr fun m hm => ?_
  rw [h m.1 (List.mem_map_of_mem hm)]

/-- **A chain of `arg` calls** on a template whose markers are numbered
consecutively fills them in, in order. -/
theorem foldl_arg_text {t : Template} (h : t.Ok) {i : Nat} {values : List String}
    (hNum : t.NumberedFrom i values.length) (hPercent : ∀ v ∈ values, '%' ∉ v.toList) :
    values.foldl arg t.text = t.render fun k => ((values[k - i - 1]?).getD "").toList := by
  induction values generalizing t i with
  | nil =>
    have hNone : t.tail = [] := by
      refine List.eq_nil_iff_forall_not_mem.mpr fun m hm => ?_
      have := hNum.1 m hm
      simp only [List.length_nil] at this
      omega
    simp [Template.text, Template.render, hNone, tailChars]
  | cons v values ih =>
    have hLow : t.lowest = some (i + 1) := by
      refine List.min?_eq_some_iff.mpr ⟨by simpa using hNum.2 0 (by simp), ?_⟩
      intro n hn
      obtain ⟨m, hm, rfl⟩ := List.mem_map.mp hn
      exact (hNum.1 m hm).1
    have hMem : ∀ n, n ∈ (t.subst (i + 1) v.toList).tail.map Prod.fst ↔
        n ≠ i + 1 ∧ n ∈ t.tail.map Prod.fst := fun n => mem_substTail
    have hNum' : (t.subst (i + 1) v.toList).NumberedFrom (i + 1) values.length := by
      constructor
      · intro m hm
        obtain ⟨hne, hIn⟩ := (hMem m.1).mp (List.mem_map_of_mem hm)
        obtain ⟨m', hm', hEq⟩ := List.mem_map.mp hIn
        have := hNum.1 m' hm'
        simp only [List.length_cons] at this
        omega
      · intro k hk
        refine (hMem _).mpr ⟨by omega, ?_⟩
        have := hNum.2 (k + 1) (by simpa using hk)
        rwa [show i + 1 + k + 1 = i + (k + 1) + 1 by omega]
    have hPercent' : ∀ w ∈ values, '%' ∉ w.toList :=
      fun w hw => hPercent w (List.mem_cons_of_mem _ hw)
    rw [List.foldl_cons, arg_text h hLow,
      ih (h.subst _ (hPercent v List.mem_cons_self)) hNum' hPercent']
    -- the first value is the one of marker `i + 1`
    have hFirst := render_subst t (i + 1)
      fun k => (((v :: values)[k - i - 1]?).getD "").toList
    rw [← hFirst]
    have hValue : (((v :: values)[i + 1 - i - 1]?).getD "").toList = v.toList := by
      simp
    rw [hValue]
    refine render_congr fun n hn => ?_
    obtain ⟨m, hm, rfl⟩ := List.mem_map.mp hn
    have hlt := (hNum'.1 m hm).1
    rw [show m.1 - i - 1 = (m.1 - (i + 1) - 1) + 1 by omega, List.getElem?_cons_succ]

/-- The template of a text, cut at its one-digit markers. -/
def Template.ofChars : List Char → Template
  | [] => ⟨[], []⟩
  | [c] => ⟨[c], []⟩
  | c :: d :: cs =>
    if c = '%' ∧ d.isDigit then
      ⟨[], (d.toNat - '0'.toNat, (ofChars cs).head) :: (ofChars cs).tail⟩
    else ⟨c :: (ofChars (d :: cs)).head, (ofChars (d :: cs)).tail⟩

-- ---------------------------------------------------------------------------
-- Values with markers of their own
-- ---------------------------------------------------------------------------

/-- The numbers of the markers in a text. -/
def markers (cs : List Char) : List Nat := (tokens 0 cs).filterMap Token.number?

/-- Without `%` there are no markers. -/
theorem markers_of_notMem {cs : List Char} (h : '%' ∉ cs) : markers cs = [] := by
  have hTokens := tokens_append_of_notMem h []
  rw [List.append_nil, tokens, List.append_nil] at hTokens
  rw [markers, hTokens, numbers_map_lit]

/-- A character that no marker before it takes in. -/
def Stops (c : Char) : Prop := c.isDigit = false ∧ c ≠ 'L'

instance (c : Char) : Decidable (Stops c) := inferInstanceAs (Decidable (_ ∧ _))

/-- The digits of a marker end at the first character that is none. -/
theorem digitsAt_append {c : Char} (hc : c.isDigit = false) (cs rest : List Char) :
    digitsAt (cs ++ c :: rest) = digitsAt cs := by
  match cs with
  | [] =>
    cases rest with
    | nil => simp [digitsAt, hc]
    | cons d rest => simp [digitsAt, hc]
  | [d] =>
    cases hd : d.isDigit with
    | true => simp [digitsAt, hc, hd]
    | false => simp [digitsAt, hd]
  | d :: e :: cs => rfl

/-- So does the marker. -/
theorem escapeAt_append {c : Char} (hc : Stops c) (cs rest : List Char) :
    escapeAt (cs ++ c :: rest) = escapeAt cs := by
  match cs with
  | [] =>
    have hNone : digitsAt (c :: rest) = none := digitsAt_append hc.1 [] rest
    rw [List.nil_append, escapeAt, hNone]
    · rfl
    · intro cs' hEq
      exact hc.2 (List.cons.inj hEq).1
  | d :: cs =>
    by_cases hL : d = 'L'
    · subst hL
      show Option.map _ (digitsAt (cs ++ c :: rest)) = Option.map _ (digitsAt cs)
      rw [digitsAt_append hc.1]
    · have hCons : ∀ ds : List Char, escapeAt (d :: ds) = digitsAt (d :: ds) := by
        intro ds
        rw [escapeAt]
        intro ds' hEq
        exact hL (List.cons.inj hEq).1
      rw [List.cons_append, hCons, hCons, ← List.cons_append, digitsAt_append hc.1]

/-- A marker takes no more digits than there are. -/
theorem length_digitsAt {cs : List Char} {k len : Nat} (h : digitsAt cs = some (k, len)) :
    len ≤ cs.length := by
  match cs with
  | [] => simp [digitsAt] at h
  | [c] =>
    simp only [digitsAt, Option.ite_none_right_eq_some, Option.some.injEq, Prod.mk.injEq] at h
    simp [← h.2.2]
  | c :: d :: cs =>
    rw [digitsAt] at h
    split at h
    · cases h
    · split at h <;> cases h <;> simp

/-- And no more characters. -/
theorem length_escapeAt {cs : List Char} {k len : Nat} (h : escapeAt cs = some (k, len)) :
    len ≤ cs.length := by
  unfold escapeAt at h
  split at h
  · obtain ⟨⟨k', len'⟩, hDigits, hEq⟩ := Option.map_eq_some_iff.mp h
    have := length_digitsAt hDigits
    cases hEq
    simpa using this
  · exact length_digitsAt h

/-- What comes after a stopping character does not change the tokens before
it. -/
theorem tokens_append_stop {c : Char} (hc : Stops c) (rest : List Char) :
    ∀ (skip : Nat) (cs : List Char), skip ≤ cs.length →
      tokens skip (cs ++ c :: rest) = tokens skip cs ++ tokens 0 (c :: rest)
  | 0, [], _ => rfl
  | skip + 1, [], hSkip => absurd hSkip (by simp)
  | skip + 1, _ :: cs, hSkip =>
    tokens_append_stop hc rest skip cs (by simpa using hSkip)
  | 0, d :: cs, _ => by
    rw [List.cons_append, tokens, tokens]
    by_cases hd : d = '%'
    · rw [if_pos hd, if_pos hd, escapeAt_append hc]
      cases hEscape : escapeAt cs with
      | none =>
        dsimp only
        rw [tokens_append_stop hc rest 0 cs (Nat.zero_le _), List.cons_append]
      | some marker =>
        obtain ⟨k, len⟩ := marker
        have hLen := length_escapeAt hEscape
        dsimp only
        rw [tokens_append_stop hc rest len cs hLen, List.take_append_of_le_length hLen,
          List.cons_append]
    · rw [if_neg hd, if_neg hd, tokens_append_stop hc rest 0 cs (Nat.zero_le _), List.cons_append]

/-- A text without the marker stays as it is. -/
theorem expand_tokens {k : Nat} (value : List Char) :
    ∀ (skip : Nat) (cs : List Char), k ∉ (tokens skip cs).filterMap Token.number? →
      (tokens skip cs).flatMap (Token.expand k value) = cs.drop skip
  | skip, [], _ => by cases skip <;> rfl
  | skip + 1, _ :: cs, h => expand_tokens value skip cs h
  | 0, c :: cs, h => by
    rw [tokens] at h ⊢
    by_cases hc : c = '%'
    · rw [if_pos hc] at h ⊢
      cases hEscape : escapeAt cs with
      | none =>
        simp only [hEscape, List.filterMap_cons, Token.number?] at h
        simp only [List.flatMap_cons, expand_tokens value 0 cs h]
        rfl
      | some marker =>
        simp only [hEscape, List.filterMap_cons, Token.number?, List.mem_cons, not_or] at h
        simp only [List.flatMap_cons, expand_tokens value marker.2 cs h.2, Token.expand,
          if_neg (Ne.symm h.1), List.cons_append, List.take_append_drop, hc]
        rfl
    · rw [if_neg hc] at h ⊢
      simp only [List.filterMap_cons, Token.number?] at h
      rw [List.flatMap_cons, expand_tokens value 0 cs h]
      rfl

/-- A text with the marker does not stay, if the value begins with another
character. -/
theorem not_prefix_expand {k : Nat} {c : Char} (hc : c ≠ '%') (value rest : List Char) :
    ∀ (skip : Nat) (cs : List Char), k ∈ (tokens skip cs).filterMap Token.number? →
      ¬ cs.drop skip <+: (tokens skip cs).flatMap (Token.expand k (c :: value)) ++ rest
  | skip, [], h => by
    cases skip <;> exact absurd h List.not_mem_nil
  | skip + 1, _ :: cs, h => not_prefix_expand hc value rest skip cs h
  | 0, d :: cs, h => by
    rw [tokens] at h ⊢
    by_cases hd : d = '%'
    · rw [if_pos hd] at h ⊢
      cases hEscape : escapeAt cs with
      | none =>
        simp only [hEscape, List.filterMap_cons, Token.number?] at h
        intro hPrefix
        exact not_prefix_expand hc value rest 0 cs h ((List.prefix_cons_inj d).mp hPrefix)
      | some marker =>
        obtain ⟨n, len⟩ := marker
        simp only [hEscape, List.filterMap_cons, Token.number?, List.mem_cons] at h
        simp only [List.flatMap_cons, Token.expand]
        intro hPrefix
        by_cases hn : n = k
        · -- the value stands where the marker was
          rw [if_pos hn, hd] at hPrefix
          exact hc (List.cons_prefix_cons.mp hPrefix).1.symm
        · rw [if_neg hn, List.cons_append, List.cons_append, hd, List.append_assoc] at hPrefix
          have hTail := (List.prefix_cons_inj '%').mp hPrefix
          have hSplit : cs.take len ++ cs.drop len <+: cs.take len ++
              ((tokens len cs).flatMap (Token.expand k (c :: value)) ++ rest) := by
            rw [List.take_append_drop]
            exact hTail
          exact not_prefix_expand hc value rest len cs (h.resolve_left (Ne.symm hn))
            ((List.prefix_append_right_inj _).mp hSplit)
    · rw [if_neg hd] at h ⊢
      intro hPrefix
      exact not_prefix_expand hc value rest 0 cs h ((List.prefix_cons_inj d).mp hPrefix)

/-- Text without `%` in front of the markers stays. -/
theorem argChars_append {xs : List Char} (h : '%' ∉ xs) (cs value : List Char) :
    argChars (xs ++ cs) value = xs ++ argChars cs value := by
  have hLowest : lowest (tokens 0 (xs ++ cs)) = lowest (tokens 0 cs) := by
    rw [tokens_append_of_notMem h, lowest, List.filterMap_append, numbers_map_lit, List.nil_append]
    rfl
  rw [argChars, argChars, hLowest]
  split
  · rfl
  · rw [tokens_append_of_notMem h, List.flatMap_append, expand_map_lit]

/-- So does a character behind them that stops the last. -/
theorem argChars_concat {c : Char} (hc : Stops c) (hPercent : c ≠ '%') (cs value : List Char) :
    argChars (cs ++ [c]) value = argChars cs value ++ [c] := by
  have hTokens : tokens 0 (cs ++ [c]) = tokens 0 cs ++ [.lit c] := by
    rw [tokens_append_stop hc [] 0 cs (Nat.zero_le _), tokens, if_neg hPercent]
    rfl
  have hLowest : lowest (tokens 0 (cs ++ [c])) = lowest (tokens 0 cs) := by
    rw [hTokens, lowest, List.filterMap_append, lowest]
    exact congrArg List.min? (List.append_nil _)
  rw [argChars, argChars, hLowest]
  split
  · rfl
  · rw [hTokens, List.flatMap_append]
    rfl

/-- Text and the last marker of a template behind it. -/
theorem tokens_append_marker {c : Char} (hc : Stops c) (hPercent : c ≠ '%') {k : Nat} (hk : k < 10)
    (cs : List Char) : tokens 0 (cs ++ c :: '%' :: [k.digitChar]) =
      tokens 0 cs ++ [.lit c, .mark k [k.digitChar]] := by
  have hEscape : escapeAt [k.digitChar] = some (k, 1) := escapeAt_digitChar hk (by simp)
  rw [tokens_append_stop hc _ 0 cs (Nat.zero_le _), tokens, if_neg hPercent, tokens, if_pos rfl,
    hEscape]
  rfl

section
variable {c : Char} {k : Nat} {cs : List Char}

theorem lowest_append_marker (hc : Stops c) (hPercent : c ≠ '%') (hk : k < 10) :
    lowest (tokens 0 (cs ++ c :: '%' :: [k.digitChar])) = (markers cs ++ [k]).min? := by
  rw [tokens_append_marker hc hPercent hk, lowest, List.filterMap_append]
  rfl

/-- **Filling in the last marker** leaves the text in front of it as it is if all
markers there are higher. -/
theorem argChars_last (hc : Stops c) (hPercent : c ≠ '%') (hk : k < 10)
    (h : ∀ m ∈ markers cs, k < m) (value : List Char) :
    argChars (cs ++ c :: '%' :: [k.digitChar]) value = cs ++ c :: value := by
  have hLowest : (markers cs ++ [k]).min? = some k := by
    refine List.min?_eq_some_iff.mpr ⟨by simp, fun n hn => ?_⟩
    rcases List.mem_append.mp hn with hn | hn
    · exact Nat.le_of_lt (h n hn)
    · exact Nat.le_of_eq (List.mem_singleton.mp hn).symm
  have hNot : k ∉ markers cs := fun hMem => Nat.lt_irrefl k (h k hMem)
  rw [argChars, lowest_append_marker hc hPercent hk, hLowest]
  dsimp only
  rw [tokens_append_marker hc hPercent hk, List.flatMap_append, expand_tokens value 0 cs hNot]
  simp [Token.expand]

/-- And only then. -/
theorem lt_markers_of_prefix (hc : Stops c) (hPercent : c ≠ '%') (hk : k < 10) {d : Char}
    (hd : d ≠ '%') {value rest : List Char}
    (h : cs <+: argChars (cs ++ c :: '%' :: [k.digitChar]) (d :: value) ++ rest) :
    ∀ m ∈ markers cs, k < m := by
  obtain ⟨low, hLow⟩ : ∃ low, (markers cs ++ [k]).min? = some low :=
    Option.isSome_iff_exists.mp (by simp)
  obtain ⟨hMem, hLeast⟩ := List.min?_eq_some_iff.mp hLow
  rw [argChars, lowest_append_marker hc hPercent hk, hLow] at h
  dsimp only at h
  rw [tokens_append_marker hc hPercent hk, List.flatMap_append, List.append_assoc] at h
  -- the lowest marker is not in the text
  have hNot : low ∉ markers cs := fun hIn => not_prefix_expand hd value _ 0 cs hIn h
  have hEq : low = k := by
    rcases List.mem_append.mp hMem with hIn | hIn
    · exact absurd hIn hNot
    · exact List.mem_singleton.mp hIn
  intro m hm
  have hLe := hLeast m (List.mem_append_left _ hm)
  have hne : m ≠ low := fun hSame => hNot (hSame ▸ hm)
  omega

end

/-- After each marker comes a character that stops it, whatever the marker is
replaced by. -/
def Template.Stopped (t : Template) : Prop := ∀ m ∈ t.tail, ∃ c ∈ m.2.head?, Stops c

instance decidableStops : ∀ l : List Char, Decidable (∃ c ∈ l.head?, Stops c)
  | [] => isFalse fun ⟨_, h, _⟩ => by simp at h
  | c :: _ => decidable_of_iff (Stops c) (by simp)

instance (t : Template) : Decidable t.Stopped :=
  inferInstanceAs (Decidable (∀ m ∈ t.tail, ∃ c ∈ m.2.head?, Stops c))

/-- A template filled in, token by token: the values may have markers of their
own. -/
theorem tokens_render {t : Template} (h : t.Ok) (hStop : t.Stopped) (f : Nat → List Char) :
    tokens 0 (t.render f).toList =
      t.head.map .lit ++ t.tail.flatMap fun m => tokens 0 (f m.1) ++ m.2.map .lit := by
  have hTail : ∀ ts : List (Nat × List Char), TailOk ts →
      (∀ m ∈ ts, ∃ c ∈ m.2.head?, Stops c) →
      tokens 0 (ts.flatMap fun m => f m.1 ++ m.2) =
        ts.flatMap fun m => tokens 0 (f m.1) ++ m.2.map .lit := by
    intro ts hOk hStops
    induction ts with
    | nil => rfl
    | cons m ts ih =>
      obtain ⟨c, hHead, hc⟩ := hStops m List.mem_cons_self
      obtain ⟨l, hLit⟩ := List.head?_eq_some_iff.mp hHead
      have hRest := ih hOk.2.2.2.2 fun m' hm' => hStops m' (List.mem_cons_of_mem _ hm')
      have hPercent : '%' ∉ c :: l := hLit ▸ hOk.2.1
      rw [List.flatMap_cons, List.flatMap_cons, ← hRest, hLit, List.append_assoc,
        List.cons_append, tokens_append_stop hc _ 0 _ (Nat.zero_le _), ← List.cons_append,
        tokens_append_of_notMem hPercent, List.append_assoc]
  rw [Template.render, String.toList_ofList, tokens_append_of_notMem h.head_ok,
    hTail t.tail h.tail_ok hStop]

/-- The text of a marker. -/
def markerText (k : Nat) : List Char := ['%', k.digitChar]

theorem tokens_markerText {k : Nat} (hk : k < 10) :
    tokens 0 (markerText k) = [.mark k [k.digitChar]] := by
  have hEscape : escapeAt [k.digitChar] = some (k, 1) := escapeAt_digitChar hk (by simp)
  rw [markerText, tokens, if_pos rfl, hEscape]
  rfl

/-- A template is itself filled in with its markers. -/
theorem Template.text_eq_render (t : Template) : t.text = t.render markerText := by
  have hTail : ∀ ts, tailChars ts = ts.flatMap fun m => markerText m.1 ++ m.2 := by
    intro ts
    induction ts with
    | nil => rfl
    | cons m ts ih =>
      rw [tailChars, ih]
      rfl
  rw [Template.text, Template.render, hTail]

/-- The markers have one digit. -/
theorem TailOk.lt_ten {ts : List (Nat × List Char)} (h : TailOk ts) :
    ∀ k ∈ ts.map Prod.fst, k < 10 := by
  induction ts with
  | nil => simp
  | cons m ts ih =>
    intro k hk
    rcases List.mem_cons.mp hk with rfl | hk
    · exact h.1
    · exact ih h.2.2.2.2 k hk

/-- One step: the lowest marker left is that of the template, and only it is
replaced. -/
theorem arg_render {t : Template} (h : t.Ok) (hStop : t.Stopped) {f : Nat → List Char} {k : Nat}
    (hk : k ∈ t.tail.map Prod.fst) (hText : f k = markerText k)
    (hOthers : ∀ n ∈ t.tail.map Prod.fst, n ≠ k → ∀ m ∈ markers (f n), k < m) (value : String) :
    arg (t.render f) value = t.render (Function.update f k value.toList) := by
  have hTen : k < 10 := h.tail_ok.lt_ten k hk
  have hLow : PlaceMarker.lowest (tokens 0 (t.render f).toList) = some k := by
    rw [tokens_render h hStop, PlaceMarker.lowest, List.filterMap_append, numbers_map_lit,
      List.nil_append, List.min?_eq_some_iff]
    constructor
    · obtain ⟨m, hm, rfl⟩ := List.mem_map.mp hk
      refine List.mem_filterMap.mpr ⟨.mark m.1 [m.1.digitChar], ?_, rfl⟩
      refine List.mem_flatMap.mpr ⟨m, hm, List.mem_append_left _ ?_⟩
      rw [hText, tokens_markerText hTen]
      exact List.mem_singleton_self _
    · intro n hn
      obtain ⟨token, hToken, hNumber⟩ := List.mem_filterMap.mp hn
      obtain ⟨m, hm, hToken⟩ := List.mem_flatMap.mp hToken
      rcases List.mem_append.mp hToken with hToken | hToken
      · have hIn : n ∈ markers (f m.1) := List.mem_filterMap.mpr ⟨token, hToken, hNumber⟩
        by_cases hEq : m.1 = k
        · rw [hEq, hText, markers, tokens_markerText hTen] at hIn
          exact Nat.le_of_eq (List.mem_singleton.mp hIn).symm
        · exact Nat.le_of_lt (hOthers m.1 (List.mem_map_of_mem hm) hEq n hIn)
      · obtain ⟨c, -, rfl⟩ := List.mem_map.mp hToken
        cases hNumber
  rw [arg, hLow]
  show String.ofList _ = _
  rw [tokens_render h hStop, List.flatMap_append, expand_map_lit, List.flatMap_assoc,
    Template.render]
  congr 2
  refine List.flatMap_congr fun m hm => ?_
  rw [List.flatMap_append, expand_map_lit]
  by_cases hEq : m.1 = k
  · rw [hEq, Function.update_self, hText, tokens_markerText hTen]
    simp [Token.expand]
  · have hNot : k ∉ markers (f m.1) := fun hIn =>
      absurd (hOthers m.1 (List.mem_map_of_mem hm) hEq k hIn) (Nat.lt_irrefl k)
    rw [Function.update_of_ne hEq, expand_tokens _ 0 _ hNot, List.drop_zero]

/-- `f` has filled in the markers up to `i`; those of the next `m` calls still
stand, and no filled-in value has a marker they would mistake. -/
structure Template.Pending (t : Template) (f : Nat → List Char) (i m : Nat) : Prop where
  present : ∀ k < m, i + k + 1 ∈ t.tail.map Prod.fst
  last : ∀ n ∈ t.tail.map Prod.fst, n ≤ i + m
  standing : ∀ n ∈ t.tail.map Prod.fst, i < n → f n = markerText n
  filled : 0 < m → ∀ n ∈ t.tail.map Prod.fst, n ≤ i → ∀ x ∈ markers (f n), i + m < x

/-- One `arg` call fills in the lowest marker that is left. -/
theorem Template.Pending.step {t : Template} {f : Nat → List Char} {i m : Nat}
    (h : t.Pending f i (m + 1)) {value : List Char}
    (hValue : 0 < m → ∀ x ∈ markers value, i + (m + 1) < x) :
    t.Pending (Function.update f (i + 1) value) (i + 1) m where
  present := by
    intro k hk
    rw [show i + 1 + k + 1 = i + (k + 1) + 1 by omega]
    exact h.present (k + 1) (by omega)
  last := by
    intro n hn
    have := h.last n hn
    omega
  standing := by
    intro n hn hLt
    rw [Function.update_of_ne (by omega)]
    exact h.standing n hn (by omega)
  filled := by
    intro hm n hn hLe x hx
    by_cases hEq : n = i + 1
    · rw [hEq, Function.update_self] at hx
      have := hValue hm x hx
      omega
    · rw [Function.update_of_ne hEq] at hx
      have := h.filled (by omega) n hn (by omega) x hx
      omega

/-- The next call fills in the next marker. -/
theorem Template.Pending.arg_eq {t : Template} (hOk : t.Ok) (hStop : t.Stopped)
    {f : Nat → List Char} {i m : Nat} (h : t.Pending f i (m + 1)) (value : String) :
    arg (t.render f) value = t.render (Function.update f (i + 1) value.toList) := by
  have hFirst : i + 1 ∈ t.tail.map Prod.fst := h.present 0 (by omega)
  refine arg_render hOk hStop hFirst (h.standing _ hFirst (by omega)) ?_ value
  intro n hn hne x hx
  rcases Nat.lt_or_ge i n with hLt | hGe
  · rw [h.standing n hn hLt, markers, tokens_markerText (hOk.tail_ok.lt_ten _ hn)] at hx
    obtain rfl : x = n := List.mem_singleton.mp hx
    omega
  · have := h.filled (by omega) n hn hGe x hx
    omega

/-- A chain of them fills in the rest. -/
theorem Template.Pending.foldl_arg {t : Template} (hOk : t.Ok) (hStop : t.Stopped)
    {values : List String} {f : Nat → List Char} {i : Nat} (h : t.Pending f i values.length)
    (hMarkers : ∀ v ∈ values.dropLast, ∀ x ∈ markers v.toList, i + values.length < x) :
    values.foldl arg (t.render f) =
      t.render fun k => if k ≤ i then f k else ((values[k - i - 1]?).getD "").toList := by
  induction values generalizing i f with
  | nil =>
    refine render_congr fun n hn => ?_
    have hLast : n ≤ i := h.last n hn
    rw [if_pos hLast]
  | cons v values ih =>
    have hValue : 0 < values.length → ∀ x ∈ markers v.toList, i + (values.length + 1) < x := by
      intro hPos
      refine hMarkers v ?_
      rw [List.dropLast_cons_of_ne_nil (List.ne_nil_of_length_pos hPos)]
      exact List.mem_cons_self
    have hRest : ∀ w ∈ values.dropLast, ∀ x ∈ markers w.toList, i + 1 + values.length < x := by
      intro w hw x hx
      have hne : values ≠ [] := by
        rintro rfl
        simp at hw
      have := hMarkers w (by
        rw [List.dropLast_cons_of_ne_nil hne]
        exact List.mem_cons_of_mem _ hw) x hx
      simp only [List.length_cons] at this
      omega
    rw [List.foldl_cons, h.arg_eq hOk hStop, ih (h.step hValue) hRest]
    refine render_congr fun n _ => ?_
    rcases Nat.lt_trichotomy n (i + 1) with hLt | rfl | hGt
    · rw [if_pos (by omega), if_pos (by omega), Function.update_of_ne (by omega)]
    · rw [if_pos (Nat.le_refl _), if_neg (by omega), Function.update_self]
      simp
    · rw [if_neg (by omega), if_neg (by omega),
        show n - i - 1 = (n - (i + 1) - 1) + 1 by omega, List.getElem?_cons_succ]

/-- **A chain of `arg` calls with any values.** Where each marker of the
template is stopped, values fill it in unchanged if none but the last has a
marker that a later call would take for the template's. -/
theorem foldl_arg_stopped {t : Template} (h : t.Ok) (hStop : t.Stopped) {values : List String}
    (hNum : t.NumberedFrom 0 values.length)
    (hMarkers : ∀ v ∈ values.dropLast, ∀ m ∈ markers v.toList, values.length < m) :
    values.foldl arg t.text = t.render fun k => ((values[k - 1]?).getD "").toList := by
  have hBound : ∀ n ∈ t.tail.map Prod.fst, 0 < n ∧ n ≤ 0 + values.length := by
    intro n hn
    obtain ⟨m, hm, rfl⟩ := List.mem_map.mp hn
    exact hNum.1 m hm
  have hPending : t.Pending markerText 0 values.length :=
    { present := hNum.2
      last := fun n hn => (hBound n hn).2
      standing := fun _ _ _ => rfl
      filled := fun _ n hn hLe => absurd (hBound n hn).1 (by omega) }
  rw [t.text_eq_render, hPending.foldl_arg h hStop (by rwa [Nat.zero_add])]
  refine render_congr fun n hn => ?_
  rw [if_neg (by have := (hBound n hn).1; omega), Nat.sub_zero]

end PlaceMarker
