import VxlanMtd.Lib.Template
import VxlanMtd.Lib.Text

/-!
# SQL — statements as texts

A program that builds its statements as texts relies on how the database reads
them. This module has the part of SQL that updates, inserts and deletes the
rows of one table, with string literals for values: `lex` and `parse` take a
text to its tokens and to the `Statement` it is.

* `parseTokens_tokens` — a statement is read back from its tokens;
* `Query.parse_foldl_arg` — a template that has its place markers in literals is read
  as the same statement with the values in their place.
-/

namespace Sql

open PlaceMarker

-- ---------------------------------------------------------------------------
-- Tokens
-- ---------------------------------------------------------------------------

/-- A keyword or name, a string literal without its quotes, or a symbol. -/
inductive Token where
  | word (s : String)
  | literal (s : String)
  | symbol (c : Char)
  deriving DecidableEq, Repr

/-- What has been read of the token at hand. After `quote` a literal is over
unless the quote is doubled. -/
inductive Mode where
  | between
  | word (s : List Char)
  | literal (s : List Char)
  | quote (s : List Char)
  deriving DecidableEq

def isWordChar (c : Char) : Bool := c.isAlpha || c == '_'

/-- The first character of a token, or a blank. -/
def start (c : Char) : Option (List Token × Mode) :=
  if c = '\'' then some ([], .literal [])
  else if c = ' ' then some ([], .between)
  else if isWordChar c then some ([], .word [c])
  else if c ∈ ['(', ')', ',', '=', ';'] then some ([.symbol c], .between)
  else none

/-- One character: the tokens it completes. A statement ends at a null
character, a literal cannot contain one. -/
def step : Mode → Char → Option (List Token × Mode)
  | .between, c => start c
  | .word s, c =>
    if isWordChar c then some ([], .word (s ++ [c]))
    else (start c).map fun r => (.word (String.ofList s) :: r.1, r.2)
  | .literal s, c =>
    if c = '\'' then some ([], .quote s)
    else if c = '\x00' then none
    else some ([], .literal (s ++ [c]))
  | .quote s, c =>
    if c = '\'' then some ([], .literal (s ++ ['\'']))
    else (start c).map fun r => (.literal (String.ofList s) :: r.1, r.2)

/-- The end of the text. -/
def Mode.finish : Mode → Option (List Token)
  | .between => some []
  | .word s => some [.word (String.ofList s)]
  | .literal _ => none
  | .quote s => some [.literal (String.ofList s)]

/-- The tokens of a part of a text, and where it leaves off. -/
def advance : Mode → List Char → Option (List Token × Mode)
  | mode, [] => some ([], mode)
  | mode, c :: cs =>
    (step mode c).bind fun r => (advance r.2 cs).map fun r' => (r.1 ++ r'.1, r'.2)

/-- The tokens of the rest of a text. -/
def lexFrom (mode : Mode) (cs : List Char) : Option (List Token) :=
  (advance mode cs).bind fun r => r.2.finish.map (r.1 ++ ·)

/-- The tokens of a text; none where SQLite would report an error, or where the
text is outside this part of the language. -/
def lex (cs : List Char) : Option (List Token) := lexFrom .between cs

-- ---------------------------------------------------------------------------
-- Statements
-- ---------------------------------------------------------------------------

/-- A statement on one table. `update` and `delete` concern the rows whose
`column` has the value `key`. -/
inductive Statement where
  | update (table : String) (set : List (String × String)) (column key : String)
  | insert (table : String) (columns values : List String)
  | delete (table : String) (column key : String)
  deriving DecidableEq, Repr

/-- The assignments after `SET`, and what follows them. -/
def parseSet : List Token → Option (List (String × String) × List Token)
  | .word c :: .symbol '=' :: .literal v :: .symbol ',' :: ts =>
    (parseSet ts).map fun r => ((c, v) :: r.1, r.2)
  | .word c :: .symbol '=' :: .literal v :: ts => some ([(c, v)], ts)
  | _ => none

/-- Items up to a closing parenthesis. -/
def parseItems (item : Token → Option String) : List Token → Option (List String × List Token)
  | t :: .symbol ',' :: ts =>
    (item t).bind fun a => (parseItems item ts).map fun r => (a :: r.1, r.2)
  | t :: .symbol ')' :: ts => (item t).map fun a => ([a], ts)
  | _ => none

def Token.word? : Token → Option String
  | .word s => some s
  | _ => none

def Token.literal? : Token → Option String
  | .literal s => some s
  | _ => none

/-- Nothing is left but a semicolon. -/
def ended (ts : List Token) : Bool := ts = [] ∨ ts = [.symbol ';']

/-- The condition that ends a statement. -/
def parseWhere : List Token → Option (String × String)
  | .word w :: .word c :: .symbol '=' :: .literal v :: ts =>
    if w = "WHERE" ∧ ended ts then some (c, v) else none
  | _ => none

/-- The lists of columns and values. -/
def parseValues : List Token → Option (List String × List String)
  | .symbol '(' :: ts =>
    (parseItems Token.word? ts).bind fun r =>
      match r.2 with
      | .word w :: .symbol '(' :: ts =>
        (parseItems Token.literal? ts).bind fun r' =>
          if w = "VALUES" ∧ ended r'.2 ∧ r.1.length = r'.1.length then some (r.1, r'.1) else none
      | _ => none
  | _ => none

def parseTokens : List Token → Option Statement
  | .word a :: .word b :: .word c :: ts =>
    if a = "UPDATE" ∧ c = "SET" then
      (parseSet ts).bind fun r => (parseWhere r.2).map fun w => .update b r.1 w.1 w.2
    else if a = "INSERT" ∧ b = "INTO" then
      (parseValues ts).map fun r => .insert c r.1 r.2
    else if a = "DELETE" ∧ b = "FROM" then
      (parseWhere ts).map fun w => .delete c w.1 w.2
    else none
  | _ => none

/-- The statement a text is. -/
def parse (text : String) : Option Statement := (lex text.toList).bind parseTokens

-- ---------------------------------------------------------------------------
-- A statement is read back
-- ---------------------------------------------------------------------------

def setTokens : List (String × String) → List Token
  | [] => []
  | [(c, v)] => [.word c, .symbol '=', .literal v]
  | (c, v) :: set => [.word c, .symbol '=', .literal v, .symbol ','] ++ setTokens set

def itemTokens (item : String → Token) : List String → List Token
  | [] => []
  | [a] => [item a]
  | a :: as => [item a, .symbol ','] ++ itemTokens item as

def whereTokens (column key : String) : List Token :=
  [.word "WHERE", .word column, .symbol '=', .literal key]

/-- The tokens of a statement. -/
def Statement.tokens : Statement → List Token
  | .update table set column key =>
    [.word "UPDATE", .word table, .word "SET"] ++ (setTokens set ++ whereTokens column key)
  | .insert table columns values =>
    [.word "INSERT", .word "INTO", .word table, .symbol '('] ++
      (itemTokens .word columns ++ ([.symbol ')', .word "VALUES", .symbol '('] ++
        (itemTokens .literal values ++ [.symbol ')'])))
  | .delete table column key =>
    [.word "DELETE", .word "FROM", .word table] ++ whereTokens column key

/-- Something is assigned, and every column has its value. -/
def Statement.Shaped : Statement → Prop
  | .update _ set _ _ => set ≠ []
  | .insert _ columns values => columns ≠ [] ∧ columns.length = values.length
  | .delete .. => True

/-- Assignments are read back, up to the first token that is no comma. -/
theorem parseSet_setTokens {set : List (String × String)} (h : set ≠ []) {ts : List Token}
    (hEnd : ts.head? ≠ some (.symbol ',')) : parseSet (setTokens set ++ ts) = some (set, ts) := by
  induction set with
  | nil => exact absurd rfl h
  | cons p set ih =>
    obtain ⟨c, v⟩ := p
    cases set with
    | nil =>
      show parseSet (.word c :: .symbol '=' :: .literal v :: ts) = _
      rw [parseSet]
      rintro ts' rfl
      exact hEnd rfl
    | cons p set =>
      show (parseSet (setTokens (p :: set) ++ ts)).map _ = _
      rw [ih (by simp)]
      rfl

/-- A list in parentheses is read back. -/
theorem parseItems_itemTokens {item : String → Token} {item? : Token → Option String}
    (hItem : ∀ a, item? (item a) = some a) {as : List String} (h : as ≠ []) (ts : List Token) :
    parseItems item? (itemTokens item as ++ .symbol ')' :: ts) = some (as, ts) := by
  induction as with
  | nil => exact absurd rfl h
  | cons a as ih =>
    cases as with
    | nil =>
      show (item? (item a)).map _ = _
      rw [hItem]
      rfl
    | cons b as =>
      show (item? (item a)).bind (fun a =>
        (parseItems item? (itemTokens item (b :: as) ++ .symbol ')' :: ts)).map _) = _
      rw [hItem, ih (by simp)]
      rfl

/-- A condition is read back. -/
theorem parseWhere_whereTokens (column key : String) {ts : List Token} (h : ended ts) :
    parseWhere (whereTokens column key ++ ts) = some (column, key) :=
  if_pos ⟨rfl, h⟩

/-- **A statement is read back from its tokens.** -/
theorem parseTokens_tokens {statement : Statement} (h : statement.Shaped) {ts : List Token}
    (hEnd : ended ts) : parseTokens (statement.tokens ++ ts) = some statement := by
  cases statement with
  | update table set column key =>
    show (parseSet (setTokens set ++ whereTokens column key ++ ts)).bind _ = _
    rw [List.append_assoc, parseSet_setTokens h (by simp [whereTokens])]
    show (parseWhere (whereTokens column key ++ ts)).map _ = _
    rw [parseWhere_whereTokens column key hEnd]
    rfl
  | insert table columns values =>
    obtain ⟨hColumns, hLength⟩ := h
    have hValues : values ≠ [] := by
      rintro rfl
      exact hColumns (List.length_eq_zero_iff.mp hLength)
    have hTokens : (Statement.insert table columns values).tokens ++ ts =
        .word "INSERT" :: .word "INTO" :: .word table :: .symbol '(' ::
          (itemTokens Token.word columns ++ .symbol ')' :: ([.word "VALUES", .symbol '('] ++
            (itemTokens Token.literal values ++ .symbol ')' :: ts))) := by
      simp [Statement.tokens]
    have hParse : parseValues (.symbol '(' :: (itemTokens Token.word columns ++
        .symbol ')' :: ([.word "VALUES", .symbol '('] ++
          (itemTokens Token.literal values ++ .symbol ')' :: ts)))) = some (columns, values) := by
      rw [parseValues, parseItems_itemTokens (fun _ => rfl) hColumns, Option.bind_some]
      show (parseItems Token.literal?
        (itemTokens Token.literal values ++ .symbol ')' :: ts)).bind _ = _
      rw [parseItems_itemTokens (fun _ => rfl) hValues]
      exact if_pos ⟨rfl, hEnd, hLength⟩
    rw [hTokens]
    show (parseValues _).map _ = _
    rw [hParse]
    rfl
  | delete table column key =>
    show (parseWhere (whereTokens column key ++ ts)).map _ = _
    rw [parseWhere_whereTokens column key hEnd]
    rfl

-- ---------------------------------------------------------------------------
-- Filled-in statements
-- ---------------------------------------------------------------------------

/-- A text that closes no literal. -/
def Clean (cs : List Char) : Prop := '\'' ∉ cs ∧ '\x00' ∉ cs

instance (cs : List Char) : Decidable (Clean cs) := inferInstanceAs (Decidable (_ ∧ _))

/-- A lexer reads a text in two parts. -/
theorem advance_append (mode : Mode) (a b : List Char) :
    advance mode (a ++ b) =
      (advance mode a).bind fun r => (advance r.2 b).map fun r' => (r.1 ++ r'.1, r'.2) := by
  induction a generalizing mode with
  | nil => simp [advance]
  | cons c a ih =>
    rw [List.cons_append, advance, advance]
    cases hStep : step mode c with
    | none => rfl
    | some r =>
      rw [Option.bind_some, Option.bind_some, ih]
      cases hRest : advance r.2 a with
      | none => rfl
      | some r' =>
        cases hLast : advance r'.2 b with
        | none => simp [hLast]
        | some r'' => simp [hLast]

/-- What follows is read in the mode the first part ends in. -/
theorem lexFrom_append (mode : Mode) (a b : List Char) :
    lexFrom mode (a ++ b) = (advance mode a).bind fun r => (lexFrom r.2 b).map (r.1 ++ ·) := by
  rw [lexFrom, advance_append]
  cases hFirst : advance mode a with
  | none => rfl
  | some r =>
    simp only [lexFrom, Option.bind_some]
    cases hRest : advance r.2 b with
    | none => rfl
    | some r' =>
      simp only [Option.map_some, Option.bind_some]
      cases hEnd : r'.2.finish with
      | none => rfl
      | some ts => simp

/-- A clean text is part of the literal it stands in. -/
theorem advance_literal {v : List Char} (h : Clean v) (s : List Char) :
    advance (.literal s) v = some ([], .literal (s ++ v)) := by
  induction v generalizing s with
  | nil => simp [advance]
  | cons c v ih =>
    obtain ⟨hQuote, hNull⟩ := h
    have hc : c ≠ '\'' ∧ c ≠ '\x00' :=
      ⟨fun hEq => hQuote (hEq ▸ List.mem_cons_self), fun hEq => hNull (hEq ▸ List.mem_cons_self)⟩
    have hv : Clean v :=
      ⟨fun hMem => hQuote (List.mem_cons_of_mem _ hMem),
        fun hMem => hNull (List.mem_cons_of_mem _ hMem)⟩
    rw [advance, step, if_neg hc.1, if_neg hc.2, Option.bind_some, ih hv]
    simp

/-- A quote that is not doubled ends the literal. -/
theorem lexFrom_quote {cs : List Char} (h : cs.head? ≠ some '\'') (s : List Char) :
    lexFrom (.quote s) cs = (lexFrom .between cs).map (.literal (String.ofList s) :: ·) := by
  cases cs with
  | nil => rfl
  | cons c cs =>
    have hc : c ≠ '\'' := fun hEq => h (hEq ▸ rfl)
    simp only [lexFrom, advance, step, if_neg hc]
    cases hStart : start c with
    | none => rfl
    | some r =>
      simp only [Option.map_some, Option.bind_some]
      cases hRest : advance r.2 cs with
      | none => rfl
      | some r' =>
        simp only [Option.map_some, Option.bind_some]
        cases hEnd : r'.2.finish with
        | none => rfl
        | some ts => simp

/-- A literal and what follows it up to the next one. -/
theorem lexFrom_literal {v l rest : List Char} {ts : List Token} {mode : Mode} (hv : Clean v)
    (hl : l.head? ≠ some '\'') (hAdvance : advance .between l = some (ts, mode))
    (hEnd : l = [] → rest = []) :
    lexFrom (.literal []) (v ++ ('\'' :: l ++ rest)) =
      (lexFrom mode rest).map (.literal (String.ofList v) :: ts ++ ·) := by
  have hHead : (l ++ rest).head? ≠ some '\'' := by
    cases l with
    | nil => simp [hEnd rfl]
    | cons c l => simpa using hl
  have hQuote : lexFrom (.literal v) ('\'' :: (l ++ rest)) = lexFrom (.quote v) (l ++ rest) := by
    simp only [lexFrom, advance, step, if_pos, Option.bind_some]
    cases advance (.quote v) (l ++ rest) with
    | none => rfl
    | some r => simp
  rw [lexFrom_append, advance_literal hv, Option.bind_some, List.nil_append, List.cons_append,
    hQuote, lexFrom_quote hHead, lexFrom_append, hAdvance, Option.bind_some]
  cases lexFrom mode rest with
  | none => rfl
  | some ts' => rfl

/-- The same token with another literal. -/
def Token.mapLiteral (g : String → String) : Token → Token
  | .literal s => .literal (g s)
  | t => t

/-- The same statement with other literals. -/
def Statement.mapLiterals (g : String → String) : Statement → Statement
  | .update table set column key =>
    .update table (set.map fun p => (p.1, g p.2)) column (g key)
  | .insert table columns values => .insert table columns (values.map g)
  | .delete table column key => .delete table column (g key)

theorem setTokens_map (g : String → String) (set : List (String × String)) :
    setTokens (set.map fun p => (p.1, g p.2)) = (setTokens set).map (Token.mapLiteral g) := by
  induction set with
  | nil => rfl
  | cons p set ih =>
    cases set with
    | nil => rfl
    | cons p' set =>
      show [_, _, _, _] ++ setTokens _ = ([_, _, _, _] ++ setTokens _).map _
      rw [List.map_append, ← ih]
      rfl

theorem itemTokens_map {item : String → Token} {f : Token → Token} {g : String → String}
    (hItem : ∀ a, f (item a) = item (g a)) (hComma : f (.symbol ',') = .symbol ',')
    (as : List String) : itemTokens item (as.map g) = (itemTokens item as).map f := by
  induction as with
  | nil => rfl
  | cons a as ih =>
    cases as with
    | nil => exact congrArg (fun t => [t]) (hItem a).symm
    | cons b as =>
      show [_, _] ++ itemTokens item _ = ([_, _] ++ itemTokens item _).map f
      rw [List.map_append, ← ih]
      simp [hItem, hComma]

/-- Other literals in the statement are other literals in its tokens. -/
theorem tokens_mapLiterals (g : String → String) (statement : Statement) :
    (statement.mapLiterals g).tokens = statement.tokens.map (Token.mapLiteral g) := by
  cases statement with
  | update table set column key =>
    show _ ++ (setTokens (set.map _) ++ _) = _
    rw [setTokens_map]
    simp [Statement.tokens, whereTokens, Token.mapLiteral]
  | insert table columns values =>
    have hColumns : itemTokens .word columns =
        (itemTokens .word columns).map (Token.mapLiteral g) := by
      have h := @itemTokens_map Token.word (Token.mapLiteral g) id (fun _ => rfl) rfl columns
      rwa [List.map_id] at h
    have hValues : itemTokens .literal (values.map g) =
        (itemTokens .literal values).map (Token.mapLiteral g) :=
      itemTokens_map (fun _ => rfl) rfl values
    show _ ++ (itemTokens .word columns ++ (_ ++ (itemTokens .literal (values.map g) ++ _))) = _
    rw [hValues, hColumns]
    simp [Statement.tokens, Token.mapLiteral]
  | delete table column key =>
    simp [Statement.tokens, Statement.mapLiterals, whereTokens, Token.mapLiteral]

/-- The literals do not matter for this. -/
theorem Statement.Shaped.mapLiterals {statement : Statement} (h : statement.Shaped)
    (g : String → String) : (statement.mapLiterals g).Shaped := by
  cases statement with
  | update table set column key =>
    intro hNil
    exact h (List.map_eq_nil_iff.mp hNil)
  | insert table columns values => exact ⟨h.1, by simpa using h.2⟩
  | delete => exact trivial

/-- Each marker stands in a literal of its own, and the text after it has no
other literals. -/
def quoted : List (Nat × List Char) → Bool
  | [] => true
  | (_, '\'' :: l) :: ts =>
    l.head? != some '\'' &&
      match advance .between l with
      | some r =>
        r.1.all (fun t => t.literal?.isNone) &&
          decide (r.2 = if ts.isEmpty then .between else .literal []) && quoted ts
      | none => false
  | _ => false

/-- The text before the first marker leaves off in a literal, and its own
literals are no markers. -/
def headQuoted (head : List Char) : Bool :=
  match advance .between head with
  | some r =>
    decide (r.2 = .literal []) && r.1.all fun t => t.literal?.all fun s => '%' ∉ s.toList
  | none => false

instance : ∀ statement : Statement, Decidable statement.Shaped
  | .update _ set _ _ => inferInstanceAs (Decidable (set ≠ []))
  | .insert _ columns values =>
    inferInstanceAs (Decidable (columns ≠ [] ∧ columns.length = values.length))
  | .delete .. => isTrue trivial

/-- A template whose text is a statement with markers for literals. -/
structure Reads (t : Template) (statement : Statement) : Prop where
  ok : t.Ok
  stopped : t.Stopped
  head : headQuoted t.head = true
  tail : quoted t.tail = true
  shaped : statement.Shaped
  tokens : lex (t.head ++ tailChars t.tail) = some (statement.tokens ++ []) ∨
    lex (t.head ++ tailChars t.tail) = some (statement.tokens ++ [.symbol ';'])

instance (t : Template) (statement : Statement) : Decidable (Reads t statement) :=
  decidable_of_iff (t.Ok ∧ t.Stopped ∧ headQuoted t.head = true ∧ quoted t.tail = true ∧
      statement.Shaped ∧ (lex (t.head ++ tailChars t.tail) = some (statement.tokens ++ []) ∨
        lex (t.head ++ tailChars t.tail) = some (statement.tokens ++ [.symbol ';'])))
    ⟨fun h => ⟨h.1, h.2.1, h.2.2.1, h.2.2.2.1, h.2.2.2.2.1, h.2.2.2.2.2⟩,
      fun h => ⟨h.ok, h.stopped, h.head, h.tail, h.shaped, h.tokens⟩⟩

/-- The value for a literal that is a marker. -/
def fill (values : List String) (s : String) : String :=
  match s.toList with
  | ['%', d] => if d.isDigit then (values[d.toNat - '0'.toNat - 1]?).getD "" else s
  | _ => s

/-- A marker stands for its value. -/
theorem fill_markerText (values : List String) {k : Nat} (hk : k < 10) :
    fill values (String.ofList (markerText k)) = (values[k - 1]?).getD "" := by
  have hDigit : k.digitChar.isDigit = true := by
    rw [Nat.isDigit_digitChar]
    simpa using hk
  simp [fill, markerText, hk, Nat.toNat_digitChar_of_lt_ten hk]

/-- A literal without markers stays. -/
theorem fill_of_notMem (values : List String) {s : String} (h : '%' ∉ s.toList) :
    fill values s = s := by
  unfold fill
  split
  · rename_i d hEq
    exact absurd (hEq ▸ List.mem_cons_self) h
  · rfl

/-- A marker has no quote and no null character. -/
theorem clean_markerText {k : Nat} (hk : k < 10) : Clean (markerText k) := by
  have hDigit : k.digitChar.isDigit = true := by
    rw [Nat.isDigit_digitChar]
    simpa using hk
  have hOther : ∀ c : Char, c ≠ '%' → c.isDigit = false → c ∉ markerText k := by
    intro c hPercent hc hMem
    rcases List.mem_cons.mp hMem with hEq | hMem
    · exact hPercent hEq
    · rw [← List.mem_singleton.mp hMem, hc] at hDigit
      cases hDigit
  exact ⟨hOther _ (by decide) (by decide), hOther _ (by decide) (by decide)⟩

/-- Tokens without literals stay as they are. -/
theorem map_mapLiteral_of_fixed {g : String → String} {ts : List Token}
    (h : ∀ t ∈ ts, ∀ s, t.literal? = some s → g s = s) : ts.map (Token.mapLiteral g) = ts := by
  have hEach : ∀ t ∈ ts, t.mapLiteral g = t := by
    intro t ht
    cases t with
    | word => rfl
    | symbol => rfl
    | literal s => exact congrArg Token.literal (h _ ht s rfl)
  exact (List.map_congr_left hEach).trans (List.map_id ts)

/-- The texts after the head are read alike, whatever stands for the markers. -/
theorem lexFrom_tail {ts : List (Nat × List Char)} (h : quoted ts = true)
    (hTen : ∀ k ∈ ts.map Prod.fst, k < 10) {f : Nat → List Char} {g : String → String}
    (hClean : ∀ k ∈ ts.map Prod.fst, Clean (f k))
    (hg : ∀ k ∈ ts.map Prod.fst, g (String.ofList (markerText k)) = String.ofList (f k)) :
    lexFrom (.literal []) (ts.flatMap fun m => f m.1 ++ m.2) =
      (lexFrom (.literal []) (ts.flatMap fun m => markerText m.1 ++ m.2)).map
        (List.map (Token.mapLiteral g)) := by
  induction ts with
  | nil => rfl
  | cons m ts ih =>
    obtain ⟨k, l⟩ := m
    unfold quoted at h
    split at h
    · contradiction
    · rename_i k' l' ts' hEq
      obtain ⟨hm, rfl⟩ := List.cons.inj hEq
      obtain ⟨rfl, rfl⟩ := Prod.mk.inj hm
      simp only [Bool.and_eq_true, bne_iff_ne, ne_eq] at h
      obtain ⟨hHead, h⟩ := h
      split at h
      · rename_i r hAdvance
        simp only [Bool.and_eq_true, decide_eq_true_eq, List.all_eq_true] at h
        obtain ⟨⟨hPlain, hMode⟩, hRest⟩ := h
        -- after the last marker nothing is left, before it the text goes on
        have hEnd : ∀ F : Nat → List Char,
            l' = [] → (ts.flatMap fun m => F m.1 ++ m.2) = [] := by
          rintro F rfl
          cases ts with
          | nil => rfl
          | cons m ts =>
            obtain rfl := Option.some.inj hAdvance
            cases hMode
        have hFixed : r.1.map (Token.mapLiteral g) = r.1 := by
          refine map_mapLiteral_of_fixed fun t ht s hs => ?_
          have hNone := hPlain t ht
          rw [hs] at hNone
          cases hNone
        have hFirst := List.mem_cons_self (a := k) (l := ts.map Prod.fst)
        have hStep : lexFrom r.2 (ts.flatMap fun m => f m.1 ++ m.2) =
            (lexFrom r.2 (ts.flatMap fun m => markerText m.1 ++ m.2)).map
              (List.map (Token.mapLiteral g)) := by
          cases ts with
          | nil =>
            rw [hMode]
            rfl
          | cons m ts =>
            rw [hMode]
            exact ih hRest (fun k hk => hTen k (List.mem_cons_of_mem _ hk))
              (fun k hk => hClean k (List.mem_cons_of_mem _ hk))
              fun k hk => hg k (List.mem_cons_of_mem _ hk)
        rw [List.flatMap_cons, List.flatMap_cons, List.append_assoc, List.append_assoc,
          lexFrom_literal (hClean k hFirst) hHead hAdvance (hEnd _),
          lexFrom_literal (clean_markerText (hTen k hFirst)) hHead hAdvance (hEnd _), hStep,
          Option.map_map, Option.map_map]
        congr 1
        funext ts'
        simp only [Function.comp_apply, List.cons_append, List.map_cons, List.map_append, hFixed,
          Token.mapLiteral, hg k hFirst]
      · contradiction
    · contradiction

/-- **Filling in before lexing is filling in after it**: clean values stay
within the quotes. -/
theorem lex_render {t : Template} (hOk : t.Ok) (hHead : headQuoted t.head = true)
    (hTail : quoted t.tail = true) {f : Nat → List Char} {g : String → String}
    (hClean : ∀ k ∈ t.tail.map Prod.fst, Clean (f k))
    (hg : ∀ k ∈ t.tail.map Prod.fst, g (String.ofList (markerText k)) = String.ofList (f k))
    (hFixed : ∀ s : String, '%' ∉ s.toList → g s = s) :
    lex (t.render f).toList = (lex t.text.toList).map (List.map (Token.mapLiteral g)) := by
  unfold headQuoted at hHead
  split at hHead
  · rename_i r hAdvance
    simp only [Bool.and_eq_true, decide_eq_true_eq, List.all_eq_true] at hHead
    obtain ⟨hMode, hLiterals⟩ := hHead
    have hSame : r.1.map (Token.mapLiteral g) = r.1 := by
      refine map_mapLiteral_of_fixed fun t ht s hs => hFixed s ?_
      have hNone := hLiterals t ht
      rw [hs] at hNone
      simpa using hNone
    rw [t.text_eq_render, lex, lex, Template.render, Template.render, String.toList_ofList,
      String.toList_ofList, lexFrom_append, lexFrom_append, hAdvance, Option.bind_some,
      Option.bind_some, hMode, lexFrom_tail hTail hOk.tail_ok.lt_ten hClean hg, Option.map_map,
      Option.map_map]
    congr 1
    funext ts
    rw [Function.comp_apply, Function.comp_apply, List.map_append, hSame]
  · contradiction

/-- The tokens of a statement are parsed as it. -/
theorem parse_of_lex {statement : Statement} (hShaped : statement.Shaped) {text : String}
    {ts : List Token} (hEnd : ended ts)
    (hLex : lex text.toList = some (statement.tokens ++ ts)) : parse text = some statement := by
  rw [parse, hLex]
  exact parseTokens_tokens hShaped hEnd

/-- Values for a chain of `arg` calls that fill literals as they are: none
closes its literal, and none but the last has a marker that a later call would
take for the template's. -/
structure Fillable (values : List String) : Prop where
  clean : ∀ v ∈ values, Clean v.toList
  unmarked : ∀ v ∈ values.dropLast, ∀ m ∈ markers v.toList, values.length < m

instance (values : List String) : Decidable (Fillable values) :=
  decidable_of_iff ((∀ v ∈ values, Clean v.toList) ∧
      ∀ v ∈ values.dropLast, ∀ m ∈ markers v.toList, values.length < m)
    ⟨fun h => ⟨h.1, h.2⟩, fun h => ⟨h.clean, h.unmarked⟩⟩

/-- A template filled in is the statement with its literals filled in. -/
theorem Reads.parse_render {t : Template} {statement : Statement} (h : Reads t statement)
    {values : List String} (hNum : t.NumberedFrom 0 values.length) (hValues : Fillable values) :
    parse (values.foldl arg t.text) = some (statement.mapLiterals (fill values)) := by
  obtain ⟨ts, hTokens, hEnd, hPlain⟩ : ∃ ts, lex t.text.toList = some (statement.tokens ++ ts) ∧
      ended ts = true ∧ ts.map (Token.mapLiteral (fill values)) = ts := by
    rw [Template.text, String.toList_ofList]
    rcases h.tokens with hTokens | hTokens
    · exact ⟨_, hTokens, rfl, rfl⟩
    · exact ⟨_, hTokens, rfl, rfl⟩
  have hValue : ∀ k, Clean ((values[k - 1]?).getD "").toList := by
    intro k
    cases hGet : values[k - 1]? with
    | none => exact (by decide : Clean "".toList)
    | some v => exact hValues.clean v (List.mem_of_getElem? hGet)
  refine parse_of_lex (h.shaped.mapLiterals _) hEnd ?_
  rw [foldl_arg_stopped h.ok h.stopped hNum hValues.unmarked,
    lex_render h.ok h.head h.tail (fun k _ => hValue k)
      (fun k hk => by
        rw [fill_markerText values (h.ok.tail_ok.lt_ten k hk), String.ofList_toList])
      (fun s hs => fill_of_notMem values hs),
    hTokens, Option.map_some, List.map_append, hPlain, tokens_mapLiterals]

/-- A text with `n` markers that is a statement when they are filled in. -/
structure Query (text : List Char) (n : Nat) (statement : Statement) : Prop where
  reads : Reads (.ofChars text) statement
  numbered : (Template.ofChars text).NumberedFrom 0 n
  text_ofChars : (Template.ofChars text).head ++ tailChars (Template.ofChars text).tail = text

instance (text : List Char) (n : Nat) (statement : Statement) :
    Decidable (Query text n statement) :=
  decidable_of_iff (Reads (.ofChars text) statement ∧ (Template.ofChars text).NumberedFrom 0 n ∧
      (Template.ofChars text).head ++ tailChars (Template.ofChars text).tail = text)
    ⟨fun h => ⟨h.1, h.2.1, h.2.2⟩, fun h => ⟨h.reads, h.numbered, h.text_ofChars⟩⟩

/-- **A statement filled in by `arg`** is the one of the template, with the
values for its literals. -/
theorem Query.parse_foldl_arg {text : String} {values : List String} {statement : Statement}
    (h : Query text.toList values.length statement) (hValues : Fillable values) :
    parse (values.foldl arg text) = some (statement.mapLiterals (fill values)) := by
  have hParse := h.reads.parse_render h.numbered hValues
  rwa [Template.text, h.text_ofChars, String.ofList_toList] at hParse

/-- Clean texts without `%` fill a statement. -/
theorem fillable_of_clean {values : List String}
    (h : ∀ v ∈ values, Clean v.toList ∧ '%' ∉ v.toList) : Fillable values where
  clean := fun v hv => (h v hv).1
  unmarked := by
    intro v hv m hm
    rw [markers_of_notMem (h v (List.dropLast_subset _ hv)).2] at hm
    exact absurd hm List.not_mem_nil

/-- Decimal numerals fill literals. -/
theorem clean_repr (i : Int) : Clean i.repr.toList :=
  ⟨Text.notMem_repr (by decide) (by decide), Text.notMem_repr (by decide) (by decide)⟩

end Sql
