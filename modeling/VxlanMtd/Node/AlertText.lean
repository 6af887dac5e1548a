import VxlanMtd.Lib.Captures
import VxlanMtd.Node.Alerts

/-!
# What is read out of an alert file

An alert has a header, `MM/DD-hh:mm:ss.frac A:p -> B:q`. The pattern of
`fileChangedSlot` is meant for these, but its dots are not escaped, so it
matches other texts too, and the part of a text one match takes is not searched
again.

* `matchHere_header` — where a header begins, the pattern matches and captures
  its source address;
* `header_of_matches` — a match whose dots are dots is a header;
* `begins_in_destination` — a header that an earlier match hides begins in the
  destination of that match;
* **`scanners_exact_iff`** — `scanners()` has the source addresses of the
  headers exactly when the other matches make no difference (`AlertsApart`).
-/

namespace VxlanMtd

open Pattern

-- ---------------------------------------------------------------------------
-- Headers
-- ---------------------------------------------------------------------------

def IsTwoDigits (cs : List Char) : Prop := cs.length = 2 ∧ ∀ c ∈ cs, c.isDigit = true

/-- A decimal number. -/
def IsNumber (cs : List Char) : Prop := cs ≠ [] ∧ ∀ c ∈ cs, c.isDigit = true

/-- Four decimal numbers with dots between them. -/
def IsDottedQuad (cs : List Char) : Prop :=
  ∃ a b c d, IsNumber a ∧ IsNumber b ∧ IsNumber c ∧ IsNumber d ∧
    cs = a ++ '.' :: (b ++ '.' :: (c ++ '.' :: d))

/-- `MM/DD-hh:mm:ss.frac`. -/
def IsTimestamp (cs : List Char) : Prop :=
  ∃ month day hour minute second frac, IsTwoDigits month ∧ IsTwoDigits day ∧ IsTwoDigits hour ∧
    IsTwoDigits minute ∧ IsTwoDigits second ∧ IsNumber frac ∧
    cs = month ++ '/' :: (day ++ '-' :: (hour ++ ':' :: (minute ++ ':' ::
      (second ++ '.' :: frac))))

/-- `MM/DD-hh:mm:ss.frac A:p -> B:q`, where `source` is A. -/
def IsHeader (source cs : List Char) : Prop :=
  ∃ timestamp srcPort dstIp dstPort, IsTimestamp timestamp ∧ IsDottedQuad source ∧
    IsNumber srcPort ∧ IsDottedQuad dstIp ∧ IsNumber dstPort ∧
    cs = timestamp ++ ' ' :: (source ++ ':' :: (srcPort ++ " -> ".toList ++
      (dstIp ++ ':' :: dstPort)))

/-- A header with that source occurs in the text. -/
def HasHeader (text source : List Char) : Prop :=
  ∃ header, IsHeader source header ∧ header <:+: text

-- ---------------------------------------------------------------------------
-- The pattern at a header
-- ---------------------------------------------------------------------------

variable {cs source text header later : List Char} {pieces : List (List Char)}

/-- Two digits are read by their pattern. -/
theorem reads_twoDigits (h : IsTwoDigits cs) : ∃ x, Reads [digit, digit] cs x := by
  obtain ⟨hLength, hDigits⟩ := h
  obtain ⟨a, b, rfl⟩ := List.length_eq_two.mp hLength
  have ha := hDigits a List.mem_cons_self
  have hb := hDigits b (List.mem_cons_of_mem a List.mem_cons_self)
  exact ⟨_, (reads_one ha).append (reads_one hb)⟩

/-- Two digits and the character after them. -/
theorem reads_field {sep : String} {c : Char} (h : IsTwoDigits cs) (hSep : sep.toList = [c]) :
    ∃ x, Reads ([digit, digit] ++ literal sep) (cs ++ [c]) x := by
  obtain ⟨x, hx⟩ := reads_twoDigits h
  exact ⟨_, hSep ▸ hx.append (reads_literal sep)⟩

/-- A number is read up to the character after it. -/
theorem reads_number {c : Char} {r : Char → Bool} (h : IsNumber cs) (hStop : c.isDigit = false)
    (hc : r c = true) : Reads [digits, .one r] (cs ++ [c]) [cs, [c]] :=
  reads_plus h.1 h.2 hStop hc

/-- A dotted quad and the colon after it. -/
theorem reads_quad (h : IsDottedQuad cs) :
    ∃ x, x.length = addressPattern.length ∧ x.flatten = cs ∧
      Reads (addressPattern ++ literal ":") (cs ++ [':']) (x ++ [[':']]) := by
  obtain ⟨a, b, c, d, ha, hb, hc, hd, rfl⟩ := h
  have hDot : ∀ {n}, IsNumber n → Reads [digits, dot] (n ++ ['.']) [n, ['.']] :=
    fun hn => reads_number hn (by decide) (by decide)
  have hReads := (((hDot ha).append (hDot hb)).append (hDot hc)).append
    (@reads_number d ':' (· == ':') hd (by decide) (by decide))
  refine ⟨[a, ['.'], b, ['.'], c, ['.'], d], rfl, by simp, ?_⟩
  simpa [addressPattern, literal] using hReads

/-- A timestamp and the blank after it. -/
theorem reads_timestamp (h : IsTimestamp cs) : ∃ x, Reads timestampPattern (cs ++ [' ']) x := by
  obtain ⟨month, day, hour, minute, second, frac, hMonth, hDay, hHour, hMinute, hSecond, hFrac,
    rfl⟩ := h
  obtain ⟨x₁, h₁⟩ := @reads_field _ "/" '/' hMonth (by decide)
  obtain ⟨x₂, h₂⟩ := @reads_field _ "-" '-' hDay (by decide)
  obtain ⟨x₃, h₃⟩ := @reads_field _ ":" ':' hHour (by decide)
  obtain ⟨x₄, h₄⟩ := @reads_field _ ":" ':' hMinute (by decide)
  obtain ⟨x₅, h₅⟩ := reads_twoDigits hSecond
  have h₆ : Reads [dot] ['.'] [['.']] := reads_one (by decide)
  have h₇ := @reads_number frac ' ' (· == ' ') hFrac (by decide) (by decide)
  have hReads := h₁.append (h₂.append (h₃.append (h₄.append (h₅.append (h₆.append h₇)))))
  have hItems : timestampPattern = ([digit, digit] ++ literal "/") ++
      (([digit, digit] ++ literal "-") ++ (([digit, digit] ++ literal ":") ++
      (([digit, digit] ++ literal ":") ++ ([digit, digit] ++ ([dot] ++
      [digits, .one (· == ' ')]))))) := by
    simp [timestampPattern, literal]
  refine ⟨x₁ ++ (x₂ ++ (x₃ ++ (x₄ ++ (x₅ ++ ([['.']] ++ [frac, [' ']]))))), ?_⟩
  rw [hItems]
  simpa using hReads

/-- **Where a header begins**, the pattern matches and captures its source. -/
theorem matchHere_header (h : IsHeader source header) (later : List Char) :
    ∃ pieces rest, matchHere alertPattern (header ++ later) = some (pieces, rest) ∧
      (capturedSrcIp pieces).toList = source := by
  obtain ⟨timestamp, srcPort, dstIp, dstPort, hTimestamp, hSource, hSrcPort, hDstIp, hDstPort,
    rfl⟩ := h
  obtain ⟨x, hx⟩ := reads_timestamp hTimestamp
  obtain ⟨y, hLength, hFlatten, hy⟩ := reads_quad hSource
  obtain ⟨z, -, -, hz⟩ := reads_quad hDstIp
  have hPort := @reads_number srcPort ' ' (· == ' ') hSrcPort (by decide) (by decide)
  have hArrow := reads_literal "-> "
  -- the destination port takes all digits there are
  obtain ⟨last, rest, hLast⟩ : ∃ last rest,
      matchHere [digits] (dstPort ++ later) = some ([last], rest) := by
    obtain ⟨c, cs, rfl⟩ := List.exists_cons_of_ne_nil hDstPort.1
    exact exists_matchHere_plus (hDstPort.2 c List.mem_cons_self) _
  have hReads := hx.append (hy.append (hPort.append (hArrow.append hz)))
  have hItems : alertPattern = (timestampPattern ++ ((addressPattern ++ literal ":") ++
      ([digits, .one (· == ' ')] ++ (literal "-> " ++ (addressPattern ++ literal ":"))))) ++
        [digits] := by
    simp [alertPattern, literal]
  have hText : timestamp ++ ' ' :: (source ++ ':' :: (srcPort ++ " -> ".toList ++
      (dstIp ++ ':' :: dstPort))) ++ later = (timestamp ++ [' '] ++ ((source ++ [':']) ++
        ((srcPort ++ [' ']) ++ ("-> ".toList ++ (dstIp ++ [':']))))) ++ (dstPort ++ later) := by
    simp
  refine ⟨_, rest, by rw [hItems, hText]; exact hReads _ _ _ hLast, ?_⟩
  -- the source is what comes after the pieces of the timestamp
  have hStart : x.length = timestampPattern.length := (List.Forall₂.length_eq hx.matches).symm
  rw [capturedSrcIp, String.toList_ofList, ← hStart, ← hLength]
  simp [hFlatten]

-- ---------------------------------------------------------------------------
-- The pattern with its dots escaped
-- ---------------------------------------------------------------------------

/-- `\.`. -/
def period : Item := .one (· == '.')

/-- `addressPattern`, with `sep` for its dots. -/
def addressWith (sep : Item) : List Item := [digits, sep, digits, sep, digits, sep, digits]

/-- `timestampPattern`, with `sep` for its dot. -/
def timestampWith (sep : Item) : List Item :=
  [digit, digit] ++ literal "/" ++ [digit, digit] ++ literal "-" ++ [digit, digit] ++ literal ":" ++
    [digit, digit] ++ literal ":" ++ [digit, digit, sep, digits] ++ literal " "

/-- `alertPattern`, with `sep` for its dots. -/
def alertWith (sep : Item) : List Item :=
  timestampWith sep ++ addressWith sep ++ literal ":" ++ [digits] ++ literal " -> " ++
    addressWith sep ++ literal ":" ++ [digits]

/-- What the pattern of two digits matches is two digits. -/
theorem twoDigits_of_matches (h : Matches [digit, digit] pieces) :
    IsTwoDigits pieces.flatten := by
  rcases h with _ | ⟨⟨a, rfl, ha⟩, _ | ⟨⟨b, rfl, hb⟩, ⟨⟩⟩⟩
  exact ⟨rfl, by simpa using ⟨ha, hb⟩⟩

theorem number_of_matches (h : Matches [digits] pieces) : IsNumber pieces.flatten := by
  rcases h with _ | ⟨hNumber, ⟨⟩⟩
  rw [List.flatten_singleton]
  exact hNumber

/-- What an address is, with characters of a class for its dots. -/
theorem address_of_matches {r : Char → Bool} (h : Matches (addressWith (.one r)) pieces) :
    ∃ a b c d x y z, IsNumber a ∧ IsNumber b ∧ IsNumber c ∧ IsNumber d ∧
      r x = true ∧ r y = true ∧ r z = true ∧
      pieces.flatten = a ++ x :: (b ++ y :: (c ++ z :: d)) := by
  rcases h with _ | ⟨ha, _ | ⟨⟨x, rfl, hx⟩, h⟩⟩
  rcases h with _ | ⟨hb, _ | ⟨⟨y, rfl, hy⟩, h⟩⟩
  rcases h with _ | ⟨hc, _ | ⟨⟨z, rfl, hz⟩, _ | ⟨hd, ⟨⟩⟩⟩⟩
  refine ⟨_, _, _, _, x, y, z, ha, hb, hc, hd, hx, hy, hz, ?_⟩
  simp

/-- What a timestamp is, with a character of a class for its dot. -/
theorem timestamp_of_matches {r : Char → Bool} (h : Matches (timestampWith (.one r)) pieces) :
    ∃ month day hour minute second frac x, IsTwoDigits month ∧ IsTwoDigits day ∧
      IsTwoDigits hour ∧ IsTwoDigits minute ∧ IsTwoDigits second ∧ IsNumber frac ∧ r x = true ∧
      pieces.flatten = month ++ '/' :: (day ++ '-' :: (hour ++ ':' :: (minute ++ ':' ::
        (second ++ x :: (frac ++ [' ']))))) := by
  have hItems : timestampWith (.one r) = [digit, digit] ++ (literal "/" ++ ([digit, digit] ++
      (literal "-" ++ ([digit, digit] ++ (literal ":" ++ ([digit, digit] ++ (literal ":" ++
        ([digit, digit] ++ ([.one r] ++ ([digits] ++ literal " ")))))))))) := by
    simp [timestampWith]
  rw [hItems] at h
  obtain ⟨month, _, rfl, hMonth, h⟩ := matches_append.mp h
  obtain ⟨slash, _, rfl, hSlash, h⟩ := matches_append.mp h
  obtain ⟨day, _, rfl, hDay, h⟩ := matches_append.mp h
  obtain ⟨minus, _, rfl, hMinus, h⟩ := matches_append.mp h
  obtain ⟨hour, _, rfl, hHour, h⟩ := matches_append.mp h
  obtain ⟨colon₁, _, rfl, hColon₁, h⟩ := matches_append.mp h
  obtain ⟨minute, _, rfl, hMinute, h⟩ := matches_append.mp h
  obtain ⟨colon₂, _, rfl, hColon₂, h⟩ := matches_append.mp h
  obtain ⟨second, _, rfl, hSecond, h⟩ := matches_append.mp h
  obtain ⟨point, _, rfl, hPoint, h⟩ := matches_append.mp h
  obtain ⟨frac, blank, rfl, hFrac, hBlank⟩ := matches_append.mp h
  rcases hPoint with _ | ⟨⟨x, rfl, hx⟩, ⟨⟩⟩
  refine ⟨month.flatten, day.flatten, hour.flatten, minute.flatten, second.flatten,
    frac.flatten, x, twoDigits_of_matches hMonth, twoDigits_of_matches hDay,
    twoDigits_of_matches hHour, twoDigits_of_matches hMinute, twoDigits_of_matches hSecond,
    number_of_matches hFrac, hx, ?_⟩
  simp [matches_literal hSlash, matches_literal hMinus, matches_literal hColon₁,
    matches_literal hColon₂, matches_literal hBlank]

/-- With periods for its dots, the pattern matches dotted quads only. -/
theorem quad_of_matches (h : Matches (addressWith period) pieces) :
    IsDottedQuad pieces.flatten := by
  obtain ⟨a, b, c, d, x, y, z, ha, hb, hc, hd, hx, hy, hz, hFlatten⟩ := address_of_matches h
  rw [beq_iff_eq.mp hx, beq_iff_eq.mp hy, beq_iff_eq.mp hz] at hFlatten
  exact ⟨a, b, c, d, ha, hb, hc, hd, hFlatten⟩

/-- **A match whose dots are dots is a header**, and captures its source. -/
theorem header_of_matches (h : Matches (alertWith period) pieces) :
    IsHeader (capturedSrcIp pieces).toList pieces.flatten := by
  have hItems : alertWith period = timestampWith period ++ (addressWith period ++ (literal ":" ++
      ([digits] ++ (literal " -> " ++ (addressWith period ++ (literal ":" ++ [digits])))))) := by
    simp [alertWith]
  rw [hItems] at h
  obtain ⟨timestamp, _, rfl, hTimestamp, h⟩ := matches_append.mp h
  obtain ⟨srcIp, _, rfl, hSrcIp, h⟩ := matches_append.mp h
  obtain ⟨colon₁, _, rfl, hColon₁, h⟩ := matches_append.mp h
  obtain ⟨srcPort, _, rfl, hSrcPort, h⟩ := matches_append.mp h
  obtain ⟨arrow, _, rfl, hArrow, h⟩ := matches_append.mp h
  obtain ⟨dstIp, _, rfl, hDstIp, h⟩ := matches_append.mp h
  obtain ⟨colon₂, dstPort, rfl, hColon₂, hDstPort⟩ := matches_append.mp h
  obtain ⟨month, day, hour, minute, second, frac, x, hMonth, hDay, hHour, hMinute, hSecond, hFrac,
    hx, hFlatten⟩ := timestamp_of_matches hTimestamp
  rw [beq_iff_eq.mp hx] at hFlatten
  have hCaptured : ∀ rest, (capturedSrcIp (timestamp ++ (srcIp ++ rest))).toList =
      srcIp.flatten := by
    intro rest
    have hFirst : timestamp.length = timestampPattern.length :=
      (List.Forall₂.length_eq hTimestamp).symm
    have hSecond : srcIp.length = addressPattern.length := (List.Forall₂.length_eq hSrcIp).symm
    rw [capturedSrcIp, String.toList_ofList, ← hFirst, ← hSecond, List.drop_left, List.take_left]
  rw [hCaptured]
  refine ⟨_, srcPort.flatten, dstIp.flatten, dstPort.flatten, ⟨month, day, hour, minute, second,
    frac, hMonth, hDay, hHour, hMinute, hSecond, hFrac, rfl⟩, quad_of_matches hSrcIp,
    number_of_matches hSrcPort, quad_of_matches hDstIp, number_of_matches hDstPort, ?_⟩
  simp [hFlatten, matches_literal hColon₁, matches_literal hColon₂, matches_literal hArrow]

-- ---------------------------------------------------------------------------
-- Headers inside a match
-- ---------------------------------------------------------------------------

/-- The pattern up to the destination. -/
def sourcePattern : List Item :=
  timestampPattern ++ addressPattern ++ literal ":" ++ [digits] ++ literal " -> "

/-- What is not a digit. -/
def marks (cs : List Char) : List Char := cs.filter fun c => !c.isDigit

theorem marks_append (a b : List Char) : marks (a ++ b) = marks a ++ marks b :=
  List.filter_append a b

theorem marks_cons {c : Char} (hc : c.isDigit = false) (a : List Char) :
    marks (c :: a) = c :: marks a :=
  List.filter_cons_of_pos (by rw [hc]; rfl)

theorem marks_digits (h : ∀ c ∈ cs, c.isDigit = true) : marks cs = [] := by
  refine List.filter_eq_nil_iff.mpr fun c hc => ?_
  rw [h c hc]
  exact Bool.false_ne_true

theorem marks_quad (h : IsDottedQuad cs) : marks cs = "...".toList := by
  obtain ⟨a, b, c, d, ha, hb, hc, hd, rfl⟩ := h
  have hDot : ∀ cs, marks ('.' :: cs) = '.' :: marks cs := marks_cons (by decide)
  simp only [marks_append, hDot, marks_digits ha.2, marks_digits hb.2, marks_digits hc.2,
    marks_digits hd.2]
  rfl

/-- All headers have the same marks. -/
theorem marks_header (h : IsHeader source header) : marks header = "/-::. ...: -> ...:".toList := by
  obtain ⟨timestamp, srcPort, dstIp, dstPort, hTimestamp, hSource, hSrcPort, hDstIp, hDstPort,
    rfl⟩ := h
  obtain ⟨month, day, hour, minute, second, frac, hMonth, hDay, hHour, hMinute, hSecond, hFrac,
    rfl⟩ := hTimestamp
  have hMark : ∀ c : Char, c.isDigit = false → ∀ cs, marks (c :: cs) = c :: marks cs :=
    fun _ hc => marks_cons hc
  simp only [marks_append, hMark '/' (by decide), hMark '-' (by decide), hMark ':' (by decide),
    hMark '.' (by decide), hMark ' ' (by decide), marks_digits hMonth.2, marks_digits hDay.2,
    marks_digits hHour.2, marks_digits hMinute.2, marks_digits hSecond.2, marks_digits hFrac.2,
    marks_quad hSource, marks_digits hSrcPort.2, marks_quad hDstIp, marks_digits hDstPort.2]
  decide

/-- What comes before the destination of a match. -/
theorem source_of_matches (h : Matches sourcePattern pieces) :
    ∃ a b rest w ws, a.isDigit = true ∧ b.isDigit = true ∧ w.length ≤ 1 ∧ ws.length ≤ 3 ∧
      pieces.flatten = a :: b :: '/' :: (rest ++ [' ']) ∧
      marks pieces.flatten = "/-::".toList ++ (w ++ ' ' :: (ws ++ ": -> ".toList)) := by
  have hItems : sourcePattern = timestampWith dot ++ (addressWith dot ++ (literal ":" ++
      ([digits] ++ literal " -> "))) := by
    simp [sourcePattern, timestampPattern, timestampWith, addressPattern, addressWith]
  rw [hItems] at h
  obtain ⟨timestamp, _, rfl, hTimestamp, h⟩ := matches_append.mp h
  obtain ⟨srcIp, _, rfl, hSrcIp, h⟩ := matches_append.mp h
  obtain ⟨colon, _, rfl, hColon, h⟩ := matches_append.mp h
  obtain ⟨srcPort, arrow, rfl, hSrcPort, hArrow⟩ := matches_append.mp h
  obtain ⟨month, day, hour, minute, second, frac, x, hMonth, hDay, hHour, hMinute, hSecond, hFrac,
    -, hTimestamp⟩ := timestamp_of_matches hTimestamp
  obtain ⟨p, q, r, s, y₁, y₂, y₃, hp, hq, hr, hs, -, -, -, hSrcIp⟩ := address_of_matches hSrcIp
  obtain ⟨a, b, hab⟩ := List.length_eq_two.mp hMonth.1
  have hPort := number_of_matches hSrcPort
  have hMark : ∀ c : Char, c.isDigit = false → ∀ cs, marks (c :: cs) = c :: marks cs :=
    fun _ hc => marks_cons hc
  -- any other character is a mark or not
  have hAny : ∀ x : Char, ∃ w, w.length ≤ 1 ∧ ∀ cs, marks (x :: cs) = w ++ marks cs :=
    fun x => ⟨marks [x], List.length_filter_le _ _, fun cs => marks_append [x] cs⟩
  obtain ⟨w, hw, hx⟩ := hAny x
  obtain ⟨w₁, hw₁, hy₁⟩ := hAny y₁
  obtain ⟨w₂, hw₂, hy₂⟩ := hAny y₂
  obtain ⟨w₃, hw₃, hy₃⟩ := hAny y₃
  have hFlatten : (timestamp ++ (srcIp ++ (colon ++ (srcPort ++ arrow)))).flatten =
      month ++ '/' :: (day ++ '-' :: (hour ++ ':' :: (minute ++ ':' :: (second ++ x ::
        (frac ++ ' ' :: (p ++ y₁ :: (q ++ y₂ :: (r ++ y₃ :: (s ++ ':' ::
          (srcPort.flatten ++ " -> ".toList)))))))))) := by
    simp [hTimestamp, hSrcIp, matches_literal hColon, matches_literal hArrow]
  refine ⟨a, b, day ++ '-' :: (hour ++ ':' :: (minute ++ ':' :: (second ++ x ::
    (frac ++ ' ' :: (p ++ y₁ :: (q ++ y₂ :: (r ++ y₃ :: (s ++ ':' ::
      (srcPort.flatten ++ " ->".toList))))))))), w, w₁ ++ (w₂ ++ w₃),
    hMonth.2 a (by simp [hab]), hMonth.2 b (by simp [hab]), hw, ?_, ?_, ?_⟩
  · rw [List.length_append, List.length_append]
    omega
  · rw [hFlatten, hab]
    simp
  · rw [hFlatten]
    simp only [marks_append, hMark '/' (by decide), hMark '-' (by decide), hMark ':' (by decide),
      hMark ' ' (by decide), hx, hy₁, hy₂, hy₃, marks_digits hMonth.2, marks_digits hDay.2,
      marks_digits hHour.2, marks_digits hMinute.2, marks_digits hSecond.2,
      marks_digits hFrac.2, marks_digits hp.2, marks_digits hq.2, marks_digits hr.2,
      marks_digits hs.2, marks_digits hPort.2]
    simp [marks]

/-- A text that ends with another one starts in one of its parts. -/
theorem cons_suffix_append {c : Char} {x a b : List Char} (h : c :: x <:+ a ++ b) :
    c :: x <:+ b ∨ ∃ t, c :: t <:+ a ∧ x = t ++ b := by
  obtain ⟨pre, h⟩ := h
  rcases List.append_eq_append_iff.mp h with ⟨t, rfl, hx⟩ | ⟨t, rfl, hx⟩
  · cases t with
    | nil => exact Or.inl (hx ▸ List.suffix_refl _)
    | cons d t =>
      obtain ⟨rfl, rfl⟩ := List.cons_eq_cons.mp hx
      exact Or.inr ⟨t, List.suffix_append _ _, rfl⟩
  · exact Or.inl ⟨t, hx.symm⟩

/-- The marks before a destination, without the first one, do not begin like
those of a header. -/
theorem marks_apart {w ws x a b : List Char} (hw : w.length ≤ 1) (hws : ws.length ≤ 3)
    (hSome : x ≠ []) (hSuffix : x <:+ "-::".toList ++ (w ++ ' ' :: (ws ++ ": -> ".toList))) :
    x ++ a ≠ "/-::. ...: -> ...:".toList ++ b := by
  have hHeader : "/-::. ...: -> ...:".toList =
      '/' :: '-' :: ':' :: ':' :: '.' :: " ...: -> ...:".toList := by decide
  have hTail : ": -> ".toList = [':', ' ', '-', '>', ' '] := by decide
  rw [hHeader]
  intro h
  obtain ⟨x, rfl⟩ : ∃ y, x = '/' :: y := by
    cases x with
    | nil => exact absurd rfl hSome
    | cons c y => exact ⟨y, by rw [(List.cons_eq_cons.mp h).1]⟩
  have hRest : x ++ a = '-' :: ':' :: ':' :: '.' :: (" ...: -> ...:".toList ++ b) :=
    (List.cons_eq_cons.mp h).2
  -- the slash can only stand for a dot, in the timestamp or in the source
  rcases cons_suffix_append hSuffix with hSuffix | ⟨t, ht, -⟩
  swap
  · exact absurd (ht.subset List.mem_cons_self) (by decide)
  rcases cons_suffix_append hSuffix with hSuffix | ⟨t, ht, rfl⟩
  swap
  · obtain rfl : t = [] := by
      have hLength := ht.length_le
      rw [List.length_cons] at hLength
      exact List.length_eq_zero_iff.mp (by omega)
    exact absurd (List.cons_eq_cons.mp hRest).1 (by decide)
  rcases List.suffix_cons_iff.mp hSuffix with hEq | hSuffix
  · exact absurd (List.cons_eq_cons.mp hEq).1 (by decide)
  rcases cons_suffix_append hSuffix with hSuffix | ⟨t, ht, rfl⟩
  · exact absurd (hSuffix.subset List.mem_cons_self) (by decide)
  have hLength := ht.length_le.trans hws
  rw [hTail] at hRest
  match t, hLength with
  | [], _ => simp at hRest
  | [p], _ => simp at hRest
  | [p, q], _ => simp at hRest
/-- A header begins with a month. -/
theorem header_start (h : IsHeader source header) :
    ∃ a b rest, a.isDigit = true ∧ b.isDigit = true ∧ header = a :: b :: '/' :: rest := by
  obtain ⟨_, _, _, _, ⟨month, _, _, _, _, _, hMonth, -, -, -, -, -, rfl⟩, -, -, -, -, rfl⟩ := h
  obtain ⟨a, b, rfl⟩ := List.length_eq_two.mp hMonth.1
  exact ⟨a, b, _, hMonth.2 a List.mem_cons_self, hMonth.2 b (by simp), rfl⟩

/-- **A header inside a match begins in its destination.** -/
theorem begins_in_destination {front rest : List Char} (h : IsHeader source header)
    (hMatch : matchHere alertPattern (front ++ (header ++ later)) = some (pieces, rest))
    (hFront : front ≠ []) : (pieces.take sourcePattern.length).flatten.length ≤ front.length := by
  have hItems : alertPattern = sourcePattern ++ (addressPattern ++ literal ":" ++ [digits]) := by
    simp [alertPattern, sourcePattern]
  have hPieces := matchHere_matches hMatch
  rw [hItems] at hPieces
  obtain ⟨before, dst, rfl, hBefore, -⟩ := matches_append.mp hPieces
  have hLength : before.length = sourcePattern.length := (List.Forall₂.length_eq hBefore).symm
  rw [← hLength, List.take_left]
  by_contra hShort
  have hText := matchHere_sound hMatch
  rw [List.flatten_append, List.append_assoc] at hText
  obtain ⟨a, b, mid, w, ws, ha, hb, hw, hws, hFlatten, hMarks⟩ := source_of_matches hBefore
  -- the header begins with the end of what comes before the destination
  obtain ⟨t, hSplit, hHeader⟩ : ∃ t, before.flatten = front ++ t ∧
      header ++ later = t ++ (dst.flatten ++ rest) := by
    rcases List.append_eq_append_iff.mp hText with ⟨t, hBefore, hHeader⟩ | ⟨t, hFront, -⟩
    · exact ⟨t, hBefore, hHeader⟩
    · rw [hFront, List.length_append] at hShort
      omega
  have hBlank : marks t ≠ [] := by
    intro hNone
    have hIn : ' ' ∈ t := by
      have hSome : t ≠ [] := by
        rintro rfl
        rw [hSplit, List.append_nil] at hShort
        exact hShort le_rfl
      have hLast := congrArg List.getLast? (hSplit.symm.trans hFlatten)
      rw [List.getLast?_append_of_ne_nil _ hSome] at hLast
      refine List.mem_of_getLast? (hLast.trans ?_)
      rw [← List.cons_append, ← List.cons_append, ← List.cons_append, List.getLast?_concat]
    have hMark : ' ' ∈ marks t := List.mem_filter.mpr ⟨hIn, rfl⟩
    rw [hNone] at hMark
    exact absurd hMark List.not_mem_nil
  have hFirst : marks front ≠ [] := by
    intro hNone
    have hDigits : ∀ c ∈ front, c.isDigit = true := by
      intro c hc
      have hNot := List.filter_eq_nil_iff.mp hNone c hc
      simpa using hNot
    obtain ⟨d, e, tail, hd, he, hStart⟩ := header_start h
    have hBegin := hSplit.symm.trans hFlatten
    rw [hStart] at hHeader
    match front, hFront, hDigits with
    | [_], _, _ =>
      obtain ⟨-, rfl⟩ := List.cons_eq_cons.mp hBegin
      rw [(List.cons_eq_cons.mp (List.cons_eq_cons.mp hHeader).2).1] at he
      exact absurd he (by decide)
    | [_, _], _, _ =>
      obtain ⟨-, rfl⟩ := List.cons_eq_cons.mp (List.cons_eq_cons.mp hBegin).2
      rw [(List.cons_eq_cons.mp hHeader).1] at hd
      exact absurd hd (by decide)
    | _ :: _ :: c :: _, _, hDigits =>
      have hc := hDigits c (by simp)
      rw [(List.cons_eq_cons.mp (List.cons_eq_cons.mp (List.cons_eq_cons.mp hBegin).2).2).1] at hc
      exact absurd hc (by decide)
  have hEnd : marks t <:+ "-::".toList ++ (w ++ ' ' :: (ws ++ ": -> ".toList)) := by
    obtain ⟨c, cs, hCons⟩ := List.exists_cons_of_ne_nil hFirst
    rw [hSplit, marks_append, hCons] at hMarks
    exact ⟨cs, (List.cons_eq_cons.mp hMarks).2⟩
  have hSame := congrArg marks hHeader
  rw [marks_append, marks_append, marks_header h] at hSame
  exact marks_apart hw hws hBlank hEnd hSame.symm

-- ---------------------------------------------------------------------------
-- The scanners
-- ---------------------------------------------------------------------------

/-- A search of the text finds a match at that place. -/
def Captures (text place : List Char) (pieces : List (List Char)) : Prop :=
  Tries alertPattern text place ∧ ∃ rest, matchHere alertPattern place = some (pieces, rest)

/-- The second text begins in the destination of a match, or in its port. -/
def InDestination (text cs : List Char) : Prop :=
  ∃ front pieces, Captures text (front ++ cs) pieces ∧
    (pieces.take sourcePattern.length).flatten.length ≤ front.length ∧
    front.length < pieces.flatten.length

/-- Where the pattern is not about a header, it makes no difference: if one of
its dots stands for another character, the source is that of a header anyway,
and a header that begins in the destination of a match has the source of a
match anyway. -/
structure AlertsApart (text : List Char) : Prop where
  dots : ∀ place pieces, Captures text place pieces → ¬ Matches (alertWith period) pieces →
    HasHeader text (capturedSrcIp pieces).toList
  apart : ∀ source header later, IsHeader source header → InDestination text (header ++ later) →
    ∃ place pieces, Captures text place pieces ∧ (capturedSrcIp pieces).toList = source

theorem alertPattern_ne_nil : alertPattern ≠ [] := by simp [alertPattern]

theorem Captures.infix {place : List Char} (h : Captures text place pieces) :
    pieces.flatten <:+: text := by
  obtain ⟨hTries, rest, hMatch⟩ := h
  obtain ⟨before, hBefore⟩ := hTries.suffix
  refine ⟨before, rest, ?_⟩
  rw [List.append_assoc, ← matchHere_sound hMatch, hBefore]

/-- The addresses a read finds. -/
theorem mem_srcIps_iff {alertContent ip : String} :
    ip ∈ srcIps alertContent ↔
      ∃ place pieces, Captures alertContent.toList place pieces ∧ capturedSrcIp pieces = ip := by
  rw [srcIps, List.mem_map]
  constructor
  · rintro ⟨pieces, hFound, rfl⟩
    obtain ⟨place, rest, hTries, hMatch⟩ := (mem_globalMatch_iff alertPattern_ne_nil).mp hFound
    exact ⟨place, pieces, ⟨hTries, rest, hMatch⟩, rfl⟩
  · rintro ⟨place, pieces, ⟨hTries, rest, hMatch⟩, rfl⟩
    exact ⟨pieces, (mem_globalMatch_iff alertPattern_ne_nil).mpr ⟨place, rest, hTries, hMatch⟩, rfl⟩

/-- A header is found, or begins in the destination of a match. -/
theorem captures_or_inDestination (h : IsHeader source header) (hText : header ++ later <:+ text) :
    (∃ pieces, Captures text (header ++ later) pieces ∧ (capturedSrcIp pieces).toList = source) ∨
      InDestination text (header ++ later) := by
  rcases tries_or_inside alertPattern_ne_nil hText with
    hTries | ⟨_, pieces, rest, front, hTries, hMatch, rfl, hFront, hInside⟩
  · obtain ⟨pieces, rest, hMatch, hSource⟩ := matchHere_header h later
    exact Or.inl ⟨pieces, ⟨hTries, rest, hMatch⟩, hSource⟩
  · exact Or.inr ⟨front, pieces, ⟨hTries, rest, hMatch⟩, begins_in_destination h hMatch hFront,
      hInside⟩

/-- **Which alert files are read exactly**: `scanners()` is the set of the
source addresses of the headers if and only if the alerts are apart. -/
theorem scanners_exact_iff {watchdog : VMTDWatchdog} (hReads : watchdog.shouldWait = false)
    (alertContent : String) :
    (∀ ip : String, ip ∈ (watchdog.fileChangedSlot (some alertContent)).1.scanners ↔
      HasHeader alertContent.toList ip.toList) ↔ AlertsApart alertContent.toList := by
  have hScanners : ∀ ip : String,
      ip ∈ (watchdog.fileChangedSlot (some alertContent)).1.scanners ↔
        ∃ place pieces, Captures alertContent.toList place pieces ∧ capturedSrcIp pieces = ip := by
    intro ip
    rw [VMTDWatchdog.mem_scanners_fileChangedSlot, VMTDWatchdog.extractedByChange, hReads,
      if_neg Bool.false_ne_true]
    exact mem_srcIps_iff
  simp only [hScanners]
  constructor
  · intro hExact
    constructor
    · exact fun place pieces hCaptures _ => (hExact _).mp ⟨place, pieces, hCaptures, rfl⟩
    · rintro source header later hHeader ⟨front, pieces, ⟨hTries, -⟩, -⟩
      have hIn : header <:+: alertContent.toList := by
        obtain ⟨before, hBefore⟩ := hTries.suffix
        refine ⟨before ++ front, later, ?_⟩
        rw [← hBefore]
        simp
      obtain ⟨place, pieces', hCaptures, hEq⟩ := (hExact (String.ofList source)).mpr
        ⟨header, by rwa [String.toList_ofList], hIn⟩
      exact ⟨place, pieces', hCaptures, by rw [hEq, String.toList_ofList]⟩
  · rintro ⟨hDots, hApart⟩ ip
    constructor
    · rintro ⟨place, pieces, hCaptures, rfl⟩
      by_cases hEscaped : Matches (alertWith period) pieces
      · exact ⟨pieces.flatten, header_of_matches hEscaped, hCaptures.infix⟩
      · exact hDots place pieces hCaptures hEscaped
    · rintro ⟨header, hHeader, before, later, hText⟩
      have hSuffix : header ++ later <:+ alertContent.toList :=
        ⟨before, by rw [← List.append_assoc, hText]⟩
      rcases captures_or_inDestination hHeader hSuffix with ⟨pieces, hCaptures, hSource⟩ | hInside
      · exact ⟨_, pieces, hCaptures, String.toList_injective hSource⟩
      · obtain ⟨place, pieces, hCaptures, hSource⟩ := hApart _ header later hHeader hInside
        exact ⟨place, pieces, hCaptures, String.toList_injective hSource⟩

/-- A file with one alert: it has a header with the source that is found, and
none with the destination as its source. -/
theorem scanners_exact_scanAlert :
    HasHeader scanAlert.toList "100.100.1.7".toList ∧
      ¬ HasHeader scanAlert.toList "100.100.1.2".toList := by
  have hOne : ∃ pieces, globalMatch alertPattern scanAlert.toList = [pieces] ∧
      matchHere (alertWith period) pieces.flatten = some (pieces, []) ∧
        (pieces.take sourcePattern.length).flatten.length = 38 := by
    refine ⟨_, rfl, ?_⟩
    decide +kernel
  obtain ⟨found, hFound, hDots, hStart⟩ := hOne
  have hOnly : ∀ place pieces, Captures scanAlert.toList place pieces → pieces = found := by
    rintro place pieces ⟨hTries, rest, hMatch⟩
    have hMem := (mem_globalMatch_iff alertPattern_ne_nil).mpr ⟨place, rest, hTries, hMatch⟩
    rw [hFound] at hMem
    exact List.mem_singleton.mp hMem
  have hApart : AlertsApart scanAlert.toList := by
    constructor
    · intro place pieces hCaptures hOther
      rw [hOnly place pieces hCaptures] at hOther
      exact absurd (matchHere_matches hDots) hOther
    -- there is no slash in the destination
    rintro source header later hHeader ⟨front, pieces, hCaptures, hFront, -⟩
    rw [hOnly _ pieces hCaptures, hStart] at hFront
    obtain ⟨before, hText⟩ := hCaptures.1.suffix
    have hSuffix : header ++ later <:+ scanAlert.toList :=
      ⟨before ++ front, by rw [← hText, List.append_assoc]⟩
    have hLengths := congrArg List.length hText
    rw [List.length_append, List.length_append] at hLengths
    have hShort : (header ++ later).length ≤ (scanAlert.toList.drop 38).length := by
      rw [List.length_drop]
      omega
    have hLate := List.suffix_of_suffix_length_le hSuffix (List.drop_suffix 38 _) hShort
    obtain ⟨a, b, rest, -, -, hBegin⟩ := header_start hHeader
    have hSlash : '/' ∈ scanAlert.toList.drop 38 := hLate.subset (by rw [hBegin]; simp)
    exact absurd hSlash (by decide +kernel)
  have hExact := (@scanners_exact_iff {} rfl scanAlert).mpr hApart
  exact ⟨(hExact _).mp (by decide +kernel),
    fun hHeader => absurd ((hExact _).mpr hHeader) (by decide +kernel)⟩

/-- The dots of the address stand for other characters. -/
theorem not_scanners_exact :
    ¬ ∀ (watchdog : VMTDWatchdog), watchdog.shouldWait = false → ∀ (alertContent ip : String),
        ip ∈ (watchdog.fileChangedSlot (some alertContent)).1.scanners ↔
          HasHeader alertContent.toList ip.toList := by
  intro hClaim
  have hFound : "1x2x3x4" ∈ (({} : VMTDWatchdog).fileChangedSlot
      (some "08/21-10:15:30.5 1x2x3x4:40000 -> 100.100.1.2:22\n")).1.scanners := by
    decide +kernel
  obtain ⟨header, hHeader, -⟩ := (hClaim {} rfl _ _).mp hFound
  obtain ⟨-, -, -, -, -, hSource, -⟩ := hHeader
  have hMarks := marks_quad hSource
  revert hMarks
  decide +kernel

/-- A header in the place of a destination is hidden: its month and day are
taken for the first two numbers. -/
example : srcIps ("08/21-10:15:30.5 100.100.1.7:40000 -> " ++
    "08/21-10:15:31.5 100.100.1.8:40000 -> 100.100.1.2:22\n") = ["100.100.1.7"] := by
  decide +kernel

end VxlanMtd
