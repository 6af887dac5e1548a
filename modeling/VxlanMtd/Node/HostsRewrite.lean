import VxlanMtd.Node.HostsFile

/-!
# Node — a hosts file that holds the configuration

When a hosts file has the current text in one block, with everything around the
old blocks kept, and which files a rewrite brings there: any text of the file,
any content.

## Results

* `HoldsBlock` — the promise, stated apart from how the file is written.
* `holdsBlock_saveHosts_iff` — a rewrite keeps it exactly when the content can
  stand between the tags (`Writable`) and the old blocks can be found and cut
  out (`Rewritable`).
* `holdsBlock_self_iff` — a file that is left as it is.
-/

namespace VxlanMtd

open Text QString PlaceMarker

-- ---------------------------------------------------------------------------
-- The promise
-- ---------------------------------------------------------------------------

/-- The text that does not belong to a block. -/
def unmanaged (text : List Char) : List Char := outside begTag endTag text

/-- The text is still there around a new block: what comes before the block begins
with the first part of it, and what comes after ends with the rest. -/
def KeptAround (text a c : List Char) : Prop :=
  ∃ p q, text = p ++ q ∧ p <+: a ∧ q <:+ c

/-- The file has one block, with the data on lines of its own, and the text that
was around the old blocks is still there around it. -/
structure HoldsBlock (before : List Char) (data : String) (after : List Char) : Prop where
  begOnce : begTag.count after = 1
  endOnce : endTag.count after = 1
  kept : ∃ a c, after = a ++ block ('\n' :: data.toList ++ ['\n']) ++ c ∧
    KeptAround (unmanaged before) a c

/-- A content without tags, and without a marker that filling in the end tag
would take for its own. -/
structure Writable (data : String) : Prop where
  noBeg : begTag.count data.toList = 0
  noEnd : endTag.count data.toList = 0
  markers : ∀ m ∈ PlaceMarker.markers data.toList, 3 < m

/-- The files that can be rewritten: without tags; with blocks after some text
and nothing but blocks from the first begin tag to the last end tag; or with a
begin tag alone, after 1 to 11 characters. -/
inductive Rewritable : List Char → Prop
  | plain (text : Untagged) : Rewritable text.chars
  | blocks (before : Untagged) (m : List Char) (after : Untagged) (hStart : before.chars ≠ [])
      (hBetween : unmanaged (block m) = []) : Rewritable (before.chars ++ block m ++ after.chars)
  | dangling (before after : Untagged) (hStart : before.chars ≠ [])
      (hShort : size before.chars < 12) :
      Rewritable (before.chars ++ begTag.text ++ after.chars)

/-- The file has the data in its only block already. -/
structure Current (text : List Char) (data : String) : Prop where
  begOnce : begTag.count text = 1
  endOnce : endTag.count text = 1
  block : block ('\n' :: data.toList ++ ['\n']) <:+: text

-- ---------------------------------------------------------------------------
-- Text around blocks
-- ---------------------------------------------------------------------------

theorem unmanaged_of_count {text : List Char} (h : begTag.count text = 0) :
    unmanaged text = text :=
  outside_of_count begTag endTag h

/-- Text before the first begin tag and after the last end tag stays. -/
theorem unmanaged_around {a c : List Char} (ha : begTag.count a = 0) (m : List Char)
    (hc : begTag.count c = 0) :
    unmanaged (a ++ block m ++ c) = a ++ unmanaged (block m) ++ c := by
  have hBlock : ∀ y, ∀ d ∈ (block m ++ y).head?, d ∉ begTag.tail := by
    intro y d hd
    obtain rfl : '#' = d := by simpa [block, Tag.text, begTag] using hd
    decide
  have hOther : ∀ y, begTag.count (endTag.text ++ y) = begTag.count y :=
    begTag.count_other_append (by decide) (by decide) (by decide)
  have hClose := outsideFrom_append_close begTag endTag hOther (by decide) hc 0 false
    (begTag.text ++ m) (Nat.zero_le _)
  rw [unmanaged, List.append_assoc, outside_append begTag endTag ha (hBlock c), List.append_assoc]
  exact congrArg (a ++ ·) hClose

/-- One block has no text around it. -/
theorem unmanaged_block {m : List Char} (hm : endTag.count m = 0) : unmanaged (block m) = [] := by
  have hSome : 0 < endTag.count (m ++ endTag.text) := by
    have hEnd := endTag.count_text_append []
    have hAll := endTag.count_append_text m (u := endTag) (by decide) []
    rw [List.append_nil] at hAll hEnd
    omega
  have hClose := outsideFrom_close begTag endTag hm []
  rw [List.append_nil] at hClose
  rw [unmanaged, block, List.append_assoc, outside_open _ _ (by decide), decide_eq_true hSome,
    hClose]
  rfl

/-- A begin tag alone opens no block. -/
theorem unmanaged_dangling {a c : List Char} (ha : begTag.count a = 0)
    (hc : begTag.count c = 0 ∧ endTag.count c = 0) :
    unmanaged (a ++ begTag.text ++ c) = a ++ c := by
  have hHead : ∀ d ∈ (begTag.text ++ c).head?, d ∉ begTag.tail := by
    intro d hd
    obtain rfl : '#' = d := by simpa [Tag.text, begTag] using hd
    decide
  rw [unmanaged, List.append_assoc, outside_append begTag endTag ha hHead,
    outside_open _ _ (by decide), hc.2]
  exact congrArg (a ++ ·) (outside_of_count begTag endTag hc.1)

/-- A line break at either end is no tag. -/
theorem count_lines {t : Tag Char} (hHead : t.head ≠ '\n') (hTail : '\n' ∉ t.tail)
    (x : List Char) : t.count ('\n' :: x ++ ['\n']) = t.count x := by
  have hFirst := count_newline hHead hTail [] (x ++ ['\n'])
  have hLast := count_newline hHead hTail x []
  have hNil : t.count [] = 0 := rfl
  rw [List.nil_append] at hFirst
  rw [List.cons_append]
  omega

theorem begTag_count_lines (x : List Char) : begTag.count ('\n' :: x ++ ['\n']) = begTag.count x :=
  count_lines (by decide) (by decide) x

theorem endTag_count_lines (x : List Char) : endTag.count ('\n' :: x ++ ['\n']) = endTag.count x :=
  count_lines (by decide) (by decide) x

/-- A text that is kept fits around the block. -/
theorem KeptAround.length_le {text a c : List Char} (h : KeptAround text a c) :
    text.length ≤ a.length + c.length := by
  obtain ⟨p, q, rfl, hp, hq⟩ := h
  have hFirst := hp.length_le
  have hRest := hq.length_le
  rw [List.length_append]
  omega

-- ---------------------------------------------------------------------------
-- One block
-- ---------------------------------------------------------------------------

section
variable {before after a c : List Char} {data : String}

/-- With one begin tag, the block is in one place. -/
theorem HoldsBlock.eq_of_begTag (h : HoldsBlock before data after) {y : List Char}
    (hSplit : after = a ++ begTag.text ++ y) : ∃ c,
      y = '\n' :: data.toList ++ ['\n'] ++ endTag.text ++ c ∧
        KeptAround (unmanaged before) a c := by
  obtain ⟨a', c, hBlock, hKept⟩ := h.kept
  have hOnce : ∀ x z : List Char, after = x ++ begTag.text ++ z → begTag.count x = 0 := by
    intro x z hEq
    have hCount := h.begOnce
    rw [hEq, List.append_assoc, begTag.count_append_text x (by decide),
      begTag.count_text_append] at hCount
    omega
  have hBlock' : after =
      a' ++ begTag.text ++ ('\n' :: data.toList ++ ['\n'] ++ endTag.text ++ c) := by
    rw [hBlock, block]
    simp
  obtain ⟨rfl, hEq⟩ := begTag.append_text_inj (hOnce _ _ hSplit) (hOnce _ _ hBlock')
    (hSplit.symm.trans hBlock')
  exact ⟨c, hEq, hKept⟩

/-- The content is writable if it stands there after a rewrite. -/
theorem HoldsBlock.writable (h : HoldsBlock before data after) {c : List Char}
    (hWritten : after = a ++ written data ++ c) : Writable data := by
  obtain ⟨a', c', hBlock, -⟩ := h.kept
  have hBeg := h.begOnce
  have hEnd := h.endOnce
  rw [hBlock, begTag_count_block, begTag_count_lines] at hBeg
  rw [hBlock, endTag_count_block, endTag_count_lines] at hEnd
  refine ⟨by omega, by omega, ?_⟩
  -- what follows the only begin tag is what was filled in, and begins with the data
  have hSplit : after = a ++ begTag.text ++ ('\n' ::
      argChars (data.toList ++ '\n' :: '%' :: [Nat.digitChar 3]) endTag.text ++ c) := by
    rw [hWritten, written_eq]
    simp
  obtain ⟨rest, hEq, -⟩ := h.eq_of_begTag hSplit
  have hPrefix : data.toList <+: argChars (data.toList ++ '\n' :: '%' :: [Nat.digitChar 3])
      ('#' :: endTag.tail) ++ c := by
    refine ⟨['\n'] ++ endTag.text ++ rest, ?_⟩
    have hTail := (List.cons.inj hEq).2
    rw [← List.append_assoc, ← List.append_assoc]
    exact hTail.symm
  exact lt_markers_of_prefix (by decide) (by decide) (by decide) (by decide) hPrefix

/-- One block of a writable content between texts without tags. -/
theorem holdsBlock_of_shape (hData : Writable data) (ha : begTag.count a = 0 ∧ endTag.count a = 0)
    (hc : begTag.count c = 0 ∧ endTag.count c = 0) (hKept : KeptAround (unmanaged before) a c) :
    HoldsBlock before data (a ++ block ('\n' :: data.toList ++ ['\n']) ++ c) where
  begOnce := by
    have := hData.noBeg
    rw [begTag_count_block, begTag_count_lines]
    omega
  endOnce := by
    have := hData.noEnd
    rw [endTag_count_block, endTag_count_lines]
    omega
  kept := ⟨a, c, rfl, hKept⟩

/-- The texts around the block have no tags. -/
theorem HoldsBlock.untagged (h : HoldsBlock before data
    (a ++ block ('\n' :: data.toList ++ ['\n']) ++ c)) :
    (begTag.count a = 0 ∧ endTag.count a = 0) ∧ begTag.count c = 0 ∧ endTag.count c = 0 := by
  have hBeg := h.begOnce
  have hEnd := h.endOnce
  rw [begTag_count_block] at hBeg
  rw [endTag_count_block] at hEnd
  omega

end

-- ---------------------------------------------------------------------------
-- Rewriting
-- ---------------------------------------------------------------------------

/-- A rewrite puts the block somewhere. -/
theorem exists_written (text : List Char) (data : String) :
    ∃ a c, saveHosts text data = a ++ written data ++ c := by
  unfold saveHosts
  dsimp only
  split
  · exact ⟨_, _, rfl⟩
  · rw [args_appended]
    exact ⟨text ++ ['\n'], ['\n'], by simp⟩

/-- Every file has no begin tag, one that opens it, or one after some text that
no end tag follows or that one does. -/
theorem hosts_cases (text : List Char) :
    begTag.count text = 0 ∨ (∃ r, text = begTag.text ++ r) ∨
      ∃ a, a ≠ [] ∧ begTag.count a = 0 ∧
        ((∃ r, endTag.count r = 0 ∧ text = a ++ begTag.text ++ r) ∨
          ∃ m c, endTag.count c = 0 ∧ text = a ++ block m ++ c) := by
  rcases Nat.eq_zero_or_pos (begTag.count text) with hNone | hSome
  · exact Or.inl hNone
  obtain ⟨a, r, rfl, ha⟩ := begTag.exists_first hSome
  by_cases hStart : a = []
  · exact Or.inr (Or.inl ⟨r, by rw [hStart, List.nil_append]⟩)
  refine Or.inr (Or.inr ⟨a, hStart, ha, ?_⟩)
  rcases Nat.eq_zero_or_pos (endTag.count r) with hOpen | hClosed
  · exact Or.inl ⟨r, hOpen, rfl⟩
  · obtain ⟨m, c, rfl, hc⟩ := endTag.exists_last hClosed
    exact Or.inr ⟨m, c, hc, by simp [block]⟩

/-- An end tag before the only begin tag: nothing is cut out. -/
theorem saveHosts_reversed {a : List Char} (hStart : a ≠ []) (ha : begTag.count a = 0)
    (hEnd : 0 < endTag.count a) {r : List Char} (hr : endTag.count r = 0) (data : String) :
    saveHosts (a ++ begTag.text ++ r) data = a ++ written data ++ (begTag.text ++ r) := by
  obtain ⟨p, q, rfl, hq⟩ := endTag.exists_last hEnd
  have hLast : lastIndexOf (p ++ endTag.text ++ q ++ begTag.text ++ r) HOSTS_END_TAG.toList =
      size p := by
    have hRest : endTag.count (q ++ (begTag.text ++ r)) = 0 := by
      rw [endTag.count_append_text q (by decide),
        endTag.count_other_append (by decide) (by decide) (by decide), hq, hr]
    rw [List.append_assoc, List.append_assoc (p ++ endTag.text)]
    exact lastIndexOf_endTag p hRest
  have hSize : size endTag.text = 13 := by decide
  rw [saveHosts_replaced hStart ha, hLast, remove_of_nonpos, List.append_assoc _ begTag.text,
    insert_append]
  rw [size_append, size_append, hSize]
  omega

/-- A file that holds the data after a rewrite could be rewritten. -/
theorem HoldsBlock.rewritable {text : List Char} {data : String}
    (h : HoldsBlock text data (saveHosts text data)) (hData : Writable data) :
    Rewritable text := by
  have hBlock := written_of_markers hData.markers
  rcases hosts_cases text with hNone | ⟨r, rfl⟩ | ⟨a, hStart, ha, ⟨r, hr, rfl⟩ | ⟨m, c, hc, rfl⟩⟩
  · -- appended: no end tag may have been there
    rw [saveHosts_appended (by rw [indexOf_of_count hNone]; decide), hBlock] at h
    have hEnd := h.untagged.1.2
    rw [count_newline (by decide) (by decide) text []] at hEnd
    exact .plain ⟨text, hNone, by omega⟩
  · -- the begin tag that opens the file stays
    rw [saveHosts_start, hBlock] at h
    have hBeg := h.untagged.1.1
    rw [List.append_assoc, begTag.count_text_append] at hBeg
    omega
  · rcases Nat.eq_zero_or_pos (endTag.count a) with hOpen | hReversed
    · rw [saveHosts_open hStart ha hOpen hr, hBlock] at h
      have hAfter := h.untagged.2.1
      rcases Nat.lt_or_ge (size a) 12 with hShort | hLong
      · rw [begTag.count_append_of_notMem (hash_notMem_drop (by omega) (by omega))] at hAfter
        exact .dangling ⟨a, ha, hOpen⟩ ⟨r, hAfter, hr⟩ hStart hShort
      · rw [Nat.sub_eq_zero_of_le hLong, List.drop_zero, begTag.count_text_append] at hAfter
        omega
    · rw [saveHosts_reversed hStart ha hReversed hr, hBlock] at h
      have hAfter := h.untagged.2.1
      rw [begTag.count_text_append] at hAfter
      omega
  · rw [saveHosts_complete hStart ha m hc, hBlock] at h
    obtain ⟨⟨-, haEnd⟩, hcBeg, -⟩ := h.untagged
    refine .blocks ⟨a, ha, haEnd⟩ m ⟨c, hcBeg, hc⟩ hStart ?_
    -- what stood between the old blocks would be missing
    have hSplit : a ++ block ('\n' :: data.toList ++ ['\n']) ++ c = a ++ begTag.text ++
        ('\n' :: data.toList ++ ['\n'] ++ endTag.text ++ c) := by
      simp [block]
    obtain ⟨c', hEq, hKept⟩ := h.eq_of_begTag hSplit
    obtain rfl := List.append_cancel_left hEq
    have hLength := hKept.length_le
    rw [unmanaged_around ha m hcBeg] at hLength
    simp only [List.length_append] at hLength
    exact List.eq_nil_of_length_eq_zero (by omega)

/-- A file that can be rewritten holds the data afterwards. -/
theorem holdsBlock_saveHosts {text : List Char} {data : String} (hText : Rewritable text)
    (hData : Writable data) : HoldsBlock text data (saveHosts text data) := by
  have hBlock := written_of_markers hData.markers
  cases hText with
  | plain text =>
    rw [saveHosts_appended (by rw [indexOf_of_count text.noBeg]; decide), hBlock]
    have hLine : ∀ t : Tag Char, t.head ≠ '\n' → '\n' ∉ t.tail → t.count text.chars = 0 →
        t.count (text.chars ++ ['\n']) = 0 := by
      intro t hHead hTail hNone
      exact (count_newline hHead hTail text.chars []).trans hNone
    refine holdsBlock_of_shape hData ⟨hLine _ (by decide) (by decide) text.noBeg,
      hLine _ (by decide) (by decide) text.noEnd⟩ (by decide) ?_
    rw [unmanaged_of_count text.noBeg]
    exact ⟨text.chars, [], (List.append_nil _).symm, List.prefix_append _ _, List.nil_suffix⟩
  | blocks before m after hStart hBetween =>
    rw [saveHosts_complete hStart before.noBeg m after.noEnd, hBlock]
    refine holdsBlock_of_shape hData ⟨before.noBeg, before.noEnd⟩ ⟨after.noBeg, after.noEnd⟩ ?_
    rw [unmanaged_around before.noBeg m after.noBeg, hBetween, List.append_nil]
    exact ⟨before.chars, after.chars, rfl, List.prefix_refl _, List.suffix_refl _⟩
  | dangling before after hStart hShort =>
    rw [saveHosts_open hStart before.noBeg before.noEnd after.noEnd, hBlock]
    -- what is left of the old tag is no tag any more
    have hLeft := @hash_notMem_drop (12 - size before.chars) (by omega) (by omega)
    refine holdsBlock_of_shape hData ⟨before.noBeg, before.noEnd⟩
      ⟨(begTag.count_append_of_notMem hLeft after.chars).trans after.noBeg,
        (endTag.count_append_of_notMem hLeft after.chars).trans after.noEnd⟩ ?_
    rw [unmanaged_dangling before.noBeg ⟨after.noBeg, after.noEnd⟩]
    exact ⟨before.chars, after.chars, rfl, List.prefix_refl _, List.suffix_append _ _⟩

/-- **When a rewritten file holds the data.** -/
theorem holdsBlock_saveHosts_iff (text : List Char) (data : String) :
    HoldsBlock text data (saveHosts text data) ↔ Writable data ∧ Rewritable text := by
  constructor
  · intro h
    obtain ⟨a, c, hWritten⟩ := exists_written text data
    have hData := h.writable hWritten
    exact ⟨hData, h.rewritable hData⟩
  · rintro ⟨hData, hText⟩
    exact holdsBlock_saveHosts hText hData

/-- A file that is left as it is. -/
theorem holdsBlock_self_iff (text : List Char) (data : String) :
    HoldsBlock text data text ↔ Current text data := by
  constructor
  · intro h
    obtain ⟨a, c, hBlock, -⟩ := h.kept
    exact ⟨h.begOnce, h.endOnce, ⟨a, c, hBlock.symm⟩⟩
  · rintro ⟨hBeg, hEnd, a, c, rfl⟩
    refine ⟨hBeg, hEnd, a, c, rfl, ?_⟩
    rw [begTag_count_block] at hBeg
    rw [endTag_count_block] at hEnd
    rw [unmanaged_around (by omega) _ (by omega), unmanaged_block (by omega), List.append_nil]
    exact ⟨a, c, rfl, List.prefix_refl _, List.suffix_refl _⟩

end VxlanMtd
