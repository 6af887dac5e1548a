import Mathlib.Logic.Function.Iterate
import VxlanMtd.Model.HostsFile

/-!
# Node — the managed block of the hosts file

What saving and loading do to the text around and inside the block, for every
text of the file that has no tags, one complete block, or a begin tag without
its end tag.

## Results

* `saveHosts_absent`, `saveHosts_block`, `saveHosts_dangling`,
  `saveHosts_start` — the file afterwards, case by case.
* `savesWell_iff` — exactly when saving leaves one block, keeps the text
  around it and makes the last write win: not when the begin tag opens the
  file, nor when its end tag is missing from position 12 on.
* `loadHosts_saveHosts_ne` — what is loaded is never what was saved: the line
  breaks around the content come back with it, so the file grows with every
  restart.
-/

namespace VxlanMtd

open Text QString PlaceMarker

-- ---------------------------------------------------------------------------
-- Tags and blocks
-- ---------------------------------------------------------------------------

/-- `HOSTS_BEG_TAG` as a tag: its `#` does not come back in it. -/
def begTag : Tag Char := ⟨'#', " *HOSTS BEGIN*".toList, by decide⟩

def endTag : Tag Char := ⟨'#', " *HOSTS END*".toList, by decide⟩

theorem begTag_text : begTag.text = HOSTS_BEG_TAG.toList := rfl

theorem endTag_text : endTag.text = HOSTS_END_TAG.toList := rfl

/-- A piece of text without tags. -/
structure Untagged where
  chars : List Char
  noBeg : begTag.count chars = 0
  noEnd : endTag.count chars = 0

/-- The content of a block: free of the tags and of place markers. -/
structure Managed where
  data : String
  noBeg : begTag.count data.toList = 0
  noEnd : endTag.count data.toList = 0
  noPercent : '%' ∉ data.toList

/-- A block with its tags. -/
def block (content : List Char) : List Char := begTag.text ++ content ++ endTag.text

/-- What `saveHosts` writes between the tags. -/
def Managed.content (D : Managed) : List Char := '\n' :: D.data.toList ++ ['\n']

/-- The texts a hosts file can have: no tags, one complete block, or a begin
tag whose end tag is missing. -/
inductive HostsText where
  | plain (text : Untagged)
  | complete (before content after : Untagged)
  | dangling (before after : Untagged)

/-- The text itself. -/
def HostsText.text : HostsText → List Char
  | plain text => text.chars
  | complete before content after => before.chars ++ block content.chars ++ after.chars
  | dangling before after => before.chars ++ begTag.text ++ after.chars

/-- The text outside the old block; without its end tag, the block is the begin
tag alone. -/
def HostsText.outside : HostsText → List Char
  | plain text => text.chars
  | complete before _ after => before.chars ++ after.chars
  | dangling before after => before.chars ++ after.chars

-- ---------------------------------------------------------------------------
-- Counting tags
-- ---------------------------------------------------------------------------

theorem begTag_count_block (a m c : List Char) :
    begTag.count (a ++ block m ++ c) =
      begTag.count a + 1 + begTag.count m + begTag.count c := by
  have hEnd : ∀ y, begTag.count (endTag.text ++ y) = begTag.count y :=
    begTag.count_other_append (by decide) (by decide) (by decide)
  have hSplit : a ++ block m ++ c = a ++ (begTag.text ++ (m ++ (endTag.text ++ c))) := by
    simp [block]
  rw [hSplit, begTag.count_append_text a (by decide), begTag.count_text_append,
    begTag.count_append_text m (by decide), hEnd]
  omega

theorem endTag_count_block (a m c : List Char) :
    endTag.count (a ++ block m ++ c) =
      endTag.count a + 1 + endTag.count m + endTag.count c := by
  have hBeg : ∀ y, endTag.count (begTag.text ++ y) = endTag.count y :=
    endTag.count_other_append (by decide) (by decide) (by decide)
  have hSplit : a ++ block m ++ c = a ++ (begTag.text ++ (m ++ (endTag.text ++ c))) := by
    simp [block]
  rw [hSplit, endTag.count_append_text a (by decide), hBeg,
    endTag.count_append_text m (by decide), endTag.count_text_append]
  omega

/-- A line break does not touch any tag. -/
theorem count_newline {t : Tag Char} (hHead : t.head ≠ '\n') (hTail : '\n' ∉ t.tail)
    (x y : List Char) : t.count (x ++ '\n' :: y) = t.count x + t.count y := by
  rw [t.count_append x fun d hd => ?_]
  · have hOne : t.head ∉ ['\n'] := by simpa using hHead
    exact congrArg _ (t.count_append_of_notMem hOne y)
  · obtain rfl : '\n' = d := by simpa using hd
    exact hTail

/-- The written content has no tags. -/
theorem Managed.count_content (D : Managed) :
    begTag.count D.content = 0 ∧ endTag.count D.content = 0 := by
  have hEdges : ∀ t : Tag Char, t.head ≠ '\n' → '\n' ∉ t.tail →
      t.count D.content = t.count D.data.toList := by
    intro t hHead hTail
    have hFirst := count_newline hHead hTail [] (D.data.toList ++ ['\n'])
    have hLast := count_newline hHead hTail D.data.toList []
    have hNil : t.count [] = 0 := rfl
    rw [Managed.content, List.cons_append]
    rw [List.nil_append] at hFirst
    omega
  rw [hEdges begTag (by decide) (by decide), hEdges endTag (by decide) (by decide)]
  exact ⟨D.noBeg, D.noEnd⟩

-- ---------------------------------------------------------------------------
-- What is written
-- ---------------------------------------------------------------------------

/-- The block `saveHosts` writes. -/
def written (data : String) : List Char :=
  (args "%1\n%2\n%3" [HOSTS_BEG_TAG, data, HOSTS_END_TAG]).toList

/-- The last of the three markers is filled in behind the data. -/
theorem written_eq (data : String) : written data = begTag.text ++ '\n' ::
    argChars (data.toList ++ '\n' :: '%' :: [Nat.digitChar 3]) endTag.text := by
  have hFirst : argChars "%1\n%2\n%3".toList HOSTS_BEG_TAG.toList =
      begTag.text ++ "\n%2\n%3".toList := by decide +kernel
  have hSecond : argChars (begTag.text ++ "\n%2\n%3".toList) data.toList =
      begTag.text ++ '\n' :: (data.toList ++ '\n' :: '%' :: [Nat.digitChar 3]) := by
    rfl
  have hTag : '%' ∉ begTag.text ++ ['\n'] := by decide
  have hThird := argChars_append hTag (data.toList ++ '\n' :: '%' :: [Nat.digitChar 3]) endTag.text
  rw [List.append_assoc, List.append_assoc] at hThird
  rw [written, args, toList_foldl_arg]
  show argChars (argChars (argChars "%1\n%2\n%3".toList HOSTS_BEG_TAG.toList) data.toList)
    endTag.text = _
  rw [hFirst, hSecond]
  exact hThird

/-- An appended block stands on lines of its own. -/
theorem args_appended (data : String) :
    (args "\n%1\n%2\n%3\n" [HOSTS_BEG_TAG, data, HOSTS_END_TAG]).toList =
      ['\n'] ++ written data ++ ['\n'] := by
  have hStep : ∀ cs value : List Char,
      argChars (['\n'] ++ cs ++ ['\n']) value = ['\n'] ++ argChars cs value ++ ['\n'] := by
    intro cs value
    rw [argChars_concat (by decide) (by decide), argChars_append (by decide)]
  have hText : "\n%1\n%2\n%3\n".toList = ['\n'] ++ "%1\n%2\n%3".toList ++ ['\n'] := by
    decide +kernel
  rw [written, args, args, toList_foldl_arg, toList_foldl_arg, hText]
  simp only [List.map_cons, List.map_nil, List.foldl_cons, List.foldl_nil, hStep]

/-- Data without low markers is written as it is. -/
theorem written_of_markers {data : String} (h : ∀ m ∈ markers data.toList, 3 < m) :
    written data = block ('\n' :: data.toList ++ ['\n']) := by
  rw [written_eq, argChars_last (by decide) (by decide) (by decide) h, block]
  simp

theorem written_of_notMem {data : String} (h : '%' ∉ data.toList) :
    written data = block ('\n' :: data.toList ++ ['\n']) := by
  refine written_of_markers fun m hm => ?_
  rw [markers_of_notMem h] at hm
  cases hm

-- ---------------------------------------------------------------------------
-- Saving, case by case
-- ---------------------------------------------------------------------------

/-- Where no begin tag is found, or it opens the file, a block is appended. -/
theorem saveHosts_appended {T : List Char} (hT : indexOf T HOSTS_BEG_TAG.toList ≤ 0)
    (data : String) : saveHosts T data = (T ++ ['\n']) ++ written data ++ ['\n'] := by
  unfold saveHosts
  dsimp only
  rw [if_neg (Int.not_lt.mpr hT), args_appended]
  simp

theorem indexOf_of_count {T : List Char} (hT : begTag.count T = 0) :
    indexOf T HOSTS_BEG_TAG.toList = -1 := by
  rw [indexOf, ← begTag_text, begTag.firstBefore_eq_none hT]

/-- Without a begin tag a block is appended. -/
theorem saveHosts_absent {T : List Char} (hT : begTag.count T = 0) {data : String}
    (h : '%' ∉ data.toList) :
    saveHosts T data = (T ++ ['\n']) ++ block ('\n' :: data.toList ++ ['\n']) ++ ['\n'] := by
  rw [saveHosts_appended (by rw [indexOf_of_count hT]; decide), written_of_notMem h]

/-- The position of the begin tag. -/
theorem indexOf_begTag {a : List Char} (ha : begTag.count a = 0) (c : List Char) :
    indexOf (a ++ begTag.text ++ c) HOSTS_BEG_TAG.toList = size a := by
  rw [indexOf, ← begTag_text, begTag.firstBefore_append ha]

theorem lastIndexOf_endTag (a : List Char) {c : List Char} (hc : endTag.count c = 0) :
    lastIndexOf (a ++ endTag.text ++ c) HOSTS_END_TAG.toList = size a := by
  rw [lastIndexOf, ← endTag_text, endTag.lastBefore_append a hc]

/-- A begin tag at the start of the file is not found: the block is appended,
whatever the content. -/
theorem saveHosts_start (c : List Char) (data : String) :
    saveHosts (begTag.text ++ c) data = (begTag.text ++ c ++ ['\n']) ++ written data ++ ['\n'] := by
  have hPos : indexOf (begTag.text ++ c) HOSTS_BEG_TAG.toList = 0 :=
    @indexOf_begTag [] rfl c
  rw [saveHosts_appended hPos.le]

/-- A begin tag after some text: as many characters as lie between it and the
end of the last end tag are removed, and the block is put in their place. -/
theorem saveHosts_replaced {a : List Char} (hStart : a ≠ []) (ha : begTag.count a = 0)
    (r : List Char) (data : String) :
    saveHosts (a ++ begTag.text ++ r) data =
      insert (remove (a ++ begTag.text ++ r) (size a)
        (lastIndexOf (a ++ begTag.text ++ r) HOSTS_END_TAG.toList + 13 - size a)) (size a)
        (written data) := by
  have hAfter : 0 < size a := Nat.pos_of_ne_zero fun hZero => hStart (size_eq_zero.mp hZero)
  have hSize : (size HOSTS_END_TAG.toList : Int) = 13 := by decide
  unfold saveHosts
  dsimp only
  rw [indexOf_begTag ha, if_pos (by omega), hSize]
  rfl

/-- A complete block after some text is replaced. -/
theorem saveHosts_complete {a : List Char} (hStart : a ≠ []) (ha : begTag.count a = 0)
    (m : List Char) {c : List Char} (hc : endTag.count c = 0) (data : String) :
    saveHosts (a ++ block m ++ c) data = a ++ written data ++ c := by
  have hSplit : a ++ block m ++ c = a ++ begTag.text ++ (m ++ endTag.text ++ c) := by
    simp [block]
  have hLast : lastIndexOf (a ++ block m ++ c) HOSTS_END_TAG.toList =
      size (a ++ begTag.text ++ m) := by
    have hSplit : a ++ block m ++ c = (a ++ begTag.text ++ m) ++ endTag.text ++ c := by
      simp [block]
    rw [hSplit, lastIndexOf_endTag _ hc]
  have hEnd : size endTag.text = 13 := by decide
  rw [hSplit, saveHosts_replaced hStart ha, ← hSplit, hLast,
    remove_append (by simp [block, Tag.text]), insert_append]
  rw [block, size_append, size_append, size_append, size_append]
  omega

theorem saveHosts_block {a : List Char} (hStart : a ≠ []) (ha : begTag.count a = 0)
    (m : List Char) {c : List Char} (hc : endTag.count c = 0) {data : String}
    (h : '%' ∉ data.toList) :
    saveHosts (a ++ block m ++ c) data = a ++ block ('\n' :: data.toList ++ ['\n']) ++ c := by
  rw [saveHosts_complete hStart ha m hc, written_of_notMem h]

/-- Cutting off its first character leaves nothing of a tag. -/
theorem hash_notMem_drop {k : Nat} (hPos : 0 < k) (hLt : k < 13) : '#' ∉ begTag.text.drop k := by
  have hAll : ∀ k < 13, 0 < k → '#' ∉ begTag.text.drop k := by decide
  exact hAll k hLt hPos

/-- A begin tag without its end tag is cut short by as many characters as its
position falls short of 12, and the block is put in front of what is left. -/
theorem saveHosts_open {a : List Char} (hStart : a ≠ []) (ha : begTag.count a = 0)
    {c : List Char} (haEnd : endTag.count a = 0) (hc : endTag.count c = 0) (data : String) :
    saveHosts (a ++ begTag.text ++ c) data =
      a ++ written data ++ (begTag.text.drop (12 - size a) ++ c) := by
  have hNoEnd : endTag.count (a ++ begTag.text ++ c) = 0 := by
    rw [List.append_assoc, endTag.count_append_text a (by decide),
      endTag.count_other_append (by decide) (by decide) (by decide)]
    omega
  have hLast : lastIndexOf (a ++ begTag.text ++ c) HOSTS_END_TAG.toList = -1 := by
    rw [lastIndexOf, ← endTag_text, endTag.lastBefore_eq_none hNoEnd]
  have hAfter : 0 < size a := Nat.pos_of_ne_zero fun hZero => hStart (size_eq_zero.mp hZero)
  rw [saveHosts_replaced hStart ha, hLast]
  rcases Nat.lt_or_ge (size a) 12 with hShort | hLong
  · -- the part of the begin tag that is removed
    obtain ⟨hTake, hDrop⟩ : size (begTag.text.take (12 - size a)) = 12 - size a ∧
        begTag.text.take (12 - size a) ≠ [] := by
      have hCut : ∀ k < 13, 0 < k → size (begTag.text.take k) = k ∧ begTag.text.take k ≠ [] := by
        decide
      exact hCut _ (by omega) (by omega)
    have hSplit : a ++ begTag.text ++ c =
        a ++ begTag.text.take (12 - size a) ++ (begTag.text.drop (12 - size a) ++ c) := by
      rw [List.append_assoc, List.append_assoc, ← List.append_assoc (begTag.text.take _),
        List.take_append_drop]
    rw [hSplit, remove_append hDrop, insert_append]
    rw [hTake]
    omega
  · rw [remove_of_nonpos _ _ (by omega), Nat.sub_eq_zero_of_le hLong, List.drop_zero,
      List.append_assoc, insert_append]

theorem saveHosts_dangling {a : List Char} (hStart : a ≠ []) (ha : begTag.count a = 0)
    {c : List Char} (haEnd : endTag.count a = 0) (hc : endTag.count c = 0) {data : String}
    (h : '%' ∉ data.toList) :
    saveHosts (a ++ begTag.text ++ c) data =
      a ++ block ('\n' :: data.toList ++ ['\n']) ++ (begTag.text.drop (12 - size a) ++ c) := by
  rw [saveHosts_open hStart ha haEnd hc, written_of_notMem h]

-- ---------------------------------------------------------------------------
-- One block, and the text around it
-- ---------------------------------------------------------------------------

/-- What saving `D` is to achieve on the file `T`, and saving `D'` after it:
each tag is there once, the new content stands between them with the old
outside text around it in its order, and the last write wins. -/
structure SavesWell (T : HostsText) (D D' : Managed) : Prop where
  begOnce : begTag.count (saveHosts T.text D.data) = 1
  endOnce : endTag.count (saveHosts T.text D.data) = 1
  kept : ∃ before after, saveHosts T.text D.data = before ++ block D.content ++ after ∧
    T.outside.Sublist (before ++ after)
  last : saveHosts (saveHosts T.text D.data) D'.data = saveHosts T.text D'.data

/-- The block can be found and cut out: its begin tag does not open the file,
and if its end tag is missing, it starts before position 12. -/
def HostsText.Replaceable : HostsText → Prop
  | plain _ => True
  | complete before _ _ => before.chars ≠ []
  | dangling before _ => before.chars ≠ [] ∧ size before.chars < 12

/-- One block between texts without tags is what saving should leave. -/
theorem savesWell_of_shape {T : HostsText} {a c : List Char} (hStart : a ≠ [])
    (ha : begTag.count a = 0 ∧ endTag.count a = 0) (hc : begTag.count c = 0 ∧ endTag.count c = 0)
    (hSave : ∀ D : Managed, saveHosts T.text D.data = a ++ block D.content ++ c)
    (hKept : T.outside.Sublist (a ++ c)) (D D' : Managed) : SavesWell T D D' where
  begOnce := by
    have hD := D.count_content.1
    rw [hSave, begTag_count_block]
    omega
  endOnce := by
    have hD := D.count_content.2
    rw [hSave, endTag_count_block]
    omega
  kept := ⟨a, c, hSave D, hKept⟩
  last := by
    rw [hSave, hSave, saveHosts_block hStart ha.1 _ hc.2 D'.noPercent]
    rfl

/-- With the begin tag at the start of the file, saving leaves two of them. -/
theorem count_saveHosts_start {c : List Char} (D : Managed) :
    begTag.count (saveHosts (begTag.text ++ c) D.data) = 2 + begTag.count c := by
  have hD := D.count_content.1
  have hAppended : begTag.count (c ++ ['\n'] ++ block D.content ++ ['\n']) =
      begTag.count c + 1 := by
    have hNewline := count_newline (t := begTag) (by decide) (by decide) c []
    have hNil : begTag.count ['\n'] = 0 := by decide
    have hNone : begTag.count [] = 0 := rfl
    rw [begTag_count_block]
    omega
  have hSplit : saveHosts (begTag.text ++ c) D.data =
      begTag.text ++ (c ++ ['\n'] ++ block D.content ++ ['\n']) := by
    rw [saveHosts_start, written_of_notMem D.noPercent]
    simp [Managed.content]
  rw [hSplit, begTag.count_text_append, hAppended]
  omega

/-- **When saving works.** Saving leaves one block, keeps the text around it
and makes the last write win exactly when the old block can be found and cut
out. -/
theorem savesWell_iff (T : HostsText) (D D' : Managed) : SavesWell T D D' ↔ T.Replaceable := by
  cases T with
  | plain text =>
    refine ⟨fun _ => trivial, fun _ => ?_⟩
    have hNewline : ∀ t : Tag Char, t.head ≠ '\n' → '\n' ∉ t.tail → t.count text.chars = 0 →
        t.count (text.chars ++ ['\n']) = 0 := by
      intro t hHead hTail hNone
      exact (count_newline hHead hTail text.chars []).trans hNone
    have hSave : ∀ D : Managed, saveHosts (HostsText.plain text).text D.data =
        (text.chars ++ ['\n']) ++ block D.content ++ ['\n'] := fun D =>
      saveHosts_absent text.noBeg D.noPercent
    refine savesWell_of_shape (by simp)
      ⟨hNewline _ (by decide) (by decide) text.noBeg,
        hNewline _ (by decide) (by decide) text.noEnd⟩ (by decide) hSave ?_ D D'
    rw [List.append_assoc]
    exact List.sublist_append_left _ _
  | complete before content after =>
    by_cases hStart : before.chars = []
    · -- the tag opens the file: a second block is appended
      refine ⟨fun h => ?_, fun h => absurd hStart h⟩
      have hCount := h.begOnce
      have hText : (HostsText.complete before content after).text =
          begTag.text ++ (content.chars ++ endTag.text ++ after.chars) := by
        rw [HostsText.text, hStart, block]
        simp
      rw [hText, count_saveHosts_start] at hCount
      omega
    · have hSave : ∀ D : Managed, saveHosts (HostsText.complete before content after).text D.data =
          before.chars ++ block D.content ++ after.chars := fun D =>
        saveHosts_block hStart before.noBeg _ after.noEnd D.noPercent
      refine ⟨fun _ => hStart, fun _ => ?_⟩
      exact savesWell_of_shape hStart ⟨before.noBeg, before.noEnd⟩ ⟨after.noBeg, after.noEnd⟩
        hSave (List.Sublist.refl _) D D'
  | dangling before after =>
    by_cases hStart : before.chars = []
    · refine ⟨fun h => ?_, fun h => absurd hStart h.1⟩
      have hCount := h.begOnce
      have hText : (HostsText.dangling before after).text = begTag.text ++ after.chars := by
        rw [HostsText.text, hStart, List.nil_append]
      rw [hText, count_saveHosts_start] at hCount
      omega
    have hSave : ∀ D : Managed, saveHosts (HostsText.dangling before after).text D.data =
        before.chars ++ block D.content ++
          (begTag.text.drop (12 - size before.chars) ++ after.chars) := fun D =>
      saveHosts_dangling hStart before.noBeg before.noEnd after.noEnd D.noPercent
    rcases Nat.lt_or_ge (size before.chars) 12 with hShort | hLong
    · -- what is left of the old tag is no tag any more
      refine ⟨fun _ => ⟨hStart, hShort⟩, fun _ => ?_⟩
      have hLeft := @hash_notMem_drop (12 - size before.chars) (by omega) (by omega)
      have hBeg := begTag.count_append_of_notMem hLeft after.chars
      have hEnd := endTag.count_append_of_notMem hLeft after.chars
      refine savesWell_of_shape hStart ⟨before.noBeg, before.noEnd⟩
        ⟨hBeg.trans after.noBeg, hEnd.trans after.noEnd⟩ hSave ?_ D D'
      exact List.Sublist.append_left (List.sublist_append_right _ _) _
    · -- nothing is cut: the old tag stays behind the new block
      refine ⟨fun h => ?_, fun h => absurd h.2 (not_lt.mpr hLong)⟩
      have hCount := h.begOnce
      have hD := D.count_content.1
      rw [hSave, Nat.sub_eq_zero_of_le hLong, List.drop_zero, begTag_count_block,
        begTag.count_text_append] at hCount
      omega

/-- A file that opens with its block gets a second one. -/
theorem not_savesWell :
    ¬ ∀ (T : HostsText) (D D' : Managed), SavesWell T D D' := by
  intro h
  let none : Untagged := ⟨[], rfl, rfl⟩
  let D : Managed := ⟨"", rfl, rfl, List.not_mem_nil⟩
  have hCount := (h (.complete none none none) D D).begOnce
  have hTwo := count_saveHosts_start (c := endTag.text) D
  exact absurd (hTwo.symm.trans hCount) (by omega)

-- ---------------------------------------------------------------------------
-- Loading what was saved
-- ---------------------------------------------------------------------------

/-- The content between the first begin tag and the last end tag is loaded. -/
theorem loadHosts_block {a : List Char} (ha : begTag.count a = 0) (x : List Char)
    {c : List Char} (hc : endTag.count c = 0) :
    loadHosts (a ++ block x ++ c) = String.ofList x := by
  have hBeg : indexOf (a ++ block x ++ c) HOSTS_BEG_TAG.toList = size a := by
    have hSplit : a ++ block x ++ c = a ++ begTag.text ++ (x ++ endTag.text ++ c) := by
      simp [block]
    rw [hSplit, indexOf_begTag ha]
  have hSplit : a ++ block x ++ c = (a ++ begTag.text) ++ x ++ (endTag.text ++ c) := by
    simp [block]
  have hEnd : lastIndexOf (a ++ block x ++ c) HOSTS_END_TAG.toList =
      size (a ++ begTag.text ++ x) := by
    have hSplit : a ++ block x ++ c = (a ++ begTag.text ++ x) ++ endTag.text ++ c := by
      simp [block]
    rw [hSplit, lastIndexOf_endTag _ hc]
  unfold loadHosts
  dsimp only
  rw [hBeg, hEnd, if_neg (by omega), if_neg (by omega), hSplit, mid_append]
  · rw [size_append, begTag_text]
    omega
  · rw [size_append, size_append, begTag_text]
    omega

/-- The file after saving `D`: the content that will be loaded is longer than
`D`, and the block can be replaced unless its begin tag opens the file. -/
theorem exists_saved_block (T : HostsText) (D : Managed) :
    ∃ a x c, saveHosts T.text D.data = a ++ block x ++ c ∧
      begTag.count a = 0 ∧ endTag.count c = 0 ∧ (a = [] ∨ '%' ∉ x) ∧
      D.data.toList.length < x.length := by
  have hPercent : '%' ∉ D.content := by
    have hD := D.noPercent
    simp [Managed.content, hD]
  have hLength : D.data.toList.length < D.content.length := by
    rw [Managed.content, List.length_append, List.length_cons]
    omega
  -- with the begin tag at the start, everything up to the appended block comes back
  have hOpen : ∀ r, ∃ a x c, saveHosts (begTag.text ++ r) D.data = a ++ block x ++ c ∧
      begTag.count a = 0 ∧ endTag.count c = 0 ∧ (a = [] ∨ '%' ∉ x) ∧
      D.data.toList.length < x.length := by
    intro r
    refine ⟨[], r ++ '\n' :: begTag.text ++ D.content, ['\n'], ?_, rfl, by decide, Or.inl rfl, ?_⟩
    · rw [saveHosts_start, written_of_notMem D.noPercent]
      simp [block, Managed.content]
    · simp only [List.length_append]
      omega
  cases T with
  | plain text =>
    refine ⟨text.chars ++ ['\n'], D.content, ['\n'], saveHosts_absent text.noBeg D.noPercent,
      ?_, by decide, Or.inr hPercent, hLength⟩
    exact (count_newline (by decide) (by decide) text.chars []).trans text.noBeg
  | complete before content after =>
    by_cases hStart : before.chars = []
    · have hText : (HostsText.complete before content after).text =
          begTag.text ++ (content.chars ++ endTag.text ++ after.chars) := by
        rw [HostsText.text, hStart, block]
        simp
      rw [hText]
      exact hOpen _
    · exact ⟨before.chars, D.content, after.chars,
        saveHosts_block hStart before.noBeg _ after.noEnd D.noPercent, before.noBeg, after.noEnd,
        Or.inr hPercent, hLength⟩
  | dangling before after =>
    by_cases hStart : before.chars = []
    · have hText : (HostsText.dangling before after).text = begTag.text ++ after.chars := by
        rw [HostsText.text, hStart, List.nil_append]
      rw [hText]
      exact hOpen _
    · refine ⟨before.chars, D.content, _,
        saveHosts_dangling hStart before.noBeg before.noEnd after.noEnd D.noPercent,
        before.noBeg, ?_, Or.inr hPercent, hLength⟩
      rcases Nat.eq_zero_or_pos (12 - size before.chars) with hAll | hCut
      · rw [hAll, List.drop_zero, endTag.count_other_append (by decide) (by decide) (by decide),
          after.noEnd]
      · rw [endTag.count_append_of_notMem (hash_notMem_drop hCut (by omega)), after.noEnd]

/-- A file that reloading makes longer: its begin tag opens it, or its block can
be replaced. -/
def Grows (S : List Char) : Prop :=
  (∃ r, S = begTag.text ++ r) ∨
  ∃ a x c, S = a ++ block x ++ c ∧ a ≠ [] ∧ begTag.count a = 0 ∧ endTag.count c = 0 ∧ '%' ∉ x

/-- One restart makes the file longer, and the next one will again. -/
theorem Grows.reload {S : List Char} (h : Grows S) :
    Grows (reloadHosts S) ∧ S.length < (reloadHosts S).length := by
  rcases h with ⟨r, rfl⟩ | ⟨a, x, c, rfl, hStart, ha, hc, hx⟩
  · -- another block is appended, whatever was loaded
    rw [reloadHosts, saveHosts_start]
    generalize loadHosts (begTag.text ++ r) = data
    refine ⟨Or.inl ⟨r ++ ['\n'] ++ written data ++ ['\n'], by simp⟩, ?_⟩
    simp only [List.length_append, List.length_cons]
    omega
  · -- the content comes back with two more line breaks
    have hChars : '%' ∉ (String.ofList x).toList := by rwa [String.toList_ofList]
    rw [reloadHosts, loadHosts_block ha x hc, saveHosts_block hStart ha x hc hChars,
      String.toList_ofList]
    refine ⟨Or.inr ⟨a, '\n' :: x ++ ['\n'], c, rfl, hStart, ha, hc, by simpa using hx⟩, ?_⟩
    simp only [block, List.length_append, List.length_cons]
    omega

/-- Every restart makes the file longer. -/
theorem Grows.length_lt {S : List Char} (h : Grows S) (n : Nat) :
    Grows (reloadHosts^[n + 1] S) ∧ S.length < (reloadHosts^[n + 1] S).length := by
  induction n with
  | zero => exact h.reload
  | succ n ih =>
    obtain ⟨hNext, hLonger⟩ := ih.1.reload
    rw [Function.iterate_succ_apply']
    exact ⟨hNext, ih.2.trans hLonger⟩

/-- **What is loaded is never what was saved**, and no number of restarts leaves
the file as it is. -/
theorem loadHosts_saveHosts_ne (T : HostsText) (D : Managed) :
    loadHosts (saveHosts T.text D.data) ≠ D.data ∧
    ∀ n, reloadHosts^[n + 1] (saveHosts T.text D.data) ≠ saveHosts T.text D.data := by
  obtain ⟨a, x, c, hSave, ha, hc, hx, hLength⟩ := exists_saved_block T D
  constructor
  · intro hEq
    rw [hSave, loadHosts_block ha x hc] at hEq
    rw [← hEq, String.toList_ofList] at hLength
    omega
  · intro n hEq
    have hGrows : Grows (saveHosts T.text D.data) := by
      by_cases hStart : a = []
      · refine Or.inl ⟨x ++ endTag.text ++ c, ?_⟩
        rw [hSave, hStart, block]
        simp
      · exact Or.inr ⟨a, x, c, hSave, hStart, ha, hc, hx.resolve_left hStart⟩
    have hLonger := (hGrows.length_lt n).2
    rw [hEq] at hLonger
    omega

/-- An empty file and an empty content: a line break in, two line breaks out. -/
theorem loadHosts_saveHosts_empty :
    ¬ ∀ (T : HostsText) (D : Managed), loadHosts (saveHosts T.text D.data) = D.data := by
  intro h
  have hLoad := h (.plain ⟨[], rfl, rfl⟩) ⟨"", rfl, rfl, List.not_mem_nil⟩
  exact absurd hLoad (by decide +kernel)

end VxlanMtd
