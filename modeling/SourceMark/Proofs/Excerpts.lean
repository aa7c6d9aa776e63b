/-
Excerpts stay inside their file. The window of a text around a line is never empty and never leaves the text; it holds
the line whenever the text does, and shows the lines of the text under their own numbers.

Results:
- `isWindow_window`: where a window begins and ends, and what it holds.
- `count_numbers`: the line that the excerpt is about is shown once if the file has it, and not at all if not.
- `IsWindow.targetLine_eq`, `IsWindow.targetLine_eq_nil`: which line the excerpt says it is about.
- `ofFile_of_read`, `ofFile_of_unread`: a file that is read has an excerpt, and only such a file.
- `ofFile_shows`: the line that was counted for an offset is the line that the excerpt shows.
-/
import Mathlib.Data.List.Nodup
import SourceMark.Excerpt
import SourceMark.Files.Snapshot
import SourceMark.Proofs.Lines.Stretches
import SourceMark.Proofs.Paths.Standard

namespace SourceMark.Excerpt

variable {path text : Text} {line context : Nat} {e : Excerpt}

structure IsWindow (text : Text) (line context : Nat) (e : Excerpt) : Prop where
  line_eq : e.line = line
  total : e.totalLines = (linesOf text).length
  start_pos : 1 ≤ e.startLine
  start_le : e.startLine ≤ e.endLine
  end_le : e.endLine ≤ e.totalLines
  /-- the window holds the lines of the text that lie within the context, if there is such a line -/
  inside : line ≤ e.totalLines → ∀ number, e.startLine ≤ number ∧ number ≤ e.endLine ↔
    1 ≤ number ∧ number ≤ e.totalLines ∧ line ≤ number + context ∧ number ≤ line + context
  /-- past the end, the last line is shown -/
  past : e.totalLines < line → e.endLine = e.totalLines
  length_lines : e.lines.length = e.endLine + 1 - e.startLine
  /-- the lines of the text, under their own numbers -/
  getElem?_lines : ∀ number, e.startLine ≤ number → number ≤ e.endLine →
    e.lines[number - e.startLine]? = (linesOf text)[number - 1]?

theorem length_linesOf_pos (text : Text) : 1 ≤ (linesOf text).length :=
  List.length_pos_of_ne_nil (Text.splitOn_ne_nil '\n' text)

/-- **A window stays inside its text.** -/
theorem isWindow_window (path text : Text) (hline : 1 ≤ line) (context : Nat) :
    IsWindow text line context (window path text line context) := by
  have htotal := length_linesOf_pos text
  -- the first line is one more than the clamp, whichever way the clamp went
  obtain ⟨start, hstart, hwindow⟩ : ∃ start,
      start = (if min (linesOf text).length (line + context) ≤ line - context - 1
        then min (linesOf text).length (line + context) - 1 else line - context - 1) ∧
      window path text line context = ⟨path, line, start + 1, min (linesOf text).length (line + context),
        ((linesOf text).take (min (linesOf text).length (line + context))).drop start, (linesOf text).length⟩ :=
    ⟨_, rfl, rfl⟩
  have hbounds : start < min (linesOf text).length (line + context) := by
    rw [hstart]
    split_ifs <;> omega
  rw [hwindow]
  refine ⟨rfl, rfl, ?_, ?_, ?_, ?_, ?_, ?_, ?_⟩
  · exact Nat.succ_le_succ (Nat.zero_le start)
  · exact hbounds
  · exact Nat.min_le_left _ _
  · intro hinside number
    dsimp only at hinside ⊢
    rw [if_neg (by omega)] at hstart
    omega
  · intro hpast
    dsimp only at hpast ⊢
    omega
  · simp only [List.length_drop, List.length_take]
    omega
  · intro number hfirst hlast
    dsimp only at hfirst hlast ⊢
    have hplace : start + (number - (start + 1)) = number - 1 := by omega
    rw [List.getElem?_drop, hplace, List.getElem?_take_of_lt (by omega)]

theorem IsWindow.mem (h : IsWindow text line context e) (hline : 1 ≤ line) :
    (e.startLine ≤ line ∧ line ≤ e.endLine) ↔ line ≤ e.totalLines := by
  constructor
  · rintro ⟨-, hlast⟩
    exact Nat.le_trans hlast h.end_le
  · intro hinside
    rw [h.inside hinside]
    omega

/-- **The line that the excerpt is about** is shown once if the text has it, and not at all if not. -/
theorem IsWindow.count_numbers (h : IsWindow text line context e) (hline : 1 ≤ line) :
    (List.range' e.startLine e.lines.length).count line = if line ≤ e.totalLines then 1 else 0 := by
  have hmem : line ∈ List.range' e.startLine e.lines.length ↔ line ≤ e.totalLines := by
    rw [List.mem_range'_1, h.length_lines, ← h.mem hline]
    have := h.start_le
    omega
  by_cases hinside : line ≤ e.totalLines
  · rw [if_pos hinside]
    exact List.count_eq_one_of_mem List.nodup_range' (hmem.2 hinside)
  · rw [if_neg hinside]
    exact List.count_eq_zero_of_not_mem fun hshown => hinside (hmem.1 hshown)

theorem IsWindow.targetLine_eq (h : IsWindow text line context e) (hline : 1 ≤ line) (hinside : line ≤ e.totalLines) :
    (linesOf text)[line - 1]? = some e.targetLine := by
  obtain ⟨hfirst, hlast⟩ := (h.mem hline).2 hinside
  have hshown := h.getElem?_lines line hfirst hlast
  have hbound : line - 1 < (linesOf text).length := by
    rw [← h.total]
    omega
  rw [List.getElem?_eq_getElem hbound] at hshown ⊢
  rw [targetLine, h.line_eq, if_pos hfirst, List.getD_eq_getElem?_getD, hshown, Option.getD_some]

/-- past the end, the excerpt is about no line -/
theorem IsWindow.targetLine_eq_nil (h : IsWindow text line context e) (hpast : e.totalLines < line) :
    e.targetLine = [] := by
  have hstart := h.start_le
  have hend := h.end_le
  have hnone : e.lines[line - e.startLine]? = none := by
    apply List.getElem?_eq_none
    rw [h.length_lines]
    omega
  rw [targetLine, h.line_eq, if_pos (by omega), List.getD_eq_getElem?_getD, hnone, Option.getD_none]

theorem lines_window (path text : Text) (line context : Nat) :
    (window path text line context).lines =
      ((linesOf text).take (window path text line context).endLine).drop
        ((window path text line context).startLine - 1) :=
  rfl

/-- **The line of an offset is in the text**, and an excerpt around it is about the stretch around the offset. -/
theorem IsWindow.targetLine_ofOffset {offset : Nat} (h : IsWindow text (Line.ofOffset text offset) context e) :
    e.targetLine = Line.stretchAt text offset := by
  have hline : 1 ≤ Line.ofOffset text offset := Nat.le_add_left 1 _
  have hcounted : (linesOf text)[Line.ofOffset text offset - 1]? = some (Line.stretchAt text offset) :=
    Line.getElem?_splitOn_ofOffset text offset
  have hinside : Line.ofOffset text offset ≤ e.totalLines := by
    obtain ⟨hbound, -⟩ := List.getElem?_eq_some_iff.1 hcounted
    rw [h.total]
    omega
  have htarget := h.targetLine_eq hline hinside
  exact Option.some.inj (htarget.symm.trans hcounted)

/-! ## Files -/

variable {files : FileSystem}

/-- a file that is read has an excerpt: neither the line nor the context is refused -/
theorem ofFile_of_read (hread : files.readText (Path.tidy path) = .ok text) (hline : 1 ≤ line) (context : Nat) :
    ofFile files path line context = .ok (window path text line context) := by
  rw [ofFile, if_neg (by omega), if_neg (by omega), hread]
  rfl

theorem ofFile_of_unread {error : FileError} (hread : files.readText (Path.tidy path) = .error error)
    (hline : 1 ≤ line) (context : Nat) : ofFile files path line context = .error (.unreadable error) := by
  rw [ofFile, if_neg (by omega), if_neg (by omega), hread]

theorem readText_of_decode {bytes : Bytes} {raw : Text} (hpath : nul ∉ path)
    (hread : files.read (Path.tidy path) = .ok bytes) (htext : Utf8.decode bytes = .ok raw) :
    files.readText (Path.tidy path) = .ok (Text.unifyNewlines raw) := by
  have hnul : (Path.tidy path).contains nul = false := by
    rw [List.contains_eq_mem, decide_eq_false_iff_not]
    intro hmem
    exact hpath (Path.mem_of_mem_tidy (by decide) (by decide) hmem)
  unfold FileSystem.readText
  rw [hnul, if_neg (by decide), hread]
  dsimp only
  rw [htext]

/-- **The excerpt shows the line that was counted.** A file of UTF-8 text, its line ends made one line feed each, has an
excerpt around every line with every context. The excerpt holds the lines from its first number to its last; for a line
that the text has these are the lines within the context, and for one past the end the last line closes the window and no
line is the one asked for. The line counted for an offset is the stretch from the line feed before it to the next. -/
theorem ofFile_shows {bytes : Bytes} {raw : Text} (hpath : nul ∉ path)
    (hread : files.read (Path.tidy path) = .ok bytes) (htext : Utf8.decode bytes = .ok raw) :
    let text := Text.unifyNewlines raw
    (∀ line context : Nat, 1 ≤ line → ∃ e, ofFile files path line context = .ok e ∧
      e.totalLines = (linesOf text).length ∧
      1 ≤ e.startLine ∧ e.startLine ≤ e.endLine ∧ e.endLine ≤ e.totalLines ∧
      e.lines = ((linesOf text).take e.endLine).drop (e.startLine - 1) ∧
      (line ≤ e.totalLines →
        (∀ number, e.startLine ≤ number ∧ number ≤ e.endLine ↔
          1 ≤ number ∧ number ≤ e.totalLines ∧ line ≤ number + context ∧ number ≤ line + context) ∧
        (linesOf text)[line - 1]? = some e.targetLine) ∧
      (e.totalLines < line → e.endLine = e.totalLines ∧ e.targetLine = [])) ∧
    ∀ offset ≤ text.length, ∀ context : Nat, ∃ e,
      ofFile files path (Line.ofOffset text offset) context = .ok e ∧ e.targetLine = Line.stretchAt text offset := by
  intro text
  have hdisk : files.readText (Path.tidy path) = .ok text := readText_of_decode hpath hread htext
  constructor
  · intro line context hline
    have hwindow := isWindow_window path text hline context
    refine ⟨window path text line context, ofFile_of_read hdisk hline context, hwindow.total, hwindow.start_pos,
      hwindow.start_le, hwindow.end_le, lines_window path text line context, ?_, ?_⟩
    · intro hinside
      exact ⟨hwindow.inside hinside, hwindow.targetLine_eq hline hinside⟩
    · intro hpast
      exact ⟨hwindow.past hpast, hwindow.targetLine_eq_nil hpast⟩
  · intro offset _ context
    have hline : 1 ≤ Line.ofOffset text offset := Nat.le_add_left 1 _
    have hwindow := isWindow_window path text hline context
    exact ⟨window path text (Line.ofOffset text offset) context, ofFile_of_read hdisk hline context,
      hwindow.targetLine_ofOffset⟩

/-- a file with two kinds of line ends -/
def mixedFiles : FileSystem :=
  Snapshot.toFileSystem [("a.html".toList, .ok (Utf8.encode "<p>\r\nhé\n".toList))] "/".toList

/-- on the line feed between the second line and the empty one behind it, and at the end of the text -/
theorem ofFile_shows_mixedFiles :
    let path := "./a.html".toList
    let raw := "<p>\r\nhé\n".toList
    let text := "<p>\nhé\n".toList
    nul ∉ path ∧ mixedFiles.read (Path.tidy path) = .ok (Utf8.encode raw) ∧ Utf8.decode (Utf8.encode raw) = .ok raw ∧
      (∃ e, ofFile mixedFiles path (Line.ofOffset text 6) 0 = .ok e ∧ e.targetLine = "hé".toList) ∧
      (∃ e, ofFile mixedFiles path (Line.ofOffset text 7) 0 = .ok e ∧ e.targetLine = []) ∧
      ∃ e, ofFile mixedFiles path 9 2 = .ok e ∧ e.endLine = 3 ∧ e.targetLine = [] := by
  intro path raw text
  have hpath : nul ∉ path := by decide
  have hread : mixedFiles.read (Path.tidy path) = .ok (Utf8.encode raw) := by decide
  have htext : Utf8.decode (Utf8.encode raw) = .ok raw := by decide +kernel
  have hsecond : Line.stretchAt text 6 = "hé".toList := by decide
  have hthird : Line.stretchAt text 7 = [] := by decide
  obtain ⟨hlines, hoffsets⟩ := ofFile_shows hpath hread htext
  obtain ⟨e, hfile, htotal, -, -, -, -, -, hpast⟩ := hlines 9 2 (by decide)
  have hthree : e.totalLines = 3 := htotal.trans (by decide)
  have hbehind : e.totalLines < 9 := by
    rw [hthree]
    decide
  refine ⟨hpath, hread, htext, ?_, ?_, e, hfile, ?_, (hpast hbehind).2⟩
  · rw [← hsecond]
    exact hoffsets 6 (by decide) 0
  · rw [← hthird]
    exact hoffsets 7 (by decide) 0
  · rw [(hpast hbehind).1, hthree]

end SourceMark.Excerpt
