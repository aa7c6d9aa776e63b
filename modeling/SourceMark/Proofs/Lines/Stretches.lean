/-
Two notions of a line. The one counts: the line of an offset has one more than as many line feeds as there are in front of
it. The other splits: the lines of a text are the pieces between its line feeds. They agree at every offset, also on a line
feed, behind one and at the end of the text.

Results:
- `IsLine.getElem?_splitOn`: what stands between two line feeds is the piece that is counted in front of it.
- `exists_isLine`: the stretch around an offset stands between two line feeds.
- `getElem?_splitOn_ofOffset`: the line of an offset, counted, is the stretch around it.
-/
import Mathlib.Data.List.DropRight
import SourceMark.Line
import SourceMark.Proofs.Text.Pieces

namespace SourceMark.Line

/-- the stretch of a text around an offset: from behind the line feed before the offset, or from the start, to the next
line feed at the offset or behind it, or to the end -/
def stretchAt (text : Text) (offset : Nat) : Text :=
  (text.take offset).rtakeWhile (· != '\n') ++ (text.drop offset).takeWhile (· != '\n')

/-- a stretch behind `front` that line feeds, or the ends of the text, are around but not in -/
structure IsLine (text front stretch : Text) : Prop where
  start : front = [] ∨ ∃ before, front = before ++ ['\n']
  split : ∃ behind, text = front ++ (stretch ++ behind) ∧ (behind = [] ∨ ∃ rest, behind = '\n' :: rest)
  single : '\n' ∉ stretch

variable {text front stretch : Text}

theorem exists_splitOn_line (h : '\n' ∉ stretch) {behind : Text} (hend : behind = [] ∨ ∃ rest, behind = '\n' :: rest) :
    ∃ later, Text.splitOn '\n' (stretch ++ behind) = stretch :: later := by
  rcases hend with rfl | ⟨rest, rfl⟩
  · rw [List.append_nil, Text.splitOn_of_notMem h]
    exact ⟨[], rfl⟩
  · rw [Text.splitOn_append, Text.splitOn_of_notMem h]
    exact ⟨Text.splitOn '\n' rest, rfl⟩

/-- **A line is the piece** whose number is that of the line feeds in front of it. -/
theorem IsLine.getElem?_splitOn (h : IsLine text front stretch) :
    (Text.splitOn '\n' text)[Text.newlines front]? = some stretch := by
  obtain ⟨behind, rfl, hend⟩ := h.split
  obtain ⟨later, hlater⟩ := exists_splitOn_line h.single hend
  rcases h.start with rfl | ⟨before, rfl⟩
  · rw [List.nil_append, hlater]
    rfl
  · have hnumber : Text.newlines (before ++ ['\n']) = (Text.splitOn '\n' before).length := by
      rw [Text.length_splitOn, Text.newlines, List.count_append, List.count_singleton_self]
    rw [hnumber, List.append_assoc, List.singleton_append, Text.splitOn_append, hlater,
      List.getElem?_append_right (Nat.le_refl _), Nat.sub_self, List.getElem?_cons_zero]

/-- a text without its last characters that are no line feeds is empty or ends with a line feed -/
theorem rdropWhile_eq_nil_or_snoc (text : Text) : text.rdropWhile (· != '\n') = [] ∨
    ∃ before, text.rdropWhile (· != '\n') = before ++ ['\n'] := by
  by_cases hnil : text.rdropWhile (· != '\n') = []
  · exact .inl hnil
  · have hlast : (text.rdropWhile (· != '\n')).getLast hnil = '\n' := by
      simpa using List.rdropWhile_last_not (· != '\n') text hnil
    have hsnoc := List.dropLast_append_getLast hnil
    rw [hlast] at hsnoc
    exact .inr ⟨_, hsnoc.symm⟩

/-- a text without its first characters that are no line feeds is empty or begins with a line feed -/
theorem dropWhile_eq_nil_or_cons (text : Text) : text.dropWhile (· != '\n') = [] ∨
    ∃ rest, text.dropWhile (· != '\n') = '\n' :: rest := by
  have hhead := List.head?_dropWhile_not (· != '\n') text
  cases hrest : text.dropWhile (· != '\n') with
  | nil => exact .inl rfl
  | cons c rest =>
    rw [hrest, List.head?_cons] at hhead
    have hc : c = '\n' := by simpa using hhead
    exact .inr ⟨rest, by rw [hc]⟩

/-- **The stretch around an offset is a line**, and no line feed lies between its start and the offset. -/
theorem exists_isLine (text : Text) (offset : Nat) :
    ∃ front, IsLine text front (stretchAt text offset) ∧ Text.newlines front = Text.newlines (text.take offset) := by
  have hbefore : '\n' ∉ (text.take offset).rtakeWhile (· != '\n') := by
    intro hfeed
    simpa using List.mem_rtakeWhile_imp hfeed
  have hbehind : '\n' ∉ (text.drop offset).takeWhile (· != '\n') := by
    intro hfeed
    simpa using List.mem_takeWhile_imp hfeed
  have hfront := List.rdropWhile_append_rtakeWhile (p := (· != '\n')) (l := text.take offset)
  have hrest := List.takeWhile_append_dropWhile (p := (· != '\n')) (l := text.drop offset)
  refine ⟨(text.take offset).rdropWhile (· != '\n'), ⟨rdropWhile_eq_nil_or_snoc _, ?_, ?_⟩, ?_⟩
  · refine ⟨(text.drop offset).dropWhile (· != '\n'), ?_, dropWhile_eq_nil_or_cons _⟩
    rw [stretchAt, List.append_assoc, hrest, ← List.append_assoc, hfront, List.take_append_drop]
  · rw [stretchAt, List.mem_append]
    exact not_or.2 ⟨hbefore, hbehind⟩
  · conv_rhs => rw [← hfront]
    rw [Text.newlines, Text.newlines, List.count_append, List.count_eq_zero.2 hbefore, Nat.add_zero]

/-- **Counting and splitting agree**: the line of an offset, as it is counted, is the stretch around the offset. -/
theorem getElem?_splitOn_ofOffset (text : Text) (offset : Nat) :
    (Text.splitOn '\n' text)[ofOffset text offset - 1]? = some (stretchAt text offset) := by
  obtain ⟨front, hline, hcount⟩ := exists_isLine text offset
  rw [ofOffset, Nat.add_sub_cancel, ← hcount]
  exact hline.getElem?_splitOn

end SourceMark.Line
