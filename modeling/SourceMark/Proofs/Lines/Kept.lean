/-
Lines of the output. Markers hold no line ends, and trimming before a bracket stops at one. But a tag that closes itself
loses everything between its slash and its bracket, and a line that ends there is lost: all that follows moves up.

Results:
- `newlines_passed`: a pass loses the lines that end in the tags that it marks, between slash and bracket.
- `annotate_keepsLines_iff`: a run keeps the number of lines, and each character that it copies on its line, if and only
  if no line ends there in a tag that a pass marks.
- `annotate_drops_line`: in both languages there is a template that loses a line.
-/
import Mathlib.Algebra.Ring.Nat
import SourceMark.Line
import SourceMark.Proofs.Insertion
import SourceMark.Proofs.Marker.Script

namespace SourceMark

/-! ## One tag -/

/-- how many lines end between the slash and the bracket of a tag that closes itself -/
def Tag.lostLines (t : Tag) : Nat :=
  if t.isSelfClosing then Text.newlines (Marker.behindSlash t.inner) else 0

namespace Text

theorem newlines_append (a b : Text) : newlines (a ++ b) = newlines a + newlines b :=
  List.count_append

theorem newlines_of_isHorizontalBlank {gap : Text} (h : ∀ c ∈ gap, isHorizontalBlank c = true) : newlines gap = 0 :=
  List.count_eq_zero.2 fun hm => absurd (h _ hm) (by decide)

end Text

/-- **A marked tag has the lines of the tag** but for those that end between its slash and its bracket. -/
theorem Marker.newlines_insert {marker : Text} (hmarker : '\n' ∉ marker) (t : Tag) :
    Text.newlines (Marker.insert marker t) + t.lostLines = Text.newlines t.text := by
  have hnone : Text.newlines (' ' :: marker) = 0 := List.count_eq_zero.2 (by simp [hmarker])
  have hself : t.isSelfClosing = closesItself t.inner := rfl
  rw [Marker.insert_eq_seam, t.text_eq_inner, Tag.lostLines, hself]
  cases hs : closesItself t.inner with
  | false =>
    obtain ⟨gap, hgap, hblank⟩ := Text.exists_gap Text.isHorizontalBlank t.inner
    have hinner := congrArg Text.newlines hgap
    rw [Text.newlines_append, Text.newlines_of_isHorizontalBlank hblank] at hinner
    simp only [seam, hs, Bool.false_eq_true, if_false, Text.newlines_append, hnone]
    omega
  | true =>
    obtain ⟨body, mid, hinner, hmid⟩ := exists_slash hs
    obtain ⟨gap, hgap, hblank⟩ := Text.exists_gap Text.isHorizontalBlank body
    have hbody := congrArg Text.newlines hgap
    rw [Text.newlines_append, Text.newlines_of_isHorizontalBlank hblank] at hbody
    have hslash : Text.newlines ('/' :: mid) = Text.newlines mid := List.count_cons_of_ne (by decide)
    have hclose : Text.newlines " /".toList = 0 := by decide
    rw [if_pos rfl, hinner, behindSlash_append (slash_notMem_of_blank hmid), seam_append_slash hmid]
    simp only [Text.newlines_append, hnone, hslash, hclose]
    omega

/-! ## Passes -/

namespace Annotator

variable (a : Annotator) (templateId : Text) (templateId_ne : templateId ≠ []) (disk : Option Text)

def lostLines (pass : Pass) (buffer : Text) : Nat :=
  (((a.candidates pass buffer disk).filter (·.isEligible)).map (·.tag.lostLines)).sum

/-- a pass loses no line if and only if none ends between the slash and the bracket of a tag that it marks -/
theorem lostLines_eq_zero {pass : Pass} {buffer : Text} : a.lostLines disk pass buffer = 0 ↔
    ∀ t ∈ a.scanner.scan buffer, a.Marks pass t → t.lostLines = 0 := by
  have hmarked (p : Tag → Prop) : (∀ c ∈ a.candidates pass buffer disk, c.isEligible = true → p c.tag) ↔
      ∀ t ∈ a.scanner.scan buffer, a.Marks pass t → p t := by
    have hsome : (∃ c ∈ a.candidates pass buffer disk, c.isEligible = true ∧ ¬p c.tag) ↔
        ∃ t ∈ a.scanner.scan buffer, a.Marks pass t ∧ ¬p t := a.exists_eligible (p := fun t => ¬p t)
    have hall := not_congr hsome
    push Not at hall
    exact hall
  rw [← hmarked, lostLines, List.sum_eq_zero_iff_forall_eq_nat]
  simp only [List.forall_mem_map, List.mem_filter, and_imp]

theorem newline_notMem_piece (hname : '\n' ∉ a.settings.attributeName) (m : Mark) :
    '\n' ∉ a.piece templateId templateId_ne m := by
  have htoken : '\n' ∉ Reference.token ⟨templateId, m.candidate.line, templateId_ne, m.candidate.line_pos⟩ := by
    intro hm
    exact absurd (Base64.mem_encode _ _ hm) (by decide)
  simp [piece, marker, Marker.text, hname, htoken]

theorem newlines_mark (hname : '\n' ∉ a.settings.attributeName) (c : Candidate) :
    Text.newlines (a.mark templateId templateId_ne c) + c.tag.lostLines = Text.newlines c.tag.text := by
  have hpiece := a.newline_notMem_piece templateId templateId_ne hname ⟨.plain, c⟩
  exact Marker.newlines_insert (fun hm => hpiece (List.mem_cons_of_mem _ hm)) c.tag

/-- **What the cursor loses.** -/
theorem newlines_splice (hname : '\n' ∉ a.settings.attributeName) {cursor : Nat} {text : Text} {found : List Candidate}
    (h : Placed cursor text (found.map (·.tag))) :
    Text.newlines (a.splice templateId templateId_ne cursor text found) +
      ((found.filter fun c => c.isEligible).map (·.tag.lostLines)).sum = Text.newlines text := by
  induction found generalizing cursor text with
  | nil => rfl
  | cons c found ih =>
    obtain ⟨front, rest, rfl, hstart, hrest⟩ := show Placed cursor text (c.tag :: found.map (·.tag)) from h
    cases he : c.isEligible with
    | false =>
      rw [splice, he, List.filter_cons_of_neg (by simp [he])]
      exact ih (Placed.skip hstart hrest)
    | true =>
      have htake : (front ++ c.tag.text ++ rest).take (c.tag.start - cursor) = front := take_start rfl hstart
      have hdrop : (front ++ c.tag.text ++ rest).drop (c.tag.stop - cursor) = rest := drop_stop rfl hstart
      have hmark := a.newlines_mark templateId templateId_ne hname c
      have hbehind := ih hrest
      have hfilter : (c :: found).filter (fun c => c.isEligible) = c :: found.filter fun c => c.isEligible :=
        List.filter_cons_of_pos he
      rw [splice, if_pos he, htake, hdrop, hfilter, List.map_cons, List.sum_cons]
      simp only [Text.newlines_append]
      omega

/-- **A pass loses the lines that end in the tags that it marks**, between slash and bracket. -/
theorem newlines_passed (hname : '\n' ∉ a.settings.attributeName) (pass : Pass) (buffer : Text) :
    Text.newlines (a.passed templateId templateId_ne disk buffer pass) + a.lostLines disk pass buffer =
      Text.newlines buffer := by
  have hplaced := a.candidates_placed pass buffer disk
  rw [passed, passSeams, ← a.splice_eq_weave templateId templateId_ne hplaced]
  exact a.newlines_splice templateId templateId_ne hname hplaced

/-! ## Runs -/

variable (source : Text)

/-- **The output has the lines of the source** but for those that the passes lose. -/
theorem newlines_output (hname : '\n' ∉ a.settings.attributeName) :
    Text.newlines (weave (a.allSeams templateId templateId_ne disk source) source) +
      (a.passes.map fun pass => a.lostLines disk pass (a.bufferOf templateId templateId_ne disk source pass)).sum =
        Text.newlines source := by
  have hplain := a.newlines_passed templateId templateId_ne disk hname .plain source
  have hcomponent := a.newlines_passed templateId templateId_ne disk hname .component
    (a.bufferOf templateId templateId_ne disk source .component)
  rw [a.weave_allSeams]
  unfold passes
  split_ifs
  · simp only [List.foldl_cons, List.foldl_nil, List.map_cons, List.map_nil, List.sum_cons, List.sum_nil]
    rw [bufferOf_component] at hcomponent ⊢
    rw [bufferOf]
    omega
  · simp only [List.foldl_cons, List.foldl_nil, List.map_cons, List.map_nil, List.sum_cons, List.sum_nil, bufferOf]
    omega

/-- whether no line ends between the slash and the bracket of a tag that a pass marks -/
def ClosesOnLine : Prop :=
  ∀ pass ∈ a.passes, ∀ t ∈ a.scanner.scan (a.bufferOf templateId templateId_ne disk source pass),
    a.Marks pass t → t.lostLines = 0

/-- a run keeps the number of lines if and only if no pass loses one -/
theorem newlines_output_iff (hname : '\n' ∉ a.settings.attributeName) :
    Text.newlines (weave (a.allSeams templateId templateId_ne disk source) source) = Text.newlines source ↔
      a.ClosesOnLine templateId templateId_ne disk source := by
  have hlost : (a.passes.map fun pass =>
      a.lostLines disk pass (a.bufferOf templateId templateId_ne disk source pass)).sum = 0 ↔
        a.ClosesOnLine templateId templateId_ne disk source := by
    rw [List.sum_eq_zero_iff_forall_eq_nat]
    simp only [List.forall_mem_map, lostLines_eq_zero, ClosesOnLine]
  have := a.newlines_output templateId templateId_ne disk source hname
  rw [← hlost]
  omega

/-- **Lines are kept** if and only if no line ends between the slash and the bracket of a tag that a pass marks. A run goes
through the source and the output by a script: it keeps the source but for blanks next to brackets and adds the markers.
The output has as many lines as the source, and so does each part of it before a character that is kept. -/
theorem annotate_keepsLines_iff (s : Settings) (hname : '\n' ∉ s.attributeName) {templateId : Text}
    (templateId_ne : templateId ≠ []) (disk : Option Text) (source : Text) :
    ∃ (r : Annotated) (script : List Edit), (ofSettings s).annotate source templateId disk = .ok r ∧
      Edit.Inserting (fun k => ((ofSettings s).marksAt templateId templateId_ne disk source k).map
        ((ofSettings s).piece templateId templateId_ne)) 0 script ∧
      Edit.before script = source ∧ Edit.after script = r.output ∧
      (Text.newlines r.output = Text.newlines source ↔ (ofSettings s).ClosesOnLine templateId templateId_ne disk source) ∧
      (Edit.KeepsLines script ↔ (ofSettings s).ClosesOnLine templateId templateId_ne disk source) := by
  obtain ⟨r, kept, hannotate, hweave, hrun⟩ := (ofSettings s).annotate_marksAt templateId templateId_ne disk source
  obtain ⟨script, hscript, hbefore, hafter⟩ := hrun.exists_script
  have hcount := (ofSettings s).newlines_output_iff templateId templateId_ne disk source hname
  have hadd : Edit.add '\n' ∉ script := by
    intro hm
    rcases hscript.mem_add hm with h | ⟨k, p, hp, hnewline⟩
    · exact absurd h (by decide)
    · obtain ⟨m, -, rfl⟩ := List.mem_map.1 hp
      exact (ofSettings s).newline_notMem_piece templateId templateId_ne hname m hnewline
  rw [← hweave] at hcount
  refine ⟨r, script, hannotate, hscript, hbefore, hafter, hcount, ?_⟩
  rw [hscript.keepsLines_iff hadd, hbefore, hafter]
  exact hcount

theorem annotate_keepsLines_article : '\n' ∉ Settings.standard.attributeName ∧ "home".toList ≠ [] ∧
    ∃ r, (ofSettings .standard).annotate "<article\n >\n<x-card / >".toList "home".toList none = .ok r ∧
      Text.newlines r.output = 2 := by
  have hname : '\n' ∉ Settings.standard.attributeName := by decide
  obtain ⟨r, script, hrun, -, -, -, hcount, -⟩ := annotate_keepsLines_iff .standard hname
    (show "home".toList ≠ [] by decide) none "<article\n >\n<x-card / >".toList
  refine ⟨hname, by decide, r, hrun, hcount.2 ?_⟩
  have hclosed : ∀ pass ∈ [Pass.plain, .component], ∀ t ∈ (ofSettings .standard).scanner.scan
      ((ofSettings .standard).bufferOf "home".toList (by decide) none "<article\n >\n<x-card / >".toList pass),
      t.lostLines = 0 := by
    decide +kernel
  exact fun pass hpass t ht _ => hclosed pass hpass t ht

/-- a line that ends between the slash and the bracket of a plain tag is lost -/
theorem exists_lost {s : Settings} (hname : '\n' ∉ s.attributeName) {templateId : Text} (templateId_ne : templateId ≠ [])
    (disk : Option Text) {source : Text}
    (h : ∃ t ∈ (ofSettings s).scanner.scan source, (ofSettings s).Marks .plain t ∧ t.lostLines ≠ 0) :
    ∃ r, (ofSettings s).annotate source templateId disk = .ok r ∧ Text.newlines r.output ≠ Text.newlines source := by
  obtain ⟨r, kept, hannotate, hweave, -⟩ := (ofSettings s).annotate_marksAt templateId templateId_ne disk source
  obtain ⟨t, ht, hmarks, hlost⟩ := h
  refine ⟨r, hannotate, ?_⟩
  rw [hweave]
  intro hsame
  have hclosed := ((ofSettings s).newlines_output_iff templateId templateId_ne disk source hname).1 hsame
  exact hlost (hclosed .plain ((ofSettings s).plain_mem_passes) t ht hmarks)

/-- a template in which a line ends between the slash of a tag and its bracket -/
def slashOnLine : Text := "<input /\n><p>".toList

/-- in both languages the line that ends in the tag is lost -/
theorem annotate_drops_line :
    (∃ r, (ofSettings .standard).annotate slashOnLine "t".toList none = .ok r ∧
      Text.newlines r.output ≠ Text.newlines slashOnLine) ∧
    ∃ r, (ofSettings { language := .jinja }).annotate slashOnLine "t".toList none = .ok r ∧
      Text.newlines r.output ≠ Text.newlines slashOnLine := by
  have hblade : ∃ t ∈ (ofSettings .standard).scanner.scan slashOnLine,
      (ofSettings .standard).Marks .plain t ∧ t.lostLines ≠ 0 := by decide +kernel
  have hjinja : ∃ t ∈ (ofSettings { language := .jinja }).scanner.scan slashOnLine,
      (ofSettings { language := .jinja }).Marks .plain t ∧ t.lostLines ≠ 0 := by decide +kernel
  exact ⟨exists_lost (by decide) (by decide) none hblade, exists_lost (by decide) (by decide) none hjinja⟩

end Annotator

end SourceMark
