/-
What the template id has an influence on: the tokens, and nothing else. The second pass reads a buffer that holds tokens of
the first one, so what it finds, why it leaves a tag alone and which line a tag gets could all depend on the id. They do
not. Two such buffers differ by markers from one and the same text with blanks in the place of the markers, so they have
the same tags at the same brackets; a tag that is marked holds no marker yet, so it is the same tag in both; and its copies
are the same in both, because none of them reaches over a marker.

Results:
- `Scanner.exists_twin`: texts that differ by markers from the same text have the same tags.
- `Annotator.exists_counterpart`: a tag that is to be marked for one id is to be marked for the other, with the same line.
- `Annotator.lines_marksAt`: the marks at a bracket have the same lines for all ids.
- `Annotator.annotate_draft`: all outputs of a source are one draft, filled with the id.
-/
import SourceMark.Proofs.Lines.Refilled
import SourceMark.Proofs.Marker.Blanked
import SourceMark.Proofs.Places
import SourceMark.Proofs.Token

namespace SourceMark

/-! ## Tags of texts that differ by markers from the same text -/

namespace Scanner

/-- tags at corresponding places of two texts -/
structure Twins (text text' : Text) (t t' : Tag) : Prop where
  name : t'.name = t.name
  nestedGt : t'.nestedGt = t.nestedGt
  endOf : endOf 0 text' t' = endOf 0 text t
  opens : t'.inner.count '<' = t.inner.count '<'

variable {glue : Bool} {sc : Scanner} {blank text text' : Text} {t t' : Tag}

theorem Echo.twins {t₀ : Tag} (hw : Woven glue blank text) (hw' : Woven glue blank text') (ht : t ∈ sc.scan text)
    (ht' : t' ∈ sc.scan text') (he : Echo glue blank text t₀ t) (he' : Echo glue blank text' t₀ t') :
    Twins text text' t t' := by
  obtain ⟨front, rest, htext, -, hdrop, hbehind, hend⟩ := exists_around ht
  obtain ⟨front', rest', htext', -, hdrop', hbehind', hend'⟩ := exists_around ht'
  have hstart := he.start
  have hstart' := he'.start
  have hstop := he.stop
  have hstop' := he'.stop
  rw [hdrop] at hstart
  rw [hdrop'] at hstart'
  rw [hbehind] at hstop
  rw [hbehind'] at hstop'
  refine ⟨he'.name.symm.trans he.name, he'.nestedGt.symm.trans he.nestedGt, ?_, ?_⟩
  · have hcount := hw.brackets_eq.symm.trans hw'.brackets_eq
    have hrest := hstop.brackets_eq.symm.trans hstop'.brackets_eq
    rw [htext, htext'] at hcount
    simp only [brackets_append, brackets_cons_bracket] at hcount
    omega
  · have opens {s o : Text} (h : Woven glue s o) : s.count '<' = o.count '<' :=
      h.count_eq (by decide) (by decide) (by decide)
    have hcount := (opens hstart).symm.trans (opens hstart')
    have hrest := (opens hstop).symm.trans (opens hstop')
    simp only [List.count_append, List.count_cons] at hcount
    omega

/-- **Texts that differ by markers from the same text have the same tags.** -/
theorem exists_twin (h : Readable glue sc) (hw : Woven glue blank text) (hw' : Woven glue blank text')
    (ht : t ∈ sc.scan text) : ∃ t' ∈ sc.scan text', Twins text text' t t' := by
  obtain ⟨t₀, ht₀, he⟩ := exists_left_of_forall₂ (scan_blind h hw) ht
  obtain ⟨t', ht', he'⟩ := exists_right_of_forall₂ (scan_blind h hw') ht₀
  exact ⟨t', ht', he.twins hw hw' ht ht' he'⟩

end Scanner

/-! ## Buffers for two ids -/

namespace Annotator

variable {a : Annotator} {templateId : Text} (templateId_ne : templateId ≠ []) {otherId : Text} (otherId_ne : otherId ≠ [])
  (disk : Option Text) (source : Text) {glue : Bool} {pass : Pass} {t : Tag}

theorem blanked_earlierSeams (pass : Pass) : (a.earlierSeams templateId templateId_ne disk source pass).blanked =
    (a.earlierSeams otherId otherId_ne disk source pass).blanked := by
  cases pass with
  | plain => rfl
  | component =>
    funext k
    simp only [Seams.blanked, earlierSeams, passSeams, seams, Option.map_map]
    rfl

/-- **A buffer differs by markers from the text with blanks in their place.** -/
theorem woven_bufferOf (h : Scanner.Readable glue a.scanner) (htidy : Nesting.Tidy a.scanner.dialect.nestedRegions)
    (pass : Pass) :
    Woven glue (weave (a.earlierSeams templateId templateId_ne disk source pass).blanked source)
      (a.bufferOf templateId templateId_ne disk source pass) := by
  rw [bufferOf_eq_weave]
  refine woven_blanked (a.marked_earlierSeams templateId templateId_ne disk source pass) ?_
  cases pass with
  | plain => exact fun _ _ _ _ _ _ => rfl
  | component => exact Scanner.clear_of_ends h htidy a.endSeams_passSeams fun hheld => absurd hheld (by decide)

/-- what every marker of an annotator starts with, up to its value -/
def lead (a : Annotator) : Text :=
  ' ' :: (a.settings.attributeName ++ "=\"".toList)

theorem bracket_notMem_lead : '<' ∉ a.lead := by
  have hname : ∀ c ∈ a.settings.attributeName, Marker.isQuiet c = true :=
    fun c hc => Marker.isQuiet_of_accepts a.settings.accepts_attributeName hc
  intro hm
  simp only [lead, List.mem_cons, List.mem_append] at hm
  rcases hm with hm | hm | hm
  · exact absurd hm (by decide)
  · exact absurd (hname _ hm) (by decide)
  · exact absurd hm (by decide)

theorem isValue_token (r : Reference) : IsValue (r.token ++ ['"']) := by
  have hsigns : ∀ c ∈ '=' :: Base64.alphabet, c ≠ '<' ∧ c ≠ '\n' := by decide +kernel
  have hnot {c : Char} (hc : c = '<' ∨ c = '\n') : c ∉ r.token ++ ['"'] := by
    intro hm
    rcases List.mem_append.1 hm with hm | hm
    · have hne := hsigns c (Base64.mem_encode _ c hm)
      exact hc.elim hne.1 hne.2
    · rw [List.mem_singleton] at hm
      subst hm
      exact absurd hc (by decide)
  exact ⟨hnot (Or.inl rfl), hnot (Or.inr rfl)⟩

/-- buffers for two ids have the same lead and other values at the same brackets -/
theorem sameLead_earlierSeams (pass : Pass) (k : Nat) :
    SameLead a.lead (a.earlierSeams templateId templateId_ne disk source pass k)
      (a.earlierSeams otherId otherId_ne disk source pass k) := by
  cases pass with
  | plain => exact .none
  | component =>
    simp only [earlierSeams, passSeams, seams]
    cases (a.candidates .plain source disk).find? fun c => c.isEligible && endOf 0 source c.tag == k with
    | none => exact .none
    | some c =>
      exact .some ⟨_, _, by simp [marker, Marker.text, lead], by simp [marker, Marker.text, lead],
        isValue_token ⟨templateId, c.line, templateId_ne, c.line_pos⟩,
        isValue_token ⟨otherId, c.line, otherId_ne, c.line_pos⟩⟩

/-- where a buffer for one id has no seam, one for another id has none -/
theorem earlierSeams_eq_none_iff {k : Nat} : a.earlierSeams templateId templateId_ne disk source pass k = none ↔
    a.earlierSeams otherId otherId_ne disk source pass k = none := by
  rcases rel_cases (a.sameLead_earlierSeams templateId_ne otherId_ne disk source pass k) with ⟨hnone, hnone'⟩ | ⟨_, _, hsome, hsome', -⟩
  · rw [hnone, hnone']
  · rw [hsome, hsome']
    simp

/-- a tag that is to be marked does not hold what markers start with -/
theorem not_isInfix_lead (h : Scanner.Readable glue a.scanner) {text : Text} (ht : t ∈ a.scanner.scan text)
    (hreason : a.reason? t = none) : ¬a.lead <:+: t.text := by
  rintro ⟨front, back, hlead⟩
  have hinner : ∃ back, t.inner = front ++ ' ' :: (a.settings.attributeName ++ back) := by
    rw [t.text_eq_inner] at hlead
    rcases List.eq_nil_or_concat back with rfl | ⟨back, c, rfl⟩
    · -- the lead ends in a quote, so the bracket that ends the tag stands behind it
      have hquote : front ++ a.lead ++ [] = (front ++ ' ' :: (a.settings.attributeName ++ ['='])) ++ ['"'] := by
        simp [lead]
      have hlast := List.append_inj_right' (hquote.symm.trans hlead) rfl
      exact absurd hlast (by decide)
    · rw [List.concat_eq_append, ← List.append_assoc] at hlead
      exact ⟨"=\"".toList ++ back, by rw [← List.append_inj_left' hlead rfl]; simp [lead]⟩
  obtain ⟨back, hinner⟩ := hinner
  rw [a.reason?_of_attribute h ht hinner] at hreason
  exact absurd hreason (by simp)

/-- **A tag that is to be marked for one id stands in the buffer for the other id**, and what is in front of it in the two
buffers comes from the same part of the source. -/
theorem exists_same_inner (h : Scanner.Readable glue a.scanner) (htidy : Nesting.Tidy a.scanner.dialect.nestedRegions)
    (ht : t ∈ a.scanner.scan (a.bufferOf templateId templateId_ne disk source pass)) (hreason : a.reason? t = none) :
    ∃ t' ∈ a.scanner.scan (a.bufferOf otherId otherId_ne disk source pass),
      Scanner.Twins (a.bufferOf templateId templateId_ne disk source pass)
        (a.bufferOf otherId otherId_ne disk source pass) t t' ∧ t'.inner = t.inner ∧
      ∃ front, (a.bufferOf templateId templateId_ne disk source pass).take t.start =
          weave (a.earlierSeams templateId templateId_ne disk source pass) front ∧
        (a.bufferOf otherId otherId_ne disk source pass).take t'.start =
          weave (a.earlierSeams otherId otherId_ne disk source pass) front := by
  have hw := woven_bufferOf templateId_ne disk source h htidy pass
  have hw' := woven_bufferOf otherId_ne disk source h htidy pass
  rw [← blanked_earlierSeams templateId_ne otherId_ne] at hw'
  obtain ⟨t', ht', htwins⟩ := Scanner.exists_twin h hw hw' ht
  refine ⟨t', ht', htwins, ?_⟩
  obtain ⟨f, r, htext, htake, -, -, hend⟩ := Scanner.exists_around ht
  obtain ⟨f', r', htext', htake', -, -, hend'⟩ := Scanner.exists_around ht'
  have hmarked := a.marked_earlierSeams templateId templateId_ne disk source pass
  have hmarked' := a.marked_earlierSeams otherId otherId_ne disk source pass
  have hopen : t.inner = '<' :: (t.name ++ t.attributes) := rfl
  have hcount : brackets t.inner = brackets (t.name ++ t.attributes) := brackets_cons_of_ne (by decide) _
  have hnone : ∀ k, brackets f ≤ k → k ≤ brackets f + brackets t.inner →
      a.earlierSeams templateId templateId_ne disk source pass k = none := fun k hlow hhigh =>
    earlierSeams_eq_none h ht hreason (by rw [htake]; exact hlow) (by rw [hend]; exact hhigh)
  -- the tag in the source, and from there in the other buffer
  rw [bufferOf_eq_weave, hopen] at htext
  obtain ⟨front, rest, hsource, hfront, hbrackets, -⟩ := exists_unwoven hmarked htext fun k hlow hhigh =>
    hnone k hlow (hcount ▸ hhigh)
  have hnone' : ∀ k, brackets front ≤ k → k ≤ brackets front + brackets t.inner →
      a.earlierSeams otherId otherId_ne disk source pass k = none := fun k hlow hhigh =>
    (earlierSeams_eq_none_iff templateId_ne otherId_ne disk source).1 (hnone k (hbrackets ▸ hlow) (hbrackets ▸ hhigh))
  have hweave := weave_tag rest (show t.inner.head? = some '<' from rfl) fun k hlow hhigh => hnone' k hlow (Nat.le_of_lt hhigh)
  have hsource' : source = front ++ (t.inner ++ ['>']) ++ rest := by
    rw [hsource, hopen]
    simp
  rw [hnone' _ (Nat.le_add_right _ _) le_rfl, sew_none, ← hsource', ← bufferOf_eq_weave] at hweave
  -- both texts around the tag of the other buffer are cut at the same bracket
  have hrest : brackets (weave ((a.earlierSeams otherId otherId_ne disk source pass).drop
      (brackets front + brackets t.inner + 1)) rest) = brackets r' := by
    have htwin := htwins.endOf
    have hwhole := congrArg brackets (hweave.symm.trans htext')
    simp only [brackets_append, brackets_cons_bracket, brackets_weave hmarked'] at hwhole
    omega
  obtain ⟨hcut, -⟩ := cut_last (hweave.symm.trans htext') hrest
  have hopens := htwins.opens
  rw [hopen, Tag.inner, List.cons_append, List.count_cons_self, List.count_cons_self] at hopens
  rw [hopen, Tag.inner, List.cons_append] at hcut
  obtain ⟨hfront', hinner⟩ := cut_last hcut (Nat.succ.inj hopens).symm
  exact ⟨by rw [hopen, Tag.inner, List.cons_append, hinner], front, htake.trans hfront.symm, htake'.trans hfront'.symm⟩

/-- **A tag that is to be marked for one id is to be marked for the other**, at the same bracket and with the same line. -/
theorem exists_counterpart (h : Scanner.Readable glue a.scanner) (htidy : Nesting.Tidy a.scanner.dialect.nestedRegions)
    (ht : t ∈ a.scanner.scan (a.bufferOf templateId templateId_ne disk source pass)) (hreason : a.reason? t = none) :
    ∃ t' ∈ a.scanner.scan (a.bufferOf otherId otherId_ne disk source pass), t'.name = t.name ∧ a.reason? t' = none ∧
      endOf 0 (a.bufferOf otherId otherId_ne disk source pass) t' =
        endOf 0 (a.bufferOf templateId templateId_ne disk source pass) t ∧
      Line.resolve t'.text t'.start (a.bufferOf otherId otherId_ne disk source pass) disk =
        Line.resolve t.text t.start (a.bufferOf templateId templateId_ne disk source pass) disk := by
  obtain ⟨t', ht', htwins, hinner, front, htake, htake'⟩ :=
    exists_same_inner templateId_ne otherId_ne disk source h htidy ht hreason
  have htext : t'.text = t.text := by rw [t'.text_eq_inner, t.text_eq_inner, hinner]
  have hattributes : t'.attributes = t.attributes := by
    rw [Tag.inner, Tag.inner, htwins.name] at hinner
    exact List.append_cancel_left hinner
  have hreason' : a.reason? t' = none := by
    rw [← hreason, reason?, reason?, hattributes, htext, htwins.nestedGt]
  have hrefilled (text : Text) : Refilled a.lead (weave (a.earlierSeams otherId otherId_ne disk source pass) text)
      (weave (a.earlierSeams templateId templateId_ne disk source pass) text) :=
    refilled_weave (a.sameLead_earlierSeams otherId_ne templateId_ne disk source pass) text
  refine ⟨t', ht', htwins.name, hreason', htwins.endOf, ?_⟩
  rw [htext]
  refine Refilled.resolve_eq bracket_notMem_lead ?_ ?_ rfl (not_isInfix_lead h ht hreason) disk
  · rw [bufferOf_eq_weave, bufferOf_eq_weave]
    exact hrefilled source
  · rw [htake, htake']
    exact hrefilled front

/-- a pass marks a tag at a bracket for one id if it marks one there for the other -/
theorem marksAt_bufferOf (h : Scanner.Readable glue a.scanner) (htidy : Nesting.Tidy a.scanner.dialect.nestedRegions)
    {k : Nat} (hmarks : a.MarksAt pass (a.bufferOf templateId templateId_ne disk source pass) k) :
    a.MarksAt pass (a.bufferOf otherId otherId_ne disk source pass) k := by
  obtain ⟨t, ht, ⟨hselects, hreason⟩, hend⟩ := hmarks
  obtain ⟨t', ht', hname, hreason', hend', -⟩ :=
    exists_counterpart templateId_ne otherId_ne disk source h htidy ht hreason
  exact ⟨t', ht', ⟨hname ▸ hselects, hreason'⟩, hend'.trans hend⟩

end Annotator

/-- a line that a marker can have -/
abbrev LineNumber : Type := { line : Nat // 0 < line }

theorem Mark.line_pos (m : Mark) : 0 < m.candidate.line :=
  m.candidate.line_pos

def Mark.line (m : Mark) : LineNumber :=
  ⟨m.candidate.line, m.line_pos⟩

namespace Annotator

variable {a : Annotator} {glue : Bool}

/-- **The marks at a bracket have the same lines for all ids.** -/
theorem lines_marksAt (h : Scanner.Readable glue a.scanner) (htidy : Nesting.Tidy a.scanner.dialect.nestedRegions)
    {templateId otherId : Text} (templateId_ne : templateId ≠ []) (otherId_ne : otherId ≠ []) (disk : Option Text)
    (source : Text) (k : Nat) : (a.marksAt otherId otherId_ne disk source k).map Mark.line =
      (a.marksAt templateId templateId_ne disk source k).map Mark.line := by
  cases hmarks : a.marksAt templateId templateId_ne disk source k with
  | nil =>
    have hnone : a.marksAt otherId otherId_ne disk source k = [] := by
      rw [marksAt_eq_nil] at hmarks ⊢
      exact fun pass hpass hmarksAt => hmarks pass hpass (marksAt_bufferOf otherId_ne templateId_ne disk source h htidy hmarksAt)
    rw [hnone]
  | cons m rest =>
    have hm : m ∈ a.marksAt templateId templateId_ne disk source k := hmarks ▸ List.mem_cons_self
    obtain ⟨hpass, ht, ⟨hselects, hreason⟩, hcandidate, hend⟩ := of_mem_marksAt hm
    obtain ⟨t', ht', hname, hreason', hend', hline⟩ :=
      exists_counterpart templateId_ne otherId_ne disk source h htidy ht hreason
    obtain ⟨m', hm', hpass', htag⟩ := exists_mark hpass ht' ⟨hname ▸ hselects, hreason'⟩
    rw [hend', hend] at hm'
    obtain ⟨-, -, -, hcandidate', -⟩ := of_mem_marksAt hm'
    have hsame : m'.line = m.line := by
      have hlines : m'.candidate.line = m.candidate.line := by
        rw [hpass', htag] at hcandidate'
        rw [hcandidate', hcandidate]
        exact hline
      exact Subtype.ext hlines
    rw [← hmarks, marksAt_eq_singleton h hm, marksAt_eq_singleton h hm', List.map_singleton, List.map_singleton, hsame]

end Annotator

/-! ## Drafts -/

/-- a place of a draft: a character, or a marker of which only the line is known -/
inductive Slot where
  | char (c : Char)
  | marker (line : LineNumber)

namespace Slot

def markerText (attributeName templateId : Text) (templateId_ne : templateId ≠ []) (line : LineNumber) : Text :=
  Marker.text attributeName (Reference.token ⟨templateId, line.1, templateId_ne, line.2⟩)

/-- the characters of a place once the id of the template is known -/
def fill (attributeName templateId : Text) (templateId_ne : templateId ≠ []) : Slot → Text
  | .char c => [c]
  | .marker line => markerText attributeName templateId templateId_ne line

def line? : Slot → Option LineNumber
  | .char _ => none
  | .marker line => some line

def plain (text : Text) : List Slot :=
  text.map .char

/-- the places of a marker with the blank before it -/
def piece (line : LineNumber) : List Slot :=
  [.char ' ', .marker line]

variable (attributeName : Text) {templateId : Text} (templateId_ne : templateId ≠ [])

theorem flatMap_fill_plain (text : Text) : (plain text).flatMap (fill attributeName templateId templateId_ne) = text := by
  rw [plain, List.flatMap_map]
  exact List.flatMap_singleton' text

theorem flatMap_fill_pieces (lines : List LineNumber) :
    (lines.flatMap piece).flatMap (fill attributeName templateId templateId_ne) =
      (lines.map fun line => ' ' :: markerText attributeName templateId templateId_ne line).flatten := by
  induction lines with
  | nil => rfl
  | cons line lines ih =>
    rw [List.flatMap_cons, List.flatMap_append, ih, List.map_cons, List.flatten_cons]
    simp [piece, fill]

theorem filterMap_line?_plain (text : Text) : (plain text).filterMap line? = [] := by
  rw [plain, List.filterMap_map]
  exact List.filterMap_eq_nil_iff.2 fun _ _ => rfl

theorem filterMap_line?_pieces (lines : List LineNumber) : (lines.flatMap piece).filterMap line? = lines := by
  induction lines with
  | nil => rfl
  | cons line lines ih =>
    rw [List.flatMap_cons, List.filterMap_append, ih]
    rfl

theorem exists_draft_seam (lines : List LineNumber) (stretch : Text) :
    ∃ draft : List Slot, draft.filterMap line? = lines ∧ ∀ {templateId : Text} (templateId_ne : templateId ≠ []),
      sew (joined (lines.map fun line => ' ' :: markerText attributeName templateId templateId_ne line)) stretch =
        draft.flatMap (fill attributeName templateId templateId_ne) := by
  by_cases hnil : lines = []
  · subst hnil
    exact ⟨plain stretch, filterMap_line?_plain stretch, fun templateId_ne =>
      (flatMap_fill_plain attributeName templateId_ne stretch).symm⟩
  · have hsome {templateId : Text} (templateId_ne : templateId ≠ []) :
        joined (lines.map fun line => ' ' :: markerText attributeName templateId templateId_ne line) =
          some ((lines.flatMap piece).flatMap (fill attributeName templateId templateId_ne)) := by
      rw [joined, if_neg (by simpa using hnil), flatMap_fill_pieces]
    rcases seam_cases stretch with ⟨body, gap, -, -, hseam⟩ | ⟨body, gap, mid, -, -, -, hseam⟩
    · refine ⟨plain body ++ lines.flatMap piece, ?_, fun templateId_ne => ?_⟩
      · rw [List.filterMap_append, filterMap_line?_plain, filterMap_line?_pieces, List.nil_append]
      · rw [hsome, sew_some, hseam, List.flatMap_append, flatMap_fill_plain]
    · refine ⟨plain body ++ lines.flatMap piece ++ plain " /".toList, ?_, fun templateId_ne => ?_⟩
      · rw [List.filterMap_append, List.filterMap_append, filterMap_line?_plain, filterMap_line?_plain,
          filterMap_line?_pieces, List.nil_append, List.append_nil]
      · rw [hsome, sew_some, hseam, List.flatMap_append, List.flatMap_append, flatMap_fill_plain, flatMap_fill_plain]

/-- **Weaves with markers of the same lines are one draft**, filled with the id. -/
theorem exists_draft {lines : Nat → List LineNumber} {seams : (templateId : Text) → templateId ≠ [] → Seams}
    (h : ∀ templateId templateId_ne k, seams templateId templateId_ne k =
      joined ((lines k).map fun line => ' ' :: markerText attributeName templateId templateId_ne line)) (text : Text) :
    ∃ draft : List Slot, draft.filterMap line? = (List.range (brackets text)).flatMap lines ∧
      ∀ {templateId : Text} (templateId_ne : templateId ≠ []),
        weave (seams templateId templateId_ne) text = draft.flatMap (fill attributeName templateId templateId_ne) := by
  have hfrom (n : Nat) (stretch : Text) : ∃ draft : List Slot,
      draft.filterMap line? = (List.range (brackets text)).flatMap (fun k => lines (n + k)) ∧
        ∀ {templateId : Text} (templateId_ne : templateId ≠ []), weaveFrom (seams templateId templateId_ne) n stretch text =
          draft.flatMap (fill attributeName templateId templateId_ne) := by
    induction text generalizing n stretch with
    | nil =>
      exact ⟨plain stretch, filterMap_line?_plain stretch, fun templateId_ne =>
        (flatMap_fill_plain attributeName templateId_ne stretch).symm⟩
    | cons c rest ih =>
      by_cases hc : c = '>'
      · subst hc
        obtain ⟨front, hfrontLines, hfront⟩ := exists_draft_seam attributeName (lines n) stretch
        obtain ⟨behind, hbehindLines, hbehind⟩ := ih (n + 1) []
        refine ⟨front ++ .char '>' :: behind, ?_, fun templateId_ne => ?_⟩
        · have hlater : (fun k => lines (n + (k + 1))) = fun k => lines (n + 1 + k) :=
            funext fun k => congrArg lines (by omega)
          rw [List.filterMap_append, hfrontLines, List.filterMap_cons_none rfl, hbehindLines, brackets_cons_bracket,
            List.range_succ_eq_map, List.flatMap_cons, List.flatMap_map, hlater]
          rfl
        · rw [weaveFrom_bracket, h, hfront, hbehind, List.flatMap_append, List.flatMap_cons]
          rfl
      · obtain ⟨draft, hlines, hfill⟩ := ih n (stretch ++ [c])
        refine ⟨draft, by rw [brackets_cons_of_ne hc, hlines], fun templateId_ne => ?_⟩
        rw [weaveFrom_cons_of_ne hc]
        exact hfill templateId_ne
  obtain ⟨draft, hlines, hfill⟩ := hfrom 0 []
  exact ⟨draft, by simpa using hlines, hfill⟩

end Slot

/-- **The template id has an influence on the tokens only.** All outputs of a source are one draft of characters and of
markers with their lines, filled with the id. In each output the markers of the draft are what a run has put into the
source, bracket by bracket, and every token reads as the id and the line of its marker. -/
theorem Annotator.annotate_draft {s : Settings} (hnames : s.HasOrdinaryNames) (source : Text) (disk : Option Text) :
    ∃ (draft : List Slot) (lines : Nat → List LineNumber),
      draft.filterMap Slot.line? = (List.range (brackets source)).flatMap lines ∧
      ∀ {templateId : Text} (templateId_ne : templateId ≠ []), ∃ (r : Annotated) (kept : Text),
        (ofSettings s).annotate source templateId disk = .ok r ∧
          r.output = draft.flatMap (Slot.fill s.attributeName templateId templateId_ne) ∧
          Inserts (fun k => (lines k).map fun line => ' ' :: Slot.markerText s.attributeName templateId templateId_ne line)
            0 source r.output kept ∧
          ∀ line : LineNumber, Token.read? (Reference.token ⟨templateId, line.1, templateId_ne, line.2⟩) =
            some ⟨templateId, line.1, templateId_ne, line.2⟩ := by
  have h := readable_ofSettings hnames
  -- the lines are those for any id
  have hsome : "template".toList ≠ [] := by decide
  let lines : Nat → List LineNumber := fun k =>
    ((ofSettings s).marksAt "template".toList hsome disk source k).map Mark.line
  have hpieces (templateId : Text) (templateId_ne : templateId ≠ []) (k : Nat) :
      ((ofSettings s).marksAt templateId templateId_ne disk source k).map ((ofSettings s).piece templateId templateId_ne) =
        (lines k).map fun line => ' ' :: Slot.markerText s.attributeName templateId templateId_ne line := by
    have hlines : lines k = ((ofSettings s).marksAt templateId templateId_ne disk source k).map Mark.line :=
      lines_marksAt h s.language.tidy templateId_ne hsome disk source k
    rw [hlines, List.map_map]
    rfl
  have hseams (templateId : Text) (templateId_ne : templateId ≠ []) (k : Nat) :
      (ofSettings s).allSeams templateId templateId_ne disk source k =
        joined ((lines k).map fun line => ' ' :: Slot.markerText s.attributeName templateId templateId_ne line) := by
    rw [allSeams_eq_joined, hpieces]
  obtain ⟨draft, hdraftLines, hdraft⟩ := Slot.exists_draft s.attributeName hseams source
  refine ⟨draft, lines, hdraftLines, fun {templateId} templateId_ne => ?_⟩
  obtain ⟨r, kept, hrun, houtput, hinserts⟩ := (ofSettings s).annotate_marksAt templateId templateId_ne disk source
  refine ⟨r, kept, hrun, houtput.trans (hdraft templateId_ne), ?_, fun line => Token.read?_token _⟩
  simpa only [hpieces] using hinserts

/-- a Blade template in which markers of the first pass stand between question marks and their brackets -/
def codeEnds : Text :=
  "<?= $a <div ?>\n<p ?>\n<x-card a='?'>\n<x-card a='?'>".toList

/-- the text on disk that belongs to `codeEnds`, with its elements on other lines -/
def codeEndsOnDisk : Text :=
  "<p ?>\n\n<x-card a='?'>\n<x-card a='?'>".toList

/-- the draft of a template that is marked in two passes; filled with the id `t` it has markers of the lines 1, 3 and 4 -/
theorem Annotator.annotate_draft_codeEnds : Settings.standard.HasOrdinaryNames ∧
    (∃ (draft : List Slot) (lines : Nat → List LineNumber),
      draft.filterMap Slot.line? = (List.range (brackets codeEnds)).flatMap lines ∧
      draft.flatMap (Slot.fill "data-source".toList "t".toList (by decide)) =
        ["<?= $a <div ?>\n<p ? data-source=\"eyJ0ZW1wbGF0ZV9pZCI6InQiLCJsaW5lIjoxfQ==\">",
          "\n<x-card a='?' data-source=\"eyJ0ZW1wbGF0ZV9pZCI6InQiLCJsaW5lIjozfQ==\">",
          "\n<x-card a='?' data-source=\"eyJ0ZW1wbGF0ZV9pZCI6InQiLCJsaW5lIjo0fQ==\">"].flatMap String.toList ∧
      ∀ {templateId : Text} (templateId_ne : templateId ≠ []), ∃ (r : Annotated) (kept : Text),
        (ofSettings .standard).annotate codeEnds templateId (some codeEndsOnDisk) = .ok r ∧
          r.output = draft.flatMap (Slot.fill "data-source".toList templateId templateId_ne) ∧
          Inserts (fun k => (lines k).map fun line => ' ' :: Slot.markerText "data-source".toList templateId templateId_ne line)
            0 codeEnds r.output kept ∧
          ∀ line : LineNumber, Token.read? (Reference.token ⟨templateId, line.1, templateId_ne, line.2⟩) =
            some ⟨templateId, line.1, templateId_ne, line.2⟩) ∧
    (["eyJ0ZW1wbGF0ZV9pZCI6InQiLCJsaW5lIjoxfQ==", "eyJ0ZW1wbGF0ZV9pZCI6InQiLCJsaW5lIjozfQ==",
      "eyJ0ZW1wbGF0ZV9pZCI6InQiLCJsaW5lIjo0fQ=="].map fun token => (Token.read? token.toList).map (·.line)) =
        [some 1, some 3, some 4] := by
  have hnames : Settings.standard.HasOrdinaryNames := by decide +kernel
  obtain ⟨draft, lines, hlines, hfill⟩ := annotate_draft hnames codeEnds (some codeEndsOnDisk)
  obtain ⟨r, kept, hrun, houtput, -⟩ := hfill (show "t".toList ≠ [] by decide)
  refine ⟨hnames, ⟨draft, lines, hlines, ?_, hfill⟩, by decide +kernel⟩
  obtain rfl := Except.ok.inj hrun
  exact houtput.symm.trans (by decide +kernel)

end SourceMark
