/-
Lines on markers. A marker is to name the line on which its own tag stands. The line is looked up by the tag's text among
the copies of that text in the file: the number of the tag's copy in the buffer is the number of a copy in the file.

When the file is the source itself, two things come between a tag and its line. Copies may overlap: the counted one may
start above the tag and reach over it. And the buffer of the second pass may have lost lines and copies: when copies
are missing, the nearest one is taken, as seen from a line that is too small.

Results:
- `resolve_self_iff`: in the source itself, a tag gets its line if and only if the counted copy over it starts there.
- `resolve_weave_iff`: in a weave, when overlapping copies start on one line, a tag gets its line if and only if no copy
  is missing, or none stands as close above the tag as twice the lines lost in front of it.
- `annotate_exactLines`: the markers of a run are read back, and when their lines are those of their tags.
- `annotate_misses_line`: in both languages there is a template whose marker names another line.
-/
import SourceMark.Proofs.Lines.Kept
import SourceMark.Proofs.Lines.Resolve
import SourceMark.Proofs.Places
import SourceMark.Proofs.Token

namespace SourceMark

/-! ## Overlapping copies -/

namespace Line

/-- whether the copies of a text that reach over a place, directly or through one other copy, start on its line -/
def Steady (tagText text : Text) (place : Nat) : Prop :=
  ∀ p q, Text.StandsAt tagText text p → Text.StandsAt tagText text q → p ≤ q → q < p + tagText.length → q ≤ place →
    place < q + tagText.length → ofOffset text p = ofOffset text place

/-- whether the counted copies that reach over a place start on its line -/
def CountedOnLine (tagText text : Text) (place : Nat) : Prop :=
  ∀ p ∈ Text.occurrences tagText text, p ≤ place → place < p + tagText.length → ofOffset text p = ofOffset text place

/-- whether the counted copies above the line of a place start more than so many lines above it -/
def ClearAbove (tagText text : Text) (place lines : Nat) : Prop :=
  ∀ p ∈ Text.occurrences tagText text, ofOffset text p < ofOffset text place →
    ofOffset text p + lines < ofOffset text place

theorem ofOffset_append (front rest : Text) : ofOffset (front ++ rest) front.length = Text.newlines front + 1 := by
  rw [ofOffset, List.take_left]

theorem ofOffset_eq_of_reach {tagText text : Text} (h : '\n' ∉ tagText) {p q : Nat} (hp : Text.StandsAt tagText text p)
    (hle : p ≤ q) (hlt : q < p + tagText.length) : ofOffset text p = ofOffset text q := by
  obtain ⟨front, rest, rfl, rfl⟩ := hp
  obtain ⟨n, rfl⟩ := Nat.exists_eq_add_of_le hle
  have htake : (front ++ tagText ++ rest).take (front.length + n) = front ++ tagText.take n := by
    rw [List.append_assoc, List.take_length_add_append, List.take_append_of_le_length (by omega)]
  have hnone : Text.newlines (tagText.take n) = 0 := List.count_eq_zero.2 fun hm => h (List.mem_of_mem_take hm)
  rw [List.append_assoc, ofOffset_append, ← List.append_assoc, ofOffset, htake, Text.newlines_append, hnone, Nat.add_zero]

theorem steady_of_newline_notMem {tagText : Text} (h : '\n' ∉ tagText) (text : Text) (place : Nat) :
    Steady tagText text place := by
  intro p q hp hq hle hlt hle' hlt'
  exact (ofOffset_eq_of_reach h hp hle hlt).trans (ofOffset_eq_of_reach h hq hle' hlt')

/-! ## Resolving in the source -/

section Resolve

variable {tagText source front rest : Text} (hne : tagText ≠ []) (hsource : source = front ++ tagText ++ rest)

include hne hsource

/-- **In the source itself** a tag gets its line if and only if the counted copy that reaches over it starts there. -/
theorem resolve_self_iff : resolve tagText front.length source (some source) = ofOffset source front.length ↔
    CountedOnLine tagText source front.length := by
  obtain ⟨place, later, hcopies, hle, hlt⟩ := Text.occurrences_around hne front rest
  rw [← hsource] at hcopies
  have hplace : (Text.occurrences tagText source)[(Text.occurrences tagText front).length]? = some place := by
    rw [hcopies, List.getElem?_append_right (Nat.le_refl _), Nat.sub_self]
    rfl
  rw [resolve_eq_of_paired hne hsource rfl hplace]
  constructor
  · intro hexact p hp hple hplt
    obtain rfl := Text.eq_of_reach hne hp (List.mem_of_getElem? hplace) hple hplt hle hlt
    exact hexact
  · intro h
    exact h place (List.mem_of_getElem? hplace) hle hlt

variable {seams : Seams} (hm : seams.Marked) (hseamless : Seamless seams source tagText) {f r : Text}
  (hf : weave seams source = f ++ tagText ++ r) (hfront : weave seams front = f)
  (hsteady : Steady tagText source front.length)

include hm hseamless hf hfront hsteady

/-- when no copy is missing in a weave, a tag gets its line: the copy looked up reaches over the one from which the counted
copy over the tag comes, and that one reaches over the tag -/
theorem resolve_weave_of_paired
    (hcount : (Text.occurrences tagText (weave seams source)).length = (Text.occurrences tagText source).length) :
    resolve tagText f.length (weave seams source) (some source) = ofOffset source front.length := by
  have hcarried : Carried seams source tagText f.length front.length := ⟨f, r, front, rest, hf, rfl, hsource, rfl, hfront⟩
  obtain ⟨q, later, hcopies, hle, hlt⟩ := Text.occurrences_around hne f r
  have hpairs := forall₂_carried hm hseamless hcount
  rw [← hf] at hcopies
  rw [hcopies] at hpairs
  obtain ⟨p, hp, p₀, hqp, hple, hplt⟩ := Text.exists_partner hpairs
  obtain ⟨hle₀, hlt₀⟩ := hqp.reach hm hseamless hcarried hle hlt
  have hcopy : Text.StandsAt tagText source p₀ := by
    obtain ⟨-, -, front₀, rest₀, -, -, hsource₀, hfront₀, -⟩ := hqp
    exact ⟨front₀, rest₀, hsource₀, hfront₀⟩
  rw [resolve_eq_of_paired hne hf hcount hp]
  exact hsteady p p₀ (Text.standsAt_of_mem hne (List.mem_of_getElem? hp)) hcopy hple hplt hle₀ hlt₀

/-- **In a weave**, when overlapping copies start on one line, a tag gets its line if and only if no copy is missing, or
none stands as close above the tag as twice the lines lost in front of it. -/
theorem resolve_weave_iff (hlost : Text.newlines f ≤ Text.newlines front) :
    resolve tagText f.length (weave seams source) (some source) = ofOffset source front.length ↔
      (Text.occurrences tagText (weave seams source)).length = (Text.occurrences tagText source).length ∨
        ClearAbove tagText source front.length (2 * (Text.newlines front - Text.newlines f)) := by
  by_cases hcount : (Text.occurrences tagText (weave seams source)).length = (Text.occurrences tagText source).length
  · exact iff_of_true (resolve_weave_of_paired hne hsource hm hseamless hf hfront hsteady hcount) (Or.inl hcount)
  · obtain ⟨p, hp, hle, hlt⟩ := Text.StandsAt.exists_counted hne ⟨front, rest, hsource, rfl⟩
    have hcopy := Text.standsAt_of_mem hne hp
    have hline : ofOffset source p = ofOffset source front.length :=
      hsteady p p hcopy hcopy (Nat.le_refl p) (Nat.lt_add_of_pos_right (List.length_pos_iff.2 hne)) hle hlt
    obtain ⟨first, later, hcopies⟩ := List.exists_cons_of_ne_nil (List.ne_nil_of_mem hp)
    have hmem : ofOffset source front.length ∈ ofOffset source first :: later.map (ofOffset source) := by
      rw [← List.map_cons, ← hcopies, ← hline]
      exact List.mem_map_of_mem hp
    have hbuffer : ofOffset (weave seams source) f.length = Text.newlines f + 1 := by
      rw [hf, List.append_assoc, ofOffset_append]
    have htag : ofOffset source front.length = Text.newlines front + 1 := by
      rw [hsource, List.append_assoc, ofOffset_append]
    rw [resolve_eq_nearest hne f.length hcount hcopies, hbuffer, nearest_eq_iff hmem (by omega), or_iff_right hcount,
      ← List.map_cons, ← hcopies, List.forall_mem_map, ClearAbove, htag, Nat.add_sub_add_right]

end Resolve

end Line

/-! ## Lines of a weave -/

section Weave

variable {seams : Seams} (hnone : ∀ k x, seams k = some x → '\n' ∉ x)

include hnone

theorem newlines_sew_le (n : Nat) (stretch : Text) : Text.newlines (sew (seams n) stretch) ≤ Text.newlines stretch := by
  cases hx : seams n with
  | none => exact Nat.le_refl _
  | some x =>
    have hx : Text.newlines x = 0 := List.count_eq_zero.2 (hnone n x hx)
    rw [sew_some]
    rcases seam_cases stretch with ⟨body, gap, rfl, -, hseam⟩ | ⟨body, gap, mid, rfl, -, -, hseam⟩
    · rw [hseam, Text.newlines_append, Text.newlines_append, hx]
      omega
    · have hslash : Text.newlines " /".toList = 0 := by decide
      simp only [hseam, Text.newlines_append, hx, hslash]
      omega

/-- when what is put in holds no line end, a weave has no more lines than the text -/
theorem newlines_weaveFrom_le (n : Nat) (stretch text : Text) :
    Text.newlines (weaveFrom seams n stretch text) ≤ Text.newlines stretch + Text.newlines text := by
  induction text generalizing n stretch with
  | nil => exact Nat.le_add_right _ _
  | cons c rest ih =>
    have hcons : Text.newlines (c :: rest) = Text.newlines [c] + Text.newlines rest := Text.newlines_append [c] rest
    by_cases hc : c = '>'
    · subst hc
      have hsew := newlines_sew_le hnone n stretch
      have hrest := ih (n + 1) []
      have hweave : Text.newlines ('>' :: weaveFrom seams (n + 1) [] rest) =
          Text.newlines (weaveFrom seams (n + 1) [] rest) := List.count_cons_of_ne (by decide)
      have hnil : Text.newlines [] = 0 := rfl
      rw [weaveFrom_bracket, Text.newlines_append, hweave]
      omega
    · have hrest := ih n (stretch ++ [c])
      rw [Text.newlines_append] at hrest
      rw [weaveFrom_cons_of_ne hc]
      omega

theorem newlines_weave_le (text : Text) : Text.newlines (weave seams text) ≤ Text.newlines text :=
  (newlines_weaveFrom_le hnone 0 [] text).trans (Nat.le_of_eq (Nat.zero_add _))

/-- what follows a part of a text does not take lines from the weave of that part -/
theorem newlines_weaveFrom_append_le (n : Nat) (stretch front rest : Text) :
    Text.newlines (weaveFrom seams n stretch (front ++ rest)) ≤
      Text.newlines (weaveFrom seams n stretch front) + Text.newlines rest := by
  induction front generalizing n stretch with
  | nil => exact newlines_weaveFrom_le hnone n stretch rest
  | cons c front ih =>
    by_cases hc : c = '>'
    · subst hc
      have hrest := ih (n + 1) []
      have hweave (text : Text) : Text.newlines ('>' :: text) = Text.newlines text := List.count_cons_of_ne (by decide)
      rw [List.cons_append, weaveFrom_bracket, weaveFrom_bracket, Text.newlines_append, Text.newlines_append, hweave, hweave]
      omega
    · rw [List.cons_append, weaveFrom_cons_of_ne hc, weaveFrom_cons_of_ne hc]
      exact ih n (stretch ++ [c])

end Weave

/-! ## Marks -/

namespace Annotator

variable (a : Annotator) (templateId : Text) (templateId_ne : templateId ≠ []) (disk : Option Text) (source : Text)

/-- how many lines the passes before have lost in front of a marked tag, which stands behind `front` in the source -/
def drift (m : Mark) (front : Text) : Nat :=
  Text.newlines front -
    Text.newlines ((a.bufferOf templateId templateId_ne disk source m.pass).take m.candidate.tag.start)

theorem newline_notMem_earlierSeams (hname : '\n' ∉ a.settings.attributeName) (pass : Pass) : ∀ k x,
    a.earlierSeams templateId templateId_ne disk source pass k = some x → '\n' ∉ x := by
  intro k x hx
  cases pass with
  | plain => exact absurd hx (by simp [earlierSeams])
  | component =>
    obtain ⟨c, -, -, -, rfl⟩ := a.passSeams_eq_some hx
    exact a.newline_notMem_piece templateId templateId_ne hname ⟨.plain, c⟩

variable {a templateId templateId_ne disk source}

/-- **Nothing is lost in front of a tag** in a run that keeps the lines. -/
theorem drift_eq_zero (hname : '\n' ∉ a.settings.attributeName) (hclosed : a.ClosesOnLine templateId templateId_ne disk source)
    {m : Mark} {front rest : Text} (hplace : a.Place templateId templateId_ne disk source m.pass m.candidate.tag front rest) :
    a.drift templateId templateId_ne disk source m front = 0 := by
  rw [drift, hplace.take_eq]
  cases hpass : m.pass with
  | plain => rw [earlierSeams, weave_none fun _ _ => rfl, Nat.sub_self]
  | component =>
    have hlost : a.lostLines disk .plain source = 0 := (a.lostLines_eq_zero disk).2 (hclosed .plain a.plain_mem_passes)
    have hkept : Text.newlines (weave (a.earlierSeams templateId templateId_ne disk source .component) source) =
        Text.newlines source := by
      have := a.newlines_passed templateId templateId_ne disk hname .plain source
      rwa [hlost, Nat.add_zero, ← bufferOf_component, bufferOf_eq_weave] at this
    have hsource : source = front ++ (m.candidate.tag.text ++ rest) := by
      rw [← List.append_assoc]
      exact hplace.source_eq
    -- what follows the tag's place cannot make up for a line that is lost in front of it
    have hfront : Text.newlines front + Text.newlines (m.candidate.tag.text ++ rest) ≤
        Text.newlines (weave (a.earlierSeams templateId templateId_ne disk source .component) front) +
          Text.newlines (m.candidate.tag.text ++ rest) :=
      calc Text.newlines front + Text.newlines (m.candidate.tag.text ++ rest)
        _ = Text.newlines source := by rw [← Text.newlines_append, ← hsource]
        _ = Text.newlines (weave (a.earlierSeams templateId templateId_ne disk source .component)
              (front ++ (m.candidate.tag.text ++ rest))) := by rw [← hsource, hkept]
        _ ≤ _ := newlines_weaveFrom_append_le
              (a.newline_notMem_earlierSeams templateId templateId_ne disk source hname .component) 0 [] front _
    omega

section Marks

variable {k : Nat} {m : Mark} {front rest : Text}
  (hm : m ∈ a.marksAt templateId templateId_ne (some source) source k)
  (hplace : a.Place templateId templateId_ne (some source) source m.pass m.candidate.tag front rest)

include hm hplace

/-- **In the first pass** a tag gets its line if and only if the counted copy that reaches over it starts there. -/
theorem plainLine_iff (hpass : m.pass = .plain) : m.candidate.line = Line.ofOffset source front.length ↔
    Line.CountedOnLine m.candidate.tag.text source front.length := by
  obtain ⟨-, ht, -, hcandidate, -⟩ := of_mem_marksAt hm
  obtain ⟨f, r, -, hstart, htake, -⟩ := exists_copy ht
  have hfront : front = f := by
    have := hplace.take_eq.symm.trans htake
    rw [hpass] at this
    rwa [earlierSeams, weave_none fun _ _ => rfl] at this
  have hline : m.candidate.line = Line.resolve m.candidate.tag.text front.length source (some source) := by
    rw [hfront, ← hstart]
    rw [hpass] at hcandidate
    exact congrArg Candidate.line hcandidate
  rw [hline]
  exact Line.resolve_self_iff (by simp [Tag.text]) hplace.source_eq

/-- **In any pass**, when overlapping copies start on one line, a tag gets its line if and only if the buffer has as many
copies as the source or none of the source stands close above the tag. -/
theorem line_iff {glue : Bool} (hreadable : Scanner.Readable glue a.scanner) (hname : '\n' ∉ a.settings.attributeName)
    (hsteady : Line.Steady m.candidate.tag.text source front.length) :
    m.candidate.line = Line.ofOffset source front.length ↔
      (Text.occurrences m.candidate.tag.text (a.bufferOf templateId templateId_ne (some source) source m.pass)).length =
        (Text.occurrences m.candidate.tag.text source).length ∨
      Line.ClearAbove m.candidate.tag.text source front.length
        (2 * a.drift templateId templateId_ne (some source) source m front) := by
  obtain ⟨-, ht, ⟨-, hreason⟩, hcandidate, -⟩ := of_mem_marksAt hm
  obtain ⟨f, r, hf, hstart, htake, -⟩ := exists_copy ht
  have hfront := hplace.take_eq.symm.trans htake
  have hline : m.candidate.line = Line.resolve m.candidate.tag.text f.length
      (a.bufferOf templateId templateId_ne (some source) source m.pass) (some source) := by
    rw [← hstart]
    exact congrArg Candidate.line hcandidate
  have hlost : Text.newlines f ≤ Text.newlines front := by
    rw [← hfront]
    exact newlines_weave_le (a.newline_notMem_earlierSeams templateId templateId_ne (some source) source hname m.pass) front
  rw [hline, drift, htake, bufferOf_eq_weave]
  exact Line.resolve_weave_iff (by simp [Tag.text]) hplace.source_eq
    (a.marked_earlierSeams templateId templateId_ne (some source) source m.pass) (seamless hreadable ht hreason) hf hfront
    hsteady hlost

/-- in a run that keeps the lines, a tag gets its line when overlapping copies start on one line -/
theorem line_eq {glue : Bool} (hreadable : Scanner.Readable glue a.scanner) (hname : '\n' ∉ a.settings.attributeName)
    (hsteady : Line.Steady m.candidate.tag.text source front.length)
    (hclosed : a.ClosesOnLine templateId templateId_ne (some source) source) :
    m.candidate.line = Line.ofOffset source front.length := by
  rw [line_iff hm hplace hreadable hname hsteady, drift_eq_zero hname hclosed hplace]
  exact Or.inr fun p _ habove => habove

end Marks

/-! ## Runs -/

/-- **Lines on markers.** When the file is the source itself, each marker is read back as a reference to the template and
to a line. In the first pass that is the line of its own tag if and only if the counted copy of the tag's text that
reaches over the tag starts on it. In any pass, when overlapping copies start on one line, it is the line of the tag if
and only if the buffer of the pass has as many copies as the source, or none of the source stands as close above the tag
as twice the lines lost in front of it; and so it is in a run that keeps the lines. -/
theorem annotate_exactLines {s : Settings} (hnames : s.HasOrdinaryNames) (hname : '\n' ∉ s.attributeName)
    {templateId : Text} (templateId_ne : templateId ≠ []) (source : Text) :
    ∃ (r : Annotated) (kept : Text), (ofSettings s).annotate source templateId (some source) = .ok r ∧
      Inserts (fun k => ((ofSettings s).marksAt templateId templateId_ne (some source) source k).map
        ((ofSettings s).piece templateId templateId_ne)) 0 source r.output kept ∧
      ∀ k, ∀ m ∈ (ofSettings s).marksAt templateId templateId_ne (some source) source k,
        ∃ front rest, source = front ++ m.candidate.tag.text ++ rest ∧ brackets front + brackets m.candidate.tag.inner = k ∧
          ∃ ref : Reference, (ofSettings s).piece templateId templateId_ne m =
              ' ' :: Marker.text s.attributeName ref.token ∧
            Token.read? ref.token = some ref ∧ ref.templateId = templateId ∧
            (m.pass = .plain → (ref.line = Line.ofOffset source front.length ↔
              Line.CountedOnLine m.candidate.tag.text source front.length)) ∧
            (Line.Steady m.candidate.tag.text source front.length → (ref.line = Line.ofOffset source front.length ↔
              (Text.occurrences m.candidate.tag.text
                ((ofSettings s).bufferOf templateId templateId_ne (some source) source m.pass)).length =
                  (Text.occurrences m.candidate.tag.text source).length ∨
              Line.ClearAbove m.candidate.tag.text source front.length
                (2 * (ofSettings s).drift templateId templateId_ne (some source) source m front))) ∧
            (Line.Steady m.candidate.tag.text source front.length →
              (ofSettings s).ClosesOnLine templateId templateId_ne (some source) source →
                ref.line = Line.ofOffset source front.length) := by
  obtain ⟨r, kept, hannotate, -, hinserts⟩ := (ofSettings s).annotate_marksAt templateId templateId_ne (some source) source
  refine ⟨r, kept, hannotate, hinserts, ?_⟩
  intro k m hm
  obtain ⟨-, ht, ⟨-, hreason⟩, -, hend⟩ := of_mem_marksAt hm
  have hreadable := readable_ofSettings hnames
  obtain ⟨front, rest, hplace⟩ := exists_place hreadable ht hreason
  exact ⟨front, rest, hplace.source_eq, hplace.endOf_eq.symm.trans hend,
    ⟨templateId, m.candidate.line, templateId_ne, m.candidate.line_pos⟩, rfl, Token.read?_token _, rfl,
    plainLine_iff hm hplace, line_iff hm hplace hreadable hname, line_eq hm hplace hreadable hname⟩

theorem annotate_exactLines_copies : Settings.standard.HasOrdinaryNames ∧ '\n' ∉ Settings.standard.attributeName ∧
    "home".toList ≠ [] ∧ ∃ r, (ofSettings .standard).annotate "<p>\n<p>".toList "home".toList (some "<p>\n<p>".toList) = .ok r ∧
      ∃ m ∈ (ofSettings .standard).marksAt "home".toList (by decide) (some "<p>\n<p>".toList) "<p>\n<p>".toList 1,
        m.candidate.tag = ⟨"p".toList, [], 4, false⟩ ∧ ∃ ref : Reference,
          (ofSettings .standard).piece "home".toList (by decide) m =
            ' ' :: Marker.text Settings.standard.attributeName ref.token ∧
          ∃ front rest, "<p>\n<p>".toList = front ++ "<p>".toList ++ rest ∧ brackets front = 1 ∧
            ref.line = Line.ofOffset "<p>\n<p>".toList front.length := by
  have hnames : Settings.standard.HasOrdinaryNames := by decide +kernel
  have hname : '\n' ∉ Settings.standard.attributeName := by decide
  obtain ⟨r, kept, hrun, -, hmarks⟩ := annotate_exactLines hnames hname (show "home".toList ≠ [] by decide)
    "<p>\n<p>".toList
  have htag : ⟨"p".toList, [], 4, false⟩ ∈ (ofSettings .standard).scanner.scan "<p>\n<p>".toList := by decide +kernel
  obtain ⟨m, hm, -, heq⟩ := exists_mark (plain_mem_passes (ofSettings .standard)) htag
    (show (ofSettings .standard).Marks .plain _ by decide +kernel)
  have hone : endOf 0 "<p>\n<p>".toList ⟨"p".toList, [], 4, false⟩ = 1 := by decide
  have hm : m ∈ (ofSettings .standard).marksAt "home".toList (by decide) (some "<p>\n<p>".toList) "<p>\n<p>".toList 1 :=
    hone ▸ hm
  obtain ⟨front, rest, hsource, hbrackets, ref, hpiece, -, -, -, -, hexact⟩ := hmarks 1 m hm
  rw [heq] at hsource hbrackets hexact
  have hclosed : ∀ pass ∈ [Pass.plain, .component], ∀ t ∈ (ofSettings .standard).scanner.scan ((ofSettings .standard).bufferOf
      "home".toList (by decide) (some "<p>\n<p>".toList) "<p>\n<p>".toList pass), t.lostLines = 0 := by
    decide +kernel
  exact ⟨hnames, hname, by decide, r, hrun, m, hm, heq, ref, hpiece, front, rest, hsource, hbrackets,
    hexact (Line.steady_of_newline_notMem (by decide) _ _) fun pass hpass t ht _ => hclosed pass hpass t ht⟩

/-- whether a run gives a tag of the source a marker that is read back with another line than that of the tag -/
def MissesLine (s : Settings) (templateId : Text) (source : Text) (t : Tag) : Prop :=
  source.take t.start ++ t.text <+: source ∧ ∃ (templateId_ne : templateId ≠ []) (r : Annotated) (kept : Text),
    (ofSettings s).annotate source templateId (some source) = .ok r ∧
      Inserts (fun k => ((ofSettings s).marksAt templateId templateId_ne (some source) source k).map
        ((ofSettings s).piece templateId templateId_ne)) 0 source r.output kept ∧
      ∃ m ∈ (ofSettings s).marksAt templateId templateId_ne (some source) source
          (brackets (source.take t.start) + brackets t.inner), m.candidate.tag = t ∧
        ∃ ref : Reference, (ofSettings s).piece templateId templateId_ne m = ' ' :: Marker.text s.attributeName ref.token ∧
          Token.read? ref.token = some ref ∧ ref.line ≠ Line.ofOffset source t.start

/-- a tag that the first pass marks gets the line that is looked up for it -/
theorem missesLine_of_resolve {s : Settings} {templateId : Text} (templateId_ne : templateId ≠ []) {source : Text} {t : Tag}
    (ht : t ∈ (ofSettings s).scanner.scan source) (hmarks : (ofSettings s).Marks .plain t)
    (hline : Line.resolve t.text t.start source (some source) ≠ Line.ofOffset source t.start) :
    MissesLine s templateId source t := by
  obtain ⟨r, kept, hannotate, -, hinserts⟩ := (ofSettings s).annotate_marksAt templateId templateId_ne (some source) source
  obtain ⟨m, hm, hpass, rfl⟩ := exists_mark (plain_mem_passes (ofSettings s)) ht hmarks
  obtain ⟨-, -, -, hcandidate, -⟩ := of_mem_marksAt hm
  obtain ⟨front, rest, hsource, -, htake, hend⟩ := Scanner.exists_text ht
  have hstands : source.take m.candidate.tag.start ++ m.candidate.tag.text <+: source :=
    ⟨rest, by rw [htake, ← hsource]⟩
  have hat : m ∈ (ofSettings s).marksAt templateId templateId_ne (some source) source
      (brackets (source.take m.candidate.tag.start) + brackets m.candidate.tag.inner) := by
    rw [htake, ← hend]
    exact hm
  refine ⟨hstands, templateId_ne, r, kept, hannotate, hinserts, m, hat, rfl,
    ⟨templateId, m.candidate.line, templateId_ne, m.candidate.line_pos⟩, rfl, Token.read?_token _, ?_⟩
  intro hexact
  rw [hpass] at hcandidate
  exact hline ((congrArg Candidate.line hcandidate).symm.trans hexact)

/-- a comment in which a tag seems to start, and that tag: the tag's text stands in the comment too, up to the place where
the tag starts and beyond -/
def overlapping (opener closer : Text) : Text :=
  opener ++ " <div a=\"> ".toList ++ closer ++ "\n<div a=\"> ".toList ++ closer ++ "\n<div a=\">".toList

/-- the tag behind the comment -/
def overlappingTag (opener closer : Text) : Tag where
  name := "div".toList
  attributes := " a=\"> ".toList ++ closer ++ "\n<div a=\"".toList
  start := (opener ++ " <div a=\"> ".toList ++ closer).length + 1
  nestedGt := false

/-- in both languages the marker of a tag on the second line names the first line -/
theorem annotate_misses_line :
    MissesLine .standard "t".toList (overlapping "\x7b\x7b--".toList "--\x7d\x7d".toList)
      (overlappingTag "\x7b\x7b--".toList "--\x7d\x7d".toList) ∧
    MissesLine { language := .jinja } "t".toList (overlapping "\x7b#".toList "#\x7d".toList)
      (overlappingTag "\x7b#".toList "#\x7d".toList) := by
  constructor
  · exact missesLine_of_resolve (by decide) (by decide +kernel) (by decide +kernel) (by decide +kernel)
  · exact missesLine_of_resolve (by decide) (by decide +kernel) (by decide +kernel) (by decide +kernel)

end Annotator

end SourceMark
