/-
What browsers read of marked tags. A run puts the marker where the annotator takes the end of the attributes to be.
Browsers read the start tag by the states of HTML, and for them an attribute cannot stand everywhere: not before a value
that is still to come, and not in place of a slash that belongs to a value.

Results:
- `keepsAttributes_iff`: browsers read a marked tag as the tag with one more attribute if and only if the tag holds a
  marker and no other marker is put inside it.
- `annotate_keepsAttributes_iff`: that for all marks of a run, and the attributes that count.
- `annotate_loses_attribute`: in both languages there is a tag whose attribute is lost.
-/
import SourceMark.Proofs.Html.Marker
import SourceMark.Proofs.Places

namespace SourceMark

/-! ## Markers are attributes -/

namespace Marker

theorem plain_of_isTail {c : Char} (h : AttributeName.isTail c = true) :
    Html.isSpace c = false ∧ c ≠ '>' ∧ c ≠ '/' ∧ c ≠ '=' ∧ Quote.isQuote c = false :=
  Text.forall_ascii (P := fun c => AttributeName.isTail c = true →
    Html.isSpace c = false ∧ c ≠ '>' ∧ c ≠ '/' ∧ c ≠ '=' ∧ Quote.isQuote c = false) (by decide +kernel)
    (Text.ascii_of_isTail h) h

theorem isTail_of_accepts {name : Text} (hname : '\n' ∉ name) (h : AttributeName.accepts name = true) :
    name ≠ [] ∧ ∀ c ∈ name, AttributeName.isTail c = true := by
  have hlast : name.getLast? ≠ some '\n' := fun hlast => hname (List.mem_of_getLast? hlast)
  have hname := (AttributeName.accepts_iff_isName hlast).1 h
  exact ⟨hname.ne_nil, fun c hc => hname.isTail hc⟩

/-- **The marker of an accepted attribute name is read as an attribute** where one may stand. -/
theorem isAttribute {s : Settings} (hname : '\n' ∉ s.attributeName) (r : Reference) :
    Html.IsAttribute s.attributeName r.token where
  name_ne := (isTail_of_accepts hname s.accepts_attributeName).1
  name_chars := fun c hc => plain_of_isTail ((isTail_of_accepts hname s.accepts_attributeName).2 c hc)
  value_chars := by
    intro c hc
    have hsymbol := Base64.mem_encode _ c hc
    exact (show ∀ c ∈ '=' :: Base64.alphabet, Html.isSpace c = false ∧ c ≠ '>' ∧ c ≠ '"' by decide +kernel) c hsymbol

end Marker

/-- whether browsers read a marker in this tag as one more attribute and nothing else changes -/
def Tag.holdsMarker (t : Tag) : Bool :=
  Html.holdsMarker (t.name ++ t.attributes)

theorem Marker.insert_eq_cons (marker : Text) (t : Tag) :
    Marker.insert marker t = '<' :: seam (' ' :: marker) (t.name ++ t.attributes) ++ ['>'] := by
  have hinner : t.inner = '<' :: (t.name ++ t.attributes) := rfl
  rw [Marker.insert_eq_seam, hinner, seam_cons (by decide)]

namespace Annotator

variable {a : Annotator} {templateId : Text} {templateId_ne : templateId ≠ []} {disk : Option Text} {source : Text}
  {glue : Bool} {k : Nat} {m : Mark} {front rest output : Text}

variable (a templateId templateId_ne) in
/-- the attribute that browsers read of a mark -/
def readAs (m : Mark) : Html.Attribute :=
  Html.asRead a.settings.attributeName
    (Reference.token ⟨templateId, m.candidate.line, templateId_ne, m.candidate.line_pos⟩)

variable (a templateId templateId_ne) in
/-- whether the output has a marked tag in its place, and browsers read it as the tag with one more attribute: in the source
and in the output the start tag ends where the tag ends, and it has the same name and the same attributes, with the marker
behind them in the output -/
def KeepsAttributes (m : Mark) (front rest output : Text) : Prop :=
  ∃ front' rest' tag, output = front' ++ Marker.insert (a.marker templateId templateId_ne m.candidate) m.candidate.tag ++ rest' ∧
    brackets front' = brackets front ∧ Html.startTag? (m.candidate.tag.text ++ rest) = some (tag, rest) ∧
      Html.startTag? (Marker.insert (a.marker templateId templateId_ne m.candidate) m.candidate.tag ++ rest') =
        some (tag.add (a.readAs templateId templateId_ne m), rest')

/-- a marked tag that stands in the output holds no marker of another tag -/
theorem marksAt_eq_nil_of_stands (h : Scanner.Readable glue a.scanner)
    (hm : m ∈ a.marksAt templateId templateId_ne disk source k)
    (hplace : a.Place templateId templateId_ne disk source m.pass m.candidate.tag front rest) {front' rest' : Text}
    (hstands : weave (a.allSeams templateId templateId_ne disk source) source =
      front' ++ Marker.insert (a.marker templateId templateId_ne m.candidate) m.candidate.tag ++ rest')
    (hfront : brackets front' = brackets front) {j : Nat} (hlow : brackets front ≤ j) (hhigh : j < k) :
    a.marksAt templateId templateId_ne disk source j = [] := by
  obtain ⟨-, ht, ⟨-, hreason⟩, -, hend⟩ := of_mem_marksAt hm
  have hk : brackets front + brackets m.candidate.tag.inner = k := hplace.endOf_eq.symm.trans hend
  by_contra hne
  obtain ⟨n, hn⟩ := List.exists_mem_of_ne_nil _ hne
  have hseam : a.allSeams templateId templateId_ne disk source j =
      some (' ' :: a.marker templateId templateId_ne n.candidate) := by
    rw [allSeams_eq_joined, marksAt_eq_singleton h hn]
    simp [joined, piece]
  -- the part of the tag before the bracket with number j is in the output as it is
  obtain ⟨w, w', hw, hcount⟩ := exists_cut (show j - brackets front < brackets m.candidate.tag.inner by omega)
  obtain ⟨v, rfl⟩ : ∃ v, w = '<' :: v := by
    cases w with
    | nil => exact absurd (List.head_eq_of_cons_eq hw) (by decide)
    | cons c v => exact ⟨v, by rw [← List.head_eq_of_cons_eq hw]⟩
  have hborder : Border ('<' :: v ++ ['>']) w' := by
    left
    intro c hc
    rw [List.getLast?_concat, Option.some.injEq] at hc
    exact hc ▸ by decide
  have hmarked : Marker.insert (a.marker templateId templateId_ne m.candidate) m.candidate.tag =
      '<' :: v ++ '>' :: (seam (' ' :: a.marker templateId templateId_ne m.candidate) w' ++ ['>']) := by
    rw [Marker.insert_eq_seam, hw, show '<' :: v ++ '>' :: w' = ('<' :: v ++ ['>']) ++ w' by simp, seam_append hborder]
    simp
  have hv : brackets ('<' :: v) = brackets v := brackets_cons_of_ne (by decide) v
  rw [hmarked, ← List.append_assoc, List.append_assoc _ ('>' :: _)] at hstands
  obtain ⟨before, behind, hheld⟩ := exists_inserted (a.marked_allSeams templateId templateId_ne disk source) hstands hseam (by omega) (by omega)
  have hinner : m.candidate.tag.inner =
      before ++ ' ' :: a.marker templateId templateId_ne n.candidate ++ (behind ++ '>' :: w') := by
    rw [hw, hheld]
    simp
  rw [a.reason?_of_marker h ht hinner] at hreason
  exact absurd hreason (by simp)

/-- **Browsers read a marked tag as the tag with one more attribute** if and only if the tag holds a marker and no other
marker is put inside it. -/
theorem keepsAttributes_iff {s : Settings} (hnames : s.HasOrdinaryNames) (hname : '\n' ∉ s.attributeName)
    (hm : m ∈ (ofSettings s).marksAt templateId templateId_ne disk source k)
    (hplace : (ofSettings s).Place templateId templateId_ne disk source m.pass m.candidate.tag front rest)
    (hweave : output = weave ((ofSettings s).allSeams templateId templateId_ne disk source) source) :
    (ofSettings s).KeepsAttributes templateId templateId_ne m front rest output ↔
      m.candidate.tag.holdsMarker = true ∧
        ∀ j, brackets front ≤ j → j < k → (ofSettings s).marksAt templateId templateId_ne disk source j = [] := by
  have hreadable := readable_ofSettings hnames
  have hattribute : Html.IsAttribute s.attributeName
      (Reference.token ⟨templateId, m.candidate.line, templateId_ne, m.candidate.line_pos⟩) := Marker.isAttribute hname _
  have hread (rest' : Text) : (∃ tag, Html.startTag? (m.candidate.tag.text ++ rest) = some (tag, rest) ∧
      Html.startTag? (Marker.insert ((ofSettings s).marker templateId templateId_ne m.candidate) m.candidate.tag ++ rest') =
        some (tag.add ((ofSettings s).readAs templateId templateId_ne m), rest')) ↔ m.candidate.tag.holdsMarker = true := by
    have htext : m.candidate.tag.text ++ rest =
        '<' :: (m.candidate.tag.name ++ m.candidate.tag.attributes) ++ '>' :: rest := by
      simp [Tag.text]
    have hmarked : Marker.insert ((ofSettings s).marker templateId templateId_ne m.candidate) m.candidate.tag ++ rest' =
        '<' :: seam (' ' :: (ofSettings s).marker templateId templateId_ne m.candidate)
          (m.candidate.tag.name ++ m.candidate.tag.attributes) ++ '>' :: rest' := by
      rw [Marker.insert_eq_cons]
      simp
    rw [htext, hmarked]
    exact Html.keeps_iff hattribute _ rest rest'
  constructor
  · rintro ⟨front', rest', tag, houtput, hfront, htag, htag'⟩
    refine ⟨(hread rest').1 ⟨tag, htag, htag'⟩, fun j hlow hhigh => ?_⟩
    exact marksAt_eq_nil_of_stands hreadable hm hplace (hweave.symm.trans houtput) hfront hlow hhigh
  · rintro ⟨hholds, hinside⟩
    have houtput := weave_allSeams_tag hreadable hm hplace hinside
    obtain ⟨tag, htag, htag'⟩ := (hread _).2 hholds
    exact ⟨_, _, tag, hweave.trans houtput, brackets_weave (marked_allSeams _ _ _ _ _), htag, htag'⟩

/-- **Attributes are kept** to this extent. Every mark of a run belongs to a tag that stands in the source, and browsers read
the marked tag as that tag with one more attribute if and only if the tag holds a marker and no other marker is put inside
it. None is put inside it when the second pass has marked it, in Jinja templates, and in all templates in which the first
pass marks no tag with a question mark right before its bracket. Browsers that keep the first of several attributes with
one name see the marker if and only if no attribute of the tag has its name, case apart. -/
theorem annotate_keepsAttributes_iff {s : Settings} (hnames : s.HasOrdinaryNames) (hname : '\n' ∉ s.attributeName)
    {templateId : Text} (templateId_ne : templateId ≠ []) (disk : Option Text) (source : Text) :
    ∃ r, (ofSettings s).annotate source templateId disk = .ok r ∧
      ∀ k, ∀ m ∈ (ofSettings s).marksAt templateId templateId_ne disk source k,
        ∃ front rest, source = front ++ m.candidate.tag.text ++ rest ∧
          brackets front + brackets m.candidate.tag.inner = k ∧
          ((ofSettings s).KeepsAttributes templateId templateId_ne m front rest r.output ↔
            m.candidate.tag.holdsMarker = true ∧
              ∀ j, brackets front ≤ j → j < k → (ofSettings s).marksAt templateId templateId_ne disk source j = []) ∧
          (m.pass = .component ∨ s.language = .jinja ∨ (∀ t ∈ (ofSettings s).scanner.scan source,
              (ofSettings s).Marks .plain t → t.inner.getLast? ≠ some '?') →
            ∀ j, brackets front ≤ j → j < k → (ofSettings s).marksAt templateId templateId_ne disk source j = []) ∧
          ∀ tag, Html.startTag? (m.candidate.tag.text ++ rest) = some (tag, rest) →
            (Html.firsts (tag.add ((ofSettings s).readAs templateId templateId_ne m)).attributes =
                Html.firsts tag.attributes ++ [(ofSettings s).readAs templateId templateId_ne m] ↔
              ∀ b ∈ tag.attributes, b.name ≠ s.attributeName.map Html.nameChar) := by
  have hreadable := readable_ofSettings hnames
  obtain ⟨r, kept, hannotate, hweave, -⟩ := (ofSettings s).annotate_marksAt templateId templateId_ne disk source
  refine ⟨r, hannotate, fun k m hm => ?_⟩
  obtain ⟨-, ht, ⟨-, hreason⟩, -, hend⟩ := of_mem_marksAt hm
  obtain ⟨front, rest, hplace⟩ := exists_place hreadable ht hreason
  refine ⟨front, rest, hplace.source_eq, hplace.endOf_eq.symm.trans hend,
    keepsAttributes_iff hnames hname hm hplace hweave, ?_, ?_⟩
  · intro hkeeps j hlow hhigh
    refine marksAt_inside hreadable hm hplace (fun hplain => ?_) hlow hhigh
    rcases hkeeps with hcomponent | hjinja | hcode
    · rw [hplain] at hcomponent
      exact absurd hcomponent (by decide)
    · refine keepsComponents hreadable s.language.tidy ?_
      intro hglue
      rw [hjinja] at hglue
      exact absurd hglue (by decide)
    · exact keepsComponents hreadable s.language.tidy fun _ => hcode
  · intro tag _
    exact Html.firsts_concat tag.attributes _

theorem annotate_keepsAttributes_link : Settings.standard.HasOrdinaryNames ∧ '\n' ∉ Settings.standard.attributeName ∧
    "home".toList ≠ [] ∧
    ∃ r, (ofSettings .standard).annotate "<p><a href=\"/\" />".toList "home".toList none = .ok r ∧
      ∃ m ∈ (ofSettings .standard).marksAt "home".toList (by decide) none "<p><a href=\"/\" />".toList 1,
        m.candidate.tag = ⟨"a".toList, " href=\"/\" /".toList, 3, false⟩ ∧
          ∃ front rest, (ofSettings .standard).KeepsAttributes "home".toList (by decide) m front rest r.output := by
  have hnames : Settings.standard.HasOrdinaryNames := by decide +kernel
  have hname : '\n' ∉ Settings.standard.attributeName := by decide
  obtain ⟨r, hrun, hmarks⟩ := annotate_keepsAttributes_iff hnames hname (show "home".toList ≠ [] by decide) none
    "<p><a href=\"/\" />".toList
  have htag : ⟨"a".toList, " href=\"/\" /".toList, 3, false⟩ ∈
      (ofSettings .standard).scanner.scan "<p><a href=\"/\" />".toList := by decide +kernel
  have hcode : ∀ t ∈ (ofSettings .standard).scanner.scan "<p><a href=\"/\" />".toList, t.inner.getLast? ≠ some '?' := by
    decide +kernel
  obtain ⟨m, hm, -, heq⟩ := exists_mark (plain_mem_passes (ofSettings .standard)) htag
    (show (ofSettings .standard).Marks .plain _ by decide +kernel)
  have hone : endOf 0 "<p><a href=\"/\" />".toList ⟨"a".toList, " href=\"/\" /".toList, 3, false⟩ = 1 := by decide
  have hm : m ∈ (ofSettings .standard).marksAt "home".toList (by decide) none "<p><a href=\"/\" />".toList 1 := hone ▸ hm
  obtain ⟨front, rest, -, -, hkeeps, huntouched, -⟩ := hmarks 1 m hm
  have hholds : m.candidate.tag.holdsMarker = true := by
    rw [heq]
    decide +kernel
  have hinside := huntouched (Or.inr (Or.inr fun t ht _ => hcode t ht))
  exact ⟨hnames, hname, by decide, r, hrun, m, hm, heq, front, rest, hkeeps.2 ⟨hholds, hinside⟩⟩

/-- a tag that holds no marker and that the first pass marks loses an attribute or gets another one -/
theorem exists_changed {s : Settings} (hnames : s.HasOrdinaryNames) (hname : '\n' ∉ s.attributeName) {templateId : Text}
    (templateId_ne : templateId ≠ []) (disk : Option Text) {source : Text} {t : Tag}
    (ht : t ∈ (ofSettings s).scanner.scan source) (hmarks : (ofSettings s).Marks .plain t)
    (hholds : t.holdsMarker = false) :
    ∃ r, (ofSettings s).annotate source templateId disk = .ok r ∧
      ∃ k, ∃ m ∈ (ofSettings s).marksAt templateId templateId_ne disk source k, m.candidate.tag = t ∧
        ∃ front rest, source = front ++ t.text ++ rest ∧ brackets front + brackets t.inner = k ∧
          ¬(ofSettings s).KeepsAttributes templateId templateId_ne m front rest r.output := by
  obtain ⟨r, kept, hannotate, hweave, -⟩ := (ofSettings s).annotate_marksAt templateId templateId_ne disk source
  obtain ⟨m, hm, -, rfl⟩ := exists_mark (plain_mem_passes (ofSettings s)) ht hmarks
  obtain ⟨-, ht', ⟨-, hreason⟩, -, hend⟩ := of_mem_marksAt hm
  obtain ⟨front, rest, hplace⟩ := exists_place (readable_ofSettings hnames) ht' hreason
  refine ⟨r, hannotate, _, m, hm, rfl, front, rest, hplace.source_eq, hplace.endOf_eq.symm.trans hend, ?_⟩
  intro hkeeps
  rw [((keepsAttributes_iff hnames hname hm hplace hweave).1 hkeeps).1] at hholds
  exact absurd hholds (by decide)

/-- a tag whose last attribute is an unquoted value that ends in a slash -/
def slashValue : Tag where
  name := "a".toList
  attributes := " href=/".toList
  start := 0
  nestedGt := false

/-- browsers read the link of the tag, and in the output of both languages they read the marker as the link -/
theorem annotate_loses_attribute :
    Html.startTag? slashValue.text = some (⟨"a".toList, [⟨"href".toList, "/".toList⟩]⟩, []) ∧
    (∃ r, (ofSettings .standard).annotate slashValue.text "t".toList none = .ok r ∧
      ∃ k, ∃ m ∈ (ofSettings .standard).marksAt "t".toList (by decide) none slashValue.text k,
        m.candidate.tag = slashValue ∧ ∃ front rest, slashValue.text = front ++ slashValue.text ++ rest ∧
          brackets front + brackets slashValue.inner = k ∧
          ¬(ofSettings .standard).KeepsAttributes "t".toList (by decide) m front rest r.output) ∧
    ∃ r, (ofSettings { language := .jinja }).annotate slashValue.text "t".toList none = .ok r ∧
      ∃ k, ∃ m ∈ (ofSettings { language := .jinja }).marksAt "t".toList (by decide) none slashValue.text k,
        m.candidate.tag = slashValue ∧ ∃ front rest, slashValue.text = front ++ slashValue.text ++ rest ∧
          brackets front + brackets slashValue.inner = k ∧
          ¬(ofSettings { language := .jinja }).KeepsAttributes "t".toList (by decide) m front rest r.output := by
  have hholds : slashValue.holdsMarker = false := by decide +kernel
  refine ⟨by decide +kernel, ?_, ?_⟩
  · exact exists_changed (by decide +kernel) (by decide) (by decide) none (by decide +kernel) (by decide +kernel) hholds
  · exact exists_changed (by decide +kernel) (by decide) (by decide) none (by decide +kernel) (by decide +kernel) hholds

end Annotator

end SourceMark
