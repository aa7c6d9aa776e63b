/-
Markers as attributes. A marker is written without escaping anything: what keeps it one attribute is that settings vet the
name and that a token is Base64. Settings overlook a line feed at the end of the name, and then the marker has that line
feed before its equals sign.

Results:
- `mark_wellFormed_iff`: the marker that is written into a tag is well formed if and only if the name in the settings does
  not end in a line feed.
- `mark_breaks_name`: with a name that ends in a line feed, a tag on one line is written on two.
-/
import SourceMark.Proofs.Splice
import SourceMark.Proofs.Text.Sign

namespace SourceMark

/-! ## The characters of a marker -/

namespace Marker

/-- markers that are one attribute: an attribute name, an equals sign, and Base64 between double quotes -/
def WellFormed (marker : Text) : Prop :=
  ∃ name token, marker = text name token ∧ AttributeName.IsName name ∧ ∀ c ∈ token, c ∈ '=' :: Base64.alphabet

variable {name token : Text}

theorem text_eq (name token : Text) : text name token = name ++ '=' :: '"' :: token ++ ['"'] := by
  simp [text]

theorem mem_text {c : Char} : c ∈ text name token ↔ c ∈ name ∨ c = '=' ∨ c = '"' ∨ c ∈ token := by
  rw [text_eq]
  simp only [List.mem_append, List.mem_cons, List.not_mem_nil, or_false]
  tauto

/-- the only blank that settings take in a name is a line feed -/
theorem eq_newline_of_isBlank (h : AttributeName.accepts name = true) {c : Char} (hc : c ∈ name)
    (hblank : Text.isBlank c = true) : c = '\n' := by
  obtain ⟨front, ending, rfl, hfront, hending⟩ := AttributeName.accepts_iff.1 h
  rcases List.mem_append.1 hc with hc | hc
  · rw [Text.isBlank_of_isTail (hfront.isTail hc)] at hblank
    exact absurd hblank (by decide)
  · rcases hending with rfl | rfl
    · exact absurd hc List.not_mem_nil
    · exact List.mem_singleton.1 hc

/-- in a marker, blanks are in the name -/
theorem mem_name_of_isBlank (htoken : ∀ c ∈ token, c ∈ '=' :: Base64.alphabet) {c : Char} (hc : c ∈ text name token)
    (hblank : Text.isBlank c = true) : c ∈ name := by
  rcases mem_text.1 hc with hname | rfl | rfl | hsymbol
  · exact hname
  · exact absurd hblank (by decide)
  · exact absurd hblank (by decide)
  · rw [isBlank_of_mem_alphabet c (htoken c hsymbol)] at hblank
    exact absurd hblank (by decide)

theorem WellFormed.isBlank {marker : Text} (h : WellFormed marker) : ∀ c ∈ marker, Text.isBlank c = false := by
  obtain ⟨name, token, rfl, hname, htoken⟩ := h
  intro c hc
  by_contra hblank
  rw [Bool.not_eq_false] at hblank
  have htail := hname.isTail (mem_name_of_isBlank htoken hc hblank)
  rw [Text.isBlank_of_isTail htail] at hblank
  exact absurd hblank (by decide)

/-- quiet characters around one pair of quotes: no angle bracket and no other quote -/
theorem plain_text (hname : ∀ c ∈ name, isQuiet c = true) (htoken : ∀ c ∈ token, isQuiet c = true) :
    '<' ∉ text name token ∧ '>' ∉ text name token ∧ (text name token).countP Quote.isQuote = 2 := by
  have hnone {part : Text} (hpart : ∀ c ∈ part, isQuiet c = true) : part.countP Quote.isQuote = 0 := by
    refine List.countP_eq_zero.2 fun c hc hquote => ?_
    have hinert : Text.isInert c = true := Text.isInert_of_isQuiet (hpart c hc)
    rcases Bool.or_eq_true_iff.1 hquote with hquote | hquote
    · exact Text.ne_of_isInert hinert (by decide) (beq_iff_eq.1 hquote)
    · exact Text.ne_of_isInert hinert (by decide) (beq_iff_eq.1 hquote)
  have hbracket {p : Char} (hp : p ∈ ['<', '>']) : p ∉ text name token := by
    have hloud : isQuiet p = false ∧ p ≠ '=' ∧ p ≠ '"' := by
      rcases List.mem_pair.1 hp with rfl | rfl <;> decide
    intro hmem
    rcases mem_text.1 hmem with h | h | h | h
    · exact absurd (hname p h) (by simp [hloud.1])
    · exact hloud.2.1 h
    · exact hloud.2.2 h
    · exact absurd (htoken p h) (by simp [hloud.1])
  refine ⟨hbracket (by decide), hbracket (by decide), ?_⟩
  rw [text_eq, List.countP_append, List.countP_append, List.countP_cons, List.countP_cons, hnone hname, hnone htoken]
  rfl

end Marker

/-! ## The markers of an annotator -/

namespace Annotator

variable (a : Annotator) (templateId : Text) (templateId_ne : templateId ≠ []) (c : Candidate)

/-- with an attribute name in the settings, all markers are well formed -/
theorem wellFormed_marker (hname : AttributeName.IsName a.settings.attributeName) :
    Marker.WellFormed (a.marker templateId templateId_ne c) :=
  ⟨_, _, rfl, hname, Base64.mem_encode _⟩

/-- **Markers are well formed to this extent.** Whatever the template id and the line, what is written into a tag is the name
of the settings, an equals sign and Base64 between double quotes; it has no angle bracket, no other quote and no other
blank than a line feed. It is a well-formed marker, and one without blanks, if and only if the name of the settings does
not end in a line feed. -/
theorem mark_wellFormed_iff (s : Settings) {templateId : Text} (templateId_ne : templateId ≠ []) (c : Candidate) :
    ∃ marker token, (ofSettings s).mark templateId templateId_ne c = Marker.insert marker c.tag ∧
      marker = s.attributeName ++ '=' :: '"' :: token ++ ['"'] ∧ (∀ x ∈ token, x ∈ '=' :: Base64.alphabet) ∧
      '<' ∉ marker ∧ '>' ∉ marker ∧ marker.countP Quote.isQuote = 2 ∧
      (∀ x ∈ marker, Text.isBlank x = true → x = '\n') ∧
      (Marker.WellFormed marker ↔ s.attributeName.getLast? ≠ some '\n') ∧
      ((∀ x ∈ marker, Text.isBlank x = false) ↔ s.attributeName.getLast? ≠ some '\n') := by
  have hquiet : ∀ x ∈ s.attributeName, Marker.isQuiet x = true :=
    fun x hx => Marker.isQuiet_of_accepts s.accepts_attributeName hx
  let r : Reference := ⟨templateId, c.line, templateId_ne, c.line_pos⟩
  have htoken : ∀ x ∈ r.token, x ∈ '=' :: Base64.alphabet := Base64.mem_encode _
  obtain ⟨hless, hgreater, hquotes⟩ := Marker.plain_text hquiet fun x hx => Marker.isQuiet_of_mem_token (r := r) hx
  have hwell : s.attributeName.getLast? ≠ some '\n' → Marker.WellFormed (Marker.text s.attributeName r.token) :=
    fun hlast => (ofSettings s).wellFormed_marker templateId templateId_ne c
      ((AttributeName.accepts_iff_isName hlast).1 s.accepts_attributeName)
  have hnewline : (∀ x ∈ Marker.text s.attributeName r.token, Text.isBlank x = false) →
      s.attributeName.getLast? ≠ some '\n' := by
    intro hblank hlast
    have := hblank '\n' (Marker.mem_text.2 (Or.inl (List.mem_of_getLast? hlast)))
    exact absurd this (by decide)
  refine ⟨Marker.text s.attributeName r.token, r.token, rfl, Marker.text_eq _ _, htoken, hless, hgreater, hquotes, ?_,
    ⟨fun h => hnewline h.isBlank, hwell⟩, ⟨hnewline, fun hlast => (hwell hlast).isBlank⟩⟩
  intro x hx hblank
  exact Marker.eq_newline_of_isBlank s.accepts_attributeName (Marker.mem_name_of_isBlank htoken hx hblank) hblank

def paragraph : Candidate where
  tag := ⟨"p".toList, [], 0, false⟩
  line := 1
  reason := none
  line_pos := by decide

/-- the marker of a template id that would end the value, the tag and the line if it were written as it is -/
theorem mark_wellFormed_iff_markup : "\"'<>\n".toList ≠ [] ∧
    ∃ marker, (ofSettings .standard).mark "\"'<>\n".toList (by decide) paragraph = Marker.insert marker paragraph.tag ∧
      Marker.WellFormed marker ∧ ∀ x ∈ marker, Text.isBlank x = false := by
  have hid : "\"'<>\n".toList ≠ [] := by decide
  have hlast : Settings.standard.attributeName.getLast? ≠ some '\n' := by decide
  obtain ⟨marker, token, hmark, -, -, -, -, -, -, hwell, hblank⟩ := mark_wellFormed_iff .standard hid paragraph
  exact ⟨hid, marker, hmark, hwell.2 hlast, hblank.2 hlast⟩

/-- settings whose attribute name ends in a line feed -/
def brokenName : Settings :=
  { Settings.standard with
    attributeName := "data-x\n".toList
    accepts_attributeName := by decide }

theorem mark_breaks_name :
    ¬Marker.WellFormed ((ofSettings brokenName).marker "t".toList (by decide) paragraph) ∧
      ∃ r, (ofSettings brokenName).annotate "<p>".toList "t".toList none = .ok r ∧
        r.output = "<p data-x\n=\"eyJ0ZW1wbGF0ZV9pZCI6InQiLCJsaW5lIjoxfQ==\">".toList := by
  constructor
  · intro h
    exact absurd (h.isBlank '\n' (by decide +kernel)) (by decide)
  · exact ⟨_, rfl, by decide +kernel⟩

end Annotator

end SourceMark
