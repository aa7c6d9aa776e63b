/-
Static tags: opening tags with a name that the standard settings look for, and with attributes that are bare names or have
a quoted value, which may be an event handler behind an at sign. A value holds anything but the quote around it, so code
and brackets stand in values only.

Results:
- `blank_text`: blanking a static tag leaves the static tag without what its values hold.
- `exists_stretch`: a text without quotes that stands in a static tag stands in a value, or in a stretch of plain
  characters that has no equals sign or no closing bracket.
-/
import SourceMark.Proofs.Marker.Seam
import SourceMark.Proofs.Settings.AttributeNames
import SourceMark.Proofs.Text.Sign
import SourceMark.Proofs.Walk.Steps

namespace SourceMark

/-- the names that the standard settings look for: a default tag, in any case, and a component -/
def IsTargetName (name : Text) : Prop :=
  name.map Char.toLower ∈ defaultTags ∨
    ∃ rest, name = "x-".toList ++ rest ∧ rest ≠ [] ∧ ∀ c ∈ rest, AttributeName.isTail c = true

/-- attribute names that do not start with a colon -/
def IsStaticName (name : Text) : Prop :=
  AttributeName.IsName name ∧ name.head? ≠ some ':'

/-- the blanks of ASCII -/
def isAsciiBlank (c : Char) : Bool :=
  Text.isBlank c && c.toNat < 128

/-- blanks between the parts of a tag -/
abbrev Gap := { blanks : Text // blanks ≠ [] ∧ ∀ c ∈ blanks, isAsciiBlank c = true }

inductive StaticAttribute where
  /-- a bare name -/
  | bare (name : Text) (isName : IsStaticName name)
  /-- a name, perhaps behind an at sign, with a value between quotes -/
  | valued (atSign : Bool) (name : Text) (quote : Char) (value : Text) (isName : IsStaticName name)
      (isQuote : Quote.isQuote quote = true) (quote_notMem : quote ∉ value)

namespace StaticAttribute

def lead : StaticAttribute → Text
  | bare name _ => name
  | valued atSign name .. => (if atSign then ['@'] else []) ++ name ++ ['=']

def quoted : StaticAttribute → Text
  | bare .. => []
  | valued _ _ quote value .. => quote :: (value ++ [quote])

def text (a : StaticAttribute) : Text :=
  a.lead ++ a.quoted

def value? : StaticAttribute → Option Text
  | bare .. => none
  | valued _ _ _ value .. => some value

/-- the attribute with nothing between its quotes -/
def emptied : StaticAttribute → StaticAttribute
  | bare name isName => bare name isName
  | valued atSign name quote _ isName isQuote _ => valued atSign name quote [] isName isQuote List.not_mem_nil

end StaticAttribute

/-- a static tag: its name, its attributes with the blanks before each, the blanks behind them, and whether it closes
itself -/
structure StaticTag where
  name : Text
  attributes : List (Gap × StaticAttribute)
  blanks : Text
  closed : Bool
  isTargetName : IsTargetName name
  isBlank_blanks : ∀ c ∈ blanks, isAsciiBlank c = true

namespace StaticTag

def written (attributes : List (Gap × StaticAttribute)) : Text :=
  attributes.flatMap fun a => a.1.1 ++ a.2.text

def values (attributes : List (Gap × StaticAttribute)) : List Text :=
  attributes.filterMap fun a => a.2.value?

/-- what stands behind the attributes up to the bracket that ends the tag -/
def ending (t : StaticTag) : Text :=
  t.blanks ++ if t.closed then ['/'] else []

/-- a static tag at the start of a text -/
def tag (t : StaticTag) : Tag where
  name := t.name
  attributes := written t.attributes ++ t.ending
  start := 0
  nestedGt := false

def text (t : StaticTag) : Text :=
  t.tag.text

/-- the static tag with nothing between its quotes -/
def emptied (t : StaticTag) : StaticTag :=
  { t with attributes := t.attributes.map fun a => (a.1, a.2.emptied) }

theorem written_cons (a : Gap × StaticAttribute) (attributes : List (Gap × StaticAttribute)) :
    written (a :: attributes) = a.1.1 ++ a.2.text ++ written attributes :=
  List.flatMap_cons

theorem text_eq (t : StaticTag) : t.text = '<' :: t.name ++ (written t.attributes ++ t.ending ++ ['>']) := by
  simp [text, tag, Tag.text]

end StaticTag

/-! ## Plain characters -/

/-- the characters of a static tag that stand outside its values and are no quotes: at signs, equals signs and inert
characters inside the tag, and the brackets around it -/
def isPlain (c : Char) : Bool :=
  Text.isInert c || c == '@'

theorem isPlain_of_isTail {c : Char} (h : AttributeName.isTail c = true) : isPlain c = true := by
  rw [isPlain, Text.isInert_of_isQuiet (Marker.isQuiet_of_isTail h), Bool.true_or]

theorem isPlain_of_isBlank {c : Char} (h : isAsciiBlank c = true) : isPlain c = true := by
  rw [isPlain, Text.isInert_of_isBlank (Bool.and_eq_true_iff.1 h).1, Bool.true_or]

theorem ne_of_isPlain {c p : Char} (hc : isPlain c = true) (hp : p ∈ Text.signs.erase '@') : c ≠ p := by
  obtain ⟨hne, hp⟩ := (List.Nodup.mem_erase_iff (by decide)).1 hp
  rcases Bool.or_eq_true_iff.1 hc with hc | hc
  · exact Text.ne_of_isInert hc hp
  · rw [beq_iff_eq.1 hc]
    exact hne.symm

theorem isQuote_of_isPlain {c : Char} (h : isPlain c = true) : Quote.isQuote c = false := by
  have hdouble : c ≠ '"' := ne_of_isPlain h (by decide)
  have hsingle : c ≠ '\'' := ne_of_isPlain h (by decide)
  simp [Quote.isQuote, hdouble, hsingle]

theorem isFirm_of_isQuote {c : Char} (h : Quote.isQuote c = true) : Text.isFirm c = true := by
  rcases Bool.or_eq_true_iff.1 h with h | h
  · rw [beq_iff_eq.1 h]
    decide
  · rw [beq_iff_eq.1 h]
    decide

theorem eq_of_mem_atSign {atSign : Bool} {c : Char} (h : c ∈ if atSign then ['@'] else []) : c = '@' := by
  cases atSign with
  | true => exact List.mem_singleton.1 h
  | false => exact absurd h List.not_mem_nil

theorem IsStaticName.isTail {name : Text} (h : IsStaticName name) {c : Char} (hc : c ∈ name) :
    AttributeName.isTail c = true :=
  h.1.isTail hc

namespace StaticAttribute

theorem isPlain_lead (a : StaticAttribute) : ∀ c ∈ a.lead, isPlain c = true := by
  intro c hc
  cases a with
  | bare name isName => exact isPlain_of_isTail (isName.isTail hc)
  | valued atSign name quote value isName isQuote quote_notMem =>
    simp only [lead, List.mem_append, List.mem_singleton] at hc
    rcases hc with (hc | hc) | rfl
    · rw [eq_of_mem_atSign hc]
      decide
    · exact isPlain_of_isTail (isName.isTail hc)
    · decide

end StaticAttribute

/-! ## Names -/

theorem isAlphanum_of_mem_defaultTags : ∀ tag ∈ defaultTags, ∀ c ∈ tag, c.isAlphanum = true := by
  decide

/-- default tags have letters and digits only, and all target names have characters of attribute names only -/
theorem IsTargetName.isTail {name : Text} (h : IsTargetName name) : ∀ c ∈ name, AttributeName.isTail c = true := by
  intro c hc
  rcases h with htag | ⟨rest, rfl, -, hrest⟩
  · have halphanum := isAlphanum_of_mem_defaultTags _ htag _ (List.mem_map_of_mem hc)
    rw [Text.isAlphanum_toLower] at halphanum
    simp [AttributeName.isTail, halphanum]
  · rcases List.mem_append.1 hc with hc | hc
    · exact (show ∀ c ∈ "x-".toList, AttributeName.isTail c = true by decide) c hc
    · exact hrest c hc

theorem IsTargetName.ne_nil {name : Text} (h : IsTargetName name) : name ≠ [] := by
  rintro rfl
  rcases h with h | ⟨rest, h, -⟩
  · exact absurd h (by decide)
  · exact absurd h (by simp)

/-- names in small letters begin with what a default tag begins with, or with the prefix of components -/
theorem IsTargetName.map_toLower {name : Text} (h : IsTargetName name) :
    name.map Char.toLower ∈ defaultTags ∨ "x-".toList <+: name.map Char.toLower := by
  refine h.imp id ?_
  rintro ⟨rest, rfl, -, -⟩
  rw [List.map_append]
  exact List.prefix_append _ _

/-! ## Blanking -/

theorem StaticAttribute.blank_text (a : StaticAttribute) (rest : Text) :
    Quote.blank (a.text ++ rest) = a.emptied.text ++ Quote.blank rest := by
  have hlead : ∀ c ∈ a.lead, Quote.isQuote c = false := fun c hc => isQuote_of_isPlain (a.isPlain_lead c hc)
  rw [text, List.append_assoc, Quote.blank_append hlead]
  cases a with
  | bare name isName => simp [emptied, text, lead, quoted]
  | valued atSign name quote value isName isQuote quote_notMem =>
    have hspan := Quote.blank_span isQuote quote_notMem rest
    simp only [emptied, text, lead, quoted, List.nil_append, List.append_assoc, List.cons_append] at hspan ⊢
    rw [hspan]

theorem StaticTag.blank_written (attributes : List (Gap × StaticAttribute)) (rest : Text) :
    Quote.blank (written attributes ++ rest) =
      written (attributes.map fun a => (a.1, a.2.emptied)) ++ Quote.blank rest := by
  induction attributes with
  | nil => rfl
  | cons a attributes ih =>
    have hgap : ∀ c ∈ a.1.1, Quote.isQuote c = false :=
      fun c hc => isQuote_of_isPlain (isPlain_of_isBlank (a.1.2.2 c hc))
    rw [List.map_cons, written_cons, written_cons, List.append_assoc, List.append_assoc, List.append_assoc,
      List.append_assoc, Quote.blank_append hgap, a.2.blank_text, ih]

theorem StaticTag.mem_ending {t : StaticTag} {c : Char} (h : c ∈ t.ending) : isAsciiBlank c = true ∨ c = '/' := by
  refine (List.mem_append.1 h).imp (t.isBlank_blanks c) fun hc => ?_
  split_ifs at hc
  · exact List.mem_singleton.1 hc
  · exact absurd hc List.not_mem_nil

theorem StaticTag.notMem_ending {t : StaticTag} {p : Char} (h : isAsciiBlank p = false ∧ p ≠ '/') : p ∉ t.ending := by
  intro hmem
  rcases mem_ending hmem with hblank | rfl
  · rw [h.1] at hblank
    exact absurd hblank (by decide)
  · exact h.2 rfl

theorem StaticTag.isPlain_ending (t : StaticTag) : ∀ c ∈ t.ending, isPlain c = true := by
  intro c hc
  rcases mem_ending hc with hc | rfl
  · exact isPlain_of_isBlank hc
  · decide

/-- **Blanking a static tag** leaves the static tag without what its values hold. -/
theorem StaticTag.blank_text (t : StaticTag) : Quote.blank t.text = t.emptied.text := by
  have hname : ∀ c ∈ '<' :: t.name, Quote.isQuote c = false := by
    intro c hc
    rcases List.mem_cons.1 hc with rfl | hc
    · decide
    · exact isQuote_of_isPlain (isPlain_of_isTail (t.isTargetName.isTail c hc))
  have hending : ∀ c ∈ t.ending ++ ['>'], Quote.isQuote c = false := by
    intro c hc
    rcases List.mem_append.1 hc with hc | hc
    · exact isQuote_of_isPlain (t.isPlain_ending c hc)
    · rw [List.mem_singleton.1 hc]
      decide
  have hblank : Quote.blank (t.ending ++ ['>']) = t.ending ++ ['>'] := by
    have hblank := Quote.blank_append hending []
    rwa [List.append_nil, show Quote.blank [] = [] from rfl, List.append_nil] at hblank
  rw [text_eq, text_eq, Quote.blank_append hname, List.append_assoc, blank_written, hblank, List.append_assoc]
  rfl

/-! ## Texts in a static tag -/

theorem Text.infix_or_of_quote {needle front rest : Text} {quote : Char} (hquote : quote ∉ needle)
    (h : needle <:+: front ++ quote :: rest) : needle <:+: front ∨ needle <:+: rest := by
  obtain ⟨before, behind, h⟩ := h
  rcases List.append_eq_append_iff.1 h with ⟨w, hfront, hw⟩ | ⟨w, hneedle, hw⟩
  · exact Or.inl ⟨before, w, hfront.symm⟩
  · cases w with
    | nil => exact Or.inl ⟨before, [], by simpa using hneedle⟩
    | cons d w =>
      obtain ⟨rfl, rfl⟩ := List.cons.inj hw
      rcases List.append_eq_append_iff.1 hneedle with ⟨v, hfront, hv⟩ | ⟨v, hbefore, hv⟩
      · exact absurd (hv ▸ List.mem_append_right v List.mem_cons_self) hquote
      · cases v with
        | nil =>
          rw [List.nil_append] at hv
          exact absurd (hv ▸ List.mem_cons_self) hquote
        | cons d v =>
          obtain ⟨rfl, rfl⟩ := List.cons.inj hv
          exact Or.inr ⟨v, behind, rfl⟩

/-- a stretch of a static tag between two values: plain characters and the brackets around the tag, either no closing
bracket or no equals sign among them -/
structure Stretch (u : Text) : Prop where
  chars : ∀ c ∈ u, isPlain c = true ∨ c = '<' ∨ c = '>'
  apart : '>' ∉ u ∨ '=' ∉ u

theorem Stretch.of_front {u : Text} (h : ∀ c ∈ u, isPlain c = true ∨ c = '<') : Stretch u where
  chars c hc := (h c hc).imp id Or.inl
  apart := by
    refine Or.inl fun hmem => ?_
    rcases h _ hmem with h | h <;> exact absurd h (by decide)

/-- **What stands among attributes** and holds no quote stands in a value or in a stretch. -/
theorem StaticTag.exists_stretch_written {needle front tail : Text} (hneedle : ∀ c ∈ needle, Quote.isQuote c = false)
    (htail : ∀ c ∈ tail, isPlain c = true ∨ c = '>') (hapart : '=' ∉ tail) (attributes : List (Gap × StaticAttribute))
    (hfront : ∀ c ∈ front, isPlain c = true ∨ c = '<') (hfrontApart : '=' ∉ front)
    (h : needle <:+: front ++ (StaticTag.written attributes ++ tail)) :
    (∃ value ∈ StaticTag.values attributes, needle <:+: value) ∨ ∃ u, Stretch u ∧ needle <:+: u := by
  induction attributes generalizing front with
  | nil =>
    refine Or.inr ⟨front ++ tail, ⟨fun c hc => ?_, Or.inr ?_⟩, h⟩
    · rcases List.mem_append.1 hc with hc | hc
      · exact (hfront c hc).imp id Or.inl
      · exact (htail c hc).imp id Or.inr
    · rw [List.mem_append, not_or]
      exact ⟨hfrontApart, hapart⟩
  | cons a attributes ih =>
    obtain ⟨⟨blanks, hne, hblanks⟩, a⟩ := a
    rw [StaticTag.written_cons] at h
    have hlead : ∀ c ∈ front ++ blanks ++ a.lead, isPlain c = true ∨ c = '<' := by
      intro c hc
      simp only [List.mem_append] at hc
      rcases hc with (hc | hc) | hc
      · exact hfront c hc
      · exact Or.inl (isPlain_of_isBlank (hblanks c hc))
      · exact Or.inl (a.isPlain_lead c hc)
    cases a with
    | bare name isName =>
      refine ih hlead ?_ (by simpa [StaticAttribute.text, StaticAttribute.quoted] using h)
      have hblank : '=' ∉ blanks := fun hmem => absurd (hblanks _ hmem) (by decide)
      have hname : '=' ∉ name := fun hmem => absurd (isName.isTail hmem) (by decide)
      simp only [List.mem_append, not_or]
      exact ⟨⟨hfrontApart, hblank⟩, hname⟩
    | valued atSign name quote value isName isQuote quote_notMem =>
      have hquote : quote ∉ needle := by
        intro hmem
        rw [hneedle quote hmem] at isQuote
        exact absurd isQuote (by decide)
      -- the quotes cut the text in three: up to the value, the value, and what stands behind it
      simp only [StaticAttribute.text, StaticAttribute.quoted, List.append_assoc, List.cons_append, List.nil_append] at h
      rw [← List.append_assoc, ← List.append_assoc] at h
      rcases Text.infix_or_of_quote hquote h with h | h
      · exact Or.inr ⟨_, .of_front hlead, h⟩
      · rcases Text.infix_or_of_quote hquote h with h | h
        · exact Or.inl ⟨value, List.mem_cons_self, h⟩
        · have h : needle <:+: [] ++ (StaticTag.written attributes ++ tail) := h
          refine (ih (fun c hc => absurd hc List.not_mem_nil) List.not_mem_nil h).imp_left ?_
          rintro ⟨other, hother, hin⟩
          exact ⟨other, List.mem_cons_of_mem value hother, hin⟩

/-- **What stands in a static tag** and holds no quote stands in a value or in a stretch. -/
theorem StaticTag.exists_stretch {t : StaticTag} {needle : Text} (hneedle : ∀ c ∈ needle, Quote.isQuote c = false)
    (h : needle <:+: t.text) :
    (∃ value ∈ values t.attributes, needle <:+: value) ∨ ∃ u, Stretch u ∧ needle <:+: u := by
  have hname := t.isTargetName.isTail
  rw [text_eq, List.append_assoc] at h
  refine exists_stretch_written hneedle (fun c hc => ?_) ?_ t.attributes (fun c hc => ?_) ?_ h
  · exact (List.mem_append.1 hc).imp (t.isPlain_ending c) List.mem_singleton.1
  · rw [List.mem_append, not_or]
    exact ⟨notMem_ending (by decide), by decide⟩
  · exact (List.mem_cons.1 hc).symm.imp (fun hc => isPlain_of_isTail (hname c hc)) id
  · intro hmem
    rcases List.mem_cons.1 hmem with hmem | hmem
    · exact absurd hmem (by decide)
    · exact absurd (hname _ hmem) (by decide)

end SourceMark
