/-
Markers as browsers read them. A marker is written where an attribute may stand for the annotator, and whether it is read
as one depends on where the reading of the tag is. It is not where a value is still to come, and in a tag that closes
itself the slash must not belong to a value: an unquoted value takes it, and writing it behind the marker takes it away.

Results:
- `through?_marker`: a marker behind a blank is read as one attribute, unless the reading is in a quoted value or before a
  value.
- `keeps_iff`: a marked tag ends where it should and has the attributes of the tag and the marker behind them if and only
  if the tag holds a marker.
-/
import SourceMark.Proofs.Html.StartTag
import SourceMark.Proofs.Text.Sign

namespace SourceMark.Html

/-- what is read as an attribute when it is written with an equals sign and double quotes -/
structure IsAttribute (name value : Text) : Prop where
  name_ne : name ≠ []
  name_chars : ∀ c ∈ name, isSpace c = false ∧ c ≠ '>' ∧ c ≠ '/' ∧ c ≠ '=' ∧ Quote.isQuote c = false
  value_chars : ∀ c ∈ value, isSpace c = false ∧ c ≠ '>' ∧ c ≠ '"'

def asRead (name value : Text) : Attribute := ⟨name.map nameChar, value.map valueChar⟩

variable {r r' : Reading} {a u mid name value rest rest' : Text}

/-! ## Reading a marker -/

theorem through?_name (h : ∀ c ∈ a, isSpace c = false ∧ c ≠ '>' ∧ c ≠ '/' ∧ c ≠ '=' ∧ Quote.isQuote c = false)
    (tagName : Text) (b : Attribute) (others : List Attribute) : through? ⟨.name, tagName, b :: others⟩ a =
      some ⟨.name, tagName, { b with name := b.name ++ a.map nameChar } :: others⟩ := by
  induction a generalizing b with
  | nil => simp [through?]
  | cons c a ih =>
    obtain ⟨hspace, hgt, hslash, hequals, -⟩ := h c List.mem_cons_self
    have hstep : Reading.step ⟨.name, tagName, b :: others⟩ c =
        ⟨.name, tagName, { b with name := b.name ++ [nameChar c] } :: others⟩ := by
      simp [Reading.step, extendName, hspace, hslash, hequals]
    rw [through?_cons_of_ne hgt, hstep, ih (fun d hd => h d (List.mem_cons_of_mem _ hd))]
    simp

theorem through?_value (h : ∀ c ∈ a, isSpace c = false ∧ c ≠ '>' ∧ c ≠ '"') (tagName : Text) (b : Attribute)
    (others : List Attribute) : through? ⟨.doubleQuoted, tagName, b :: others⟩ a =
      some ⟨.doubleQuoted, tagName, { b with value := b.value ++ a.map valueChar } :: others⟩ := by
  induction a generalizing b with
  | nil => simp [through?]
  | cons c a ih =>
    obtain ⟨-, hgt, hquote⟩ := h c List.mem_cons_self
    have hstep : Reading.step ⟨.doubleQuoted, tagName, b :: others⟩ c =
        ⟨.doubleQuoted, tagName, { b with value := b.value ++ [valueChar c] } :: others⟩ := by
      simp [Reading.step, extendValue, hquote]
    rw [through?_cons_of_ne hgt, hstep, ih (fun d hd => h d (List.mem_cons_of_mem _ hd))]
    simp

theorem through?_unquoted (h : ∀ c ∈ a, isSpace c = false ∧ c ≠ '>') (hr : r.state = .unquoted) :
    ∃ r', through? r a = some r' ∧ r'.state = .unquoted ∧ r'.attributes.length = r.attributes.length := by
  induction a generalizing r with
  | nil => exact ⟨r, rfl, hr, rfl⟩
  | cons c a ih =>
    obtain ⟨hspace, hgt⟩ := h c List.mem_cons_self
    have hstep : r.step c = { r with attributes := extendValue c r.attributes } := by
      simp [Reading.step, hr, hspace]
    have hbehind : (r.step c).state = .unquoted := by rw [hstep, hr]
    obtain ⟨r', hthrough, hstate, hlength⟩ := ih (fun d hd => h d (List.mem_cons_of_mem _ hd)) hbehind
    rw [through?_cons_of_ne hgt]
    refine ⟨r', hthrough, hstate, ?_⟩
    rw [hlength, hstep]
    exact (weight_le_extendValue c r.attributes).2

/-- the first character of a name behind a blank starts an attribute -/
theorem step_begin {c : Char} (hc : isSpace c = false ∧ c ≠ '>' ∧ c ≠ '/' ∧ c ≠ '=' ∧ Quote.isQuote c = false)
    (hr : r.state.isClear = true) :
    (r.step ' ').step c = ⟨.name, r.tagName, ⟨[nameChar c], []⟩ :: r.attributes⟩ := by
  have hblank : isSpace ' ' = true := by decide
  obtain ⟨hspace, -, hslash, hequals, -⟩ := hc
  obtain ⟨state, tagName, attributes⟩ := r
  cases state <;> simp_all [Reading.step, Reading.before, State.isClear]

/-- **A marker behind a blank is read as one attribute**, unless the reading is in a quoted value or before a value. -/
theorem through?_marker (h : IsAttribute name value) (hr : r.state.isClear = true) :
    through? r (' ' :: Marker.text name value) =
      some ⟨.afterQuoted, r.tagName, asRead name value :: r.attributes⟩ := by
  obtain ⟨c, more, rfl⟩ := List.exists_cons_of_ne_nil h.name_ne
  have hmore := through?_name (fun d hd => h.name_chars d (List.mem_cons_of_mem c hd)) r.tagName ⟨[nameChar c], []⟩
    r.attributes
  have hvalue := through?_value h.value_chars r.tagName ⟨nameChar c :: more.map nameChar, []⟩ r.attributes
  have hc := h.name_chars c List.mem_cons_self
  calc through? r (' ' :: Marker.text (c :: more) value)
      = through? ((r.step ' ').step c) (more ++ ('=' :: '"' :: (value ++ ['"']))) := by
        rw [through?_cons_of_ne (by decide), Marker.text, List.cons_append, List.cons_append, List.cons_append,
          through?_cons_of_ne hc.2.1]
        simp
    _ = through? ⟨.name, r.tagName, ⟨nameChar c :: more.map nameChar, []⟩ :: r.attributes⟩
          ('=' :: '"' :: (value ++ ['"'])) := by
        rw [step_begin hc hr, through?_append, hmore]
        rfl
    _ = through? ⟨.doubleQuoted, r.tagName, ⟨nameChar c :: more.map nameChar, []⟩ :: r.attributes⟩ (value ++ ['"']) := rfl
    _ = some ⟨.afterQuoted, r.tagName, asRead (c :: more) value :: r.attributes⟩ := by
        rw [through?_append, hvalue]
        simp [through?, Reading.step, asRead]

/-- **Before a value a marker is read as the value.** -/
theorem through?_marker_beforeValue (h : IsAttribute name value) (hr : r.state = .beforeValue) :
    ∃ r', through? r (' ' :: Marker.text name value) = some r' ∧ r'.state = .unquoted ∧
      r'.attributes.length = r.attributes.length := by
  obtain ⟨c, more, rfl⟩ := List.exists_cons_of_ne_nil h.name_ne
  obtain ⟨hspace, hgt, -, -, hquote⟩ := h.name_chars c List.mem_cons_self
  simp only [Quote.isQuote, Bool.or_eq_false_iff, beq_eq_false_iff_ne] at hquote
  have hblank : r.step ' ' = r := by simp [Reading.step, hr, isSpace]
  have hfirst : r.step c = { r with state := .unquoted, attributes := extendValue c r.attributes } := by
    simp [Reading.step, hr, hspace, hquote]
  have hrest : ∀ d ∈ more ++ ('=' :: '"' :: (value ++ ['"'])), isSpace d = false ∧ d ≠ '>' := by
    intro d hd
    simp only [List.mem_append, List.mem_cons, List.not_mem_nil, or_false] at hd
    rcases hd with hd | rfl | rfl | hd | rfl
    · have := h.name_chars d (List.mem_cons_of_mem _ hd)
      exact ⟨this.1, this.2.1⟩
    · decide
    · decide
    · exact ⟨(h.value_chars d hd).1, (h.value_chars d hd).2.1⟩
    · decide
  obtain ⟨r', hthrough, hstate, hlength⟩ := through?_unquoted (r := r.step c) hrest (by rw [hfirst])
  refine ⟨r', ?_, hstate, ?_⟩
  · rw [through?_cons_of_ne (by decide), hblank, Marker.text, List.cons_append, List.cons_append, List.cons_append,
      through?_cons_of_ne hgt, ← hthrough]
    simp
  · rw [hlength, hfirst]
    exact (weight_le_extendValue c r.attributes).2

/-! ## Reading the end of a tag -/

/-- behind a slash, blanks that browsers do not know are read as an attribute -/
theorem weight_lt_of_mid (hmid : ∀ c ∈ mid, c ≠ '/') (hr : r.state = .selfClosing ∨ r.state = .beforeName)
    (h : through? r mid = some r') (hforeign : ∃ c ∈ mid, isSpace c = false) :
    weight r.attributes < weight r'.attributes := by
  induction mid generalizing r with
  | nil => exact absurd hforeign (by simp)
  | cons c mid ih =>
    rw [through?] at h
    split_ifs at h
    have hbefore : r.step c = r.before c := by rcases hr with hr | hr <;> simp [Reading.step, hr]
    cases hspace : isSpace c with
    | true =>
      have hstep : r.step c = { r with state := .beforeName } := by rw [hbefore, Reading.before, if_pos hspace]
      have hrest : ∃ d ∈ mid, isSpace d = false := by
        obtain ⟨d, hd, hforeign⟩ := hforeign
        rcases List.mem_cons.1 hd with rfl | hd
        · rw [hspace] at hforeign
          exact absurd hforeign (by decide)
        · exact ⟨d, hd, hforeign⟩
      have := ih (fun d hd => hmid d (List.mem_cons_of_mem _ hd)) (Or.inr (by rw [hstep])) h hrest
      rwa [hstep] at this
    | false =>
      have hstep : r.step c = { r with state := .name, attributes := ⟨[nameChar c], []⟩ :: r.attributes } := by
        rw [hbefore, Reading.before, if_neg (by simp [hspace]), if_neg (hmid c List.mem_cons_self)]
      have hmono := (through?_mono h).1
      rw [hstep] at hmono
      exact Nat.lt_of_lt_of_le (weight_lt_cons _ _) hmono

/-- where no value is being read a slash changes nothing but the state -/
theorem step_slash (hr : r.state.isClear = true) (hvalue : r.state ≠ .unquoted) :
    r.step '/' = { r with state := .selfClosing } := by
  have hslash : isSpace '/' = false := by decide
  obtain ⟨state, tagName, attributes⟩ := r
  cases state <;> simp_all [Reading.step, Reading.before, State.isClear]

/-! ## Marked tags -/

/-- whether a tag with these characters behind its opening bracket holds a marker: the reading is where an attribute may
follow, and in a tag that closes itself the slash and what follows it belong to no attribute -/
def holdsMarker (u : Text) : Bool :=
  if closesItself u then
    ((through? .start (Marker.beforeSlash u)).any fun r => r.state.isClear && r.state != .unquoted) &&
      (Marker.behindSlash u).all isSpace
  else (through? .start u).any (·.state.isClear)

theorem isSpace_of_isHorizontalBlank {c : Char} (h : Text.isHorizontalBlank c = true) : isSpace c = true := by
  simp only [Text.isHorizontalBlank, Bool.or_eq_true, beq_iff_eq] at h
  rcases h with rfl | rfl <;> decide

theorem notLetter_of_isBlank {c : Char} (h : Text.isBlank c = true) : c.isAlpha = false ∧ Quote.isQuote c = false := by
  have hinert := Text.isInert_of_isBlank h
  have hdouble : c ≠ '"' := Text.ne_of_isInert hinert (by decide)
  have hsingle : c ≠ '\'' := Text.ne_of_isInert hinert (by decide)
  exact ⟨Text.isAlpha_of_isBlank h, by simp [Quote.isQuote, hdouble, hsingle]⟩

/-- the readings before and behind the blanks that a marker takes the place of -/
theorem exists_beforeGap {gap : Text} (hgap : ∀ c ∈ gap, Text.isHorizontalBlank c = true)
    (h : through? .start (a ++ gap) = some r) (hend : r.state.mayEnd = true) :
    ∃ r₁, through? .start a = some r₁ ∧ r₁.tagName = r.tagName ∧ r₁.attributes = r.attributes ∧
      r₁.state.mayEnd = true ∧ (r.state = .beforeValue ↔ r₁.state = .beforeValue) := by
  obtain ⟨r₁, ha, hrest⟩ := exists_through? h
  have hspaces : ∀ c ∈ gap, isSpace c = true := fun c hc => isSpace_of_isHorizontalBlank (hgap c hc)
  have hend₁ : r₁.state.mayEnd = true := mayEnd_of_through? hrest
    (fun c hc => notLetter_of_isBlank (Text.isBlank_of_isHorizontalBlank (hgap c hc))) hend
  obtain ⟨state, hthrough, -, hiff⟩ := through?_spaces hspaces hend₁
  obtain rfl := Option.some.inj (hthrough.symm.trans hrest)
  exact ⟨r₁, ha, rfl, rfl, hend₁, hiff⟩

/-- whether one reading has the attributes of another and one more behind them -/
def Adds (b : Attribute) (r r' : Reading) : Prop :=
  r'.tagName = r.tagName ∧ r'.attributes = b :: r.attributes

theorem add_tag_eq_iff {b : Attribute} : r'.tag = r.tag.add b ↔ Adds b r r' := by
  rw [Reading.tag, Reading.tag, StartTag.add, StartTag.mk.injEq, ← List.reverse_cons, List.reverse_inj]
  rfl

/-- the marked tag where the tag does not close itself -/
theorem adds_iff_open (h : IsAttribute name value) {gap : Text} (hgap : ∀ c ∈ gap, Text.isHorizontalBlank c = true) :
    (∃ r r', through? .start (a ++ gap) = some r ∧ r.state.mayEnd = true ∧
      through? .start (a ++ ' ' :: Marker.text name value) = some r' ∧ r'.state.mayEnd = true ∧
        Adds (asRead name value) r r') ↔
      (through? .start (a ++ gap)).any (·.state.isClear) = true := by
  rw [Option.any_eq_true]
  constructor
  · rintro ⟨r, r', hr, hend, hr', -, hadds⟩
    refine ⟨r, hr, State.isClear_iff.2 ⟨hend, ?_⟩⟩
    intro hvalue
    obtain ⟨r₁, ha, -, hattributes, -, hiff⟩ := exists_beforeGap hgap hr hend
    obtain ⟨r₂, hmarker, -, hlength⟩ := through?_marker_beforeValue h (hiff.1 hvalue)
    rw [through?_append, ha, Option.bind_some, hmarker] at hr'
    obtain rfl := Option.some.inj hr'
    rw [hadds.2, List.length_cons, hattributes] at hlength
    omega
  · rintro ⟨r, hr, hclear⟩
    obtain ⟨hend, hvalue⟩ := State.isClear_iff.1 hclear
    obtain ⟨r₁, ha, hname, hattributes, hend₁, hiff⟩ := exists_beforeGap hgap hr hend
    have hclear₁ : r₁.state.isClear = true := State.isClear_iff.2 ⟨hend₁, fun h₁ => hvalue (hiff.2 h₁)⟩
    refine ⟨r, ⟨.afterQuoted, r₁.tagName, asRead name value :: r₁.attributes⟩, hr, hend, ?_, rfl, hname, ?_⟩
    · rw [through?_append, ha, Option.bind_some, through?_marker h hclear₁]
    · rw [hattributes]

theorem through?_closed (h : IsAttribute name value) (ha : through? .start a = some r) (hr : r.state.isClear = true) :
    through? .start (a ++ ' ' :: Marker.text name value ++ " /".toList) =
      some ⟨.selfClosing, r.tagName, asRead name value :: r.attributes⟩ := by
  rw [List.append_assoc, through?_append, ha, Option.bind_some, through?_append, through?_marker h hr]
  rfl

/-- before a value, a marker with the closing slash behind it is no further attribute -/
theorem length_closed_beforeValue (h : IsAttribute name value) (ha : through? .start a = some r)
    (hr : r.state = .beforeValue)
    (hr' : through? .start (a ++ ' ' :: Marker.text name value ++ " /".toList) = some r') :
    r'.attributes.length = r.attributes.length := by
  obtain ⟨r₁, hmarker, hstate, hlength⟩ := through?_marker_beforeValue h hr
  have hclosed : through? r₁ " /".toList = some { r₁ with state := .selfClosing } := by
    simp [through?, Reading.step, Reading.before, hstate, isSpace]
  rw [List.append_assoc, through?_append, ha, Option.bind_some, through?_append, hmarker, Option.bind_some, hclosed] at hr'
  rw [← Option.some.inj hr']
  exact hlength

/-- a slash that adds nothing to the attributes is not taken into a value -/
theorem ne_unquoted_of_same_attributes (ha : through? .start a = some r) (hmid : through? (r.step '/') mid = some r')
    (hsame : r'.attributes = r.attributes) : r.state ≠ .unquoted := by
  intro hunquoted
  have hsound : r.Sound := Reading.Sound.through? (by simp [Reading.Sound, Reading.start, State.isInAttribute]) ha
  have hne : r.attributes ≠ [] := hsound (by rw [hunquoted]; rfl)
  have hslash : r.step '/' = { r with attributes := extendValue '/' r.attributes } := by
    simp [Reading.step, hunquoted, isSpace]
  have hgrows := weight_extendValue '/' hne
  have hmono := (through?_mono hmid).1
  rw [hslash, hsame] at hmono
  exact absurd (Nat.lt_of_lt_of_le hgrows hmono) (Nat.lt_irrefl _)

/-- what follows the slash and adds nothing to the attributes is blank for browsers -/
theorem isSpace_of_same_attributes (hr : r.state.isClear = true) (hunquoted : r.state ≠ .unquoted)
    (hslashes : ∀ c ∈ mid, c ≠ '/') (hmid : through? (r.step '/') mid = some r') (hsame : r'.attributes = r.attributes) :
    ∀ c ∈ mid, isSpace c = true := by
  intro c hc
  by_contra hforeign
  rw [step_slash hr hunquoted] at hmid
  have hgrows := weight_lt_of_mid hslashes (Or.inl rfl) hmid ⟨c, hc, by simpa using hforeign⟩
  rw [hsame] at hgrows
  exact absurd hgrows (Nat.lt_irrefl _)

/-- a tag that closes itself and whose marked tag has one attribute more holds a marker before its slash -/
theorem clear_of_adds_closed (h : IsAttribute name value) {gap : Text}
    (hgap : ∀ c ∈ gap, Text.isHorizontalBlank c = true) (hmid : ∀ c ∈ mid, Text.isBlank c = true)
    (hr : through? .start (a ++ gap ++ '/' :: mid) = some r) (hend : r.state.mayEnd = true)
    (hr' : through? .start (a ++ ' ' :: Marker.text name value ++ " /".toList) = some r')
    (hadds : Adds (asRead name value) r r') :
    ∃ r₁, through? .start (a ++ gap) = some r₁ ∧ r₁.state.isClear = true ∧ r₁.state ≠ .unquoted ∧
      ∀ c ∈ mid, isSpace c = true := by
  have hchars : ∀ c ∈ '/' :: mid, c.isAlpha = false ∧ Quote.isQuote c = false := by
    intro c hc
    rcases List.mem_cons.1 hc with rfl | hc
    · decide
    · exact notLetter_of_isBlank (hmid c hc)
  have hslashes : ∀ c ∈ mid, c ≠ '/' := fun c hc e => absurd (hmid c hc) (by rw [e]; decide)
  obtain ⟨r₁, hr₁, hrest⟩ := exists_through? hr
  have hend₁ : r₁.state.mayEnd = true := mayEnd_of_through? hrest hchars hend
  have hstep : through? (r₁.step '/') mid = some r := by rwa [through?_cons_of_ne (by decide)] at hrest
  obtain ⟨r₂, ha, -, hattributes, hend₂, hiff⟩ := exists_beforeGap hgap hr₁ hend₁
  have hvalue : r₁.state ≠ .beforeValue := by
    intro hvalue
    have hlength := length_closed_beforeValue h ha (hiff.1 hvalue) hr'
    have hmono := (through?_mono hrest).2
    rw [hadds.2, List.length_cons, hattributes] at hlength
    omega
  have hclear₁ : r₁.state.isClear = true := State.isClear_iff.2 ⟨hend₁, hvalue⟩
  have hclear₂ : r₂.state.isClear = true := State.isClear_iff.2 ⟨hend₂, fun h₂ => hvalue (hiff.2 h₂)⟩
  -- the marker is one attribute more than before the slash, so the slash and what follows add nothing
  have hsame : r.attributes = r₁.attributes := by
    have hclosed := hadds.2
    rw [← Option.some.inj ((through?_closed h ha hclear₂).symm.trans hr'), hattributes] at hclosed
    exact (List.tail_eq_of_cons_eq hclosed).symm
  have hunquoted := ne_unquoted_of_same_attributes hr₁ hstep hsame
  exact ⟨r₁, hr₁, hclear₁, hunquoted, isSpace_of_same_attributes hclear₁ hunquoted hslashes hstep hsame⟩

/-- a tag that closes itself and holds a marker before its slash has one attribute more when it is marked -/
theorem adds_closed_of_clear (h : IsAttribute name value) {gap : Text}
    (hgap : ∀ c ∈ gap, Text.isHorizontalBlank c = true) (hmid : ∀ c ∈ mid, isSpace c = true)
    (hr : through? .start (a ++ gap) = some r) (hclear : r.state.isClear = true) (hunquoted : r.state ≠ .unquoted) :
    ∃ r₁ r₂, through? .start (a ++ gap ++ '/' :: mid) = some r₁ ∧ r₁.state.mayEnd = true ∧
      through? .start (a ++ ' ' :: Marker.text name value ++ " /".toList) = some r₂ ∧ r₂.state.mayEnd = true ∧
        Adds (asRead name value) r₁ r₂ := by
  obtain ⟨hend, hvalue⟩ := State.isClear_iff.1 hclear
  obtain ⟨r₀, ha, hname, hattributes, hend₀, hiff⟩ := exists_beforeGap hgap hr hend
  have hclear₀ : r₀.state.isClear = true := State.isClear_iff.2 ⟨hend₀, fun h₀ => hvalue (hiff.2 h₀)⟩
  have hslash : (r.step '/').state.mayEnd = true := by
    rw [step_slash hclear hunquoted]
    rfl
  obtain ⟨state, hthrough, hend₁, -⟩ := through?_spaces hmid hslash
  rw [step_slash hclear hunquoted] at hthrough
  refine ⟨{ r with state := state }, _, ?_, hend₁, through?_closed h ha hclear₀, rfl, hname, ?_⟩
  · rw [through?_append, hr, Option.bind_some, through?_cons_of_ne (by decide), step_slash hclear hunquoted]
    exact hthrough
  · rw [hattributes]

/-- the marked tag where the tag closes itself -/
theorem adds_iff_closed (h : IsAttribute name value) {gap : Text} (hgap : ∀ c ∈ gap, Text.isHorizontalBlank c = true)
    (hmid : ∀ c ∈ mid, Text.isBlank c = true) :
    (∃ r r', through? .start (a ++ gap ++ '/' :: mid) = some r ∧ r.state.mayEnd = true ∧
      through? .start (a ++ ' ' :: Marker.text name value ++ " /".toList) = some r' ∧ r'.state.mayEnd = true ∧
        Adds (asRead name value) r r') ↔
      (((through? .start (a ++ gap)).any fun r => r.state.isClear && r.state != .unquoted) && mid.all isSpace) = true := by
  simp only [Bool.and_eq_true, Option.any_eq_true, bne_iff_ne, List.all_eq_true]
  constructor
  · rintro ⟨r, r', hr, hend, hr', -, hadds⟩
    obtain ⟨r₁, hr₁, hclear, hunquoted, hspaces⟩ := clear_of_adds_closed h hgap hmid hr hend hr' hadds
    exact ⟨⟨r₁, hr₁, hclear, hunquoted⟩, hspaces⟩
  · rintro ⟨⟨r, hr, hclear, hunquoted⟩, hspaces⟩
    exact adds_closed_of_clear h hgap hspaces hr hclear hunquoted

/-- **A marked tag keeps its attributes** if and only if the tag holds a marker: both start tags end at their brackets, and
the marked one has the attributes of the other and the marker behind them. -/
theorem keeps_iff (h : IsAttribute name value) (u rest rest' : Text) :
    (∃ tag, startTag? ('<' :: u ++ '>' :: rest) = some (tag, rest) ∧
      startTag? ('<' :: seam (' ' :: Marker.text name value) u ++ '>' :: rest') =
        some (tag.add (asRead name value), rest')) ↔ holdsMarker u = true := by
  have hreadings : (∃ tag, startTag? ('<' :: u ++ '>' :: rest) = some (tag, rest) ∧
      startTag? ('<' :: seam (' ' :: Marker.text name value) u ++ '>' :: rest') =
        some (tag.add (asRead name value), rest')) ↔
      ∃ r r', through? .start u = some r ∧ r.state.mayEnd = true ∧
        through? .start (seam (' ' :: Marker.text name value) u) = some r' ∧ r'.state.mayEnd = true ∧
          Adds (asRead name value) r r' := by
    simp only [startTag?_eq_some_iff, ← add_tag_eq_iff]
    constructor
    · rintro ⟨tag, ⟨r, hr, hend, rfl⟩, r', hr', hend', hadds⟩
      exact ⟨r, r', hr, hend, hr', hend', hadds⟩
    · rintro ⟨r, r', hr, hend, hr', hend', hadds⟩
      exact ⟨r.tag, ⟨r, hr, hend, rfl⟩, r', hr', hend', hadds⟩
  rw [hreadings, holdsMarker]
  cases hs : closesItself u with
  | false =>
    obtain ⟨gap, hgap, hblank⟩ := Text.exists_gap Text.isHorizontalBlank u
    have hiff := adds_iff_open h (a := Text.dropEnd Text.isHorizontalBlank u) hblank
    rw [← hgap] at hiff
    rw [seam, hs]
    exact hiff
  | true =>
    obtain ⟨body, mid, rfl, hmid⟩ := exists_slash hs
    obtain ⟨gap, hgap, hblank⟩ := Text.exists_gap Text.isHorizontalBlank body
    have hiff := adds_iff_closed h (a := Text.dropEnd Text.isHorizontalBlank body) hblank hmid
    rw [← hgap] at hiff
    rw [seam_append_slash hmid, beforeSlash_append (slash_notMem_of_blank hmid),
      behindSlash_append (slash_notMem_of_blank hmid)]
    exact hiff

end SourceMark.Html
