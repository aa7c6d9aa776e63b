/-
Start tags as browsers read them. The reading follows the attribute states of the HTML standard one character at a time;
character references are not resolved. It knows neither regions of code nor backslashes: a quote opens a span only where a
value starts, and elsewhere it is a character like any other.

Results:
- `startTag?_eq_some_iff`: a start tag ends exactly at a bracket if and only if the reading of what is before the bracket
  does not end earlier and may end there.
- `through?_spaces`: blanks change nothing but the state.
- `through?_mono`: reading on never takes back what is read.
- `firsts_concat`: one more attribute counts if and only if its name is new.
-/
import Mathlib.Algebra.Ring.Nat
import Mathlib.Data.List.Basic
import SourceMark.Tag.Quote

namespace SourceMark.Html

/-! ## The reading -/

def isSpace (c : Char) : Bool :=
  ['\t', '\n', '\x0c', '\r', ' '].contains c

/-- a character of a value as it is read: the null character is replaced -/
def valueChar (c : Char) : Char :=
  if c = '\x00' then '\uFFFD' else c

/-- a character of a name as it is read: capital ASCII letters are made small besides -/
def nameChar (c : Char) : Char :=
  valueChar c.toLower

/-- where in a start tag the reading is -/
inductive State where
  | tagOpen
  | tagName
  | beforeName
  | name
  | afterName
  | beforeValue
  | doubleQuoted
  | singleQuoted
  | unquoted
  | afterQuoted
  | selfClosing
  | noTag
  deriving DecidableEq

/-- whether a closing bracket ends the start tag here -/
def State.mayEnd : State → Bool
  | tagOpen | doubleQuoted | singleQuoted | noTag => false
  | _ => true

structure Attribute where
  name : Text
  value : Text
  deriving DecidableEq

structure StartTag where
  name : Text
  attributes : List Attribute
  deriving DecidableEq

def StartTag.add (tag : StartTag) (a : Attribute) : StartTag :=
  { tag with attributes := tag.attributes ++ [a] }

/-- what is read of a start tag so far, the last attribute first -/
structure Reading where
  state : State
  tagName : Text
  attributes : List Attribute
  deriving DecidableEq

def extendName (c : Char) : List Attribute → List Attribute
  | [] => []
  | a :: others => { a with name := a.name ++ [nameChar c] } :: others

def extendValue (c : Char) : List Attribute → List Attribute
  | [] => []
  | a :: others => { a with value := a.value ++ [valueChar c] } :: others

namespace Reading

def start : Reading := ⟨.tagOpen, [], []⟩

def tag (r : Reading) : StartTag := ⟨r.tagName, r.attributes.reverse⟩

/-- reads `c` where an attribute may start -/
def before (r : Reading) (c : Char) : Reading :=
  if isSpace c then { r with state := .beforeName }
  else if c = '/' then { r with state := .selfClosing }
  else { r with state := .name, attributes := ⟨[nameChar c], []⟩ :: r.attributes }

/-- reads one character that does not end the start tag -/
def step (r : Reading) (c : Char) : Reading :=
  match r.state with
  | .tagOpen => if c.isAlpha then { r with state := .tagName, tagName := [nameChar c] } else { r with state := .noTag }
  | .tagName =>
    if isSpace c then { r with state := .beforeName }
    else if c = '/' then { r with state := .selfClosing }
    else { r with tagName := r.tagName ++ [nameChar c] }
  | .beforeName => r.before c
  | .name =>
    if isSpace c then { r with state := .afterName }
    else if c = '/' then { r with state := .selfClosing }
    else if c = '=' then { r with state := .beforeValue }
    else { r with attributes := extendName c r.attributes }
  | .afterName =>
    if isSpace c then r
    else if c = '/' then { r with state := .selfClosing }
    else if c = '=' then { r with state := .beforeValue }
    else { r with state := .name, attributes := ⟨[nameChar c], []⟩ :: r.attributes }
  | .beforeValue =>
    if isSpace c then r
    else if c = '"' then { r with state := .doubleQuoted }
    else if c = '\'' then { r with state := .singleQuoted }
    else { r with state := .unquoted, attributes := extendValue c r.attributes }
  | .doubleQuoted =>
    if c = '"' then { r with state := .afterQuoted } else { r with attributes := extendValue c r.attributes }
  | .singleQuoted =>
    if c = '\'' then { r with state := .afterQuoted } else { r with attributes := extendValue c r.attributes }
  | .unquoted =>
    if isSpace c then { r with state := .beforeName } else { r with attributes := extendValue c r.attributes }
  | .afterQuoted => r.before c
  | .selfClosing => r.before c
  | .noTag => r

end Reading

/-- reads up to the end of the start tag: the tag and what follows it -/
def readFrom : Reading → Text → Option (StartTag × Text)
  | _, [] => none
  | r, c :: rest => if c = '>' && r.state.mayEnd then some (r.tag, rest) else readFrom (r.step c) rest

def startTag? : Text → Option (StartTag × Text)
  | '<' :: rest => readFrom .start rest
  | _ => none

/-- the attributes that count: of several with one name the first -/
def firsts : List Attribute → List Attribute
  | [] => []
  | a :: others => a :: (firsts others).filter (·.name ≠ a.name)

/-! ## Reading a part of a start tag -/

/-- the reading behind a text in which the start tag does not end -/
def through? : Reading → Text → Option Reading
  | r, [] => some r
  | r, c :: rest => if c = '>' && r.state.mayEnd then none else through? (r.step c) rest

variable {r r' : Reading} {a b u rest : Text}

theorem through?_cons_of_ne {c : Char} (h : c ≠ '>') (r : Reading) (rest : Text) :
    through? r (c :: rest) = through? (r.step c) rest := by
  simp [through?, h]

theorem through?_append (r : Reading) (a b : Text) : through? r (a ++ b) = (through? r a).bind (through? · b) := by
  induction a generalizing r with
  | nil => rfl
  | cons c a ih =>
    rw [List.cons_append, through?, through?]
    split_ifs
    · rfl
    · exact ih _

theorem exists_through? (h : through? r (a ++ b) = some r') :
    ∃ r₁, through? r a = some r₁ ∧ through? r₁ b = some r' :=
  Option.bind_eq_some_iff.1 ((through?_append r a b).symm.trans h)

theorem readFrom_append (h : through? r a = some r') (b : Text) : readFrom r (a ++ b) = readFrom r' b := by
  induction a generalizing r with
  | nil => rw [← Option.some.inj h]; rfl
  | cons c a ih =>
    rw [through?] at h
    split_ifs at h with hend
    rw [List.cons_append, readFrom, if_neg hend]
    exact ih h

theorem length_lt_of_readFrom {text : Text} {tag : StartTag} (h : readFrom r text = some (tag, rest)) :
    rest.length < text.length := by
  induction text generalizing r with
  | nil => exact absurd h (by simp [readFrom])
  | cons c text ih =>
    rw [readFrom] at h
    split_ifs at h
    · rw [← (Prod.mk.inj (Option.some.inj h)).2]
      exact Nat.lt_succ_self _
    · exact Nat.lt_succ_of_lt (ih h)

/-- a start tag that ends in a text leaves all that follows the text -/
theorem length_le_of_through?_eq_none {tag : StartTag} (hnone : through? r a = none)
    (h : readFrom r (a ++ b) = some (tag, rest)) : b.length ≤ rest.length := by
  induction a generalizing r with
  | nil => exact absurd hnone (by simp [through?])
  | cons c a ih =>
    rw [through?] at hnone
    rw [List.cons_append, readFrom] at h
    split_ifs at hnone h
    · rw [← (Prod.mk.inj (Option.some.inj h)).2, List.length_append]
      exact Nat.le_add_left _ _
    · exact ih hnone h

/-- **A start tag ends exactly at a bracket** if and only if it does not end before and may end there. -/
theorem startTag?_eq_some_iff {tag : StartTag} : startTag? ('<' :: u ++ '>' :: rest) = some (tag, rest) ↔
    ∃ r, through? .start u = some r ∧ r.state.mayEnd = true ∧ r.tag = tag := by
  rw [List.cons_append, startTag?]
  constructor
  · intro h
    cases hthrough : through? .start u with
    | none =>
      have := length_le_of_through?_eq_none hthrough h
      rw [List.length_cons] at this
      omega
    | some r =>
      rw [readFrom_append hthrough, readFrom] at h
      split_ifs at h with hend
      · exact ⟨r, rfl, by simpa using hend, (Prod.mk.inj (Option.some.inj h)).1⟩
      · exact absurd (length_lt_of_readFrom h) (Nat.lt_irrefl _)
  · rintro ⟨r, hthrough, hend, rfl⟩
    rw [readFrom_append hthrough, readFrom, if_pos (by simpa using hend)]

/-! ## Where the reading is -/

/-- whether an attribute that follows behind a blank is read as one: not in a quoted value, and not where a value is
still to come -/
def State.isClear : State → Bool
  | tagName | beforeName | name | afterName | unquoted | afterQuoted | selfClosing => true
  | _ => false

theorem State.isClear_iff {state : State} :
    state.isClear = true ↔ state.mayEnd = true ∧ state ≠ .beforeValue := by
  cases state <;> decide

def State.isInAttribute : State → Bool
  | name | afterName | beforeValue | doubleQuoted | singleQuoted | unquoted => true
  | _ => false

/-- where an attribute is being read there is one -/
def Reading.Sound (r : Reading) : Prop :=
  r.state.isInAttribute = true → r.attributes ≠ []

theorem extendName_ne_nil {c : Char} {attributes : List Attribute} (h : attributes ≠ []) :
    extendName c attributes ≠ [] := by
  cases attributes with
  | nil => exact absurd rfl h
  | cons a others => exact List.cons_ne_nil _ _

theorem extendValue_ne_nil {c : Char} {attributes : List Attribute} (h : attributes ≠ []) :
    extendValue c attributes ≠ [] := by
  cases attributes with
  | nil => exact absurd rfl h
  | cons a others => exact List.cons_ne_nil _ _

theorem Reading.Sound.step (h : r.Sound) (c : Char) : (r.step c).Sound := by
  obtain ⟨state, tagName, attributes⟩ := r
  cases state with
  | noTag => exact h
  | tagOpen | tagName | beforeName | afterQuoted | selfClosing =>
    unfold Reading.step Reading.Sound
    try unfold Reading.before
    dsimp only
    split_ifs <;> simp [State.isInAttribute]
  | name | afterName | beforeValue | doubleQuoted | singleQuoted | unquoted =>
    have hne : attributes ≠ [] := h rfl
    have hname := extendName_ne_nil (c := c) hne
    have hvalue := extendValue_ne_nil (c := c) hne
    unfold Reading.step Reading.Sound
    dsimp only
    split_ifs <;> simp [hne, hname, hvalue]

theorem Reading.Sound.through? (h : r.Sound) (hr : through? r a = some r') : r'.Sound := by
  induction a generalizing r with
  | nil => exact Option.some.inj hr ▸ h
  | cons c a ih =>
    rw [Html.through?] at hr
    split_ifs at hr
    exact ih (h.step c) hr

/-! ## Reading on -/

/-- how much is read of attributes -/
def weight (attributes : List Attribute) : Nat :=
  (attributes.map fun a => 1 + a.name.length + a.value.length).sum

theorem weight_cons (a : Attribute) (others : List Attribute) :
    weight (a :: others) = 1 + a.name.length + a.value.length + weight others := by
  rw [weight, List.map_cons, List.sum_cons, ← weight]

theorem weight_extendName (c : Char) (attributes : List Attribute) :
    weight attributes ≤ weight (extendName c attributes) ∧ (extendName c attributes).length = attributes.length := by
  cases attributes with
  | nil => exact ⟨Nat.le_refl _, rfl⟩
  | cons a others =>
    refine ⟨?_, rfl⟩
    simp only [extendName, weight_cons, List.length_append]
    omega

theorem weight_extendValue (c : Char) {attributes : List Attribute} (h : attributes ≠ []) :
    weight attributes < weight (extendValue c attributes) := by
  cases attributes with
  | nil => exact absurd rfl h
  | cons a others =>
    simp only [extendValue, weight_cons, List.length_append, List.length_singleton]
    omega

theorem weight_le_extendValue (c : Char) (attributes : List Attribute) :
    weight attributes ≤ weight (extendValue c attributes) ∧ (extendValue c attributes).length = attributes.length := by
  cases attributes with
  | nil => exact ⟨Nat.le_refl _, rfl⟩
  | cons a others => exact ⟨Nat.le_of_lt (weight_extendValue c (List.cons_ne_nil _ _)), rfl⟩

theorem weight_lt_cons (a : Attribute) (others : List Attribute) : weight others < weight (a :: others) := by
  rw [weight_cons]
  omega

theorem step_mono (r : Reading) (c : Char) :
    weight r.attributes ≤ weight (r.step c).attributes ∧ r.attributes.length ≤ (r.step c).attributes.length := by
  have hname := weight_extendName c r.attributes
  have hvalue := weight_le_extendValue c r.attributes
  have hcons := Nat.le_of_lt (weight_lt_cons ⟨[nameChar c], []⟩ r.attributes)
  obtain ⟨state, tagName, attributes⟩ := r
  dsimp only at hname hvalue hcons
  cases state with
  | noTag => exact ⟨Nat.le_refl _, Nat.le_refl _⟩
  | _ =>
    unfold Reading.step
    try unfold Reading.before
    dsimp only
    split_ifs <;> simp <;> omega

/-- **Reading on never takes back what is read.** -/
theorem through?_mono (h : through? r a = some r') :
    weight r.attributes ≤ weight r'.attributes ∧ r.attributes.length ≤ r'.attributes.length := by
  induction a generalizing r with
  | nil =>
    obtain rfl := Option.some.inj h
    exact ⟨Nat.le_refl _, Nat.le_refl _⟩
  | cons c a ih =>
    rw [through?] at h
    split_ifs at h
    obtain ⟨hweight, hlength⟩ := ih h
    obtain ⟨hweight', hlength'⟩ := step_mono r c
    exact ⟨Nat.le_trans hweight' hweight, Nat.le_trans hlength' hlength⟩

/-- where the start tag may not end, it may not end behind characters that are neither letters nor quotes -/
theorem mayEnd_of_through? (h : through? r a = some r') (hchars : ∀ c ∈ a, c.isAlpha = false ∧ Quote.isQuote c = false)
    (hend : r'.state.mayEnd = true) : r.state.mayEnd = true := by
  induction a generalizing r with
  | nil => rwa [Option.some.inj h]
  | cons c a ih =>
    rw [through?] at h
    split_ifs at h
    have hstep := ih h fun d hd => hchars d (List.mem_cons_of_mem _ hd)
    obtain ⟨halpha, hquote⟩ := hchars c List.mem_cons_self
    simp only [Quote.isQuote, Bool.or_eq_false_iff, beq_eq_false_iff_ne] at hquote
    by_contra hnot
    obtain ⟨state, tagName, attributes⟩ := r
    cases state <;> simp_all [State.mayEnd, Reading.step]

/-! ## Blanks -/

theorem ne_of_isSpace {c : Char} (hc : isSpace c = true) : c ≠ '>' ∧ c ≠ '/' ∧ c.isAlpha = false := by
  rw [isSpace, List.contains_iff_mem] at hc
  simp only [List.mem_cons, List.not_mem_nil, or_false] at hc
  rcases hc with rfl | rfl | rfl | rfl | rfl <;> decide

/-- a blank changes nothing but the state, and leads neither to a value that is to come nor away from one -/
theorem step_space {c : Char} (hc : isSpace c = true) (hend : r.state.mayEnd = true) :
    ∃ state, r.step c = { r with state := state } ∧ state.mayEnd = true ∧
      (state = .beforeValue ↔ r.state = .beforeValue) := by
  obtain ⟨state, tagName, attributes⟩ := r
  cases state <;> simp_all [Reading.step, Reading.before, State.mayEnd]

/-- **Blanks change nothing but the state.** -/
theorem through?_spaces (h : ∀ c ∈ a, isSpace c = true) (hend : r.state.mayEnd = true) :
    ∃ state, through? r a = some { r with state := state } ∧ state.mayEnd = true ∧
      (state = .beforeValue ↔ r.state = .beforeValue) := by
  induction a generalizing r with
  | nil => exact ⟨r.state, rfl, hend, Iff.rfl⟩
  | cons c a ih =>
    obtain ⟨state, hstep, hstate, hiff⟩ := step_space (h c List.mem_cons_self) hend
    have hbehind : ({ r with state := state } : Reading).state.mayEnd = true := hstate
    obtain ⟨state', hthrough, hstate', hiff'⟩ := ih (fun d hd => h d (List.mem_cons_of_mem _ hd)) hbehind
    rw [through?_cons_of_ne (ne_of_isSpace (h c List.mem_cons_self)).1, hstep]
    exact ⟨state', hthrough, hstate', hiff'.trans hiff⟩

/-! ## Attributes that count -/

theorem firsts_concat_of_new {attributes : List Attribute} {a : Attribute} (h : ∀ b ∈ attributes, b.name ≠ a.name) :
    firsts (attributes ++ [a]) = firsts attributes ++ [a] := by
  induction attributes with
  | nil => rfl
  | cons b others ih =>
    have hb : a.name ≠ b.name := Ne.symm (h b List.mem_cons_self)
    rw [List.cons_append, firsts, firsts, ih fun c hc => h c (List.mem_cons_of_mem _ hc), List.filter_append]
    simp [hb]

theorem firsts_concat_of_seen {attributes : List Attribute} {a : Attribute} (h : ∃ b ∈ attributes, b.name = a.name) :
    firsts (attributes ++ [a]) = firsts attributes := by
  induction attributes with
  | nil => exact absurd h (by simp)
  | cons c others ih =>
    rw [List.cons_append, firsts, firsts]
    by_cases hseen : ∃ b ∈ others, b.name = a.name
    · rw [ih hseen]
    · have hc : c.name = a.name := by
        obtain ⟨b, hb, hname⟩ := h
        rcases List.mem_cons.1 hb with rfl | hb
        · exact hname
        · exact absurd ⟨b, hb, hname⟩ hseen
      have hnew : ∀ d ∈ others, d.name ≠ a.name := fun d hd hname => hseen ⟨d, hd, hname⟩
      rw [firsts_concat_of_new hnew, List.filter_append]
      simp [hc]

/-- **One more attribute counts** if and only if its name is new. -/
theorem firsts_concat (attributes : List Attribute) (a : Attribute) :
    firsts (attributes ++ [a]) = firsts attributes ++ [a] ↔ ∀ b ∈ attributes, b.name ≠ a.name := by
  refine ⟨fun h b hb hname => ?_, firsts_concat_of_new⟩
  rw [firsts_concat_of_seen ⟨b, hb, hname⟩] at h
  exact absurd (congrArg List.length h) (by simp)

end SourceMark.Html
