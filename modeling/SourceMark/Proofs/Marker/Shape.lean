/-
What markers look like to a reader. A marker is an attribute name, an equals sign and a value between double quotes. Its
characters apart from the two quotes are quiet: letters, digits and a few signs at which no reader of templates stops.

Results:
- `shape_text`: the marker of an accepted attribute name and any reference has this shape.
- `Inserted.mem`: what is inserted at a bracket consists of quiet characters and double quotes.
- `Inserted.last`: it ends in a double quote.
-/
import Mathlib.Data.List.Basic
import SourceMark.Proofs.Marker.Seam
import SourceMark.Proofs.Settings.AttributeNames
import SourceMark.Token

namespace SourceMark

/-- a check of all characters of a text goes through the text, not through all characters that there are -/
instance (priority := 1100) Text.decidableForallMem (text : Text) (p : Char → Prop) [DecidablePred p] :
    Decidable (∀ c ∈ text, p c) :=
  List.decidableBAll p text

/-! ## The symbols of tokens -/

namespace Base64

/-- every symbol of an encoded text is in the alphabet or the sign of padding -/
theorem mem_encode (bytes : Bytes) : ∀ c ∈ encode bytes, c ∈ '=' :: alphabet := by
  have pad : '=' ∈ '=' :: alphabet := List.mem_cons_self
  have sym {n : Nat} (h : n < 64) : symbol n ∈ '=' :: alphabet := List.mem_cons_of_mem _ (symbol_mem h)
  fun_induction encode bytes with
  | case1 => simp
  | case2 a =>
    have := a.toNat_lt
    intro c hc
    simp only [List.mem_cons, List.not_mem_nil, or_false] at hc
    rcases hc with rfl | rfl | rfl | rfl
    · exact sym (by omega)
    · exact sym (by omega)
    · exact pad
    · exact pad
  | case3 a b =>
    have := a.toNat_lt
    have := b.toNat_lt
    intro c hc
    simp only [List.mem_cons, List.not_mem_nil, or_false] at hc
    rcases hc with rfl | rfl | rfl | rfl
    · exact sym (by omega)
    · exact sym (by omega)
    · exact sym (by omega)
    · exact pad
  | case4 a b c rest ih =>
    have := a.toNat_lt
    have := b.toNat_lt
    have := c.toNat_lt
    intro d hd
    simp only [List.mem_cons] at hd
    rcases hd with rfl | rfl | rfl | rfl | hd
    · exact sym (by omega)
    · exact sym (by omega)
    · exact sym (by omega)
    · exact sym (by omega)
    · exact ih d hd

end Base64

/-! ## Markers -/

namespace Marker

/-- the characters of a marker apart from its quotes -/
def isQuiet (c : Char) : Bool :=
  c.isAlphanum || ['_', ':', '.', '-', '+', '/', '=', '\n', ' '].contains c

/-- the shape of a marker: a name, an equals sign, and a value between double quotes -/
structure Shape (marker : Text) : Prop where
  exists_parts : ∃ first name value, marker = (first :: name) ++ '=' :: '"' :: value ++ ['"'] ∧
    AttributeName.isHead first = true ∧ (∀ c ∈ name, isQuiet c = true) ∧ ∀ c ∈ value, isQuiet c = true

theorem isQuiet_of_isHead {c : Char} (h : AttributeName.isHead c = true) : isQuiet c = true := by
  simp only [AttributeName.isHead, Bool.or_eq_true, beq_iff_eq] at h
  rcases h with (h | rfl) | rfl
  · simp [isQuiet, Char.isAlphanum, h]
  · decide
  · decide

theorem isQuiet_of_isTail {c : Char} (h : AttributeName.isTail c = true) : isQuiet c = true := by
  simp only [AttributeName.isTail, Bool.or_eq_true, beq_iff_eq] at h
  rcases h with (((h | rfl) | rfl) | rfl) | rfl
  · simp [isQuiet, h]
  all_goals decide

theorem isQuiet_of_accepts {text : Text} (h : AttributeName.accepts text = true) {c : Char} (hc : c ∈ text) :
    isQuiet c = true := by
  obtain ⟨name, ending, rfl, hname, hending⟩ := AttributeName.accepts_iff.1 h
  rcases List.mem_append.1 hc with hc | hc
  · exact isQuiet_of_isTail (hname.isTail hc)
  · rcases hending with rfl | rfl
    · exact absurd hc List.not_mem_nil
    · rw [List.mem_singleton.1 hc]
      decide

theorem isQuiet_of_mem_alphabet : ∀ c ∈ '=' :: Base64.alphabet, isQuiet c = true := by
  decide +kernel

theorem isBlank_of_mem_alphabet : ∀ c ∈ '=' :: Base64.alphabet, Text.isBlank c = false := by
  decide +kernel

theorem isQuiet_of_mem_token {r : Reference} {c : Char} (h : c ∈ r.token) : isQuiet c = true :=
  isQuiet_of_mem_alphabet c (Base64.mem_encode _ c h)

/-- **Markers have their shape**, whatever the template id and the line. -/
theorem shape_text (s : Settings) (r : Reference) : Shape (text s.attributeName r.token) := by
  have hquiet (c : Char) (hc : c ∈ s.attributeName) : isQuiet c = true := isQuiet_of_accepts s.accepts_attributeName hc
  obtain ⟨name, ending, hs, ⟨first, rest, rfl, hfirst, -⟩, -⟩ := AttributeName.accepts_iff.1 s.accepts_attributeName
  rw [hs] at hquiet ⊢
  exact ⟨first, rest ++ ending, r.token, by simp [text], hfirst, fun c hc => hquiet c (List.mem_cons_of_mem first hc),
    fun c hc => isQuiet_of_mem_token hc⟩

end Marker

/-! ## What is inserted at a bracket -/

/-- one marker or several, each with a blank before it -/
inductive Inserted : Text → Prop
  | one {marker : Text} : Marker.Shape marker → Inserted (' ' :: marker)
  | append {x y : Text} : Inserted x → Inserted y → Inserted (x ++ y)

namespace Inserted

theorem mem {x : Text} (h : Inserted x) : ∀ c ∈ x, Marker.isQuiet c = true ∨ c = '"' := by
  induction h with
  | @one marker hm =>
    obtain ⟨first, name, value, rfl, hfirst, hname, hvalue⟩ := hm
    intro c hc
    simp only [List.mem_cons, List.mem_append, List.not_mem_nil, or_false] at hc
    rcases hc with rfl | ((rfl | hc) | rfl | rfl | hc) | rfl
    · exact Or.inl (by decide)
    · exact Or.inl (Marker.isQuiet_of_isHead hfirst)
    · exact Or.inl (hname c hc)
    · exact Or.inl (by decide)
    · exact Or.inr rfl
    · exact Or.inl (hvalue c hc)
    · exact Or.inr rfl
  | append _ _ ihx ihy =>
    intro c hc
    rcases List.mem_append.1 hc with hc | hc
    · exact ihx c hc
    · exact ihy c hc

theorem notMem {x : Text} (h : Inserted x) {c : Char} (hc : Marker.isQuiet c = false) (hq : c ≠ '"') : c ∉ x := by
  intro hm
  rcases h.mem c hm with h | h
  · rw [hc] at h; exact absurd h (by decide)
  · exact hq h

theorem bracket_notMem {x : Text} (h : Inserted x) : '>' ∉ x := h.notMem (by decide) (by decide)

theorem exists_front {x : Text} (h : Inserted x) :
    ∃ c rest, x = ' ' :: c :: rest ∧ AttributeName.isHead c = true := by
  induction h with
  | one hm =>
    obtain ⟨first, name, value, rfl, hfirst, -, -⟩ := hm
    exact ⟨first, _, rfl, hfirst⟩
  | append _ _ ihx _ =>
    obtain ⟨c, rest, rfl, hc⟩ := ihx
    exact ⟨c, _, rfl, hc⟩

theorem last {x : Text} (h : Inserted x) : x.getLast? = some '"' := by
  induction h with
  | one hm =>
    obtain ⟨first, name, value, rfl, -, -, -⟩ := hm
    rw [← List.cons_append, List.getLast?_concat]
  | append _ _ _ ihy => rw [List.getLast?_append, ihy]; rfl

theorem last_isFirm {x : Text} (h : Inserted x) : ∃ c, x.getLast? = some c ∧ Text.isFirm c = true :=
  ⟨'"', h.last, by decide⟩

end Inserted

end SourceMark
