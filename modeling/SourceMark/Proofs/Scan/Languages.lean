/-
The built-in template languages. Their delimiters are signs that markers do not have, and the names of tags are ordinary
names, so a scanner for them is blind to markers. In Blade a block of code may end in a question mark and a bracket;
there the bracket has to be held.

Results:
- `nameable_of_isOrdinary`: ordinary names are told from markers.
- `readable_ofSettings`: the scanner of settings with ordinary names is blind to markers.
-/
import SourceMark.Annotator
import SourceMark.Proofs.Scan.Readings
import SourceMark.Proofs.Walk.EndTag

namespace SourceMark

namespace Scanner

/-- the characters of ordinary names: ASCII letters and digits, the hyphen, the point and the colon -/
def isOrdinary (c : Char) : Bool :=
  c.isAlphanum || ['-', '.', ':'].contains c

theorem isTail_of_isOrdinary {c : Char} (h : isOrdinary c = true) : AttributeName.isTail c = true := by
  rcases Bool.or_eq_true_iff.1 h with h | h
  · simp [AttributeName.isTail, h]
  · exact (show ∀ c ∈ ['-', '.', ':'], AttributeName.isTail c = true by decide) c (List.contains_iff_mem.1 h)

/-- a character of ordinary names matches no ASCII character that names do not have -/
theorem sameLetter_of_isOrdinary {p c : Char} (hp : isOrdinary p = true) (hc : c.toNat < 128)
    (htail : AttributeName.isTail c = false) : Text.sameLetter p c = false := by
  rw [← Bool.not_eq_true]
  intro h
  rw [Text.isTail_of_sameLetter (isTail_of_isOrdinary hp) hc h] at htail
  exact absurd htail (by decide)

/-- **Ordinary names are told from markers.** -/
theorem nameable_of_isOrdinary {name : Text} (h : ∀ c ∈ name, isOrdinary c = true) : Nameable name := by
  have hstops : ∀ c ∈ '<' :: stops, c.toNat < 128 ∧ AttributeName.isTail c = false := by decide
  intro p hp c hc
  exact sameLetter_of_isOrdinary (h p hp) (hstops c hc).1 (hstops c hc).2

end Scanner

namespace Language

/-- whether blocks of code may end in a question mark and a bracket -/
def glues : Language → Bool
  | .blade => true
  | .jinja => false

theorem isOrdinary_of_word : ∀ word ∈ bladeDialect.directiveKeywords, ∀ c ∈ word, Scanner.isOrdinary c = true := by
  decide +kernel

theorem readableDialect (language : Language) : Scanner.ReadableDialect language.glues language.dialect := by
  cases language with
  | jinja =>
    exact ⟨by decide +kernel, ⟨by decide +kernel, by decide +kernel⟩, by decide +kernel, by decide +kernel,
      by decide +kernel, by decide +kernel⟩
  | blade =>
    exact ⟨by decide +kernel, ⟨by decide +kernel, by decide +kernel⟩, by decide +kernel, by decide +kernel,
      by decide +kernel, fun word hword => (Scanner.nameable_of_isOrdinary (isOrdinary_of_word word hword)).seen⟩

theorem tidy (language : Language) : Nesting.Tidy language.dialect.nestedRegions := by
  cases language <;> decide +kernel

end Language

def Settings.HasOrdinaryNames (s : Settings) : Prop :=
  ∀ name ∈ s.componentPrefix :: s.targetTags, ∀ c ∈ name, Scanner.isOrdinary c = true

instance (s : Settings) : Decidable s.HasOrdinaryNames := by
  unfold Settings.HasOrdinaryNames; infer_instance

/-- **The scanner of settings is blind to markers** when the names are ordinary. -/
theorem Annotator.readable_ofSettings {s : Settings} (h : s.HasOrdinaryNames) :
    Scanner.Readable s.language.glues (ofSettings s).scanner where
  dialect := s.language.readableDialect
  component := Scanner.nameable_of_isOrdinary (h _ List.mem_cons_self)
  names := fun name hname => Scanner.nameable_of_isOrdinary (h name (List.mem_cons_of_mem _ hname))

end SourceMark
