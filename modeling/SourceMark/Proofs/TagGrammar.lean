/-
Tags by their grammar. For each of the built-in languages, and where a text is bare HTML, the scanner takes a tag exactly
where the grammar of attributes has one: behind the name stands a tag region, and a closing bracket ends it. Where there
is no such region only the name is stepped over. The arguments of a directive's call end where a code body for the
closing parenthesis ends, and so it is for any other closer.

Results:
- `nameLength?_le`: a name stands in the text that it is read from.
- `walk_iff_grammar`: a tag, its attributes and its inner brackets, and the end of a region, as the grammar has them.
-/
import SourceMark.Proofs.Checked.Scan
import SourceMark.Proofs.Scan.Rescan
import SourceMark.Proofs.Walk.Grammar

namespace SourceMark

namespace Language

def dialectFor : Option Language → Dialect
  | some language => language.dialect
  | none => .plain

def regionsFor (language : Option Language) : List Delimiters :=
  (dialectFor language).nestedRegions

theorem wellFormed_regionsFor (language : Option Language) : Checked.WellFormed (regionsFor language) := by
  cases language with
  | some language => exact (Checked.sound_dialect language).regions
  | none =>
    have hnone : regionsFor none = [] := rfl
    exact ⟨by simp [hnone], by simp [hnone, Nesting.Closes], List.nodup_nil⟩

theorem quiet_regionsFor (language : Option Language) : Nesting.Quiet (regionsFor language) := by
  rcases language with _ | language
  · decide
  · cases language <;> decide +kernel

end Language

namespace Scanner

theorem nameLength?_le {sc : Scanner} {text : Text} {n : Nat} (h : sc.nameLength? text = some n) : n ≤ text.length := by
  have hforeign : Foreign sc [] := ⟨by simp, by simp, by simp⟩
  exact (nameLength?_chars hforeign h).2.1

def forLanguage (language : Option Language) (componentPrefix : Text) (tagNames : List Text) : Scanner :=
  ⟨Language.dialectFor language, componentPrefix, tagNames⟩

theorem nestedRegions_forLanguage (language : Option Language) (componentPrefix : Text) (tagNames : List Text) :
    (forLanguage language componentPrefix tagNames).dialect.nestedRegions = Language.regionsFor language :=
  rfl

section Named

variable {sc : Scanner} {text : Text} {n : Nat}

theorem tagAt?_of_name (start : Nat) (hname : sc.nameLength? text = some n) : sc.tagAt? start ('<' :: text) =
    some (match Nesting.body? sc.dialect.nestedRegions (text.drop n) with
      | some body => .tag ⟨text.take n, body.attributes, start, body.nestedGt⟩
      | none => .stretch (n + 1)) := by
  rw [tagAt?, hname]
  rfl

theorem tagAt?_eq_tag_iff {start : Nat} (hname : sc.nameLength? text = some n) {t : Tag} :
    sc.tagAt? start ('<' :: text) = some (.tag t) ↔
      t.start = start ∧ t.name = text.take n ∧ t.stop = start + 1 + n + t.attributes.length + 1 ∧
        ∃ rest, Nesting.body? sc.dialect.nestedRegions (text.drop n) = some ⟨t.attributes, t.nestedGt, rest⟩ := by
  rw [tagAt?_of_name start hname]
  constructor
  · intro h
    split at h
    · next body hbody =>
      obtain rfl := Reading.tag.inj (Option.some.inj h)
      refine ⟨rfl, rfl, ?_, body.rest, hbody⟩
      simp only [Tag.stop, Tag.text, List.length_append, List.length_cons, List.length_nil,
        List.length_take_of_le (nameLength?_le hname)]
      omega
    · exact absurd h (by simp)
  · rintro ⟨hstart, hsame, -, rest, hbody⟩
    rw [hbody]
    simp only [← hstart, ← hsame]

theorem tagAt?_eq_stretch_iff (start : Nat) (hname : sc.nameLength? text = some n) :
    sc.tagAt? start ('<' :: text) = some (.stretch (n + 1)) ↔
      Nesting.body? sc.dialect.nestedRegions (text.drop n) = none := by
  rw [tagAt?_of_name start hname]
  cases Nesting.body? sc.dialect.nestedRegions (text.drop n) <;> simp

end Named

/-- **The walk reads what the grammar has.** Behind a name a tag is read exactly when a tag region comes to a closing
bracket there; the region is what is read as its attributes, and the body of one of its regions reads a closing bracket
as a character exactly when the tag says so. Where no tag region comes to one, only the name is stepped over. From any
place on, a region that is open ends exactly where a code body for its closer ends. -/
theorem walk_iff_grammar (language : Option Language) (componentPrefix : Text) (tagNames : List Text) :
    (∀ start text n, (forLanguage language componentPrefix tagNames).nameLength? text = some n →
      (∀ t, (forLanguage language componentPrefix tagNames).tagAt? start ('<' :: text) = some (.tag t) ↔
        t.start = start ∧ t.name = text.take n ∧ t.stop = start + 1 + n + t.attributes.length + 1 ∧
          ∃ rest, text.drop n = t.attributes ++ '>' :: rest ∧
            Nesting.TagRegion (Language.regionsFor language) (text.drop n) ('>' :: rest) t.nestedGt) ∧
      ((forLanguage language componentPrefix tagNames).tagAt? start ('<' :: text) = some (.stretch (n + 1)) ↔
        ∀ rest gt, ¬Nesting.TagRegion (Language.regionsFor language) (text.drop n) ('>' :: rest) gt)) ∧
    ∀ first more text,
      (∀ n, Nesting.length? (Language.regionsFor language) 0 [first :: more] text = some n ↔
        ∃ body rest gt, text = body ++ rest ∧ body.length = n ∧
          Nesting.CodeBody (Language.regionsFor language) (first :: more) text rest gt) ∧
      (Nesting.length? (Language.regionsFor language) 0 [first :: more] text = none ↔
        ∀ rest gt, ¬Nesting.CodeBody (Language.regionsFor language) (first :: more) text rest gt) := by
  have hr := Language.wellFormed_regionsFor language
  have hquiet := Language.quiet_regionsFor language
  constructor
  · intro start text n hname
    constructor
    · intro t
      rw [tagAt?_eq_tag_iff hname]
      simp only [nestedRegions_forLanguage, Nesting.body?_eq_some_iff hr hquiet]
    · rw [tagAt?_eq_stretch_iff start hname, nestedRegions_forLanguage]
      exact Nesting.body?_eq_none_iff hr hquiet
  · intro first more text
    constructor
    · intro n
      exact Nesting.length?_eq_some_iff_codeBody hr hquiet (List.cons_ne_nil first more)
    · exact Nesting.length?_eq_none_iff_codeBody hr hquiet (List.cons_ne_nil first more)

/-- in Blade a bracket between braces belongs to the attributes -/
theorem walk_iff_grammar_echo : (forLanguage (some .blade) "x-".toList []).nameLength?
      "x-y \x7b\x7b a > b \x7d\x7d>z".toList = some 3 ∧
    Nesting.TagRegion (Language.regionsFor (some .blade)) " \x7b\x7b a > b \x7d\x7d>z".toList ">z".toList true := by
  have hname : (forLanguage (some .blade) "x-".toList []).nameLength?
      "x-y \x7b\x7b a > b \x7d\x7d>z".toList = some 3 := by decide +kernel
  have htag := (((walk_iff_grammar (some .blade) "x-".toList []).1 0 _ 3 hname).1
    ⟨"x-y".toList, " \x7b\x7b a > b \x7d\x7d".toList, 0, true⟩).1 (by rfl)
  obtain ⟨-, -, -, rest, hrest, hregion⟩ := htag
  obtain rfl : rest = "z".toList := by simpa using hrest.symm
  exact ⟨hname, hregion⟩

end Scanner

end SourceMark
