/-
Whole names. A scanner tries the prefix of components first and then its names, one after the other. As long as they are
made of ordinary characters, none of them goes past a character that ends a name, so whatever is tried first, what is read
is the text up to the first such character, and it is read when it is one of the names.

Results:
- `nameLength?_eq_some_iff`: the name that is read is the whole one.
- `isNamed_of_mem_scan`: the tags of a scan have names of the scanner, and whole ones.
- `scan_eq_of_same_names`: a scan depends on which names there are, and not on their order.
-/
import SourceMark.Proofs.Scan.Languages
import SourceMark.Proofs.Scan.Rescan
import SourceMark.Proofs.Text.Blanks
import SourceMark.Proofs.Text.Runs

namespace SourceMark.Scanner

/-! ## Characters that end a name -/

/-- a blank, a slash and a closing bracket end the name of a tag -/
def endsName (c : Char) : Bool :=
  Text.isBlank c || c == '/' || c == '>'

theorem endsName_iff {c : Char} : endsName c = true ↔ Text.isBlank c = true ∨ c = '/' ∨ c = '>' := by
  simp [endsName, or_assoc]

theorem nameEnds_iff {text : Text} : nameEnds text = true ↔ ∃ c, text.head? = some c ∧ endsName c = true :=
  Option.any_eq_true _ _

theorem endsName_of_nameEnds {text : Text} (h : nameEnds text = true) {c : Char} (hc : text.head? = some c) :
    endsName c = true := by
  obtain ⟨d, hd, hends⟩ := nameEnds_iff.1 h
  rwa [← Option.some.inj (hc.symm.trans hd)] at hends

theorem isNameChar_of_endsName {c : Char} (h : endsName c = true) : Dialect.isNameChar c = false := by
  rcases endsName_iff.1 h with h | rfl | rfl
  · exact Dialect.isNameChar_of_isBlank h
  · decide
  · decide

/-- no character of an ordinary name stands for one that ends names -/
theorem sameLetter_of_endsName {p c : Char} (hp : isOrdinary p = true) (hc : endsName c = true) :
    Text.sameLetter p c = false := by
  rcases endsName_iff.1 hc with h | rfl | rfl
  · exact Text.sameLetter_of_isBlank (isTail_of_isOrdinary hp) h
  · exact sameLetter_of_isOrdinary hp (by decide) (by decide)
  · exact sameLetter_of_isOrdinary hp (by decide) (by decide)

/-! ## Names -/

/-- a name written in letters of any case -/
def Spells (name text : Text) : Prop :=
  List.Forall₂ (fun p c => Text.sameLetter p c = true) name text

/-- one of the names of tags, or the prefix of components with name characters behind it -/
inductive IsNamed (componentPrefix : Text) (tagNames : List Text) : Text → Prop where
  | component {front more : Text} (isPrefix : Spells componentPrefix front) (prefix_ne : componentPrefix ≠ [])
      (more_ne : more ≠ []) (isName : ∀ c ∈ more, Dialect.isNameChar c = true) :
      IsNamed componentPrefix tagNames (front ++ more)
  | tag {name text : Text} (isName : Spells name text) (name_ne : name ≠ []) (name_mem : name ∈ tagNames) :
      IsNamed componentPrefix tagNames text

theorem IsNamed.congr {componentPrefix text : Text} {tagNames tagNames' : List Text}
    (h : ∀ name, name ∈ tagNames' ↔ name ∈ tagNames) :
    IsNamed componentPrefix tagNames' text ↔ IsNamed componentPrefix tagNames text := by
  constructor
  · rintro (⟨isPrefix, prefix_ne, more_ne, isName⟩ | ⟨isName, name_ne, name_mem⟩)
    · exact .component isPrefix prefix_ne more_ne isName
    · exact .tag isName name_ne ((h _).1 name_mem)
  · rintro (⟨isPrefix, prefix_ne, more_ne, isName⟩ | ⟨isName, name_ne, name_mem⟩)
    · exact .component isPrefix prefix_ne more_ne isName
    · exact .tag isName name_ne ((h _).2 name_mem)

def HasOrdinaryNames (sc : Scanner) : Prop :=
  ∀ name ∈ sc.componentPrefix :: sc.tagNames, ∀ c ∈ name, isOrdinary c = true

theorem Spells.endsName {name text : Text} (h : Spells name text) (hname : ∀ p ∈ name, isOrdinary p = true) :
    ∀ c ∈ text, endsName c = false := by
  intro c hc
  obtain ⟨p, hp, hpc⟩ := exists_left_of_forall₂ h hc
  rw [← Bool.not_eq_true]
  intro hends
  rw [sameLetter_of_endsName (hname p hp) hends] at hpc
  exact absurd hpc (by decide)

theorem IsNamed.endsName {sc : Scanner} (hordinary : sc.HasOrdinaryNames) {text : Text}
    (h : IsNamed sc.componentPrefix sc.tagNames text) : ∀ c ∈ text, endsName c = false := by
  intro c hc
  cases h with
  | component isPrefix prefix_ne more_ne isName =>
    rcases List.mem_append.1 hc with hc | hc
    · exact isPrefix.endsName (hordinary _ List.mem_cons_self) c hc
    · rw [← Bool.not_eq_true]
      intro hends
      have hname := isName c hc
      rw [isNameChar_of_endsName hends] at hname
      exact absurd hname (by decide)
  | tag isName name_ne name_mem => exact isName.endsName (hordinary _ (List.mem_cons_of_mem _ name_mem)) c hc

/-! ## The name that is read -/

section Read

variable {sc : Scanner} {text : Text} {n : Nat}

theorem Spells.dropLetters? {name u : Text} (h : Spells name u) (rest : Text) :
    dropLetters? name (u ++ rest) = some rest := by
  induction h with
  | nil => rfl
  | cons hpc _ ih =>
    rw [Scanner.dropLetters?, List.cons_append, Text.dropHeadBy?, if_pos hpc]
    exact ih

theorem exists_named (h : sc.nameLength? text = some n) : ∃ name rest, text = name ++ rest ∧ name.length = n ∧
    IsNamed sc.componentPrefix sc.tagNames name ∧ nameEnds rest = true := by
  rcases Option.or_eq_some_iff.1 h with h | ⟨-, h⟩
  · unfold componentName? at h
    split_ifs at h with hempty
    obtain ⟨rest, hrest, hif⟩ := Option.bind_eq_some_iff.1 h
    obtain ⟨front, rfl, hfront⟩ := exists_recognised hrest
    dsimp only at hif
    split_ifs at hif with hmore
    obtain rfl := Option.some.inj hif
    rw [Bool.and_eq_true, Bool.not_eq_true', List.isEmpty_eq_false_iff, Text.drop_takeWhile] at hmore
    refine ⟨front ++ rest.takeWhile Dialect.isNameChar, rest.dropWhile Dialect.isNameChar, ?_, ?_, ?_, hmore.2⟩
    · rw [List.append_assoc, List.takeWhile_append_dropWhile]
    · rw [List.length_append, hfront.length_eq]
    · exact .component hfront (by simpa using hempty) hmore.1 fun c hc => List.mem_takeWhile_imp hc
  · obtain ⟨name, hmem, hif⟩ := List.exists_of_findSome?_eq_some h
    split_ifs at hif with hname
    obtain rfl := Option.some.inj hif
    rw [Bool.and_eq_true, Bool.not_eq_true', List.isEmpty_eq_false_iff] at hname
    obtain ⟨rest, hrest, hends⟩ := (Option.any_eq_true _ _).1 hname.2
    obtain ⟨u, rfl, hu⟩ := exists_recognised hrest
    exact ⟨u, rest, rfl, hu.length_eq.symm, .tag hu hname.1 hmem, hends⟩

theorem IsNamed.nameLength?_ne_none {name rest : Text} (h : IsNamed sc.componentPrefix sc.tagNames name)
    (hends : nameEnds rest = true) : sc.nameLength? (name ++ rest) ≠ none := by
  rw [nameLength?, Ne, Option.or_eq_none_iff, not_and_or]
  cases h with
  | @component front more isPrefix prefix_ne more_ne isName =>
    refine .inl ?_
    have hstop : ∀ c, rest.head? = some c → Dialect.isNameChar c = false :=
      fun c hc => isNameChar_of_endsName (endsName_of_nameEnds hends hc)
    rw [componentName?, if_neg (by simpa using prefix_ne), List.append_assoc, isPrefix.dropLetters?, Option.bind_some]
    simp [Text.takeWhile_run isName hstop, more_ne, hends]
  | @tag tagName _ isName name_ne name_mem =>
    refine .inr fun hnone => ?_
    have hpassed := List.findSome?_eq_none_iff.1 hnone tagName name_mem
    simp [isName.dropLetters?, name_ne, hends] at hpassed

/-- the name that stands at the head of a text is the text up to the first character that ends it -/
theorem takeWhile_named (hordinary : sc.HasOrdinaryNames) {name rest : Text}
    (h : IsNamed sc.componentPrefix sc.tagNames name) (hends : nameEnds rest = true) :
    (name ++ rest).takeWhile (fun c => !endsName c) = name := by
  refine Text.takeWhile_run (fun c hc => ?_) fun c hc => ?_
  · rw [h.endsName hordinary c hc, Bool.not_false]
  · rw [endsName_of_nameEnds hends hc, Bool.not_true]

/-- **The name that is read is the whole one**: a name of the scanner that stands before a character that ends it. -/
theorem nameLength?_eq_some_iff (hordinary : sc.HasOrdinaryNames) :
    sc.nameLength? text = some n ↔ ∃ name rest, text = name ++ rest ∧ name.length = n ∧
      IsNamed sc.componentPrefix sc.tagNames name ∧ nameEnds rest = true := by
  refine ⟨exists_named, ?_⟩
  rintro ⟨name, rest, rfl, rfl, hnamed, hends⟩
  obtain ⟨m, hm⟩ := Option.ne_none_iff_exists'.1 (hnamed.nameLength?_ne_none hends)
  obtain ⟨name', rest', htext, rfl, hnamed', hends'⟩ := exists_named hm
  -- both are the text up to the first character that ends a name
  have hname : name = name' := by
    rw [← takeWhile_named hordinary hnamed hends, htext, takeWhile_named hordinary hnamed' hends']
  rw [hm, hname]

end Read

/-! ## Scans -/

section Scans

variable {sc sc' : Scanner}

/-- a tag whose name is the text from its bracket up to the first character that ends names -/
structure HasWholeName (text : Text) (t : Tag) : Prop where
  bracket : text[t.start]? = some '<'
  name_eq : t.name = (text.drop (t.start + 1)).takeWhile fun c => !endsName c
  ends : ∃ c, text[t.start + 1 + t.name.length]? = some c ∧ endsName c = true

/-- **The tags of a scan have names of the scanner**, and whole ones. -/
theorem isNamed_of_mem_scan (hordinary : sc.HasOrdinaryNames) {text : Text} {t : Tag}
    (ht : t ∈ sc.scan text) : HasWholeName text t ∧ IsNamed sc.componentPrefix sc.tagNames t.name := by
  obtain ⟨behind, n, hbehind, hn, hname⟩ := nameLength?_of_tagAt? (tagAt?_of_mem_scan ht)
  obtain ⟨name, rest, rfl, rfl, hnamed, hends⟩ := exists_named hn
  rw [List.take_left] at hname
  have hdrop : text.drop (t.start + 1) = name ++ rest := by
    rw [← List.drop_drop, hbehind, List.drop_one, List.tail_cons]
  refine ⟨⟨?_, ?_, ?_⟩, hname ▸ hnamed⟩
  · rw [← Nat.add_zero t.start, ← List.getElem?_drop, hbehind, List.getElem?_cons_zero]
  · rw [hdrop, takeWhile_named hordinary hnamed hends, hname]
  · rw [← List.getElem?_drop, hdrop, hname, List.getElem?_append_right (Nat.le_refl _), Nat.sub_self,
      ← List.head?_eq_getElem?]
    exact nameEnds_iff.1 hends

theorem scanFrom_congr (hnames : ∀ text, sc'.nameLength? text = sc.nameLength? text)
    (hdialect : sc'.dialect = sc.dialect) (skip : Nat) (before : Option Char) (offset : Nat)
    (text : Text) : sc'.scanFrom skip before offset text = sc.scanFrom skip before offset text := by
  have htagAt (offset : Nat) (text : Text) : sc'.tagAt? offset text = sc.tagAt? offset text := by
    unfold tagAt?
    split
    · rw [hnames, hdialect]
    · rfl
  have hread (before : Option Char) (offset : Nat) (text : Text) :
      sc'.read before offset text = sc.read before offset text := by
    rw [read, read, hdialect, htagAt]
  induction text generalizing skip before offset with
  | nil => cases skip <;> rfl
  | cons c rest ih =>
    cases skip with
    | succ skip => rw [scanFrom, scanFrom, ih]
    | zero =>
      rw [scanFrom, scanFrom, hread]
      split
      all_goals rw [ih]

/-- **A scan depends on which names there are**, and not on their order or on how often each one is there. -/
theorem scan_eq_of_same_names {dialect : Dialect} {componentPrefix : Text} {tagNames tagNames' : List Text}
    (hordinary : HasOrdinaryNames ⟨dialect, componentPrefix, tagNames⟩)
    (hsame : ∀ name, name ∈ tagNames' ↔ name ∈ tagNames) :
    scan ⟨dialect, componentPrefix, tagNames'⟩ = scan ⟨dialect, componentPrefix, tagNames⟩ := by
  have hordinary' : HasOrdinaryNames ⟨dialect, componentPrefix, tagNames'⟩ := by
    intro name hname
    rw [List.mem_cons, hsame, ← List.mem_cons] at hname
    exact hordinary name hname
  have hlength (text : Text) : nameLength? ⟨dialect, componentPrefix, tagNames'⟩ text =
      nameLength? ⟨dialect, componentPrefix, tagNames⟩ text := by
    ext n
    rw [nameLength?_eq_some_iff hordinary, nameLength?_eq_some_iff hordinary']
    simp only [IsNamed.congr hsame]
  funext text
  exact scanFrom_congr hlength rfl 0 none 0 text

end Scans

end SourceMark.Scanner
