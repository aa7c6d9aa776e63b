/-
The order of tag names. Settings keep the names of tags in small letters and each one once, and list them as they were
given. What is listed where makes no difference: the scanner reads whole names, a tag is selected by whether its name is
one of them, and nothing else in a run looks at the names.

Results:
- `ofFields_withTags`: settings that differ by the names of tags only.
- `annotate_congr`: what a run depends on.
- `annotate_eq_of_same_names`: templates come out the same whatever the order of the names.
- `scan_wholeNames`: whole names, in any order.
Witness:
- `scan_wholeNames_shared`: names that begin alike, listed in two ways.
-/
import SourceMark.Proofs.Scan.WholeNames
import SourceMark.Proofs.TagGrammar
import SourceMark.Proofs.Token
import SourceMark.Settings.Fields

namespace SourceMark

open Scanner SourceMark.Language

/-! ## Names in settings -/

theorem mem_distinct {text : Text} {texts : List Text} : text ∈ distinct texts ↔ text ∈ texts := by
  induction texts with
  | nil => rfl
  | cons other texts ih =>
    rw [distinct, List.mem_cons, List.mem_cons, List.mem_filter, ih]
    by_cases h : text = other
    · simp [h]
    · simp [h]

theorem mem_normalizeTags {tags : List Text} {name : Text} :
    name ∈ normalizeTags tags ↔ name ≠ [] ∧ ∃ tag ∈ tags, Text.lower (Text.strip tag) = name := by
  rw [normalizeTags, mem_distinct, List.mem_filter, List.mem_map, and_comm, Bool.not_eq_true', List.isEmpty_eq_false_iff]

theorem mem_normalizeTags_congr {tags tags' : List Text} (h : ∀ tag, tag ∈ tags' ↔ tag ∈ tags) (name : Text) :
    name ∈ normalizeTags tags' ↔ name ∈ normalizeTags tags := by
  simp only [mem_normalizeTags, h]

theorem isOrdinary_toLower {c : Char} (h : isOrdinary c = true) : isOrdinary c.toLower = true :=
  Text.forall_ascii (P := fun c => isOrdinary c = true → isOrdinary c.toLower = true) (by decide +kernel)
    (Text.ascii_of_isTail (isTail_of_isOrdinary h)) h

theorem isOrdinary_of_mem_normalizeTags {tags : List Text} (h : ∀ tag ∈ tags, ∀ c ∈ tag, isOrdinary c = true) :
    ∀ name ∈ normalizeTags tags, ∀ c ∈ name, isOrdinary c = true := by
  intro name hname c hc
  obtain ⟨-, tag, htag, rfl⟩ := mem_normalizeTags.1 hname
  have htail : ∀ d ∈ tag, AttributeName.isTail d = true := fun d hd => isTail_of_isOrdinary (h tag htag d hd)
  rw [Text.strip_of_not_isBlank fun d hd => Text.isBlank_of_isTail (htail d hd),
    Text.lower_eq_map fun d hd => Text.ascii_of_isTail (htail d hd)] at hc
  obtain ⟨d, hd, rfl⟩ := List.mem_map.1 hc
  exact isOrdinary_toLower (h tag htag d hd)

namespace Settings

/-- fields with the names of tags behind them -/
def withTags (members : List (Text × Json)) (tags : List Text) : List (Text × Json) :=
  members ++ [(Field.targetTags.name, .array (tags.map .text))]

theorem checkItems_texts (f : Field) (index : Nat) (texts : List Text) :
    checkItems f index (texts.map .text) = .ok texts := by
  induction texts generalizing index with
  | nil => rfl
  | cons text texts ih => rw [List.map_cons, checkItems, ih]; rfl

section WithTags

variable {members : List (Text × Json)} {tags : List Text}

theorem textsField_withTags (default : List Text) :
    textsField (withTags members tags) .targetTags default normalizeTags = .ok (normalizeTags tags) := by
  have hmember : Json.member? Field.targetTags.name (withTags members tags) = some (.array (tags.map .text)) := by
    rw [withTags, Json.member?_append]
    rfl
  simp only [textsField, hmember, checkItems_texts]
  rfl

theorem member?_withTags {f : Field} (hf : f ≠ .targetTags) :
    Json.member? f.name (withTags members tags) = Json.member? f.name members := by
  have hnone : Json.member? f.name [(Field.targetTags.name, .array (tags.map .text))] = none := by
    cases f <;> first | rfl | exact absurd rfl hf
  rw [withTags, Json.member?_append, hnone, Option.none_or]

theorem field_withTags {α : Type} {f : Field} (hf : f ≠ .targetTags) (default : α) (check : Json → Except Problem α) :
    field (withTags members tags) f default check = field members f default check := by
  rw [field, field, member?_withTags hf]

theorem textsField_roots (default : List Text) (adjust : List Text → List Text) :
    textsField (withTags members tags) .templateRoots default adjust = textsField members .templateRoots default adjust := by
  rw [textsField, textsField, member?_withTags (by decide)]

/-- **Settings that differ by the names of tags only**: the other fields are checked without them. -/
theorem ofFields_withTags {s : Settings} (h : ofFields (withTags members tags) = .ok s) (tags' : List Text) :
    s.targetTags = normalizeTags tags ∧
      ofFields (withTags members tags') = .ok { s with targetTags := normalizeTags tags' } := by
  simp only [ofFields, textsField_withTags, textsField_roots, field_withTags, ne_eq, reduceCtorEq, not_false_eq_true] at h ⊢
  split at h
  · next henabled hattribute htags hmark hcomponent hroots hextension hlanguage =>
    obtain rfl := Except.ok.inj h
    obtain rfl := Except.ok.inj htags
    refine ⟨rfl, ?_⟩
    rw [henabled, hattribute, hmark, hcomponent, hroots, hextension, hlanguage]
  · exact absurd h (by simp)

end WithTags

end Settings

/-! ## Runs -/

namespace Annotator

variable {a a' : Annotator}

/-- **What a run depends on**: the tags that are found, which of them the passes select, and how they are marked. -/
theorem annotate_congr (hscan : a'.scanner.scan = a.scanner.scan)
    (hselects : ∀ pass name, a'.selects pass name = a.selects pass name) (hpasses : a'.passes = a.passes)
    (hattribute : a'.settings.attributeName = a.settings.attributeName)
    (hdialect : a'.settings.dialect = a.settings.dialect) (source templateId : Text) (disk : Option Text) :
    a'.annotate source templateId disk = a.annotate source templateId disk := by
  have hcandidate (buffer : Text) : a'.candidate buffer disk = a.candidate buffer disk := by
    funext t
    simp only [candidate, reason?, hattribute, hdialect]
  have hcandidates (pass : Pass) (buffer : Text) :
      a'.candidates pass buffer disk = a.candidates pass buffer disk := by
    simp only [candidates, hscan, hselects, hcandidate]
  have hsplice (templateId_ne : templateId ≠ []) (cursor : Nat) (text : Text) (found : List Candidate) :
      a'.splice templateId templateId_ne cursor text found = a.splice templateId templateId_ne cursor text found := by
    induction found generalizing cursor text with
    | nil => rfl
    | cons c found ih => simp only [splice, mark, hattribute, ih]
  have hstep (templateId_ne : templateId ≠ []) :
      Progress.step a' templateId templateId_ne disk = Progress.step a templateId templateId_ne disk := by
    funext p pass
    simp only [Progress.step, hcandidates, hsplice]
  simp only [annotate, hpasses, hstep]

/-- **Templates come out the same** whatever the order of the names and however often each one is listed. -/
theorem annotate_eq_of_same_names {s : Settings} (hordinary : s.HasOrdinaryNames) {tags : List Text}
    (hnames : ∀ name, name ∈ tags ↔ name ∈ s.targetTags) (source templateId : Text) (disk : Option Text) :
    (ofSettings { s with targetTags := tags }).annotate source templateId disk =
      (ofSettings s).annotate source templateId disk := by
  have hselects (pass : Pass) (name : Text) :
      (ofSettings { s with targetTags := tags }).selects pass name = (ofSettings s).selects pass name := by
    cases pass with
    | component => rfl
    | plain =>
      rw [Bool.eq_iff_iff]
      simp only [selects, isPlain, ofSettings, List.contains_iff_mem, hnames]
  have hscan : (ofSettings { s with targetTags := tags }).scanner.scan = (ofSettings s).scanner.scan :=
    scan_eq_of_same_names hordinary hnames
  exact annotate_congr hscan hselects rfl rfl rfl source templateId disk

end Annotator

namespace Scanner

/-! ## Whole names, in any order -/

/-- what `build` gives is made for the names and the prefix that it was given -/
theorem build_eq_ok {dialect : Dialect} {componentPrefix : Option Text} {tagNames : List Text} {sc : Scanner}
    (h : build dialect componentPrefix tagNames = .ok sc) : sc = ⟨dialect, componentPrefix.getD [], tagNames⟩ := by
  unfold build at h
  dsimp only at h
  split_ifs at h
  exact (Except.ok.inj h).symm

/-- **Tag names are whole words, in any order.** With ordinary names, in any of the built-in languages or in bare HTML, the
name of a tag that is found is the text behind its bracket up to the first blank, slash or closing bracket, and it is one
of the names or the prefix with name characters behind it. Names in another order, or listed more than once, give the same
tags, and settings with them the same templates. -/
theorem scan_wholeNames (language : Option Language) (componentPrefix : Option Text) (tagNames : List Text)
    (hcomponent : ∀ text ∈ componentPrefix, ∀ c ∈ text, isOrdinary c = true)
    (hnames : ∀ name ∈ tagNames, ∀ c ∈ name, isOrdinary c = true) :
    (∀ sc, build (Language.dialectFor language) componentPrefix tagNames = .ok sc → ∀ text, ∀ t ∈ sc.scan text,
      HasWholeName text t ∧ IsNamed (componentPrefix.getD []) tagNames t.name) ∧
    ∀ tagNames' : List Text, (∀ name, name ∈ tagNames' ↔ name ∈ tagNames) →
      (build (Language.dialectFor language) componentPrefix tagNames').map scan =
        (build (Language.dialectFor language) componentPrefix tagNames).map scan ∧
      ∀ members s, Settings.ofFields (Settings.withTags members tagNames) = .ok s →
        (∀ c ∈ s.componentPrefix, isOrdinary c = true) →
        ∃ s', Settings.ofFields (Settings.withTags members tagNames') = .ok s' ∧ ∀ source templateId disk,
          (Annotator.ofSettings s').annotate source templateId disk =
            (Annotator.ofSettings s).annotate source templateId disk := by
  have hordinary : HasOrdinaryNames ⟨Language.dialectFor language, componentPrefix.getD [], tagNames⟩ := by
    intro name hname
    rcases List.mem_cons.1 hname with rfl | hname
    · cases componentPrefix with
      | none => simp
      | some text => exact hcomponent text rfl
    · exact hnames name hname
  refine ⟨fun sc hsc text t ht => ?_, fun tagNames' hsame => ⟨?_, fun members s hs hasked => ?_⟩⟩
  · obtain rfl := build_eq_ok hsc
    exact isNamed_of_mem_scan hordinary ht
  · have hempty : tagNames'.all (·.isEmpty) = tagNames.all (·.isEmpty) := by
      rw [Bool.eq_iff_iff]
      simp only [List.all_eq_true, hsame]
    simp only [build, hempty]
    split_ifs
    · rfl
    · rw [Except.map, Except.map, scan_eq_of_same_names hordinary hsame]
  · obtain ⟨htags, hs'⟩ := Settings.ofFields_withTags hs tagNames'
    have hsettings : s.HasOrdinaryNames := by
      intro name hname
      rcases List.mem_cons.1 hname with rfl | hname
      · exact hasked
      · rw [htags] at hname
        exact isOrdinary_of_mem_normalizeTags hnames name hname
    refine ⟨_, hs', fun source templateId disk => ?_⟩
    refine Annotator.annotate_eq_of_same_names hsettings (fun name => ?_) source templateId disk
    rw [htags]
    exact mem_normalizeTags_congr hsame name

def sharedNames : List Text :=
  ["a", "article", "ar"].map String.toList

/-- the same names in another order, and one of them twice -/
def sharedNamesAgain : List Text :=
  ["ar", "a", "article", "a"].map String.toList

/-- a tag with one of the names, in capitals and small letters -/
def sharedTag : Tag :=
  ⟨"Article".toList, [], 0, false⟩

theorem scan_wholeNames_shared :
    sharedTag ∈ scan ⟨bladeDialect, "a".toList, sharedNames⟩ "<Article><a-b/>".toList ∧
      IsNamed "a".toList sharedNames "Article".toList ∧
      HasWholeName "<Article><a-b/>".toList sharedTag ∧
      (build bladeDialect (some "a".toList) sharedNamesAgain).map scan =
        (build bladeDialect (some "a".toList) sharedNames).map scan ∧
      ∃ s, Settings.ofFields (Settings.withTags [] sharedNamesAgain) = .ok s ∧ ∀ source templateId disk,
        (Annotator.ofSettings s).annotate source templateId disk =
          (Annotator.ofSettings { Settings.standard with targetTags := sharedNames }).annotate source templateId disk := by
  have hcomponent : ∀ text ∈ some "a".toList, ∀ c ∈ text, isOrdinary c = true := by decide +kernel
  have hnames : ∀ name ∈ sharedNames, ∀ c ∈ name, isOrdinary c = true := by decide +kernel
  have hsame : ∀ name, name ∈ sharedNamesAgain ↔ name ∈ sharedNames := by
    intro name
    simp only [sharedNames, sharedNamesAgain, List.map_cons, List.map_nil, List.mem_cons, List.not_mem_nil, or_false]
    tauto
  have hfound : sharedTag ∈ scan ⟨bladeDialect, "a".toList, sharedNames⟩ "<Article><a-b/>".toList := by decide +kernel
  have hsettings : Settings.ofFields (Settings.withTags [] sharedNames) =
      .ok { Settings.standard with targetTags := sharedNames } := rfl
  obtain ⟨hwhole, hany⟩ := scan_wholeNames (some .blade) (some "a".toList) sharedNames hcomponent hnames
  obtain ⟨hhas, hnamed⟩ := hwhole _ rfl _ _ hfound
  obtain ⟨hscan, hrun⟩ := hany sharedNamesAgain hsame
  exact ⟨hfound, hnamed, hhas, hscan, hrun [] _ hsettings (by decide +kernel)⟩

end Scanner

end SourceMark
