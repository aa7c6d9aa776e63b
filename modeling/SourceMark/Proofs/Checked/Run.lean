/-
The annotator as a run that says where it fails. Lines, tokens and places of slashes are asked for and may be missing,
tokens are made from checked fields, and every loop has to move on. The id of the template comes from outside. No
settings and no source make such a run fail: what it gives is what the annotator gives, and only an id can be refused.

Results:
- `insertMarker_eq`, `encode_eq`: the last slash is there when it is asked for, and a text and a line are the fields of
  a reference.
- `annotate_eq`, `preview_eq`, `build_eq`: each run gives what the annotator gives.
- `annotate_fault_iff`: the only faults are an empty id, and an id with a lone surrogate when a tag is to be marked.
-/
import SourceMark.Proofs.Checked.Lines
import SourceMark.Proofs.Checked.Scan
import SourceMark.Proofs.RawIds
import SourceMark.Proofs.Splice
import SourceMark.Proofs.Token

namespace SourceMark.Checked

/-! ## Marked tags -/

def lastSlash (text : Text) : Except Fault Nat :=
  match text.reverse.findIdx? (· == '/') with
  | some n => .ok (text.length - 1 - n)
  | none => .error (.noSlash text)

def insertMarker (marker : Text) (t : Tag) : Except Fault Text :=
  if t.isSelfClosing then do
    let slash ← lastSlash t.text
    .ok (Text.dropEnd Text.isHorizontalBlank (t.text.take slash) ++ ' ' :: marker ++ " />".toList)
  else .ok (Text.dropEnd Text.isHorizontalBlank t.text.dropLast ++ ' ' :: marker ++ ['>'])

def encode (templateId : RawText) (line : Nat) : Except Fault Text :=
  match Reference.ofRaw templateId line with
  | .ok reference => .ok reference.token
  | .error errors => .error (.invalidReference errors)

theorem lastSlash_eq {front behind : Text} (h : '/' ∉ behind) :
    lastSlash (front ++ '/' :: behind) = .ok front.length := by
  have hfind : (front ++ '/' :: behind).reverse.findIdx? (· == '/') = some behind.length := by
    rw [List.findIdx?_eq_some_iff_getElem]
    refine ⟨by simp, by simp, fun j hj => ?_⟩
    have hj : j < behind.reverse.length := by simpa using hj
    have hmem : behind.reverse[j] ∈ behind := List.mem_reverse.1 (List.getElem_mem hj)
    have hne : behind.reverse[j] ≠ '/' := fun heq => h (heq ▸ hmem)
    simp only [List.reverse_append, List.reverse_cons, List.append_assoc]
    rw [List.getElem_append_left hj]
    simpa using hne
  rw [lastSlash, hfind, List.length_append, List.length_cons]
  exact congrArg Except.ok (by omega)

/-- **The last slash of a self-closing tag is there.** -/
theorem insertMarker_eq (marker : Text) (t : Tag) : insertMarker marker t = .ok (Marker.insert marker t) := by
  unfold insertMarker Marker.insert
  by_cases hcloses : t.isSelfClosing = true
  · obtain ⟨front, behind, hinner, hblank⟩ : ∃ front behind, t.inner = front ++ '/' :: behind ∧
        ∀ c ∈ behind, Text.isBlank c = true := exists_slash hcloses
    have hbehind : '/' ∉ behind ++ ['>'] := by
      rw [List.mem_append, not_or]
      exact ⟨slash_notMem_of_blank hblank, by decide⟩
    have htext : t.text = front ++ '/' :: (behind ++ ['>']) := by
      rw [t.text_eq_inner, hinner]
      simp
    rw [if_pos hcloses, if_pos hcloses, htext, lastSlash_eq hbehind, ok_bind, List.take_left, hinner,
      beforeSlash_append (slash_notMem_of_blank hblank)]
  · rw [if_neg hcloses, if_neg hcloses, t.text_eq_inner, List.dropLast_concat]

/-- **The fields of a token are accepted** when the id is a text. -/
theorem encode_eq {templateId : Text} (hid : templateId ≠ []) {line : Nat} (hline : 0 < line) :
    encode (.ofText templateId) line = .ok (Reference.token ⟨templateId, line, hid, hline⟩) := by
  obtain ⟨⟨id, n, hid, hn⟩, hfields, rfl, hsame⟩ := Reference.exists_ofFields hid (show (1 : Int) ≤ line by omega)
  obtain rfl := Int.ofNat.inj hsame
  have hraw : Reference.ofRaw (.ofText id) n = .ok ⟨id, n, hid, hn⟩ := by
    rw [Reference.ofRaw, RawText.toText?_ofText]
    exact hfields
  rw [encode, hraw]

/-- the fault that a refused id stands for -/
def faultOf : RefusedId → Fault
  | .unfit .emptyTemplateId => .emptyTemplateId
  | .invalidReference errors => .invalidReference errors

/-- **An id that is no text is no field of a token.** -/
theorem encode_refused {templateId : RawText} (hid : templateId.toText? = none) {line : Nat} (hline : 0 < line) :
    encode templateId line = .error (faultOf Annotator.notUnicode) := by
  have hline' : Reference.checkLine (some (.int line)) = .ok ⟨line, hline⟩ := dif_pos (Int.natCast_pos.2 hline)
  have hraw : Reference.ofRaw templateId line = .error [⟨Reference.templateIdField, none, .notUnicode⟩] := by
    rw [Reference.ofRaw, hid, hline']
  rw [encode, hraw]
  rfl

/-! ## Candidates -/

/-- a tag that a pass selects, its line, and why it is left alone if it is -/
structure Sighting where
  tag : Tag
  line : Nat
  reason : Option Reason

def Sighting.isEligible (c : Sighting) : Bool :=
  c.reason.isNone

def Sighting.event? (c : Sighting) : Option Event :=
  c.reason.map (.skipped c.tag.name c.line ·)

def sighting (c : Candidate) : Sighting :=
  ⟨c.tag, c.line, c.reason⟩

section Annotator

variable (a : Annotator)

/-- the sighting of a tag of `buffer` -/
def classify (buffer : Text) (disk : Option Text) (t : Tag) : Except Fault Sighting := do
  let line ← resolve t.text t.start buffer disk
  .ok ⟨t, line, a.reason? t⟩

/-- the sightings of a pass, left to right -/
def sightings (pass : Pass) (buffer : Text) (disk : Option Text) : Except Fault (List Sighting) := do
  let tags ← scan a.scanner buffer
  (tags.filter fun t => a.selects pass t.name).mapM (classify a buffer disk)

/-- the buffer from `cursor` on with the eligible tags marked -/
def rewrite (templateId : RawText) (buffer : Text) : (cursor : Nat) → List Sighting → Except Fault Text
  | cursor, [] => .ok (buffer.drop cursor)
  | cursor, c :: rest =>
    if c.isEligible then do
      let token ← encode templateId c.line
      let marked ← insertMarker (Marker.text a.settings.attributeName token) c.tag
      let behind ← rewrite templateId buffer c.tag.stop rest
      .ok (slice buffer cursor c.tag.start ++ marked ++ behind)
    else rewrite templateId buffer cursor rest

/-- goes on with one pass -/
def step (templateId : RawText) (disk : Option Text) (p : Annotator.Progress) (pass : Pass) :
    Except Fault Annotator.Progress := do
  let found ← sightings a pass p.buffer disk
  let buffer ← rewrite a templateId p.buffer 0 found
  .ok { buffer
        marked := p.marked + found.countP (·.isEligible)
        skipped := p.skipped + found.countP (!·.isEligible)
        events := p.events ++ found.filterMap (·.event?) }

/-- what the passes over a template come to; `disk` is the file's text when it is known -/
def annotate (source : Text) (templateId : RawText) (disk : Option Text) : Except Fault Annotator.Progress :=
  if templateId.isEmpty then .error .emptyTemplateId
  else a.passes.foldlM (step a templateId disk) ⟨source, 0, 0, []⟩

/-- the sightings of all passes over the source as it is, each tag once, left to right -/
def preview (source : Text) (disk : Option Text) : Except Fault (List Sighting) := do
  let found ← a.passes.foldlM (fun found pass => do
    let here ← sightings a pass source disk
    .ok (found ++ here.filter fun c => found.all (·.tag.start != c.tag.start))) []
  .ok (found.mergeSort fun c d => c.tag.start ≤ d.tag.start)

variable {a} (hd : Sound a.scanner.dialect)

include hd

/-- **The sightings of a pass are its candidates.** -/
theorem sightings_eq (pass : Pass) (buffer : Text) (disk : Option Text) :
    sightings a pass buffer disk = .ok ((a.candidates pass buffer disk).map sighting) := by
  have hclassify (tags : List Tag) : tags.mapM (classify a buffer disk) =
      (.ok ((tags.map (a.candidate buffer disk)).map sighting) : Except Fault (List Sighting)) := by
    induction tags with
    | nil => rfl
    | cons t tags ih =>
      rw [List.mapM_cons, ih, classify, resolve_eq]
      rfl
  rw [sightings, scan_eq hd, ok_bind, hclassify, Annotator.candidates]

omit hd in
/-- **Slices of the buffer join as its rests do.** -/
theorem rewrite_eq {templateId : Text} (hid : templateId ≠ []) {buffer : Text} {cursor : Nat} {found : List Candidate}
    (h : Placed cursor (buffer.drop cursor) (found.map (·.tag))) :
    rewrite a (.ofText templateId) buffer cursor (found.map sighting) =
      .ok (a.splice templateId hid cursor (buffer.drop cursor) found) := by
  induction found generalizing cursor with
  | nil => rfl
  | cons c found ih =>
    have h : Placed cursor (buffer.drop cursor) (c.tag :: found.map (·.tag)) := h
    obtain ⟨front, rest, htext, hstart, hrest⟩ := h
    have heligible : (sighting c).isEligible = c.isEligible := rfl
    rw [List.map_cons, rewrite, Annotator.splice, heligible]
    by_cases hc : c.isEligible = true
    · have hbehind : buffer.drop c.tag.stop = rest := by
        have hle := c.tag.start_lt_stop
        have hdrop := drop_stop htext hstart
        rwa [List.drop_drop, show cursor + (c.tag.stop - cursor) = c.tag.stop by omega] at hdrop
      have hrest' := ih (hbehind ▸ hrest)
      have htoken : encode (.ofText templateId) (sighting c).line =
          .ok (Reference.token ⟨templateId, c.line, hid, c.line_pos⟩) := encode_eq hid c.line_pos
      rw [if_pos hc, if_pos hc, drop_stop htext hstart, ← hbehind, htoken, ok_bind, insertMarker_eq, ok_bind]
      have htag : (sighting c).tag = c.tag := rfl
      rw [htag, hrest']
      rfl
    · rw [if_neg hc, if_neg hc]
      exact ih (htext ▸ Placed.skip hstart hrest)

omit hd in
/-- under an id that is no text, the buffer stays as it is unless a tag is to be marked -/
theorem rewrite_refused {templateId : RawText} (hid : templateId.toText? = none) (buffer : Text) (cursor : Nat)
    (found : List Candidate) : rewrite a templateId buffer cursor (found.map sighting) =
      if found.any (·.isEligible) then .error (faultOf Annotator.notUnicode) else .ok (buffer.drop cursor) := by
  induction found with
  | nil => rfl
  | cons c found ih =>
    have heligible : (sighting c).isEligible = c.isEligible := rfl
    rw [List.map_cons, rewrite, heligible, List.any_cons]
    by_cases hc : c.isEligible = true
    · have htoken : encode templateId (sighting c).line = .error (faultOf Annotator.notUnicode) :=
        encode_refused hid c.line_pos
      rw [if_pos hc, htoken, hc, Bool.true_or, if_pos rfl]
      rfl
    · rw [if_neg hc, ih, Bool.eq_false_iff.2 hc, Bool.false_or]

theorem step_eq {templateId : Text} (hid : templateId ≠ []) (disk : Option Text) (p : Annotator.Progress)
    (pass : Pass) :
    step a (.ofText templateId) disk p pass = .ok (Annotator.Progress.step a templateId hid disk p pass) := by
  have hplaced : Placed 0 (p.buffer.drop 0) ((a.candidates pass p.buffer disk).map (·.tag)) :=
    a.candidates_placed pass p.buffer disk
  rw [step, sightings_eq hd, ok_bind, rewrite_eq hid hplaced, ok_bind, List.countP_map, List.countP_map,
    List.filterMap_map]
  rfl

theorem step_refused {templateId : RawText} (hid : templateId.toText? = none) (disk : Option Text)
    (p : Annotator.Progress) (pass : Pass) :
    step a templateId disk p pass = (Annotator.Progress.stepRefused a disk p pass).mapError faultOf := by
  rw [step, sightings_eq hd, ok_bind, rewrite_refused hid]
  dsimp only [Annotator.Progress.stepRefused]
  by_cases hany : (a.candidates pass p.buffer disk).any (·.isEligible) = true
  · rw [if_pos hany, if_pos hany]
    rfl
  · have hnone : ∀ c ∈ a.candidates pass p.buffer disk, ¬c.isEligible = true := by
      simpa [List.any_eq_true] using hany
    have hmarked : (a.candidates pass p.buffer disk).countP (·.isEligible) = 0 := List.countP_eq_zero.2 hnone
    have hskipped : (a.candidates pass p.buffer disk).countP (!·.isEligible) =
        (a.candidates pass p.buffer disk).length := by
      rw [List.countP_eq_length]
      intro c hc
      rw [Bool.eq_false_iff.2 (hnone c hc)]
      rfl
    rw [if_neg hany, if_neg hany, ok_bind, List.countP_map, List.countP_map, List.filterMap_map]
    have hmarked' : (a.candidates pass p.buffer disk).countP ((·.isEligible) ∘ sighting) = 0 := hmarked
    have hskipped' : (a.candidates pass p.buffer disk).countP ((!·.isEligible) ∘ sighting) =
        (a.candidates pass p.buffer disk).length := hskipped
    rw [hmarked', hskipped']
    rfl

theorem foldlM_step_refused {templateId : RawText} (hid : templateId.toText? = none) (disk : Option Text)
    (passes : List Pass) (p : Annotator.Progress) : passes.foldlM (step a templateId disk) p =
      (passes.foldlM (Annotator.Progress.stepRefused a disk) p).mapError faultOf := by
  induction passes generalizing p with
  | nil => rfl
  | cons pass passes ih =>
    rw [List.foldlM_cons, List.foldlM_cons, step_refused hd hid]
    cases Annotator.Progress.stepRefused a disk p pass with
    | error e => rfl
    | ok q => exact ih q

theorem foldlM_step_eq {templateId : Text} (hid : templateId ≠ []) (disk : Option Text) (passes : List Pass)
    (p : Annotator.Progress) : passes.foldlM (step a (.ofText templateId) disk) p =
      .ok (passes.foldl (Annotator.Progress.step a templateId hid disk) p) := by
  induction passes generalizing p with
  | nil => rfl
  | cons pass passes ih => rw [List.foldlM_cons, step_eq hd hid, ok_bind, ih, List.foldl_cons]

/-- **A run marks what the annotator marks**, and refuses the ids that it refuses. -/
theorem annotate_eq (source : Text) (templateId : RawText) (disk : Option Text) :
    annotate a source templateId disk = (a.annotateRaw source templateId disk).mapError faultOf := by
  rw [annotate, Annotator.annotateRaw]
  cases htext : templateId.toText? with
  | none =>
    have hne : ¬templateId.isEmpty = true := by
      rw [List.isEmpty_iff]
      rintro rfl
      exact absurd htext (Option.some_ne_none _)
    rw [if_neg hne, foldlM_step_refused hd htext]
  | some id =>
    obtain rfl := RawText.toText?_eq_some_iff.1 htext
    by_cases hid : id = []
    · subst hid
      rfl
    · have hne : ¬(RawText.ofText id).isEmpty = true := by
        rw [List.isEmpty_iff]
        exact fun hnil => hid (List.map_eq_nil_iff.1 hnil)
      rw [if_neg hne, foldlM_step_eq hd hid]
      dsimp only
      rw [dif_pos hid]
      rfl

/-- **A preview shows the annotator's candidates.** -/
theorem preview_eq (source : Text) (disk : Option Text) :
    preview a source disk = .ok ((a.preview source disk).map sighting) := by
  have hfold (passes : List Pass) (found : List Candidate) :
      passes.foldlM (fun found pass => do
        let here ← sightings a pass source disk
        .ok (found ++ here.filter fun c => found.all (·.tag.start != c.tag.start))) (found.map sighting) =
      (.ok ((passes.foldl (fun found pass =>
        found ++ (a.candidates pass source disk).filter fun c => found.all (·.tag.start != c.tag.start)) found).map
          sighting) : Except Fault (List Sighting)) := by
    induction passes generalizing found with
    | nil => rfl
    | cons pass passes ih =>
      rw [List.foldlM_cons, sightings_eq hd, ok_bind, ok_bind, List.foldl_cons, ← ih, List.map_append, List.filter_map]
      simp only [List.all_map]
      rfl
  have hsort (found : List Candidate) : (found.map sighting).mergeSort (fun c d => c.tag.start ≤ d.tag.start) =
      (found.mergeSort fun c d => c.tag.start ≤ d.tag.start).map sighting := by
    refine (List.map_mergeSort fun c _ d _ => ?_).symm
    rfl
  have hfound := hfold a.passes []
  rw [List.map_nil] at hfound
  rw [preview, hfound, ok_bind, hsort]
  rfl

end Annotator

/-! ## Annotators -/

/-- the dialect of a language name -/
def dialectOf (name : Text) : Except Fault Dialect :=
  match Language.ofName? name with
  | some language => .ok language.dialect
  | none => .error (.unknownLanguage name)

def build (s : Settings) : Except Fault Annotator := do
  let dialect ← dialectOf s.language.name
  match Scanner.build dialect (some s.componentPrefix) s.targetTags with
  | .ok scanner => .ok ⟨s, scanner⟩
  | .error .noNames => .error .noNames

/-- **Settings have an annotator.** -/
theorem build_eq (s : Settings) : build s = .ok (.ofSettings s) := by
  have hdialect : dialectOf s.language.name = .ok s.dialect := by
    rw [dialectOf, Language.ofName?_name]
    rfl
  rw [build, hdialect, ok_bind, Annotator.build_eq_ok]
  rfl

/-- **When an annotator fails.** All settings have an annotator. It previews every source, whatever is on disk, with each
line at least one. It marks every source under every text but the empty one. There are two faults: the empty id; and an
id with a lone surrogate, when the preview shows a tag that is to be marked. -/
theorem annotate_fault_iff (s : Settings) :
    ∃ a, build s = .ok a ∧ a = .ofSettings s ∧ ∀ (source : Text) (disk : Option Text),
      (∃ found, preview a source disk = .ok found ∧ found = (a.preview source disk).map sighting ∧
        ∀ c ∈ found, 1 ≤ c.line) ∧
      (∀ templateId : Text, templateId ≠ [] ↔ ∃ p, annotate a source (.ofText templateId) disk = .ok p ∧
        a.annotate source templateId disk = .ok (p.finish templateId)) ∧
      ∀ (templateId : RawText) (fault : Fault), annotate a source templateId disk = .error fault ↔
        templateId = [] ∧ fault = .emptyTemplateId ∨
        (∃ half, .surrogate half ∈ templateId) ∧ (∃ c ∈ a.preview source disk, c.isEligible = true) ∧
          fault = .invalidReference [⟨Reference.templateIdField, none, .notUnicode⟩] := by
  have hsound := sound_dialect s.language
  refine ⟨_, build_eq s, rfl, fun source disk => ⟨⟨_, preview_eq hsound source disk, rfl, ?_⟩, ?_, ?_⟩⟩
  · intro c hc
    obtain ⟨candidate, -, rfl⟩ := List.mem_map.1 hc
    exact candidate.line_pos
  · intro templateId
    refine Annotator.annotateRaw_ofText.trans (exists_congr fun p => and_congr_left fun _ => ?_)
    rw [annotate_eq (a := .ofSettings s) hsound]
    cases (Annotator.ofSettings s).annotateRaw source (.ofText templateId) disk with
    | error e => exact iff_of_false nofun nofun
    | ok q => simp [Except.mapError]
  · intro templateId fault
    rw [annotate_eq (a := .ofSettings s) hsound, mapError_eq_error_iff]
    constructor
    · rintro ⟨e, he, rfl⟩
      rcases Annotator.annotateRaw_eq_error_iff.1 he with ⟨hid, rfl⟩ | ⟨hhalf, hfound, rfl⟩
      · exact .inl ⟨hid, rfl⟩
      · exact .inr ⟨hhalf, hfound, rfl⟩
    · rintro (⟨hid, rfl⟩ | ⟨hhalf, hfound, rfl⟩)
      · exact ⟨_, Annotator.annotateRaw_eq_error_iff.2 (.inl ⟨hid, rfl⟩), rfl⟩
      · exact ⟨_, Annotator.annotateRaw_eq_error_iff.2 (.inr ⟨hhalf, hfound, rfl⟩), rfl⟩

/-- the id of a template whose file has a name that ends in a byte of no character -/
def strayByte : RawText :=
  RawText.ofText "bad".toList ++ [.surrogate ⟨0xDCFF, by decide⟩]

/-- a source with one tag to be marked, under an id that is not empty and no text -/
theorem annotate_strayByte : strayByte ≠ [] ∧
    annotate (.ofSettings .standard) "<div>".toList strayByte none =
      .error (.invalidReference [⟨Reference.templateIdField, none, .notUnicode⟩]) := by
  refine ⟨by decide, ?_⟩
  rw [annotate_eq (sound_dialect Settings.standard.language)]
  rfl

end SourceMark.Checked
