/-
Leading drift. A working text that has only blanks in front of the file's text is marked as that text is: the blanks stay
in front, the same tags are marked, and each of them gets the same line of the file, however often it is repeated.

Results:
- `Scanner.scan_drifted`: the scan finds the same tags, each as far behind as the blanks are long.
- `Line.resolve_drifted`: copies correspond as before, so a place has the same line on disk.
- `Annotator.candidates_drifted`, `Annotator.splice_drifted`: a pass finds and marks the same candidates.
- `Annotator.annotate_drifted`: marking the plain tags commutes with leading blanks.
-/
import SourceMark.Proofs.Lines.Resolve
import SourceMark.Proofs.Scan.Languages
import SourceMark.Proofs.Scan.Rescan

namespace SourceMark

def Tag.shift (n : Nat) (t : Tag) : Tag :=
  { t with start := n + t.start }

def Candidate.shift (n : Nat) (c : Candidate) : Candidate :=
  { c with tag := c.tag.shift n }

/-! ## Scanning -/

namespace Scanner

variable {sc : Scanner}

def Reading.shift (n : Nat) : Reading → Reading
  | .tag t => .tag (t.shift n)
  | reading => reading

theorem tagAt?_shift (sc : Scanner) (n offset : Nat) (text : Text) :
    sc.tagAt? (n + offset) text = (sc.tagAt? offset text).map (·.shift n) := by
  unfold tagAt?
  split
  · rw [Option.map_map]
    congr 1
    funext k
    rw [Function.comp_apply]
    split <;> rfl
  · rfl

theorem read_shift (sc : Scanner) (n : Nat) (before : Option Char) (offset : Nat) (text : Text) :
    sc.read before (n + offset) text = (sc.read before offset text).shift n := by
  unfold read
  split
  · rfl
  · split
    · rfl
    · rw [tagAt?_shift]
      cases sc.tagAt? offset text <;> rfl

theorem scanFrom_shift (sc : Scanner) (n skip : Nat) (before : Option Char) (offset : Nat) (text : Text) :
    sc.scanFrom skip before (n + offset) text = (sc.scanFrom skip before offset text).map (·.shift n) := by
  induction text generalizing skip before offset with
  | nil => cases skip <;> rfl
  | cons c rest ih =>
    have hnext (skip : Nat) : sc.scanFrom skip (some c) (n + offset + 1) rest =
        (sc.scanFrom skip (some c) (offset + 1) rest).map (·.shift n) := by
      rw [Nat.add_assoc, ih]
    cases skip with
    | succ skip => exact hnext skip
    | zero =>
      rw [scanFrom, scanFrom, read_shift]
      cases sc.read before offset (c :: rest) with
      | ordinary => exact hnext 0
      | stretch k => exact hnext (k - 1)
      | tag t => exact congrArg (t.shift n :: ·) (hnext (t.text.length - 1))

/-- of the character in front it matters only whether a directive may start behind it -/
theorem behindOpaque?_before {before before' : Option Char} (h : Dialect.startsWord before = Dialect.startsWord before')
    (d : Dialect) (text : Text) : behindOpaque? d before text = behindOpaque? d before' text := by
  have hword (word : Text) : behindWord? word before text = behindWord? word before' text := by
    rw [behindWord?, behindWord?, h]
  simp only [behindOpaque?, behindDirectives?, hword]

theorem callHead?_before {before before' : Option Char} (h : Dialect.startsWord before = Dialect.startsWord before')
    (d : Dialect) (text : Text) : callHead? d before text = callHead? d before' text := by
  simp only [callHead?, Dialect.directiveAt?, h]

theorem read_before (sc : Scanner) {before before' : Option Char}
    (h : Dialect.startsWord before = Dialect.startsWord before') (offset : Nat) (text : Text) :
    sc.read before offset text = sc.read before' offset text := by
  rw [read, read, behindOpaque?_before h, call?, call?, callHead?_before h]

theorem scanFrom_before (sc : Scanner) {before before' : Option Char}
    (h : Dialect.startsWord before = Dialect.startsWord before') (offset : Nat) (text : Text) :
    sc.scanFrom 0 before offset text = sc.scanFrom 0 before' offset text := by
  cases text with
  | nil => rfl
  | cons c rest => rw [scanFrom, scanFrom, read_before sc h]

/-- **The tags behind leading drift** are those of the text, as far behind as the drift is long. -/
theorem scan_drifted {glue : Bool} (h : ReadableDialect glue sc.dialect) {drift : Text} (hidle : ∀ c ∈ drift, Idle c)
    (hword : Dialect.startsWord drift.getLast? = true) (text : Text) :
    sc.scan (drift ++ text) = (sc.scan text).map (·.shift drift.length) := by
  have hbefore : sc.scanFrom 0 (drift.getLast?.or none) 0 text = sc.scanFrom 0 none 0 text :=
    scanFrom_before sc (by rw [Option.or_none, hword]; rfl) 0 text
  have hoffset := scanFrom_shift sc drift.length 0 (drift.getLast?.or none) 0 text
  rw [scan, scanFrom_idle h hidle, scan, ← hbefore, ← hoffset, Nat.add_comm]

end Scanner

/-! ## Lines -/

/-- **The line of a tag on disk** is the same with drift in front of the file's text, where the tag has a copy. -/
theorem Line.resolve_drifted {t : Tag} {drift text : Text} (hdrift : '<' ∉ drift)
    (hcopies : Text.occurrences t.text text ≠ []) (offset : Nat) :
    resolve t.text (drift.length + offset) (drift ++ text) (some text) = resolve t.text offset text (some text) := by
  have hne : t.text ≠ [] := List.cons_ne_nil _ _
  have hlength (text : Text) :
      (Text.occurrences t.text (drift ++ text)).length = (Text.occurrences t.text text).length := by
    rw [Tag.text, List.cons_append, List.cons_append, Text.occurrences_behind hdrift, List.length_map]
  have hcount : (copies t.text text).length = (Text.occurrences t.text text).length := by
    rw [copies_eq_map, List.length_map]
  have hanchor : byAnchor? t.text (drift.length + offset) (drift ++ text) text = byAnchor? t.text offset text text := by
    unfold byAnchor?
    cases hlines : copies t.text text with
    | nil => rfl
    | cons line lines =>
      rw [hlines] at hcount
      simp only [hlength, hcount, if_true, List.take_length_add_append]
  rw [byAnchor?_eq_resolve hne _ _ hcopies, byAnchor?_eq_resolve hne _ _ hcopies] at hanchor
  exact Option.some.inj hanchor

/-! ## Marking -/

namespace Annotator

variable (a : Annotator) {drift : Text}

/-- **The candidates behind leading drift** are those of the file's text, with their lines and reasons. -/
theorem candidates_drifted {glue : Bool} (h : Scanner.ReadableDialect glue a.scanner.dialect)
    (hidle : ∀ c ∈ drift, Scanner.Idle c) (hword : Dialect.startsWord drift.getLast? = true) (pass : Pass) (text : Text) :
    a.candidates pass (drift ++ text) (some text) = (a.candidates pass text (some text)).map (·.shift drift.length) := by
  have hdrift : '<' ∉ drift := fun hmem => by
    rcases hidle '<' hmem with hc | hc | hc <;> exact absurd hc (by decide)
  unfold candidates
  rw [Scanner.scan_drifted h hidle hword, List.filter_map, List.map_map, List.map_map]
  refine List.map_congr_left fun t ht => ?_
  have hcopies : Text.occurrences t.text text ≠ [] := by
    obtain ⟨front, rest, htext, -⟩ := (Scanner.scan_placed a.scanner text).of_mem (List.mem_of_mem_filter ht)
    have hne : t.text ≠ [] := List.cons_ne_nil _ _
    obtain ⟨place, later, hplaces, -⟩ := Text.occurrences_around hne front rest
    rw [htext, hplaces]
    simp
  have hline := Line.resolve_drifted hdrift hcopies t.start
  simp only [Function.comp_apply, candidate, Candidate.shift, Candidate.mk.injEq, true_and]
  exact ⟨hline, rfl⟩

theorem splice_append (templateId : Text) (templateId_ne : templateId ≠ []) {cursor : Nat} {text : Text}
    {found : List Candidate} (hfound : ∀ c ∈ found, cursor + drift.length ≤ c.tag.start) :
    a.splice templateId templateId_ne cursor (drift ++ text) found =
      drift ++ a.splice templateId templateId_ne (cursor + drift.length) text found := by
  induction found with
  | nil => rfl
  | cons c found ih =>
    have hstart := hfound c List.mem_cons_self
    rw [splice, splice]
    split_ifs with heligible
    · have hsplit : c.tag.start - cursor = drift.length + (c.tag.start - (cursor + drift.length)) := by omega
      have hstop : c.tag.stop - cursor = drift.length + (c.tag.stop - (cursor + drift.length)) := by
        have := c.tag.start_lt_stop
        omega
      rw [hsplit, hstop, List.take_length_add_append, List.drop_length_add_append, List.append_assoc, List.append_assoc,
        List.append_assoc]
    · exact ih fun d hd => hfound d (List.mem_cons_of_mem _ hd)

theorem splice_shift (templateId : Text) (templateId_ne : templateId ≠ []) (n cursor : Nat) (text : Text)
    (found : List Candidate) :
    a.splice templateId templateId_ne (n + cursor) text (found.map (·.shift n)) =
      a.splice templateId templateId_ne cursor text found := by
  induction found generalizing cursor text with
  | nil => rfl
  | cons c found ih =>
    have hstart : (c.shift n).tag.start - (n + cursor) = c.tag.start - cursor := Nat.add_sub_add_left ..
    have hstop : (c.shift n).tag.stop = n + c.tag.stop := Nat.add_assoc ..
    rw [List.map_cons, splice, splice, hstart, hstop, Nat.add_sub_add_left, ih, ih]
    rfl

/-- **The candidates behind leading drift** are marked as in the file's text. -/
theorem splice_drifted (templateId : Text) (templateId_ne : templateId ≠ []) (drift text : Text)
    (found : List Candidate) :
    a.splice templateId templateId_ne 0 (drift ++ text) (found.map (·.shift drift.length)) =
      drift ++ a.splice templateId templateId_ne 0 text found := by
  have hshift := a.splice_shift templateId templateId_ne drift.length 0 text found
  rw [Nat.add_zero] at hshift
  rw [a.splice_append, Nat.zero_add, hshift]
  intro c hc
  obtain ⟨d, -, rfl⟩ := List.mem_map.1 hc
  show 0 + drift.length ≤ drift.length + d.tag.start
  omega

/-- **Leading drift does not change the result.** When the file's text is known and components are left alone, blanks in
front of it stay in front of the marked text. The same tags are candidates, each with the same reason to be left alone or
the same lack of one, and each with the same line of the file. -/
theorem annotate_drifted {s : Settings} (hcomponents : s.markComponents = false) {drift : Text}
    (hdrift : ∀ c ∈ drift, c ∈ [' ', '\t', '\n']) (text : Text) {templateId : Text} (templateId_ne : templateId ≠ []) :
    ∃ r, (ofSettings s).annotate text templateId (some text) = .ok r ∧
      (ofSettings s).annotate (drift ++ text) templateId (some text) = .ok { r with output := drift ++ r.output } ∧
      (ofSettings s).candidates .plain (drift ++ text) (some text) =
        ((ofSettings s).candidates .plain text (some text)).map (·.shift drift.length) := by
  have hidle : ∀ c ∈ drift, Scanner.Idle c := fun c hc =>
    Or.inl ((show ∀ c ∈ [' ', '\t', '\n'], Text.isInert c = true by decide) c (hdrift c hc))
  have hword : Dialect.startsWord drift.getLast? = true := by
    cases hlast : drift.getLast? with
    | none => rfl
    | some c =>
      have hblanks : ∀ c ∈ [' ', '\t', '\n'], Dialect.startsWord (some c) = true := by decide
      exact hblanks c (hdrift c (List.mem_of_getLast? hlast))
  have hcandidates := (ofSettings s).candidates_drifted s.language.readableDialect hidle hword .plain text
  have hpasses : (ofSettings s).passes = [.plain] := by
    rw [passes, if_neg (by rw [ofSettings, hcomponents]; decide)]
  have hsplice := (ofSettings s).splice_drifted templateId templateId_ne drift text
    ((ofSettings s).candidates .plain text (some text))
  have hcount (p : Candidate → Bool) (hp : ∀ c, p (c.shift drift.length) = p c) (found : List Candidate) :
      (found.map (·.shift drift.length)).countP p = found.countP p := by
    rw [List.countP_map]
    exact List.countP_congr fun c _ => by rw [Function.comp_apply, hp]
  have hevents (found : List Candidate) :
      (found.map (·.shift drift.length)).filterMap (·.event?) = found.filterMap (·.event?) := by
    rw [List.filterMap_map]
    rfl
  refine ⟨_, by rw [annotate, dif_pos templateId_ne], ?_, hcandidates⟩
  rw [annotate, dif_pos templateId_ne, hpasses]
  simp only [List.foldl_cons, List.foldl_nil, Progress.step, hcandidates, hsplice, hevents]
  rw [hcount (·.isEligible) fun _ => rfl, hcount (!·.isEligible) fun _ => rfl]

/-- a template with a tag that is repeated, next to a block of code and to a tag that spans lines -/
def repeatedTags : Text :=
  "<p>\n@php <p> @endphp\n<p><div\n title='a'>\n<p>".toList

/-- lines with blanks in front of repeated tags: the markers say 1, 3, 3 and 5, with and without the blanks -/
theorem annotate_drifted_repeatedTags :
    (∃ r, (ofSettings { markComponents := false }).annotate repeatedTags "t".toList (some repeatedTags) = .ok r ∧
      r.output = ["<p data-source=\"eyJ0ZW1wbGF0ZV9pZCI6InQiLCJsaW5lIjoxfQ==\">\n@php <p> @endphp\n",
        "<p data-source=\"eyJ0ZW1wbGF0ZV9pZCI6InQiLCJsaW5lIjozfQ==\">",
        "<div\n title='a' data-source=\"eyJ0ZW1wbGF0ZV9pZCI6InQiLCJsaW5lIjozfQ==\">\n",
        "<p data-source=\"eyJ0ZW1wbGF0ZV9pZCI6InQiLCJsaW5lIjo1fQ==\">"].flatMap String.toList ∧
      (ofSettings { markComponents := false }).annotate ("\n \t\n\n".toList ++ repeatedTags) "t".toList
        (some repeatedTags) = .ok { r with output := "\n \t\n\n".toList ++ r.output } ∧
      (ofSettings { markComponents := false }).candidates .plain ("\n \t\n\n".toList ++ repeatedTags)
          (some repeatedTags) =
        ((ofSettings { markComponents := false }).candidates .plain repeatedTags (some repeatedTags)).map
          (·.shift "\n \t\n\n".toList.length)) ∧
    ((ofSettings { markComponents := false }).candidates .plain repeatedTags (some repeatedTags)).map
      (fun c => (c.tag.start, c.line, c.isEligible)) =
        [(0, 1, true), (21, 3, true), (24, 3, true), (41, 5, true)] := by
  have hdrift : ∀ c ∈ "\n \t\n\n".toList, c ∈ [' ', '\t', '\n'] := by decide
  have hcomponents : Settings.markComponents { markComponents := false } = false := rfl
  obtain ⟨r, hrun, hdrifted, hcandidates⟩ := annotate_drifted hcomponents hdrift repeatedTags
    (show "t".toList ≠ [] by decide)
  refine ⟨⟨r, hrun, ?_, hdrifted, hcandidates⟩, by decide +kernel⟩
  obtain rfl := Except.ok.inj hrun
  decide +kernel

end Annotator

end SourceMark
