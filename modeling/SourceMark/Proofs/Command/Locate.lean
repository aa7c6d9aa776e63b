/-
Locating a token comes to an exit code for whatever is given, as long as the roots can be resolved: no text that is
printed stops the console, the line of a reference is never refused, and a path that is a file has no null character. A
root whose links never end stops the run.

Results:
- `body_rowMarkup`, `lineSaid_eq_iff`: what is printed of a line of an excerpt, and which lines are printed as they stand.
- `showsLines_rows`: the lines of the window are printed in order, and the line asked for is marked once.
- `runLocate_exitCode`: which exit code stands for what, what is printed, and what stops a run.
- `runLocate_of_unlinked`: without links nothing stops a run.
-/
import SourceMark.Proofs.Command.Messages
import SourceMark.Proofs.Console.Said
import SourceMark.Proofs.Excerpts
import SourceMark.Proofs.Paths.Links
import SourceMark.Proofs.Paths.Lookup
import SourceMark.Proofs.Paths.Standard

namespace SourceMark.Command

open Markup

/-! ## Rows -/

section Rows

variable {e : Excerpt} {number : Nat} {text : Text}

/-- what stands between the number and the line: the mark of the line asked for, or as many blanks -/
def mark (e : Excerpt) (number : Nat) : Text :=
  if number = e.line then " > ".toList else "   ".toList

/-- what is said of a line of an excerpt: no backslash in front of a bracket that begins no tag; a single backslash at the
end twice, unless the line is the one asked for; of several at the end of that line the first half, and with an odd
number of them the tag behind it -/
def lineSaid (asked : Bool) (line : Text) : Text :=
  withoutSlashes (beforeSlashes line) ++
    if asked then List.replicate (slashesWritten line / 2) '\\' ++
      if slashesWritten line % 2 = 1 then "[/yellow]".toList else []
    else List.replicate (slashesWritten line) '\\'

/-- a line of an excerpt that is said as it stands: each backslash in front of a bracket stands in front of a tag, and
there is not a single backslash at the end; the line asked for may have one there, but not more -/
def IsSaidWhole (asked : Bool) (line : Text) : Prop :=
  (∀ front rest, line = front ++ '\\' :: '[' :: rest → tag? ('[' :: rest) ≠ none) ∧
    if asked then slashesAtEnd line ≤ 1 else slashesAtEnd line ≠ 1

/-- **Which lines are said as they stand.** -/
theorem lineSaid_eq_iff (asked : Bool) (line : Text) : lineSaid asked line = line ↔ IsSaidWhole asked line := by
  rw [lineSaid, IsSaidWhole, ← withoutSlashes_eq_iff]
  cases asked with
  | false =>
    rw [if_neg (by decide), if_neg (by decide), withoutSlashes_append_eq_iff, slashesWritten]
    refine and_congr_right fun _ => ?_
    split_ifs <;> omega
  | true =>
    rw [if_pos rfl, if_pos rfl]
    by_cases hodd : slashesWritten line % 2 = 1
    · rw [if_pos hodd]
      -- the line ends with a backslash, what is said of it with a bracket
      have hslashes : 1 < slashesAtEnd line := by
        rw [slashesWritten] at hodd
        split_ifs at hodd
        omega
      refine iff_of_false (fun h => ?_) (fun h => absurd h.2 (Nat.not_le_of_lt hslashes))
      have hsaid := congrArg List.getLast? h
      rw [← beforeSlashes_append line, ← Nat.succ_pred_eq_of_pos (Nat.lt_of_succ_lt hslashes), List.replicate_succ',
        ← List.append_assoc] at hsaid
      simp at hsaid
    · rw [if_neg hodd, List.append_nil, withoutSlashes_append_eq_iff]
      refine and_congr_right fun _ => ?_
      rw [slashesWritten] at hodd ⊢
      split_ifs at hodd ⊢ <;> omega

theorem plain_front : Plain (gutter e number ++ mark e number) := by
  refine (plain_gutter e number).append ?_
  unfold mark
  split_ifs <;> decide

theorem Plain.body_append {front : Text} (h : Plain front) (rest : Text) : body (front ++ rest) = front ++ body rest :=
  Markup.body_append (fun _ hc => ⟨h.ne_bracket hc, (h _ hc).2⟩) rest

/-- **A row of an excerpt** says the number, the mark, and what is said of the line. -/
theorem body_rowMarkup (e : Excerpt) (number : Nat) (text : Text) : body (rowMarkup e number text) =
    gutter e number ++ mark e number ++ lineSaid (decide (number = e.line)) text := by
  by_cases hnumber : number = e.line
  · have hyellow : "yellow" ∈ colours := by decide
    have hmark : mark e number = " > ".toList := if_pos hnumber
    have hmarkup : rowMarkup e number text = '[' :: ("yellow".toList ++ ']' :: (gutter e number ++ mark e number ++
        (escape text ++ '[' :: ('/' :: "yellow".toList ++ ']' :: [])))) := by
      rw [rowMarkup, if_pos hnumber, hmark]
      simp [coloured]
    have hopening := body_tag (isTag_colour _ hyellow).1 0 (gutter e number ++ mark e number ++
      (escape text ++ '[' :: ('/' :: "yellow".toList ++ ']' :: [])))
    rw [List.replicate_zero, List.nil_append] at hopening
    rw [hmarkup, hopening, plain_front.body_append, body_escape_tag text (isTag_colour _ hyellow).2, lineSaid,
      decide_eq_true hnumber, if_pos rfl]
    rw [show body [] = [] from rfl, List.append_nil]
    rfl
  · have hmark : mark e number = "   ".toList := if_neg hnumber
    rw [rowMarkup, if_neg hnumber, ← hmark, plain_front.body_append, body_escape_nil, lineSaid,
      decide_eq_false hnumber, if_neg (by decide)]

theorem length_gutter (h : number ≤ e.endLine) : (gutter e number).length = (Text.decimal e.endLine).length := by
  have hdigits : (Text.decimal number).length ≤ (Text.decimal e.endLine).length := by
    unfold Text.decimal
    rw [Nat.length_toDigits_le_iff (by decide) (List.length_pos_of_ne_nil Nat.toDigits_ne_nil)]
    refine Nat.lt_of_le_of_lt h ?_
    rw [← Nat.length_toDigits_le_iff (by decide) (List.length_pos_of_ne_nil Nat.toDigits_ne_nil)]
  rw [gutter, List.length_append, List.length_replicate]
  omega

def rows (e : Excerpt) : List Text :=
  (e.lines.zipIdx e.startLine).map fun (text, number) => rowMarkup e number text

/-- whether what a row says has the mark behind the room of the numbers -/
def isMarked (e : Excerpt) (row : Text) : Bool :=
  " > ".toList.isPrefixOf ((body row).drop (Text.decimal e.endLine).length)

theorem isMarked_rowMarkup (h : number ≤ e.endLine) (text : Text) :
    isMarked e (rowMarkup e number text) = decide (number = e.line) := by
  rw [isMarked, body_rowMarkup, List.append_assoc, ← length_gutter h, List.drop_left, mark]
  by_cases hnumber : number = e.line
  · rw [if_pos hnumber, decide_eq_true hnumber]
    rfl
  · rw [if_neg hnumber, decide_eq_false hnumber]
    rfl

/-- rows that show the lines of a text in the window of an excerpt: each says its number and its line, which stands as in
the text just when it is said whole, and the mark stands at the line that is asked for if the text has it, and nowhere
else -/
structure ShowsLines (text : Text) (e : Excerpt) (rows : List Text) : Prop where
  length_rows : rows.length = e.endLine + 1 - e.startLine
  row : ∀ number, e.startLine ≤ number → number ≤ e.endLine → ∃ line row,
    (Excerpt.linesOf text)[number - 1]? = some line ∧ rows[number - e.startLine]? = some row ∧
      body row = gutter e number ++ mark e number ++ lineSaid (decide (number = e.line)) line ∧
      (body row = gutter e number ++ mark e number ++ line ↔ IsSaidWhole (decide (number = e.line)) line)
  count_marked : rows.countP (isMarked e) = if e.line ≤ e.totalLines then 1 else 0

theorem number_le {line context : Nat} (h : Excerpt.IsWindow text line context e) {row : Text × Nat}
    (hrow : row ∈ e.lines.zipIdx e.startLine) : row.2 ≤ e.endLine := by
  have hlast := (List.mem_zipIdx hrow).2.1
  have hlength := h.length_lines
  have hstart := h.start_le
  omega

/-- **The lines of the window are printed in order**, and the line asked for is marked once. -/
theorem showsLines_rows {line context : Nat} (h : Excerpt.IsWindow text line context e) (hline : 1 ≤ line) :
    ShowsLines text e (rows e) where
  length_rows := by
    rw [rows, List.length_map, List.length_zipIdx, h.length_lines]
  row := by
    intro number hfirst hlast
    have hinside : number - 1 < (Excerpt.linesOf text).length := by
      have hend := h.end_le
      have htotal := h.total
      have hstart := h.start_pos
      omega
    have hget := List.getElem?_eq_getElem hinside
    have hbody := body_rowMarkup e number (Excerpt.linesOf text)[number - 1]
    refine ⟨_, rowMarkup e number (Excerpt.linesOf text)[number - 1], hget, ?_, hbody, ?_⟩
    · rw [rows, List.getElem?_map, List.getElem?_zipIdx, h.getElem?_lines number hfirst hlast, hget,
        Option.map_some, Option.map_some, Nat.add_sub_cancel' hfirst]
    · rw [hbody, List.append_cancel_left_eq, lineSaid_eq_iff]
  count_marked := by
    calc (rows e).countP (isMarked e)
        = (e.lines.zipIdx e.startLine).countP fun row => decide (row.2 = e.line) := by
          rw [rows, List.countP_map]
          apply List.countP_congr
          intro row hrow
          rw [Function.comp_apply, isMarked_rowMarkup (number_le h hrow)]
      _ = (List.range' e.startLine e.lines.length).count line := by
          rw [← List.zipIdx_map_snd, List.count, List.countP_map, h.line_eq]
          rfl
      _ = if e.line ≤ e.totalLines then 1 else 0 := by
          rw [h.count_numbers hline, h.line_eq]

end Rows

/-! ## Outcomes -/

section Console

variable (console : Console)

theorem complaint_of_isBalanced {markup : Text} (h : isBalanced markup = true) (exitCode : Nat) (logged : Text) :
    complaint console exitCode logged markup = { exitCode, errors := .text (logged ++ console.print markup) } :=
  if_pos h

theorem printedInTurn_of_isBalanced {markups : List Text} (h : ∀ markup ∈ markups, isBalanced markup = true) :
    printedInTurn console markups = { exitCode := 0, output := .text (markups.flatMap console.print) } := by
  have hall : markups.takeWhile isBalanced = markups := List.takeWhile_eq_self_iff.2 h
  rw [printedInTurn, hall]
  exact if_pos rfl

theorem isBalanced_of_mem_excerptMarkups {located : Located} {e : Excerpt} :
    ∀ markup ∈ excerptMarkups located e, isBalanced markup = true := by
  intro markup hmarkup
  rcases List.mem_cons.1 hmarkup with rfl | hrow
  · exact isBalanced_placeMarkup located
  · obtain ⟨⟨text, number⟩, -, rfl⟩ := List.mem_map.1 hrow
    exact isBalanced_rowMarkup e number text

theorem exists_invalidSettings (message : Text) :
    ∃ told, invalidSettings console message = { exitCode := 2, errors := .text told } :=
  ⟨_, complaint_of_isBalanced console (isBalanced_invalidSettings message) 2 []⟩

end Console

/-! ## Locating -/

section Locate

variable (files : FileSystem) (settings : Settings) (reference : Reference)

def HasNoFile : Prop :=
  ∀ path ∈ TemplateId.candidates reference.templateId settings.templateRoots settings.templateExtension,
    files.isFile path = false

/-- the path is that of the reference's file, below the first root that has one -/
def IsFileOf (path : Text) : Prop :=
  TemplateId.toPath? files reference.templateId settings.templateRoots settings.templateExtension = some path

/-- the file at a path cannot be read, or is not UTF-8 -/
def IsUnreadable (path : Text) : Prop :=
  (∃ cause, files.read (Path.tidy path) = .error cause) ∨
    ∃ bytes error, files.read (Path.tidy path) = .ok bytes ∧ Utf8.decode bytes = .error error

/-- there is no text to show for the reference -/
def HasNoText : Prop :=
  HasNoFile files settings reference ∨ ∃ path, IsFileOf files settings reference path ∧ IsUnreadable files path

variable {files settings reference}

theorem hasNoFile_iff : HasNoFile files settings reference ↔
    TemplateId.toPath? files reference.templateId settings.templateRoots settings.templateExtension = none := by
  rw [TemplateId.toPath?, List.find?_eq_none]
  simp [HasNoFile]

theorem exists_readable (h : ¬HasNoText files settings reference) :
    ∃ path, IsFileOf files settings reference path ∧ ¬IsUnreadable files path := by
  rw [HasNoText, not_or, hasNoFile_iff] at h
  obtain ⟨path, hpath⟩ := Option.ne_none_iff_exists'.1 h.1
  exact ⟨path, hpath, fun hunreadable => h.2 ⟨path, hpath, hunreadable⟩⟩

/-- a path that is a file has no null character, and reading comes to a text or to an error of the file -/
theorem readText_cases {path : Text} (hfile : files.isFile path = true) :
    (∃ text, files.readText (Path.tidy path) = .ok text ∧ ¬IsUnreadable files path) ∨
      ∃ error, error ≠ .nulInPath ∧ files.readText (Path.tidy path) = .error error ∧ IsUnreadable files path := by
  have hnul : (Path.tidy path).contains nul = false := by
    rw [List.contains_eq_mem, decide_eq_false_iff_not]
    intro hmem
    have hpath := files.isFile_nul path (Path.mem_of_mem_tidy (by decide) (by decide) hmem)
    rw [hfile] at hpath
    exact absurd hpath (by decide)
  rw [FileSystem.readText, hnul, if_neg (by decide)]
  unfold IsUnreadable
  cases hread : files.read (Path.tidy path) with
  | error cause => exact .inr ⟨.fault cause _, nofun, rfl, .inl ⟨cause, rfl⟩⟩
  | ok bytes =>
    dsimp only
    cases hdecode : Utf8.decode bytes with
    | error error => exact .inr ⟨.notUtf8 error, nofun, rfl, .inr ⟨bytes, error, rfl, hdecode⟩⟩
    | ok text =>
      refine .inl ⟨Text.unifyNewlines text, rfl, ?_⟩
      rintro (⟨cause, hcause⟩ | ⟨other, error, hother, herror⟩)
      · exact absurd hcause nofun
      · rw [← Except.ok.inj hother, hdecode] at herror
        exact absurd herror nofun

variable {console : Console}

theorem unreadable_of_ne (located : Located) {error : FileError} (h : error ≠ .nulInPath) :
    ∃ told, unreadable console located (.unreadable error) = { exitCode := 2, errors := .text told } := by
  have hbalanced := isBalanced_unreadable located.path (ExcerptError.unreadable error).message
  cases error with
  | nulInPath => exact absurd rfl h
  | fault cause path => exact ⟨_, complaint_of_isBalanced console hbalanced 2 []⟩
  | notUtf8 error => exact ⟨_, complaint_of_isBalanced console hbalanced 2 []⟩

variable {env : Environment} {verbose : Bool} {token : Text} {roots : List Text} {extension : Option Text}
  {context : Nat}

/-- a root that cannot be resolved stops the run, unless it holds a null character -/
theorem runLocate_of_unresolved {e : ResolveError} (h : roots.mapM files.resolve = .error e) :
    e = .nulInPath ∧ (∃ told, runLocate console files env verbose token roots extension context =
      { exitCode := 2, errors := .text told }) ∨
    e ≠ .nulInPath ∧ runLocate console files env verbose token roots extension context = failed (.unresolved e) [] := by
  have hsetUp : setUp files env roots none none extension false = .error (.unresolved e) := by
    rw [setUp, h]
  simp only [runLocate, hsetUp]
  cases e with
  | nulInPath => exact .inl ⟨rfl, exists_invalidSettings console _⟩
  | endless path => exact .inr ⟨nofun, rfl⟩
  | tooDeep => exact .inr ⟨nofun, rfl⟩
  | unreadableLink cause path => exact .inr ⟨nofun, rfl⟩
  | noDirectory cause => exact .inr ⟨nofun, rfl⟩

variable {resolved : List Text}

theorem setUp_of_resolved (h : roots.mapM files.resolve = .ok resolved) :
    setUp files env roots none none extension false =
      (Settings.ofEnvironment env (overrides resolved none none extension false)).mapError .invalid := by
  rw [setUp, h]

/-- without valid settings nothing else is looked at -/
theorem runLocate_of_invalid {error : Settings.EnvironmentError} (hroots : roots.mapM files.resolve = .ok resolved)
    (h : Settings.ofEnvironment env (overrides resolved none none extension false) = .error error) : ∃ told,
    runLocate console files env verbose token roots extension context = { exitCode := 2, errors := .text told } := by
  have hsetUp : setUp files env roots none none extension false = _ := setUp_of_resolved hroots
  simp only [runLocate, hsetUp, h]
  exact exists_invalidSettings console error.message

theorem lookup_of_isFileOf {path : Text} (hread : Token.read? token = some reference)
    (hpath : IsFileOf files settings reference path) :
    lookup files (.text token) settings.templateRoots settings.templateExtension = .ok ⟨reference, path⟩ := by
  rw [lookup_of_read hread, show TemplateId.toPath? files _ _ _ = some path from hpath]

section Valid

variable (h : setUp files env roots none none extension false = .ok settings)

include h

theorem runLocate_of_not_read (hread : Token.read? token = none) : ∃ told,
    runLocate console files env verbose token roots extension context = { exitCode := 1, errors := .text told } := by
  simp only [runLocate, h, lookup_of_not_read hread]
  exact ⟨_, complaint_of_isBalanced console isBalanced_invalidReference 1 []⟩

variable (hread : Token.read? token = some reference)

include hread

theorem runLocate_of_hasNoText (hnone : HasNoText files settings reference) : ∃ told,
    runLocate console files env verbose token roots extension context = { exitCode := 2, errors := .text told } := by
  rcases hnone with hnone | ⟨path, hpath, hunreadable⟩
  · have hpath := hasNoFile_iff.1 hnone
    simp only [runLocate, h, lookup_of_read hread, hpath]
    exact ⟨_, complaint_of_isBalanced console (isBalanced_notFound _) 2 _⟩
  · simp only [runLocate, h, lookup_of_isFileOf hread hpath]
    rcases readText_cases (List.find?_some hpath) with ⟨text, -, hreadable⟩ | ⟨error, hne, herror, -⟩
    · exact absurd hunreadable hreadable
    · rw [Excerpt.ofFile_of_unread herror reference.line_pos]
      exact unreadable_of_ne _ hne

theorem runLocate_of_readable {path : Text} (hpath : IsFileOf files settings reference path)
    (hreadable : ¬IsUnreadable files path) : ∃ text e,
    files.readText (Path.tidy path) = .ok text ∧ Excerpt.ofFile files path reference.line context = .ok e ∧
      Excerpt.IsWindow text reference.line context e ∧
      runLocate console files env verbose token roots extension context =
        { exitCode := 0, output := .text ((placeMarkup ⟨reference, path⟩ :: rows e).flatMap console.print) } := by
  rcases readText_cases (List.find?_some hpath) with ⟨text, htext, -⟩ | ⟨error, -, -, hunreadable⟩
  · have hexcerpt := Excerpt.ofFile_of_read htext reference.line_pos context
    refine ⟨text, _, htext, hexcerpt, Excerpt.isWindow_window path text reference.line_pos context, ?_⟩
    simp only [runLocate, h, lookup_of_isFileOf hread hpath, hexcerpt]
    exact printedInTurn_of_isBalanced console isBalanced_of_mem_excerptMarkups
  · exact absurd hunreadable hreadable

end Valid

end Locate

/-- what locating a token comes to with valid settings: the exit code is 1 just when the token holds no reference, and 2
just when there is no text to show for the reference; otherwise it is 0, and what is printed is the place and then the
lines of the excerpt in order, with the line of the reference marked once if the file has it; a console that shows text
as it is prints what they say, each on a line of its own -/
structure Locates (console : Console) (files : FileSystem) (settings : Settings) (token : Text) (context : Nat)
    (outcome : Outcome) : Prop where
  one_iff : outcome.exitCode = 1 ↔ Token.read? token = none
  two_iff : outcome.exitCode = 2 ↔
    ∃ reference, Token.read? token = some reference ∧ HasNoText files settings reference
  zero : outcome.exitCode = 1 ∨ outcome.exitCode = 2 ∨ outcome.exitCode = 0 ∧ ∃ reference path text e,
    Token.read? token = some reference ∧ IsFileOf files settings reference path ∧
    files.readText (Path.tidy path) = .ok text ∧ Excerpt.ofFile files path reference.line context = .ok e ∧
    Excerpt.IsWindow text reference.line context e ∧
    outcome.output = .text ((placeMarkup ⟨reference, path⟩ :: rows e).flatMap console.print) ∧
    (console.PrintsText →
      outcome.output = .text ((placeMarkup ⟨reference, path⟩ :: rows e).flatMap (body · ++ ['\n']))) ∧
    ShowsLines text e (rows e)

theorem runLocate_of_valid {console : Console} {files : FileSystem} {env : Environment} {verbose : Bool} {token : Text}
    {roots : List Text} {extension : Option Text} {context : Nat} {settings : Settings}
    (h : setUp files env roots none none extension false = .ok settings) :
    let outcome := runLocate console files env verbose token roots extension context
    outcome.written = none ∧ outcome.failure = none ∧ Locates console files settings token context outcome := by
  intro outcome
  cases hread : Token.read? token with
  | none =>
    obtain ⟨told, htold⟩ : ∃ told, outcome = { exitCode := 1, errors := .text told } := runLocate_of_not_read h hread
    rw [htold]
    refine ⟨rfl, rfl, iff_of_true rfl hread, ?_, .inl rfl⟩
    simp [hread]
  | some reference =>
    by_cases hnone : HasNoText files settings reference
    · obtain ⟨told, htold⟩ : ∃ told, outcome = { exitCode := 2, errors := .text told } :=
        runLocate_of_hasNoText h hread hnone
      rw [htold]
      refine ⟨rfl, rfl, ?_, iff_of_true rfl ⟨reference, hread, hnone⟩, .inr (.inl rfl)⟩
      simp [hread]
    · obtain ⟨path, hpath, hreadable⟩ := exists_readable hnone
      obtain ⟨text, e, htext, hexcerpt, hwindow, hprinted⟩ : ∃ text e, _ ∧ _ ∧ _ ∧ outcome = _ :=
        runLocate_of_readable h hread hpath hreadable
      rw [hprinted]
      have hshows := showsLines_rows hwindow reference.line_pos
      have hsaid (h : console.PrintsText) : Printed.text ((placeMarkup ⟨reference, path⟩ :: rows e).flatMap console.print) =
          .text ((placeMarkup ⟨reference, path⟩ :: rows e).flatMap (body · ++ ['\n'])) := by
        rw [funext (Console.print_of_printsText h)]
      refine ⟨rfl, rfl, ?_, ?_, .inr (.inr ⟨rfl, reference, path, text, e, hread, hpath, htext, hexcerpt, hwindow, rfl,
        hsaid, hshows⟩)⟩
      · simp [hread]
      · simpa [hread] using hnone

theorem runLocate_of_resolved {console : Console} {files : FileSystem} {env : Environment} {verbose : Bool}
    {token : Text} {roots resolved : List Text} {extension : Option Text} {context : Nat}
    (hroots : roots.mapM files.resolve = .ok resolved) :
    let outcome := runLocate console files env verbose token roots extension context
    outcome.written = none ∧ outcome.failure = none ∧
      match Settings.ofEnvironment env (overrides resolved none none extension false) with
      | .error _ => outcome.exitCode = 2
      | .ok settings => Locates console files settings token context outcome := by
  intro outcome
  cases hsettings : Settings.ofEnvironment env (overrides resolved none none extension false) with
  | error error =>
    obtain ⟨told, htold⟩ : ∃ told, outcome = { exitCode := 2, errors := .text told } :=
      runLocate_of_invalid hroots hsettings
    rw [htold]
    exact ⟨rfl, rfl, rfl⟩
  | ok settings =>
    have hsetUp : setUp files env roots none none extension false = .ok settings := by
      rw [setUp_of_resolved hroots, hsettings]
      rfl
    exact runLocate_of_valid hsetUp

/-- **What locating a token comes to**, whatever the console, the files, the environment, the token and the options are.
Nothing is written. The roots are resolved first. One that cannot be resolved stops the run with exit code 1 and nothing
printed, but for one that holds a null character, which makes the exit code 2. Otherwise nothing stops the run: the exit
code is 2 when the settings are not valid, and with valid settings it is as `Locates` says. -/
theorem runLocate_exitCode (console : Console) (files : FileSystem) (env : Environment) (verbose : Bool)
    (token : Text) (roots : List Text) (extension : Option Text) (context : Nat) :
    let outcome := runLocate console files env verbose token roots extension context
    outcome.written = none ∧
      match roots.mapM files.resolve with
      | .error e =>
        (e = .nulInPath → outcome.failure = none ∧ outcome.exitCode = 2) ∧
        (e ≠ .nulInPath → outcome.failure = some (.unresolved e) ∧ outcome.exitCode = 1 ∧
          outcome.output = .text [] ∧ outcome.errors = .text [])
      | .ok resolved =>
        outcome.failure = none ∧
          match Settings.ofEnvironment env (overrides resolved none none extension false) with
          | .error _ => outcome.exitCode = 2
          | .ok settings => Locates console files settings token context outcome := by
  intro outcome
  cases hroots : roots.mapM files.resolve with
  | error e =>
    rcases runLocate_of_unresolved hroots with ⟨rfl, told, htold⟩ | ⟨hne, hfailed⟩
    · have htold : outcome = { exitCode := 2, errors := .text told } := htold
      rw [htold]
      exact ⟨rfl, fun _ => ⟨rfl, rfl⟩, fun hne => absurd rfl hne⟩
    · have hfailed : outcome = failed (.unresolved e) [] := hfailed
      rw [hfailed]
      exact ⟨rfl, fun heq => absurd heq hne, fun _ => ⟨rfl, rfl, rfl, rfl⟩⟩
  | ok resolved => exact runLocate_of_resolved hroots

/-- **Without links nothing stops a run.** -/
theorem runLocate_of_unlinked {files : FileSystem} (h : files.Unlinked) (console : Console) (env : Environment)
    (verbose : Bool) (token : Text) (roots : List Text) (extension : Option Text) (context : Nat) :
    (runLocate console files env verbose token roots extension context).failure = none := by
  rcases FileSystem.mapM_resolve_of_unlinked h roots with hroots | ⟨resolved, hroots⟩
  · rcases runLocate_of_unresolved hroots with ⟨-, told, htold⟩ | ⟨hne, -⟩
    · rw [htold]
    · exact absurd rfl hne
  · exact (runLocate_of_resolved hroots).2.1

/-- files with a link that leads to itself -/
def endlessLink : FileSystem :=
  (Snapshot.toFileSystem [] "/w".toList).withLinks { endless := ["/w/loop".toList] }

/-- a file of two lines, the first of which ends with a backslash -/
def slashedFile : FileSystem :=
  Snapshot.toFileSystem [("/w/v/t.blade.php".toList, .ok (Utf8.encode "a\\\nb".toList))] "/w".toList

def secondLine : Reference :=
  ⟨"t".toList, 2, by decide, by decide⟩

theorem runLocate_slashedFile : (runLocate (.ofWidth 80) slashedFile [] false secondLine.token ["v".toList] none 5).output =
    .text "/w/v/t.blade.php:2 (t)\n1   a\\\\\n2 > b\n".toList := by
  have hsetUp : setUp slashedFile [] ["v".toList] none none none false =
      .ok { Settings.standard with templateRoots := ["/w/v".toList] } := by
    rfl
  have hpath : IsFileOf slashedFile { Settings.standard with templateRoots := ["/w/v".toList] } secondLine
      "/w/v/t.blade.php".toList := by
    unfold IsFileOf
    decide +kernel
  have htext : slashedFile.readText (Path.tidy "/w/v/t.blade.php".toList) = .ok "a\\\nb".toList := by
    decide +kernel
  have hlookup := lookup_of_isFileOf (Token.read?_token secondLine) hpath
  have hexcerpt := Excerpt.ofFile_of_read htext secondLine.line_pos 5
  simp only [runLocate, hsetUp, hlookup, hexcerpt]
  rw [printedInTurn_of_isBalanced _ isBalanced_of_mem_excerptMarkups]
  refine congrArg Printed.text ?_
  decide +kernel

/-- two ways in which a run comes out otherwise than it should: a root that leads to itself stops it, and the backslash
at the end of the first line of a file is printed twice -/
theorem runLocate_astray :
    (runLocate (.ofWidth 80) endlessLink [] false secondLine.token ["loop".toList] none 5).failure =
      some (.unresolved (.endless "/w/loop".toList)) ∧
    secondLine.token = "eyJ0ZW1wbGF0ZV9pZCI6InQiLCJsaW5lIjoyfQ==".toList ∧
    (runLocate (.ofWidth 80) slashedFile [] false secondLine.token ["v".toList] none 5).output =
      .text "/w/v/t.blade.php:2 (t)\n1   a\\\\\n2 > b\n".toList := by
  have hroots : ["loop".toList].mapM endlessLink.resolve = .error (.endless "/w/loop".toList) := by
    rfl
  refine ⟨?_, by decide +kernel, runLocate_slashedFile⟩
  rcases runLocate_of_unresolved hroots with ⟨hnul, -⟩ | ⟨-, hfailed⟩
  · exact absurd hnul nofun
  · rw [hfailed]
    rfl

end SourceMark.Command
