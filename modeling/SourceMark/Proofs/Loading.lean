/-
Histories of a loader. A loader lives through changes of settings and of files, and keeps the annotator that it used
last. What it gives is what a loader without a memory would give: the answer of each step follows from the settings that
came into force last, or the settings that a loader starts with, and from the files as they are.

The invariant: an annotator that is kept under the number of the settings in force is the annotator of these settings.

Results:
- `Current.step`: every step keeps the invariant.
- `step_run`: after any history, a step gives what it gives without a memory.
-/
import Mathlib.Data.List.Induction
import SourceMark.Files.Snapshot
import SourceMark.Loader
import SourceMark.Proofs.Paths.Standard

namespace SourceMark.Loader

/-! ## Answers without a memory -/

/-- the directories that template ids are taken from with settings in force -/
def rootsFor (searchPath : List Text) (settings : Settings) (files : FileSystem) : List Text :=
  if settings.templateRoots = [] then searchPath.map (Path.absolute files.workingDirectory) else settings.templateRoots

/-- a source as a new annotator for the settings marks it; the lines are those of the file as it is, when it can be read
-/
def marked (searchPath : List Text) (settings : Settings) (files : FileSystem) (source : Text)
    (fileName : Option Text) : Except AnnotateError Text :=
  let name := fileName.getD []
  if settings.enabled = false ∨ name = [] then .ok source
  else
    let path := Path.absolute files.workingDirectory name
    let templateId := TemplateId.ofPath path (rootsFor searchPath settings files) settings.templateExtension
    ((Annotator.ofSettings settings).annotate source templateId (files.readText path).toOption).map (·.output)

/-- what a step gives with settings in force and files as they are -/
def Step.answer (searchPath : List Text) (settings : Settings) (files : FileSystem) :
    Step → Option (Except LoadError Text)
  | .configure _ => none
  | .changeFiles _ => none
  | .preprocess source fileName => some ((marked searchPath settings files source fileName).mapError .unmarked)
  | .load name =>
    match (start searchPath).find files name with
    | .error e => some (.error e)
    | .ok path =>
      match files.readText path with
      | .error e => some (.error (.unreadable e))
      | .ok source => some ((marked searchPath settings files source (some path)).mapError .unmarked)

def Step.settings (before : Settings) : Step → Settings
  | .configure settings => settings
  | _ => before

def Step.files (before : FileSystem) : Step → FileSystem
  | .changeFiles files => files
  | _ => before

/-- whether the file name that a step tells holds no null character -/
def Step.NulFree : Step → Prop
  | .preprocess _ fileName => ∀ name, fileName = some name → nul ∉ name
  | _ => True

/-! ## One step -/

/-- a state with these settings in force and these files: an annotator that is kept under the number of the settings is
theirs -/
structure State.Current (searchPath : List Text) (settings : Settings) (files : FileSystem) (s : State) : Prop where
  searchPath_eq : s.loader.searchPath = searchPath
  settings_eq : s.loader.settings = settings
  files_eq : s.files = files
  kept : ∀ a, s.loader.annotator? = some (s.loader.generation, a) → a = .ofSettings settings

section Current

variable {searchPath : List Text} {settings : Settings} {files : FileSystem} {s : State}

theorem current_start (searchPath : List Text) (files : FileSystem) :
    State.Current searchPath defaultSettings files ⟨start searchPath, files⟩ where
  searchPath_eq := rfl
  settings_eq := rfl
  files_eq := rfl
  kept a h := absurd h (by simp [start])

theorem State.Current.annotatorFor_eq (h : s.Current searchPath settings files) :
    s.loader.annotatorFor = .ofSettings settings := by
  unfold annotatorFor
  rw [h.settings_eq]
  split
  · rfl
  · next generation a ha =>
    split
    · next hgeneration =>
      rw [hgeneration] at ha
      exact h.kept a ha
    · rfl

theorem State.Current.keep (h : s.Current searchPath settings files) :
    State.Current searchPath settings files { s with loader := s.loader.keep } where
  searchPath_eq := h.searchPath_eq
  settings_eq := h.settings_eq
  files_eq := h.files_eq
  kept a ha := by
    simp only [Loader.keep, Option.some.injEq, Prod.mk.injEq, true_and] at ha
    rw [← ha]
    exact h.annotatorFor_eq

theorem State.Current.roots_eq (h : s.Current searchPath settings files) :
    s.loader.roots files = rootsFor searchPath settings files := by
  simp only [roots, rootsFor, h.searchPath_eq, h.settings_eq, List.isEmpty_iff]

theorem readText_ne_nul {path : Text} (hpath : nul ∉ path) : files.readText path ≠ .error .nulInPath := by
  have hcontains : path.contains nul = false := by simpa using hpath
  simp only [FileSystem.readText, hcontains, Bool.false_eq_true, if_false]
  split
  · simp
  · split <;> simp

/-- the text of a file is missing only when the file cannot be read -/
theorem diskText_eq {path : Text} (hpath : nul ∉ path) :
    diskText files path = .ok (files.readText path).toOption := by
  unfold diskText
  cases hread : files.readText path with
  | ok text => rfl
  | error e =>
    cases e with
    | nulInPath => exact absurd hread (readText_ne_nul hpath)
    | fault cause path => rfl
    | notUtf8 e => rfl

theorem State.Current.preprocess (h : s.Current searchPath settings files) (source : Text) (fileName : Option Text) :
    State.Current searchPath settings files (s.after (s.loader.preprocess files source fileName)).1 := by
  unfold State.after Loader.preprocess
  split
  · exact h
  · exact h
  · split
    · dsimp only
      split
      · exact h
      · split
        · exact h.keep
        · exact h.keep
    · exact h

theorem State.Current.preprocess_eq (h : s.Current searchPath settings files) (hfiles : nul ∉ files.workingDirectory)
    (source : Text) {fileName : Option Text} (hname : ∀ name, fileName = some name → nul ∉ name) :
    (s.loader.preprocess files source fileName).1 =
      (marked searchPath settings files source fileName).mapError .unmarked := by
  unfold Loader.preprocess
  split
  · simp [marked, Except.mapError]
  · simp [marked, Except.mapError]
  · next c rest =>
    rw [h.settings_eq]
    cases henabled : settings.enabled with
    | false => simp [marked, henabled, Except.mapError]
    | true =>
      have hpath := Path.nul_notMem_absolute hfiles (hname _ rfl)
      simp only [if_true, diskText_eq hpath, h.annotatorFor_eq, h.roots_eq, marked, henabled, Option.getD_some,
        List.cons_ne_nil, Bool.true_eq_false, or_self, if_false]
      cases (Annotator.ofSettings settings).annotate source _ _ <;> rfl

theorem nul_notMem_of_find {loader : Loader} {name path : Text} (h : loader.find files name = .ok path) :
    nul ∉ path := by
  intro hnul
  unfold find at h
  split at h
  · exact absurd h (by simp)
  · split at h
    · exact absurd h (by simp)
    · next paths hpaths found hfound =>
      obtain rfl := Except.ok.inj h
      have hfile := List.find?_some hfound
      rw [files.isFile_nul _ hnul] at hfile
      exact absurd hfile (by decide)

theorem State.Current.find_eq (h : s.Current searchPath settings files) (name : Text) :
    s.loader.find files name = (start searchPath).find files name := by
  simp only [find, candidates?, h.searchPath_eq, start]

/-- **Every step keeps the invariant.** -/
theorem State.Current.step (h : s.Current searchPath settings files) (step : Step) :
    State.Current searchPath (step.settings settings) (step.files files) (s.step step).1 := by
  cases step with
  | configure new => exact ⟨h.searchPath_eq, rfl, h.files_eq, fun a ha => absurd ha (by simp [State.step, configure])⟩
  | changeFiles new => exact ⟨h.searchPath_eq, h.settings_eq, rfl, h.kept⟩
  | preprocess source fileName =>
    simp only [State.step, h.files_eq]
    exact h.preprocess source fileName
  | load name =>
    simp only [State.step, h.files_eq, load]
    split
    · exact h
    · split
      · exact h
      · exact h.preprocess _ _

/-- **A step gives what it gives without a memory.** -/
theorem State.Current.step_eq (h : s.Current searchPath settings files) (hfiles : nul ∉ files.workingDirectory)
    {step : Step} (hstep : step.NulFree) : (s.step step).2 = step.answer searchPath settings files := by
  cases step with
  | configure new => rfl
  | changeFiles new => rfl
  | preprocess source fileName =>
    simp only [State.step, State.after, h.files_eq, Step.answer]
    exact congrArg some (h.preprocess_eq hfiles source hstep)
  | load name =>
    simp only [State.step, State.after, h.files_eq, load, h.find_eq, Step.answer]
    cases hfind : (start searchPath).find files name with
    | error e => rfl
    | ok path =>
      have hpath : ∀ name, some path = some name → nul ∉ name := by
        rintro _ ⟨⟩
        exact nul_notMem_of_find hfind
      dsimp only
      cases files.readText path with
      | error e => rfl
      | ok source => exact congrArg some (h.preprocess_eq hfiles source hpath)

end Current

/-! ## Histories -/

def State.run (s : State) (history : List Step) : State :=
  history.foldl (fun s step => (s.step step).1) s

def settingsAfter (history : List Step) : Settings :=
  history.foldl Step.settings defaultSettings

def filesAfter (files : FileSystem) (history : List Step) : FileSystem :=
  history.foldl Step.files files

theorem current_run (searchPath : List Text) (files : FileSystem) (history : List Step) :
    State.Current searchPath (settingsAfter history) (filesAfter files history)
      (State.run ⟨start searchPath, files⟩ history) := by
  induction history using List.reverseRecOn with
  | nil => exact current_start searchPath files
  | append_singleton history step ih =>
    simp only [settingsAfter, filesAfter, State.run, List.foldl_append, List.foldl_cons, List.foldl_nil]
    exact ih.step step

/-- **A loader never uses a stale annotator.** After any history, a source or a template is marked as a new annotator
for the settings that came into force last marks it, with the roots of these settings and the files as they are. -/
theorem step_run (searchPath : List Text) (files : FileSystem) (history : List Step) (step : Step)
    (hfiles : nul ∉ (filesAfter files history).workingDirectory) (hstep : step.NulFree) :
    ((State.run ⟨start searchPath, files⟩ history).step step).2 =
      step.answer searchPath (settingsAfter history) (filesAfter files history) := by
  have hcurrent := current_run searchPath files history
  exact hcurrent.step_eq hfiles hstep

/-- the settings of a new loader with another name for the marker's attribute -/
def renamed : Settings :=
  { defaultSettings with
    attributeName := "data-b".toList
    accepts_attributeName := by decide }

def noFiles : FileSystem :=
  Snapshot.toFileSystem [] "/".toList

/-- a source is marked, and then other settings come into force -/
def changeover : List Step :=
  [.preprocess "<p>".toList (some "/a.html".toList), .configure renamed]

/-- behind other settings the annotator that was kept is not used -/
theorem step_run_renamed : nul ∉ (filesAfter noFiles changeover).workingDirectory ∧
    (Step.preprocess "<p>".toList (some "/a.html".toList)).NulFree ∧
    ((State.run ⟨start [], noFiles⟩ changeover).step (.preprocess "<p>".toList (some "/a.html".toList))).2 =
      some (.ok "<p data-b=\"eyJ0ZW1wbGF0ZV9pZCI6ImEiLCJsaW5lIjoxfQ==\">".toList) := by
  have hfiles : nul ∉ (filesAfter noFiles changeover).workingDirectory := by decide
  have hstep : (Step.preprocess "<p>".toList (some "/a.html".toList)).NulFree := by
    rintro _ ⟨⟩
    decide
  refine ⟨hfiles, hstep, ?_⟩
  rw [step_run [] noFiles changeover _ hfiles hstep]
  decide +kernel

end SourceMark.Loader
