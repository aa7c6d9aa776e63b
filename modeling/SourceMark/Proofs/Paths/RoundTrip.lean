/-
From the path of a template to its id and back. An id names the way from the first root that contains the template, and
it is looked for below all roots, so the two agree only in part.

Results:
- `ofPath_eq`: the id of a template is the way from the first root that contains it, with points for slashes.
- `toPath?_ofPath_iff`: a template comes back exactly when the names on its way may be segments and no root before has
  a file on the same way; and what two templates with the same id have in common.
Witnesses:
- `toPath?_ofPath_plain`: a template below the second root comes back.
- `toPath?_ofPath_pointed`: a point in a name is read as a slash, and another template is found.
-/
import SourceMark.Proofs.Paths.Lookup

namespace SourceMark.TemplateId

def IsRoot (root : Text) : Prop :=
  Path.isAbsolute root = true ∧ ∀ c, root.getLast? = some c → ¬IsSeparator c

/-- a template: a file below one of the roots, on a way without empty names, points and pairs of points, with the
extension behind the stem of its last name -/
structure IsTemplate (files : FileSystem) (roots : List Text) (extension path : Text) : Prop where
  isFile : files.isFile path = true
  below_root : ∃ root ∈ roots, ∃ directories stem, stem ≠ [] ∧
    (∀ name ∈ directories ++ [stem ++ extension], name ≠ [] ∧ name ≠ Path.here ∧ name ≠ Path.above ∧ '/' ∉ name) ∧
    path = root ++ '/' :: Text.join ['/'] (directories ++ [stem ++ extension])

/-- where a template lies: the first root that contains it, and the way from there without the extension -/
structure Home (roots : List Text) (extension path : Text) where
  earlier : List Text
  root : Text
  later : List Text
  below : Text
  roots_eq : roots = earlier ++ root :: later
  path_eq : path = root ++ '/' :: (below ++ extension)
  below_ne : below ≠ []
  not_earlier : ∀ r ∈ earlier, ¬(r ++ ['/']) <+: path

/-- whether every name on the way may be a segment and no root before has a file on the same way -/
def Home.Returns {roots : List Text} {extension path : Text} (home : Home roots extension path) (files : FileSystem) :
    Prop :=
  (∀ name ∈ Text.splitOn '/' home.below, IsSegment name) ∧
    ∀ r ∈ home.earlier, files.isFile (r ++ '/' :: (home.below ++ extension)) = false

theorem Home.root_mem {roots : List Text} {extension path : Text} (home : Home roots extension path) :
    home.root ∈ roots := by
  have hmem : home.root ∈ home.earlier ++ home.root :: home.later := by simp
  rwa [← home.roots_eq] at hmem

theorem Home.mem_of_mem_earlier {roots : List Text} {extension path : Text} (home : Home roots extension path)
    {r : Text} (h : r ∈ home.earlier) : r ∈ roots := by
  have hmem : r ∈ home.earlier ++ home.root :: home.later := List.mem_append_left _ h
  rwa [← home.roots_eq] at hmem

/-! ## Roots -/

section Roots

variable {root path : Text}

theorem IsRoot.ne_nil (h : IsRoot root) : root ≠ [] := by
  rintro rfl
  exact absurd h.1 (by decide)

theorem IsRoot.isBase (h : IsRoot root) : IsBase root root := by
  have hlast := List.getLast?_eq_some_getLast h.ne_nil
  exact .inl ⟨[], by simp, by simp, _, hlast, h.2 _ hlast⟩

theorem IsRoot.trimRoot_eq (h : IsRoot root) : trimRoot root = root :=
  isBase_iff.1 h.isBase

theorem IsRoot.getLast?_ne (h : IsRoot root) : root.getLast? ≠ some '/' :=
  fun hlast => h.2 _ hlast (.inl rfl)

theorem IsRoot.under_eq (h : IsRoot root) (relative : Text) : Path.under root relative = root ++ '/' :: relative := by
  rw [Path.under, if_neg (not_or.2 ⟨h.ne_nil, h.getLast?_ne⟩)]

theorem IsRoot.below?_eq_some_iff (h : IsRoot root) {relative : Text} :
    below? root path = some relative ↔ path = root ++ '/' :: relative := by
  have hslash : Text.endsWith ['/'] root = false := by
    rw [Bool.eq_false_iff, ne_eq, Text.endsWith_singleton]
    exact h.getLast?_ne
  rw [below?, hslash, if_neg (by decide : ¬false = true)]
  split_ifs with hpath
  · simp [hpath]
  · simp [Text.dropHead?_eq_some_iff]

theorem IsRoot.below?_eq_none_iff (h : IsRoot root) : below? root path = none ↔ ¬(root ++ ['/']) <+: path := by
  rw [Option.eq_none_iff_forall_ne_some]
  simp only [ne_eq, h.below?_eq_some_iff]
  constructor
  · rintro hno ⟨relative, rfl⟩
    exact hno relative (by simp)
  · rintro hno relative rfl
    exact hno ⟨relative, by simp⟩

end Roots

/-! ## Ids -/

section Ids

variable {files : FileSystem} {roots : List Text} {extension path : Text}

/-- what follows a slash of a path ends with the last name of the path -/
theorem exists_front {front behind before name : Text} (h : front ++ '/' :: behind = before ++ '/' :: name)
    (hname : '/' ∉ name) : ∃ directories, behind = directories ++ name := by
  rcases List.append_eq_append_iff.1 h with ⟨middle, -, hbehind⟩ | ⟨middle, -, hbehind⟩
  · cases middle with
    | nil => exact ⟨[], by simpa using hbehind⟩
    | cons c middle =>
      rw [List.cons_append, List.cons.injEq] at hbehind
      exact ⟨middle ++ ['/'], by simp [hbehind.2]⟩
  · cases middle with
    | nil => exact ⟨[], by simpa using hbehind.symm⟩
    | cons c middle =>
      rw [List.cons_append, List.cons.injEq] at hbehind
      exact absurd (by simp [hbehind.2]) hname

theorem dropExtension_append {stem extension : Text} (hstem : stem ≠ []) (hextension : extension ≠ []) :
    dropExtension extension (stem ++ extension) = stem := by
  have hends : Text.endsWith extension (stem ++ extension) = true := by
    simp [Text.endsWith]
  have hlength : extension.length < (stem ++ extension).length := by
    have := List.length_pos_of_ne_nil hstem
    simp
    omega
  rw [dropExtension, if_pos (by simp [hends, hextension, List.length_pos_of_ne_nil hstem])]
  simp

/-- **A template has a home.** -/
theorem IsTemplate.exists_home (h : IsTemplate files roots extension path) : Nonempty (Home roots extension path) := by
  obtain ⟨-, root, hroot, directories, stem, hstem, hnames, hpath⟩ := h
  have hlast : '/' ∉ stem ++ extension := (hnames _ (by simp)).2.2.2
  -- the last name stands behind a slash of the path
  obtain ⟨front, hfront⟩ : ∃ front, path = front ++ '/' :: (stem ++ extension) := by
    rcases directories.eq_nil_or_concat with rfl | ⟨before, directory, rfl⟩
    · exact ⟨root, by simpa [Text.join] using hpath⟩
    · refine ⟨root ++ '/' :: (before.flatMap (· ++ ['/']) ++ directory), ?_⟩
      rw [hpath, Text.join_snoc]
      simp
  -- the first root that contains the path
  have hsome : (roots.find? fun root => (root ++ ['/']).isPrefixOf path).isSome := by
    rw [List.find?_isSome]
    exact ⟨root, hroot, by simp [hpath]⟩
  obtain ⟨first, hfirst⟩ := Option.isSome_iff_exists.1 hsome
  obtain ⟨hhead, earlier, later, hsplit, hearlier⟩ := List.find?_eq_some_iff_append.1 hfirst
  obtain ⟨behind, hbehind⟩ := List.isPrefixOf_iff_prefix.1 hhead
  rw [List.append_assoc, List.singleton_append] at hbehind
  obtain ⟨middle, rfl⟩ := exists_front (hbehind.trans hfront) hlast
  refine ⟨⟨earlier, first, later, middle ++ stem, hsplit, by simp [← hbehind], by simp [hstem], fun r hr => ?_⟩⟩
  simpa [← List.isPrefixOf_iff_prefix] using hearlier r hr

variable (hroots : ∀ root ∈ roots, IsRoot root)

include hroots

/-- **The id of a template** is the way from the first root that contains it, with points for slashes. -/
theorem ofPath_eq (hextension : extension ≠ []) (home : Home roots extension path) :
    ofPath path roots extension = home.below.map fun c => if c = '/' then '.' else c := by
  have hroot : IsRoot home.root := hroots _ home.root_mem
  have hfirst : roots.findSome? (fun root => (below? (trimRoot root) path).filter (!·.isEmpty)) =
      some (home.below ++ extension) := by
    rw [List.findSome?_eq_some_iff]
    refine ⟨home.earlier, home.root, home.later, home.roots_eq, ?_, fun r hr => ?_⟩
    · rw [hroot.trimRoot_eq, hroot.below?_eq_some_iff.2 home.path_eq]
      simp [hextension]
    · have hr' : IsRoot r := hroots r (home.mem_of_mem_earlier hr)
      rw [hr'.trimRoot_eq, hr'.below?_eq_none_iff.2 (home.not_earlier r hr)]
      rfl
  rw [ofPath, hfirst]
  simp only [dropExtension_append home.below_ne hextension]

/-! ## There and back -/

/-- **A template comes back** when the names on its way may be segments and no root before has a file there. -/
theorem Home.toPath?_ofPath_of_returns (hextension : extension ≠ []) (home : Home roots extension path)
    (hfile : files.isFile path = true) (h : home.Returns files) :
    toPath? files (ofPath path roots extension) roots extension = some path := by
  obtain ⟨hnames, hearlier⟩ := h
  have hpoint : '.' ∉ home.below := fun hmem =>
    have ⟨name, hname, hpoint⟩ := (Text.mem_iff_exists_splitOn (by decide)).1 hmem
    (hnames name hname).2.1 hpoint
  have hway : way (Text.splitOn '/' home.below) extension = home.below ++ extension := by
    rw [way, Text.join_splitOn]
  rw [ofPath_eq hroots hextension home, toPath?_eq_some_iff, Text.splitOn_map hpoint]
  refine ⟨hnames, home.earlier, home.root, home.later, home.root, home.roots_eq, (hroots _ home.root_mem).isBase, ?_,
    hfile, fun r hr b hb => ?_⟩
  · rw [hway, (hroots _ home.root_mem).under_eq]
    exact home.path_eq
  · have hroot : IsRoot r := hroots r (home.mem_of_mem_earlier hr)
    rw [isBase_iff, hroot.trimRoot_eq] at hb
    rw [← hb, hway, hroot.under_eq]
    exact hearlier r hr

/-- **A template that comes back** has names on its way that may be segments, and no root before has a file there. -/
theorem Home.returns_of_toPath?_ofPath (hextension : extension ≠ []) (home : Home roots extension path)
    (h : toPath? files (ofPath path roots extension) roots extension = some path) : home.Returns files := by
  rw [ofPath_eq hroots hextension home, toPath?_eq_some_iff] at h
  obtain ⟨hsegments, earlier, root, later, base, hsplit, hbase, hpath, -, hearlier⟩ := h
  have hroot : IsRoot root := hroots root (by rw [hsplit]; simp)
  rw [isBase_iff, hroot.trimRoot_eq] at hbase
  -- both ways are as long, so the roots are the same and no point of the way was read as a slash
  rw [← hbase, hroot.under_eq, way, Text.join_splitOn_map, List.map_map] at hpath
  have hback := hpath.symm.trans home.path_eq
  obtain ⟨hsame, hrest⟩ := List.append_inj' hback (by simp)
  have hbelow := (List.append_inj (List.cons.inj hrest).2 (by simp)).1
  have hpoint : '.' ∉ home.below := by
    intro hmem
    have hfixed := List.map_inj_left.1 (hbelow.trans (List.map_id _).symm) '.' hmem
    exact absurd hfixed (by decide)
  rw [Text.splitOn_map hpoint] at hsegments hearlier
  refine ⟨hsegments, fun r hr => ?_⟩
  -- the first root that contains the path is not among those before it
  have hmem : r ∈ earlier := by
    have hroots' := home.roots_eq.symm.trans hsplit
    rcases List.append_eq_append_iff.1 hroots' with ⟨middle, hmiddle, -⟩ | ⟨middle, hmiddle, hrest⟩
    · rw [hmiddle]
      exact List.mem_append_left _ hr
    · cases middle with
      | nil => simpa [hmiddle] using hr
      | cons other middle =>
        rw [List.cons_append, List.cons.injEq] at hrest
        have hcontains : (root ++ ['/']) <+: path := ⟨_, by rw [List.append_assoc]; exact hpath.symm⟩
        exact absurd hcontains (home.not_earlier root (by rw [hmiddle, hrest.1]; simp))
  have hroot' : IsRoot r := hroots r (home.mem_of_mem_earlier hr)
  have hfile := hearlier r hmem r hroot'.isBase
  rwa [hroot'.under_eq, way, Text.join_splitOn] at hfile

/-- two ways without points and with the same id are the same -/
theorem below_eq_of_ofPath_eq (hextension : extension ≠ []) {path' : Text} (home : Home roots extension path)
    (home' : Home roots extension path') (hpoint : '.' ∉ home.below) (hpoint' : '.' ∉ home'.below)
    (h : ofPath path roots extension = ofPath path' roots extension) : home.below = home'.below := by
  rw [ofPath_eq hroots hextension home, ofPath_eq hroots hextension home'] at h
  rw [← Text.join_splitOn '/' home.below, ← Text.splitOn_map hpoint, h, Text.splitOn_map hpoint', Text.join_splitOn]

/-- **From a path to the id and back.** A template comes back if and only if every name on its way from the first root
that contains it may be a segment, and no root before has a file on the same way. Two templates with the same id do not
both come back: a point in one of their ways was read as a slash, or they lie on the same way below different roots. -/
theorem toPath?_ofPath_iff (hextension : extension ≠ []) :
    (∀ path, IsTemplate files roots extension path → ∃ home : Home roots extension path,
      (toPath? files (ofPath path roots extension) roots extension = some path ↔ home.Returns files)) ∧
    ∀ path path', IsTemplate files roots extension path → IsTemplate files roots extension path' → path ≠ path' →
      ofPath path roots extension = ofPath path' roots extension →
      ¬(toPath? files (ofPath path roots extension) roots extension = some path ∧
        toPath? files (ofPath path' roots extension) roots extension = some path') ∧
      ∃ (home : Home roots extension path) (home' : Home roots extension path'),
        '.' ∈ home.below ∨ '.' ∈ home'.below ∨ home.below = home'.below ∧ home.root ≠ home'.root := by
  refine ⟨fun path h => ?_, fun path path' h h' hne hid => ⟨?_, ?_⟩⟩
  · obtain ⟨home⟩ := h.exists_home
    exact ⟨home, home.returns_of_toPath?_ofPath hroots hextension,
      home.toPath?_ofPath_of_returns hroots hextension h.isFile⟩
  · rintro ⟨hback, hback'⟩
    rw [hid, hback'] at hback
    exact hne (Option.some.inj hback).symm
  · obtain ⟨home⟩ := h.exists_home
    obtain ⟨home'⟩ := h'.exists_home
    refine ⟨home, home', ?_⟩
    by_cases hpoint : '.' ∈ home.below
    · exact .inl hpoint
    by_cases hpoint' : '.' ∈ home'.below
    · exact .inr (.inl hpoint')
    have hbelow := below_eq_of_ofPath_eq hroots hextension home home' hpoint hpoint' hid
    refine .inr (.inr ⟨hbelow, fun hroot => hne ?_⟩)
    have hsame : home.root ++ '/' :: (home.below ++ extension) = home'.root ++ '/' :: (home'.below ++ extension) := by
      rw [hbelow, hroot]
    exact home.path_eq.trans (hsame.trans home'.path_eq.symm)

end Ids

/-- the roots of two templates with the same id -/
def namesakeRoots : List Text :=
  ["/w".toList, "/v".toList]

/-- two templates with the same id, one of them with a point in its name -/
def namesakes : FileSystem :=
  Snapshot.toFileSystem [("/v/a.b.html".toList, .ok []), ("/v/a/b.html".toList, .ok [])] "/".toList

theorem isRoot_namesakeRoots : ∀ root ∈ namesakeRoots, IsRoot root := by
  simp [namesakeRoots, IsRoot, IsSeparator, Path.isAbsolute]

theorem isTemplate_pointed : IsTemplate namesakes namesakeRoots ".html".toList "/v/a.b.html".toList :=
  ⟨by decide, "/v".toList, by decide, [], "a.b".toList, by decide, by decide, by decide⟩

theorem isTemplate_plain : IsTemplate namesakes namesakeRoots ".html".toList "/v/a/b.html".toList :=
  ⟨by decide, "/v".toList, by decide, ["a".toList], "b".toList, by decide, by decide, by decide⟩

/-- one of the two comes back, and their ids agree because the way of one holds a point -/
theorem toPath?_ofPath_plain : (∀ root ∈ namesakeRoots, IsRoot root) ∧ ".html".toList ≠ [] ∧
    (∃ home : Home namesakeRoots ".html".toList "/v/a/b.html".toList, home.Returns namesakes) ∧
    ∃ (home : Home namesakeRoots ".html".toList "/v/a.b.html".toList)
      (home' : Home namesakeRoots ".html".toList "/v/a/b.html".toList),
      '.' ∈ home.below ∨ '.' ∈ home'.below ∨ home.below = home'.below ∧ home.root ≠ home'.root := by
  have hextension : ".html".toList ≠ [] := by decide
  obtain ⟨home, hhome⟩ := (toPath?_ofPath_iff isRoot_namesakeRoots hextension).1 _ isTemplate_plain
  have hsame := (toPath?_ofPath_iff isRoot_namesakeRoots hextension).2 _ _ isTemplate_pointed isTemplate_plain
    (by decide) (by decide)
  exact ⟨isRoot_namesakeRoots, hextension, ⟨home, hhome.1 (by decide)⟩, hsame.2⟩

/-- a point in a name is read as a slash: the id of one template leads to the other -/
theorem toPath?_ofPath_pointed : (∀ root ∈ namesakeRoots, IsRoot root) ∧
    IsTemplate namesakes namesakeRoots ".html".toList "/v/a.b.html".toList ∧
    IsTemplate namesakes namesakeRoots ".html".toList "/v/a/b.html".toList ∧
    ofPath "/v/a.b.html".toList namesakeRoots ".html".toList =
      ofPath "/v/a/b.html".toList namesakeRoots ".html".toList ∧
    toPath? namesakes (ofPath "/v/a.b.html".toList namesakeRoots ".html".toList) namesakeRoots ".html".toList =
      some "/v/a/b.html".toList :=
  ⟨isRoot_namesakeRoots, isTemplate_pointed, isTemplate_plain, by decide, by decide⟩

end SourceMark.TemplateId
