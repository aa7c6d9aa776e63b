/-
A token leads to a file below one of the roots, or to nothing. Whatever the token holds, the path that a lookup finds
is a root followed by names: none is empty, and none is a point or a pair of points.

Results:
- `isBase_iff`: a root has one base, the one that paths are seen from.
- `toPath?_eq_some_iff`, `toPath?_eq_none_iff`: the path of an id is the first file that the roots have for it.
- `lookup_inside`: what a lookup finds lies below the first root that has it, and when it finds nothing.
-/
import SourceMark.Files.Snapshot
import SourceMark.Lookup
import SourceMark.Proofs.Marker.Seam
import SourceMark.Proofs.Text.Pieces
import SourceMark.Proofs.Token

namespace SourceMark

/-! ## Paths -/

namespace Path

/-- a relative path below a base: a slash goes between them unless the base ends with one or is empty -/
def under (base relative : Text) : Text :=
  if base = [] ∨ base.getLast? = some '/' then base ++ relative else base ++ '/' :: relative

/-- only an absolute path is not seen from the directory -/
theorem join_of_relative {path : Text} (h : path.head? ≠ some '/') (directory : Text) :
    join directory path = under directory path := by
  have hrelative : isAbsolute path = false := by simpa [isAbsolute] using h
  simp only [join, under, hrelative, Bool.false_or, List.isEmpty_iff, Text.endsWith_singleton]
  split_ifs <;> simp_all

end Path

namespace TemplateId

/-! ## Roots -/

def IsSeparator (c : Char) : Prop :=
  c = '/' ∨ c = '\\'

/-- `base` is the root without the separators at its end, or the whole root when it holds nothing else -/
def IsBase (root base : Text) : Prop :=
  (∃ gap, root = base ++ gap ∧ (∀ c ∈ gap, IsSeparator c) ∧ ∃ c, base.getLast? = some c ∧ ¬IsSeparator c) ∨
    (base = root ∧ ∀ c ∈ root, IsSeparator c)

/-- **A root has one base**, the one that paths are seen from. -/
theorem isBase_iff {root base : Text} : IsBase root base ↔ trimRoot root = base := by
  have hseparator (c : Char) : (c == '/' || c == '\\') = true ↔ IsSeparator c := by simp [IsSeparator]
  unfold trimRoot
  constructor
  · rintro (⟨gap, rfl, hgap, c, hlast, hc⟩ | ⟨rfl, hall⟩)
    · have hbase : Text.dropEnd (fun c => c == '/' || c == '\\') (base ++ gap) = base := by
        rw [Text.dropEnd_append_of_all fun c h => (hseparator c).2 (hgap c h)]
        refine Text.dropEnd_of_getLast? fun d hd => ?_
        obtain rfl : c = d := by simpa [hlast] using hd
        simpa [← hseparator] using hc
      have hne : base ≠ [] := by
        rintro rfl
        simp at hlast
      rw [hbase]
      cases base with
      | nil => exact absurd rfl hne
      | cons c base => rfl
    · have hnil : Text.dropEnd (fun c => c == '/' || c == '\\') ([] ++ base) = [] :=
        Text.dropEnd_append_of_all fun c h => (hseparator c).2 (hall c h)
      rw [List.nil_append] at hnil
      rw [hnil]
  · intro h
    obtain ⟨gap, hgap, hall⟩ := Text.exists_gap (fun c => c == '/' || c == '\\') root
    cases htrimmed : Text.dropEnd (fun c => c == '/' || c == '\\') root with
    | nil =>
      rw [htrimmed] at h hgap
      refine .inr ⟨h.symm, fun c hc => (hseparator c).1 (hall c ?_)⟩
      rwa [hgap] at hc
    | cons c rest =>
      rw [htrimmed] at h hgap
      have hlast := List.rdropWhile_last_not (fun c => c == '/' || c == '\\') root
        (by simp [← Text.dropEnd_eq_rdropWhile, htrimmed])
      simp only [← Text.dropEnd_eq_rdropWhile, htrimmed] at hlast
      subst h
      exact .inl ⟨gap, hgap, fun d hd => (hseparator d).1 (hall d hd), _, List.getLast?_eq_some_getLast (by simp),
        fun hsep => hlast ((hseparator _).2 hsep)⟩

/-! ## Segments -/

/-- a name that an id may lead through -/
def IsSegment (segment : Text) : Prop :=
  segment ≠ [] ∧ '.' ∉ segment ∧ '/' ∉ segment ∧ '\\' ∉ segment

theorem isPiece_iff {id segment : Text} (h : segment ∈ Text.splitOn '.' id) :
    isPiece segment = true ↔ IsSegment segment := by
  have hpoint : '.' ∉ segment := Text.not_mem_of_mem_splitOn h
  simp [isPiece, IsSegment, hpoint, and_assoc]

/-- the relative path of the segments with the extension -/
def way (segments : List Text) (extension : Text) : Text :=
  Text.join ['/'] segments ++ extension

/-- whether segments lead to a file at `path` below the first of the roots under which they lead to one -/
def LeadsTo (files : FileSystem) (roots : List Text) (extension : Text) (segments : List Text) (path : Text) : Prop :=
  ∃ earlier root later base, roots = earlier ++ root :: later ∧ IsBase root base ∧
    path = Path.under base (way segments extension) ∧ files.isFile path = true ∧
    ∀ r ∈ earlier, ∀ b, IsBase r b → files.isFile (Path.under b (way segments extension)) = false

/-- whether segments lead to a file below none of the roots -/
def LeadsNowhere (files : FileSystem) (roots : List Text) (extension : Text) (segments : List Text) : Prop :=
  ∀ root ∈ roots, ∀ base, IsBase root base → files.isFile (Path.under base (way segments extension)) = false

theorem head?_way {segments : List Text} (hne : segments ≠ []) (h : ∀ segment ∈ segments, IsSegment segment)
    (extension : Text) : (way segments extension).head? ≠ some '/' := by
  obtain ⟨segment, rest, rfl⟩ := List.exists_cons_of_ne_nil hne
  obtain ⟨hsegment, -, hslash, -⟩ := h segment List.mem_cons_self
  obtain ⟨c, name, rfl⟩ := List.exists_cons_of_ne_nil hsegment
  have hhead : (way ((c :: name) :: rest) extension).head? = some c := by
    cases rest <;> simp [way, Text.join, List.intercalate]
  rw [hhead]
  rintro ⟨⟩
  exact hslash List.mem_cons_self

/-- **Names on the way.** With an extension that has no slash, no name on the way is empty, a point or a pair of
points. -/
theorem splitOn_way {segments : List Text} (hne : segments ≠ []) (h : ∀ segment ∈ segments, IsSegment segment)
    {extension : Text} (hslash : '/' ∉ extension) :
    ∀ piece ∈ Text.splitOn '/' (way segments extension), piece ≠ [] ∧ piece ≠ Path.here ∧ piece ≠ Path.above := by
  obtain ⟨front, last, rfl⟩ := (List.eq_nil_or_concat segments).resolve_left hne
  rw [List.concat_eq_append] at h
  have hlast : IsSegment last := h last (by simp)
  have hpieces : ∀ piece ∈ front ++ [last ++ extension], '/' ∉ piece := by
    intro piece hpiece
    rcases List.mem_append.1 hpiece with hfront | hpiece
    · exact (h piece (List.mem_append_left _ hfront)).2.2.1
    · rw [List.mem_singleton.1 hpiece, List.mem_append, not_or]
      exact ⟨hlast.2.2.1, hslash⟩
  rw [way, List.concat_eq_append, Text.join_snoc, List.append_assoc, ← Text.join_snoc,
    Text.splitOn_join hpieces (by simp)]
  -- a name without a point is none of the three, and the last one starts with such a name
  have hname {name : Text} (hname : IsSegment name) (rest : Text) :
      name ++ rest ≠ [] ∧ name ++ rest ≠ Path.here ∧ name ++ rest ≠ Path.above := by
    obtain ⟨hne, hpoint, -⟩ := hname
    obtain ⟨c, name, rfl⟩ := List.exists_cons_of_ne_nil hne
    have hc : c ≠ '.' := fun hc => hpoint (hc ▸ List.mem_cons_self)
    simp [Path.here, Path.above, hc]
  intro piece hpiece
  rcases List.mem_append.1 hpiece with hfront | hpiece
  · simpa using hname (h piece (List.mem_append_left _ hfront)) []
  · rw [List.mem_singleton.1 hpiece]
    exact hname hlast extension

/-! ## Paths of ids -/

section Files

variable {files : FileSystem} {id path : Text} {roots : List Text} {extension : Text}

theorem segments?_eq_some_iff {segments : List Text} :
    segments? id = some segments ↔ segments = Text.splitOn '.' id ∧ ∀ segment ∈ segments, IsSegment segment := by
  simp only [segments?, Option.ite_none_right_eq_some, List.all_eq_true, Option.some.injEq]
  constructor
  · rintro ⟨hall, rfl⟩
    exact ⟨rfl, fun segment h => (isPiece_iff h).1 (hall segment h)⟩
  · rintro ⟨rfl, hall⟩
    exact ⟨fun segment h => (isPiece_iff h).2 (hall segment h), rfl⟩

theorem candidates_of_isSegment (h : ∀ segment ∈ Text.splitOn '.' id, IsSegment segment) :
    candidates id roots extension =
      roots.map fun root => Path.under (trimRoot root) (way (Text.splitOn '.' id) extension) := by
  rw [candidates, segments?_eq_some_iff.2 ⟨rfl, h⟩]
  exact List.map_congr_left fun root _ => Path.join_of_relative (head?_way (Text.splitOn_ne_nil '.' id) h extension) _

theorem candidates_of_not (h : ¬∀ segment ∈ Text.splitOn '.' id, IsSegment segment) :
    candidates id roots extension = [] := by
  have hnone : segments? id = none := by
    cases hsegments : segments? id with
    | none => rfl
    | some segments =>
      obtain ⟨rfl, hall⟩ := segments?_eq_some_iff.1 hsegments
      exact absurd hall h
  rw [candidates, hnone]

/-- **The path of an id** is the one that its segments lead to. -/
theorem toPath?_eq_some_iff : toPath? files id roots extension = some path ↔
    (∀ segment ∈ Text.splitOn '.' id, IsSegment segment) ∧
      LeadsTo files roots extension (Text.splitOn '.' id) path := by
  simp only [LeadsTo, isBase_iff, forall_eq']
  by_cases h : ∀ segment ∈ Text.splitOn '.' id, IsSegment segment
  · rw [toPath?, candidates_of_isSegment h, List.find?_eq_some_iff_append]
    constructor
    · rintro ⟨hfile, before, behind, hmap, hbefore⟩
      obtain ⟨earlier, rest, rfl, rfl, hrest⟩ := List.map_eq_append_iff.1 hmap
      obtain ⟨root, later, rfl, rfl, rfl⟩ := List.map_eq_cons_iff.1 hrest
      exact ⟨h, earlier, root, later, _, rfl, rfl, rfl, hfile,
        fun r hr => by simpa using hbefore _ (List.mem_map_of_mem hr)⟩
    · rintro ⟨-, earlier, root, later, base, rfl, rfl, rfl, hfile, hearlier⟩
      refine ⟨hfile, _, _, List.map_append, fun other hother => ?_⟩
      obtain ⟨r, hr, rfl⟩ := List.mem_map.1 hother
      simp [hearlier r hr]
  · simp [toPath?, candidates_of_not h, h]

/-- **An id has no path** when a segment is forbidden or the segments lead nowhere. -/
theorem toPath?_eq_none_iff : toPath? files id roots extension = none ↔
    (∃ segment ∈ Text.splitOn '.' id, ¬IsSegment segment) ∨
      LeadsNowhere files roots extension (Text.splitOn '.' id) := by
  simp only [LeadsNowhere, isBase_iff, forall_eq']
  by_cases h : ∀ segment ∈ Text.splitOn '.' id, IsSegment segment
  · have hno : ¬∃ segment ∈ Text.splitOn '.' id, ¬IsSegment segment := by simpa using h
    simp [toPath?, candidates_of_isSegment h, hno]
  · simp only [toPath?, candidates_of_not h, List.find?_nil, true_iff]
    exact .inl (by simpa using h)

end Files

end TemplateId

/-! ## Lookups -/

section Lookup

variable {files : FileSystem} {token : Text} {roots : List Text} {extension : Text}

theorem lookup_of_read {reference : Reference} (h : Token.read? token = some reference) :
    lookup files (.text token) roots extension =
      match TemplateId.toPath? files reference.templateId roots extension with
      | none => .error (.notFound reference.templateId)
      | some path => .ok ⟨reference, path⟩ := by
  cases hpath : TemplateId.toPath? files reference.templateId roots extension with
  | none => simp only [lookup, Token.ofJson?, h, hpath]
  | some path => simp only [lookup, Token.ofJson?, h, hpath]

theorem lookup_of_not_read (h : Token.read? token = none) :
    lookup files (.text token) roots extension = .error .invalidReference := by
  rw [lookup, Token.ofJson?, h]

theorem lookup_eq_ok_iff {located : Located} : lookup files (.text token) roots extension = .ok located ↔
    Token.read? token = some located.reference ∧
      TemplateId.toPath? files located.reference.templateId roots extension = some located.path := by
  cases hread : Token.read? token with
  | none => simp [lookup_of_not_read hread]
  | some reference =>
    rw [lookup_of_read hread, Option.some.injEq]
    constructor
    · intro h
      split at h
      · simp at h
      · next path hpath =>
        cases h
        exact ⟨rfl, hpath⟩
    · rintro ⟨rfl, hpath⟩
      rw [hpath]

theorem lookup_eq_invalidReference_iff :
    lookup files (.text token) roots extension = .error .invalidReference ↔ Token.read? token = none := by
  cases hread : Token.read? token with
  | none => simp [lookup_of_not_read hread]
  | some reference =>
    rw [lookup_of_read hread]
    split <;> simp

theorem lookup_eq_notFound_iff {id : Text} : lookup files (.text token) roots extension = .error (.notFound id) ↔
    ∃ reference, Token.read? token = some reference ∧ reference.templateId = id ∧
      TemplateId.toPath? files id roots extension = none := by
  cases hread : Token.read? token with
  | none => simp [lookup_of_not_read hread]
  | some reference =>
    simp only [lookup_of_read hread, Option.some.injEq, exists_eq_left']
    constructor
    · intro h
      split at h
      · next hpath =>
        cases h
        exact ⟨rfl, hpath⟩
      · simp at h
    · rintro ⟨rfl, hpath⟩
      rw [hpath]

/-- **A token cannot lead outside of the roots.** What a lookup finds is the token's reference, whose id is made of
allowed segments, and the file that these lead to below the first root that has it: every name behind the root leads
downwards. A lookup finds nothing in two cases only: the token holds no reference, or the id of its reference has a
forbidden segment or a file under no root. -/
theorem lookup_inside (hslash : '/' ∉ extension) :
    (∀ located, lookup files (.text token) roots extension = .ok located →
      Token.read? token = some located.reference ∧ 1 ≤ located.reference.line ∧
      ∃ segments, segments ≠ [] ∧ (∀ segment ∈ segments, TemplateId.IsSegment segment) ∧
        located.reference.templateId = Text.join ['.'] segments ∧
        TemplateId.LeadsTo files roots extension segments located.path ∧
        ∀ name ∈ Text.splitOn '/' (TemplateId.way segments extension),
          name ≠ [] ∧ name ≠ Path.here ∧ name ≠ Path.above) ∧
    (lookup files (.text token) roots extension = .error .invalidReference ↔ Token.read? token = none) ∧
    ∀ id, lookup files (.text token) roots extension = .error (.notFound id) ↔
      ∃ reference, Token.read? token = some reference ∧ reference.templateId = id ∧
        ((∃ segment ∈ Text.splitOn '.' id, segment = [] ∨ '/' ∈ segment ∨ '\\' ∈ segment) ∨
          TemplateId.LeadsNowhere files roots extension (Text.splitOn '.' id)) := by
  refine ⟨fun located hlocated => ?_, lookup_eq_invalidReference_iff, fun id => ?_⟩
  · obtain ⟨hread, hpath⟩ := lookup_eq_ok_iff.1 hlocated
    obtain ⟨hsegments, hleads⟩ := TemplateId.toPath?_eq_some_iff.1 hpath
    have hne := Text.splitOn_ne_nil '.' located.reference.templateId
    exact ⟨hread, located.reference.line_pos, _, hne, hsegments, (Text.join_splitOn '.' _).symm, hleads,
      TemplateId.splitOn_way hne hsegments hslash⟩
  · have hforbidden : (∃ segment ∈ Text.splitOn '.' id, segment = [] ∨ '/' ∈ segment ∨ '\\' ∈ segment) ↔
        ∃ segment ∈ Text.splitOn '.' id, ¬TemplateId.IsSegment segment := by
      refine exists_congr fun segment => and_congr_right fun hmem => ?_
      have hpoint : '.' ∉ segment := Text.not_mem_of_mem_splitOn hmem
      simp only [TemplateId.IsSegment, hpoint, not_false_eq_true, true_and]
      tauto
    rw [lookup_eq_notFound_iff, hforbidden, ← TemplateId.toPath?_eq_none_iff]

def pageReference : Reference :=
  ⟨"home.index".toList, 3, by decide, by decide⟩

def pageFiles : FileSystem :=
  Snapshot.toFileSystem [("/srv/views/home/index.blade.php".toList, .ok [])] "/".toList

/-- the roots of the page, with separators at their ends -/
def pageRoots : List Text :=
  ["/other/".toList, "/srv/views\\/".toList]

/-- the page is found below the second root -/
theorem lookup_inside_page : '/' ∉ ".blade.php".toList ∧ ∃ located segments,
    lookup pageFiles (.text pageReference.token) pageRoots ".blade.php".toList = .ok located ∧
    located.reference.templateId = Text.join ['.'] segments ∧
    TemplateId.LeadsTo pageFiles pageRoots ".blade.php".toList segments located.path := by
  have hslash : '/' ∉ ".blade.php".toList := by decide
  have hlookup : lookup pageFiles (.text pageReference.token) pageRoots ".blade.php".toList =
      .ok ⟨pageReference, "/srv/views/home/index.blade.php".toList⟩ :=
    lookup_eq_ok_iff.2 ⟨Token.read?_token pageReference, by decide⟩
  obtain ⟨-, -, segments, -, -, hid, hleads, -⟩ := (lookup_inside hslash).1 _ hlookup
  exact ⟨hslash, _, segments, hlookup, hid, hleads⟩

end Lookup

end SourceMark
