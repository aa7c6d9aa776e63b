/-
From the id of a template to its path and back. The path that is found for an id lies below the base of a root, on the way
that the segments of the id make up. Taking the id of that path cuts off just what was put in front of the way and behind
it, whatever separators the root ends with and whatever the extension is.

Results:
- `below?_under`: what stands below a base is got back from the path.
- `dropExtension_way`: the way without the extension is the id with slashes for points.
- `ofPath_of_under`: the path of an id below the first root that contains it has that id.
- `ofPath_toPath?`: below a single root, an id comes back from its path.
Witness:
- `ofPath_toPath?_separators`: a root that ends with separators, and a root that is nothing else.
-/
import SourceMark.Proofs.Paths.RoundTrip

namespace SourceMark

theorem Path.dropExtension_of_notMem {path : Text} (h : '.' ∉ path) : Path.dropExtension path = path := by
  have hbase : '.' ∉ Path.baseName path := by
    intro hmem
    rw [Path.baseName, List.mem_reverse] at hmem
    exact h (List.mem_reverse.1 ((List.takeWhile_prefix _).subset hmem))
  simp [Path.dropExtension, hbase]

namespace TemplateId

/-! ## Below a root -/

section Below

variable {root base relative : Text}

theorem IsBase.ne_nil (h : IsBase root base) (hroot : root ≠ []) : base ≠ [] := by
  rcases h with ⟨-, -, -, c, hlast, -⟩ | ⟨rfl, -⟩
  · intro hnil
    rw [hnil] at hlast
    exact absurd hlast (by simp)
  · exact hroot

/-- **What stands below a base** is got back from the path: the slash between them is cut off exactly when it was put
there. -/
theorem below?_under (hbase : base ≠ []) (hrelative : relative ≠ []) :
    below? base (Path.under base relative) = some relative := by
  by_cases hslash : base.getLast? = some '/'
  · have hunder : Path.under base relative = base ++ relative := if_pos (.inr hslash)
    have hends : Text.endsWith ['/'] base = true := (Text.endsWith_singleton '/' base).2 hslash
    have hne : base ++ relative ≠ base := by simpa using hrelative
    rw [hunder, below?, if_neg hne, if_pos hends]
    exact Text.dropHead?_eq_some_iff.2 rfl
  · have hunder : Path.under base relative = base ++ '/' :: relative := if_neg (not_or.2 ⟨hbase, hslash⟩)
    have hends : ¬Text.endsWith ['/'] base = true := fun h => hslash ((Text.endsWith_singleton '/' base).1 h)
    have hne : base ++ '/' :: relative ≠ base := by simp
    rw [hunder, below?, if_neg hne, if_neg hends]
    exact Text.dropHead?_eq_some_iff.2 (by simp)

end Below

/-! ## Ways -/

section Ways

variable {id extension : Text}

theorem ne_nil_of_isSegment (h : ∀ segment ∈ Text.splitOn '.' id, IsSegment segment) : id ≠ [] := by
  rintro rfl
  have hempty : IsSegment [] := h [] List.mem_cons_self
  exact hempty.1 rfl

theorem slash_notMem_of_isSegment (h : ∀ segment ∈ Text.splitOn '.' id, IsSegment segment) : '/' ∉ id := by
  intro hslash
  have hne : '/' ≠ '.' := by decide
  obtain ⟨segment, hsegment, hmem⟩ := (Text.mem_iff_exists_splitOn hne).1 hslash
  exact (h segment hsegment).2.2.1 hmem

/-- the way of an id is the id with slashes for points, and the extension behind it -/
theorem way_splitOn (id extension : Text) :
    way (Text.splitOn '.' id) extension = (id.map fun c => if c = '.' then '/' else c) ++ extension := by
  rw [way, Text.join_splitOn_map]

/-- **The way without the extension** is the id with slashes for points. Where the extension is empty, no other one can be
dropped in its place, since no point is left. -/
theorem dropExtension_way (hid : id ≠ []) :
    dropExtension extension (way (Text.splitOn '.' id) extension) = id.map fun c => if c = '.' then '/' else c := by
  rw [way_splitOn]
  by_cases hextension : extension = []
  · have hpoint : '.' ∉ id.map fun c => if c = '.' then '/' else c := by
      intro hmem
      obtain ⟨c, -, hc⟩ := List.mem_map.1 hmem
      split_ifs at hc with hpoint
      · exact absurd hc (by decide)
      · exact hpoint hc
    rw [hextension, List.append_nil]
    exact Path.dropExtension_of_notMem hpoint
  · exact dropExtension_append (by simpa using hid) hextension

/-- points for slashes undo slashes for points -/
theorem map_point_slash (h : '/' ∉ id) :
    ((id.map fun c => if c = '.' then '/' else c).map fun c => if c = '/' then '.' else c) = id := by
  calc ((id.map fun c => if c = '.' then '/' else c).map fun c => if c = '/' then '.' else c)
    _ = id.map fun c => c := by
      rw [List.map_map]
      apply List.map_congr_left
      intro c hc
      have hne : c ≠ '/' := fun hslash => h (hslash ▸ hc)
      by_cases hpoint : c = '.'
      · simp [hpoint]
      · simp [hpoint, hne]
    _ = id := List.map_id' id

end Ways

/-! ## There and back -/

section Return

variable {files : FileSystem} {roots : List Text} {root id path extension : Text}

/-- **The path of an id has that id** when it lies below the base of a root and below no root before. -/
theorem ofPath_of_under (hsegments : ∀ segment ∈ Text.splitOn '.' id, IsSegment segment) {earlier later : List Text}
    {base : Text} (hroots : roots = earlier ++ root :: later) (hbase : IsBase root base) (hroot : root ≠ [])
    (hpath : path = Path.under base (way (Text.splitOn '.' id) extension))
    (hearlier : ∀ r ∈ earlier, ∀ b, IsBase r b → below? b path = none) : ofPath path roots extension = id := by
  have hid : id ≠ [] := ne_nil_of_isSegment hsegments
  have hway : way (Text.splitOn '.' id) extension ≠ [] := by
    rw [way_splitOn]
    simp [hid]
  have hfirst : roots.findSome? (fun root => (below? (trimRoot root) path).filter (!·.isEmpty)) =
      some (way (Text.splitOn '.' id) extension) := by
    rw [List.findSome?_eq_some_iff]
    refine ⟨earlier, root, later, hroots, ?_, ?_⟩
    · rw [isBase_iff.1 hbase, hpath, below?_under (hbase.ne_nil hroot) hway]
      simp [hway]
    · intro r hr
      rw [hearlier r hr (trimRoot r) (isBase_iff.2 rfl)]
      rfl
  calc ofPath path roots extension
    _ = (dropExtension extension (way (Text.splitOn '.' id) extension)).map fun c => if c = '/' then '.' else c := by
      rw [ofPath, hfirst]
    _ = (id.map fun c => if c = '.' then '/' else c).map fun c => if c = '/' then '.' else c := by
      rw [dropExtension_way hid]
    _ = id := map_point_slash (slash_notMem_of_isSegment hsegments)

/-- **From an id to the path and back.** Below a single root, the path that is found for an id has that id: whatever
separators the root ends with, whatever the extension is and whichever files there are. -/
theorem ofPath_toPath? (hroot : root ≠ []) (h : toPath? files id [root] extension = some path) :
    ofPath path [root] extension = id := by
  obtain ⟨hsegments, earlier, first, later, base, hroots, hbase, hpath, -⟩ := toPath?_eq_some_iff.1 h
  have hnone : earlier = [] := by
    cases earlier with
    | nil => rfl
    | cons other earlier => simp at hroots
  subst hnone
  obtain rfl : root = first := List.head_eq_of_cons_eq hroots
  apply ofPath_of_under hsegments hroots hbase hroot hpath
  intro r hr
  exact absurd hr List.not_mem_nil

end Return

/-- one page below a root that ends with separators, and below the root of all files -/
theorem ofPath_toPath?_separators :
    let page := "/srv/views/home/index.blade.php".toList
    let extension := ".blade.php".toList
    ("/srv/views\\/".toList ≠ [] ∧ toPath? pageFiles "home.index".toList ["/srv/views\\/".toList] extension = some page ∧
      ofPath page ["/srv/views\\/".toList] extension = "home.index".toList) ∧
    "/".toList ≠ [] ∧ toPath? pageFiles "srv.views.home.index".toList ["/".toList] extension = some page ∧
      ofPath page ["/".toList] extension = "srv.views.home.index".toList := by
  intro page extension
  have hseparated : "/srv/views\\/".toList ≠ [] := by decide
  have hslash : "/".toList ≠ [] := by decide
  have hfirst : toPath? pageFiles "home.index".toList ["/srv/views\\/".toList] extension = some page := by decide
  have hsecond : toPath? pageFiles "srv.views.home.index".toList ["/".toList] extension = some page := by decide
  exact ⟨⟨hseparated, hfirst, ofPath_toPath? hseparated hfirst⟩, hslash, hsecond, ofPath_toPath? hslash hsecond⟩

end TemplateId

end SourceMark
