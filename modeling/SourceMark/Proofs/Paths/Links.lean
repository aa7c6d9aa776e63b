/-
Resolving paths where there are no links. Every piece is gone over as it stands, so only a null character is ever in the
way.

Results:
- `walk_of_unlinked`: pieces are followed to the end.
- `resolve_of_unlinked`, `mapM_resolve_of_unlinked`: what resolving one path, or several, comes to.
-/
import Mathlib.Tactic.SplitIfs
import SourceMark.Files.Links

namespace SourceMark.FileSystem

/-- files without links, seen from a directory that is known -/
structure Unlinked (files : FileSystem) : Prop where
  noLink : ∀ path, files.readLink path = .ok none
  ends : ∀ path, files.isEndless path = false
  depth_pos : 0 < files.linkDepth
  directory : files.directoryFault? = none

variable {files : FileSystem} (h : files.Unlinked)

include h

/-- **Pieces are followed to the end** up to a null character. -/
theorem walk_of_unlinked (enter : Text → Text → List (Text × Option Text) → Except ResolveError Trail) (path : Text)
    (pieces : List Text) (met : List (Text × Option Text)) :
    walk files enter path pieces met = .error .nulInPath ∨
      ∃ found, walk files enter path pieces met = .ok ⟨found, true, met⟩ := by
  induction pieces generalizing path with
  | nil => exact .inr ⟨path, rfl⟩
  | cons piece pieces ih =>
    rw [walk]
    split_ifs with hhere habove
    · exact ih path
    · exact ih (above path)
    · by_cases hnul : (Path.join path piece).contains nul = true
      · exact .inl (if_pos hnul)
      · simp only [if_neg hnul, h.noLink]
        exact ih (Path.join path piece)

theorem realPath_of_unlinked (path : Text) :
    files.realPath path = .error .nulInPath ∨ ∃ found, files.realPath path = .ok found := by
  obtain ⟨depth, hdepth⟩ := Nat.exists_eq_succ_of_ne_zero (Nat.ne_of_gt h.depth_pos)
  have hfollow : follow files files.linkDepth [] path [] =
      walk files (follow files depth) (if Path.isAbsolute path then ['/'] else []) (Text.splitOn '/' path) [] := by
    rw [hdepth]
    rfl
  rcases walk_of_unlinked h (follow files depth) (if Path.isAbsolute path then ['/'] else [])
    (Text.splitOn '/' path) [] with hwalk | ⟨found, hwalk⟩
  · left
    rw [realPath, hfollow, hwalk]
  · right
    rw [realPath, hfollow, hwalk]
    simp only [h.directory]
    split_ifs
    · exact ⟨_, rfl⟩
    · exact ⟨_, rfl⟩

/-- **Without links every path is resolved** that holds no null character. -/
theorem resolve_of_unlinked (path : Text) :
    files.resolve path = .error .nulInPath ∨ ∃ found, files.resolve path = .ok found := by
  rw [resolve]
  rcases realPath_of_unlinked h (Path.tidy path) with hpath | ⟨found, hpath⟩
  · left
    rw [hpath]
  · rw [hpath]
    dsimp only
    by_cases hnul : found.contains nul = true
    · exact .inl (if_pos hnul)
    · rw [if_neg hnul, h.ends]
      exact .inr ⟨found, rfl⟩

theorem mapM_resolve_of_unlinked (paths : List Text) :
    paths.mapM files.resolve = .error .nulInPath ∨ ∃ found, paths.mapM files.resolve = .ok found := by
  induction paths with
  | nil => exact .inr ⟨[], rfl⟩
  | cons path paths ih =>
    rw [List.mapM_cons]
    rcases resolve_of_unlinked h path with hpath | ⟨found, hpath⟩
    · left
      rw [hpath]
      rfl
    · rw [hpath]
      rcases ih with hpaths | ⟨others, hpaths⟩
      · left
        rw [hpaths]
        rfl
      · right
        rw [hpaths]
        exact ⟨found :: others, rfl⟩

end SourceMark.FileSystem
