/-
The characters of paths in standard form. A standard form has slashes and points of its own; every other character in it
stands in the path that it was made from. So a path that is seen from a directory holds a null character only when one of
the two does.

Results:
- `mem_of_mem_normalize`, `mem_of_mem_tidy`: characters of the two standard forms.
- `nul_notMem_absolute`: an absolute path is free of null characters.
-/
import SourceMark.Files.Basic
import SourceMark.Path
import SourceMark.Proofs.Text.Pieces

namespace SourceMark.Path

variable {c : Char} {path : Text}

theorem mem_of_mem_joined (hc : c ≠ '/') {parts : List Text} (h : c ∈ Text.join ['/'] parts) :
    ∃ part ∈ parts, c ∈ part := by
  rcases List.eq_nil_or_concat parts with rfl | ⟨front, last, rfl⟩
  · exact absurd h (by simp [Text.join])
  · rw [List.concat_eq_append, Text.join_snoc, List.mem_append, List.mem_flatMap] at h
    rcases h with ⟨part, hpart, h⟩ | h
    · rcases List.mem_append.1 h with h | h
      · exact ⟨part, by simp [hpart], h⟩
      · exact absurd (List.mem_singleton.1 h) hc
    · exact ⟨last, by simp, h⟩

theorem eq_slash_of_mem_root (h : c ∈ root path) : c = '/' := by
  unfold root at h
  split at h
  · exact List.mem_singleton.1 h
  · simpa using h
  · exact List.mem_singleton.1 h
  · exact absurd h List.not_mem_nil

theorem mem_of_mem_pieces {piece : Text} (hc : c ≠ '/') (hpiece : piece ∈ pieces path) (h : c ∈ piece) : c ∈ path := by
  have hsplit : piece ∈ Text.splitOn '/' path := (List.mem_filter.1 hpiece).1
  exact (Text.mem_iff_exists_splitOn hc).2 ⟨piece, hsplit, h⟩

/-- a path written from pieces has the characters of its root and of its pieces, and perhaps a point -/
theorem mem_of_mem_ofPieces {parts : List Text} {front : Text} (hslash : c ≠ '/') (hpoint : c ≠ '.')
    (hfront : ∀ d ∈ front, d = '/') (h : c ∈ ofPieces front parts) : ∃ part ∈ parts, c ∈ part := by
  simp only [ofPieces] at h
  split at h
  · exact absurd (List.mem_singleton.1 h) hpoint
  · rcases List.mem_append.1 h with h | h
    · exact absurd (hfront c h) hslash
    · exact mem_of_mem_joined hslash h

/-- two points take a piece away, and any other piece is put in front -/
theorem mem_of_mem_push {absolute : Bool} {before : List Text} {piece part : Text}
    (h : part ∈ push absolute before piece) : part = piece ∨ part ∈ before := by
  unfold push at h
  by_cases habove : piece = above
  · rw [if_pos habove] at h
    cases before with
    | nil =>
      cases absolute with
      | true => exact absurd h List.not_mem_nil
      | false => exact .inl (List.mem_singleton.1 h)
    | cons last rest =>
      by_cases hlast : last = above
      · simp only [if_pos hlast] at h
        exact List.mem_cons.1 h
      · simp only [if_neg hlast] at h
        exact .inr (List.mem_cons_of_mem last h)
  · rw [if_neg habove] at h
    exact List.mem_cons.1 h

theorem mem_of_mem_foldl_push {absolute : Bool} {before parts : List Text} {part : Text}
    (h : part ∈ parts.foldl (push absolute) before) : part ∈ before ∨ part ∈ parts := by
  induction parts generalizing before with
  | nil => exact .inl h
  | cons piece parts ih =>
    rcases ih h with h | h
    · rcases mem_of_mem_push h with rfl | h
      · exact .inr List.mem_cons_self
      · exact .inl h
    · exact .inr (List.mem_cons_of_mem piece h)

/-- a character of the standard form other than slashes and points stands in the path -/
theorem mem_of_mem_normalize (hslash : c ≠ '/') (hpoint : c ≠ '.') (h : c ∈ normalize path) : c ∈ path := by
  obtain ⟨part, hpart, hc⟩ := mem_of_mem_ofPieces hslash hpoint (fun d hd => eq_slash_of_mem_root hd) h
  rw [List.mem_reverse] at hpart
  rcases mem_of_mem_foldl_push hpart with hnil | hpart
  · exact absurd hnil List.not_mem_nil
  · exact mem_of_mem_pieces hslash hpart hc

/-- a character of the tidy form other than slashes and points stands in the path -/
theorem mem_of_mem_tidy (hslash : c ≠ '/') (hpoint : c ≠ '.') (h : c ∈ tidy path) : c ∈ path := by
  obtain ⟨part, hpart, hc⟩ := mem_of_mem_ofPieces hslash hpoint (fun d hd => eq_slash_of_mem_root hd) h
  exact mem_of_mem_pieces hslash hpart hc

theorem mem_of_mem_join {directory : Text} (hslash : c ≠ '/') (h : c ∈ join directory path) :
    c ∈ directory ∨ c ∈ path := by
  unfold join at h
  split_ifs at h
  · exact .inr h
  · exact List.mem_append.1 h
  · rcases List.mem_append.1 h with h | h
    · exact .inl h
    · exact .inr (List.mem_of_ne_of_mem hslash h)

/-- **An absolute path is free of null characters** when the path and the directory it is seen from are. -/
theorem nul_notMem_absolute {directory : Text} (hdirectory : nul ∉ directory) (hpath : nul ∉ path) :
    nul ∉ absolute directory path := by
  intro h
  rcases mem_of_mem_join (by decide) (mem_of_mem_normalize (by decide) (by decide) h) with h | h
  · exact hdirectory h
  · exact hpath h

end SourceMark.Path
