/-
A preview is one scan. It collects its candidates pass by pass, leaves out those that it has already and sorts what it has
by their places. What comes out is what a single scan of the source yields, without the tags that no pass selects: nothing
is lost and nothing is listed twice, since the tags of a scan are apart and a tag is known by its place.

Results:
- `mem_oneScan`: both list the same candidates.
- `oneScan_apart`: the candidates of one scan stand one behind the other.
- `oneScan_text`: each stands in the source between its offsets, letter by letter.
- `preview_oneScan`: all of it in one statement.
-/
import SourceMark.Proofs.Preview

namespace SourceMark.Annotator

variable (a : Annotator) (source : Text) (disk : Option Text)

def isSelected (name : Text) : Bool :=
  a.isPlain name || (a.settings.markComponents && a.isComponent name)

/-- the candidates of a single scan, as they stand -/
def oneScan : List Candidate :=
  ((a.scanner.scan source).filter fun t => a.isSelected t.name).map (a.candidate source disk)

/-! ## The candidates -/

variable {a} in
theorem isSelected_iff {name : Text} : a.isSelected name = true ↔ ∃ pass ∈ a.passes, a.selects pass name = true := by
  have hpasses : Pass.component ∈ a.passes ↔ a.settings.markComponents = true := by
    unfold passes
    split_ifs with hmark
    · simp [hmark]
    · simp [hmark]
  rw [exists_pass, hpasses, isSelected, Bool.or_eq_true, Bool.and_eq_true]
  rfl

variable {a source disk}

/-- **The preview lists the candidates of one scan.** -/
theorem mem_oneScan {c : Candidate} : c ∈ a.oneScan source disk ↔ c ∈ a.preview source disk := by
  rw [mem_preview, oneScan, List.mem_map]
  constructor
  · rintro ⟨t, ht, rfl⟩
    obtain ⟨hscan, hselected⟩ := List.mem_filter.1 ht
    obtain ⟨pass, hpass, hselects⟩ := isSelected_iff.1 hselected
    exact ⟨pass, hpass, a.mem_candidates.2 ⟨t, hscan, hselects, rfl⟩⟩
  · rintro ⟨pass, hpass, hc⟩
    obtain ⟨t, hscan, hselects, rfl⟩ := a.mem_candidates.1 hc
    exact ⟨t, List.mem_filter.2 ⟨hscan, isSelected_iff.2 ⟨pass, hpass, hselects⟩⟩, rfl⟩

variable (a source disk)

theorem oneScan_map_tag :
    (a.oneScan source disk).map (·.tag) = (a.scanner.scan source).filter fun t => a.isSelected t.name := by
  rw [oneScan, List.map_map]
  exact List.map_id _

theorem oneScan_placed : Placed 0 source ((a.oneScan source disk).map (·.tag)) := by
  rw [oneScan_map_tag]
  exact (Scanner.scan_placed a.scanner source).sublist List.filter_sublist

/-! ## Their places -/

/-- **The candidates of one scan stand one behind the other.** -/
theorem oneScan_apart : (a.oneScan source disk).Pairwise fun c d => c.tag.stop ≤ d.tag.start := by
  have hplaced := (a.oneScan_placed source disk).pairwise
  rwa [List.pairwise_map] at hplaced

/-- they end in the order in which they stand -/
theorem oneScan_pairwise :
    (a.oneScan source disk).Pairwise fun c d => endOf 0 source c.tag < endOf 0 source d.tag := by
  refine (a.oneScan_apart source disk).imp_of_mem ?_
  intro c d hc hd hbehind
  exact (a.oneScan_placed source disk).endOf_lt (List.mem_map_of_mem hc) (List.mem_map_of_mem hd) hbehind

/-- **Each candidate stands in the source** between its offsets. -/
theorem oneScan_text {c : Candidate} (hc : c ∈ a.oneScan source disk) :
    (source.drop c.tag.start).take (c.tag.stop - c.tag.start) = c.tag.text := by
  obtain ⟨front, rest, hsource, hstart⟩ := (a.oneScan_placed source disk).of_mem (List.mem_map_of_mem hc)
  rw [Nat.zero_add] at hstart
  have hlength : c.tag.stop - c.tag.start = c.tag.text.length := Nat.add_sub_cancel_left _ _
  rw [hlength, hstart, hsource, List.append_assoc, List.drop_left, List.take_left]

/-- a preview and a scan that list the same candidates in the same order are one -/
theorem preview_eq_oneScan : a.preview source disk = a.oneScan source disk := by
  have hpreview := a.preview_pairwise disk source
  have hscan := a.oneScan_pairwise source disk
  have hne {c d : Candidate} (hlt : endOf 0 source c.tag < endOf 0 source d.tag) : c ≠ d := by
    intro heq
    rw [heq] at hlt
    exact Nat.lt_irrefl _ hlt
  have hperm : (a.preview source disk).Perm (a.oneScan source disk) := by
    rw [List.perm_ext_iff_of_nodup (hpreview.imp hne) (hscan.imp hne)]
    intro c
    exact mem_oneScan.symm
  apply hperm.eq_of_pairwise ?_ hpreview hscan
  intro c d _ _ hcd hdc
  exact absurd hdc (Nat.lt_asymm hcd)

/-- **A preview is one ordered scan.** For all settings it lists the candidates of a single scan of the source whose names
one of the passes selects, in the order in which the scan yields them. Each starts behind the one before and lies behind
its end, so none is listed twice; and between its offsets the source holds its text, which is made up of its name and its
attributes. -/
theorem preview_oneScan (s : Settings) (source : Text) (disk : Option Text) :
    let a := ofSettings s
    a.preview source disk = ((a.scanner.scan source).filter fun t =>
      a.isPlain t.name || (s.markComponents && a.isComponent t.name)).map (a.candidate source disk) ∧
    (a.preview source disk).Pairwise (fun c d => c.tag.start < d.tag.start ∧ c.tag.stop ≤ d.tag.start) ∧
    ∀ c ∈ a.preview source disk,
      (source.drop c.tag.start).take (c.tag.stop - c.tag.start) = c.tag.text ∧
        c.tag.text = '<' :: c.tag.name ++ c.tag.attributes ++ ['>'] := by
  intro a
  rw [a.preview_eq_oneScan source disk]
  refine ⟨rfl, ?_, ?_⟩
  · refine (a.oneScan_apart source disk).imp ?_
    intro c d hbehind
    exact ⟨Nat.lt_of_lt_of_le c.tag.start_lt_stop hbehind, hbehind⟩
  · intro c hc
    exact ⟨a.oneScan_text source disk hc, rfl⟩

end SourceMark.Annotator
