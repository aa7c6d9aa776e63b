/-
What annotating adds. A run puts markers before the brackets that end eligible tags, and it moves or drops nothing of the
source but blanks next to those brackets.

Results:
- `allSeams_eq_joined`: the seams of all passes hold the markers of their marks.
- `annotate_inserts`: a run inserts markers only, each at the end of a tag that a pass finds eligible.
-/
import SourceMark.Proofs.Marker.Inserts
import SourceMark.Proofs.Passes

namespace SourceMark

/-- a candidate that gets a marker, and the pass that gives it -/
structure Mark where
  pass : Pass
  candidate : Candidate

namespace Annotator

variable (a : Annotator) (templateId : Text) (templateId_ne : templateId ≠ []) (disk : Option Text) (source : Text)

def piece (m : Mark) : Text :=
  ' ' :: a.marker templateId templateId_ne m.candidate

/-- the mark of a pass at a bracket, if it makes one there -/
def markAt? (k : Nat) (pass : Pass) : Option Mark :=
  ((a.candidates pass (a.bufferOf templateId templateId_ne disk source pass) disk).find? fun c =>
    c.isEligible && endOf 0 (a.bufferOf templateId templateId_ne disk source pass) c.tag == k).map (⟨pass, ·⟩)

theorem passSeams_eq_joined (k : Nat) (pass : Pass) :
    a.passSeams templateId templateId_ne disk pass (a.bufferOf templateId templateId_ne disk source pass) k =
      joined ((a.markAt? templateId templateId_ne disk source k pass).toList.map (a.piece templateId templateId_ne)) := by
  unfold passSeams seams markAt?
  cases (a.candidates pass (a.bufferOf templateId templateId_ne disk source pass) disk).find? fun c =>
    c.isEligible && endOf 0 (a.bufferOf templateId templateId_ne disk source pass) c.tag == k with
  | none => rfl
  | some c => simp [joined, piece]

def marksAt (k : Nat) : List Mark :=
  a.passes.flatMap fun pass => (a.markAt? templateId templateId_ne disk source k pass).toList

theorem allSeams_eq_joined (k : Nat) : a.allSeams templateId templateId_ne disk source k =
    joined ((a.marksAt templateId templateId_ne disk source k).map (a.piece templateId templateId_ne)) := by
  have hfold (passes : List Pass) (pieces : List Text) :
      passes.foldl (fun inserted pass => Seams.both inserted (a.passSeams templateId templateId_ne disk pass
        (a.bufferOf templateId templateId_ne disk source pass) k)) (joined pieces) =
      joined (pieces ++ (passes.flatMap fun pass =>
        (a.markAt? templateId templateId_ne disk source k pass).toList).map (a.piece templateId templateId_ne)) := by
    induction passes generalizing pieces with
    | nil => simp
    | cons pass passes ih =>
      rw [List.foldl_cons, passSeams_eq_joined, both_joined, ih, List.flatMap_cons, List.map_append, List.append_assoc]
  exact hfold a.passes []

theorem markAt?_eq_none {k : Nat} {pass : Pass} : a.markAt? templateId templateId_ne disk source k pass = none ↔
    ¬a.MarksAt pass (a.bufferOf templateId templateId_ne disk source pass) k := by
  have hnone : a.passSeams templateId templateId_ne disk pass (a.bufferOf templateId templateId_ne disk source pass) k =
      none ↔ _ := a.passSeams_eq_none
  rw [← hnone, markAt?, passSeams, seams, Option.map_eq_none_iff, Option.map_eq_none_iff]

/-- **No mark is at a bracket** if and only if no pass marks a tag that ends there. -/
theorem marksAt_eq_nil {k : Nat} : a.marksAt templateId templateId_ne disk source k = [] ↔
    ∀ pass ∈ a.passes, ¬a.MarksAt pass (a.bufferOf templateId templateId_ne disk source pass) k := by
  simp only [marksAt, List.flatMap_eq_nil_iff, Option.toList_eq_nil_iff, markAt?_eq_none]

theorem allSeams_eq_none {k : Nat} : a.allSeams templateId templateId_ne disk source k = none ↔
    ∀ pass ∈ a.passes, ¬a.MarksAt pass (a.bufferOf templateId templateId_ne disk source pass) k := by
  rw [allSeams_eq_joined, joined_eq_none, List.map_eq_nil_iff, marksAt_eq_nil]

theorem inserted_of_mem {k : Nat} {marks : Nat → List Mark} :
    ∀ p ∈ (marks k).map (a.piece templateId templateId_ne), Inserted p := by
  intro p hp
  obtain ⟨m, -, rfl⟩ := List.mem_map.1 hp
  exact .one (a.shape_marker templateId templateId_ne m.candidate)

theorem marked_allSeams : (a.allSeams templateId templateId_ne disk source).Marked := by
  intro k x hx
  rw [allSeams_eq_joined] at hx
  exact inserted_joined (a.inserted_of_mem templateId templateId_ne) hx

/-- **A run inserts its marks.** -/
theorem annotate_marksAt : ∃ (r : Annotated) (kept : Text), a.annotate source templateId disk = .ok r ∧
    r.output = weave (a.allSeams templateId templateId_ne disk source) source ∧
      Inserts (fun k => (a.marksAt templateId templateId_ne disk source k).map (a.piece templateId templateId_ne)) 0
        source r.output kept := by
  obtain ⟨events, hannotate⟩ := a.annotate_eq_weave templateId templateId_ne disk source
  obtain ⟨kept, hkept⟩ := inserts_weave (a.allSeams_eq_joined templateId templateId_ne disk source) source
  exact ⟨_, kept, hannotate, rfl, hkept⟩

/-- **Only markers are added.** The output is the source with markers before closing brackets, or before the slash in
front of one; nothing but blanks next to these gives way. Each marker belongs to a tag that a pass finds eligible, and
goes before the bracket that ends it: brackets have the same number in the source and in the buffer of a pass. Without
the markers the output has the characters of the source, blanks apart. -/
theorem annotate_inserts {templateId : Text} (templateId_ne : templateId ≠ []) :
    ∃ (r : Annotated) (marks : Nat → List Mark) (kept : Text), a.annotate source templateId disk = .ok r ∧
      Inserts (fun k => (marks k).map (a.piece templateId templateId_ne)) 0 source r.output kept ∧
        ink kept = ink source ∧ ∀ k, ∀ m ∈ marks k, m.pass ∈ a.passes ∧ m.candidate.isEligible = true ∧
          m.candidate ∈ a.candidates m.pass (a.bufferOf templateId templateId_ne disk source m.pass) disk ∧
            endOf 0 (a.bufferOf templateId templateId_ne disk source m.pass) m.candidate.tag = k := by
  obtain ⟨r, kept, hannotate, -, hkept⟩ := a.annotate_marksAt templateId templateId_ne disk source
  refine ⟨r, _, kept, hannotate, hkept, hkept.ink_eq, ?_⟩
  intro k m hm
  obtain ⟨pass, hpass, hmark⟩ := List.mem_flatMap.1 hm
  obtain ⟨c, hc, rfl⟩ := Option.map_eq_some_iff.1 (Option.mem_toList.1 hmark)
  have hfound := List.find?_some hc
  rw [Bool.and_eq_true, beq_iff_eq] at hfound
  exact ⟨hpass, hfound.1, List.mem_of_find?_eq_some hc, hfound.2⟩

theorem annotate_inserts_home : "home".toList ≠ [] ∧ ∃ (r : Annotated) (marks : Nat → List Mark) (kept : Text),
    (ofSettings .standard).annotate "<div><x-card />".toList "home".toList none = .ok r ∧
      Inserts (fun k => (marks k).map ((ofSettings .standard).piece "home".toList (by decide))) 0
        "<div><x-card />".toList r.output kept ∧ ink kept = "<div><x-card/>".toList := by
  obtain ⟨r, marks, kept, hrun, hinserts, hink, -⟩ := annotate_inserts (ofSettings .standard) none
    "<div><x-card />".toList (show "home".toList ≠ [] by decide)
  exact ⟨by decide, r, marks, kept, hrun, hinserts, hink.trans (by decide)⟩

end Annotator

end SourceMark
