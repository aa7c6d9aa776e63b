/-
Where marked tags stand. A tag that a pass marks in its buffer carries no marker yet, so it stands in the source as it is,
and what is in front of it in the buffer is what the passes before have made of what is in front of it in the source.

Results:
- `exists_place`: the place of a marked tag in the source.
- `marksAt_eq_singleton`: a tag gets one marker.
- `marksAt_inside`: no marker is put inside a marked tag, unless the second pass takes part of it for a tag of its own.
- `weave_allSeams_tag`: the output has the marked tag where the source has the tag.
-/
import SourceMark.Proofs.Marker.Copies
import SourceMark.Proofs.Preview

namespace SourceMark.Annotator

variable (a : Annotator) (templateId : Text) (templateId_ne : templateId ≠ []) (disk : Option Text) (source : Text)

/-! ## The buffer of a pass -/

/-- the seams that are in the buffer of a pass -/
def earlierSeams : Pass → Seams
  | .plain => fun _ => none
  | .component => a.passSeams templateId templateId_ne disk .plain source

theorem bufferOf_eq_weave (pass : Pass) : a.bufferOf templateId templateId_ne disk source pass =
    weave (a.earlierSeams templateId templateId_ne disk source pass) source := by
  cases pass with
  | plain => exact (weave_none fun _ _ => rfl).symm
  | component => exact a.bufferOf_component templateId templateId_ne disk source

theorem marked_earlierSeams (pass : Pass) : (a.earlierSeams templateId templateId_ne disk source pass).Marked := by
  cases pass with
  | plain => exact fun k x hx => absurd hx (by simp [earlierSeams])
  | component => exact a.marked_passSeams templateId templateId_ne disk .plain source

/-- where a tag of a buffer stands in the source -/
structure Place (pass : Pass) (t : Tag) (front rest : Text) : Prop where
  source_eq : source = front ++ t.text ++ rest
  take_eq : (a.bufferOf templateId templateId_ne disk source pass).take t.start =
    weave (a.earlierSeams templateId templateId_ne disk source pass) front
  endOf_eq : endOf 0 (a.bufferOf templateId templateId_ne disk source pass) t = brackets front + brackets t.inner
  brackets_eq : brackets ((a.bufferOf templateId templateId_ne disk source pass).take t.start) = brackets front

variable {a templateId templateId_ne disk source} {glue : Bool} {pass : Pass} {t : Tag}

/-- **A tag that a pass finds eligible has no seam**, nor has any other copy of its text in the buffer: a seam in it makes
it marked. -/
theorem seamless (h : Scanner.Readable glue a.scanner)
    (ht : t ∈ a.scanner.scan (a.bufferOf templateId templateId_ne disk source pass)) (hreason : a.reason? t = none) :
    Seamless (a.earlierSeams templateId templateId_ne disk source pass) source t.text := by
  refine ⟨⟨t.name ++ t.attributes, by simp [Tag.text]⟩, ?_⟩
  intro f r hf k hlow hhigh
  cases pass with
  | plain => rfl
  | component =>
    by_contra hne
    obtain ⟨x, hx⟩ := Option.ne_none_iff_exists'.1 hne
    obtain ⟨c, -, -, -, rfl⟩ := a.passSeams_eq_some hx
    have hcount : brackets t.text = brackets (t.name ++ t.attributes) + 1 := by
      rw [t.text_eq_inner, brackets_append, Tag.inner, List.cons_append, brackets_cons_of_ne (by decide)]
      rfl
    have hcopy : weave (a.passSeams templateId templateId_ne disk .plain source) source =
        f ++ '<' :: (t.name ++ t.attributes) ++ '>' :: r := by
      rw [show a.passSeams templateId templateId_ne disk .plain source =
        a.earlierSeams templateId templateId_ne disk source .component from rfl, hf]
      simp [Tag.text]
    obtain ⟨u, v, huv⟩ := exists_inserted (a.marked_passSeams templateId templateId_ne disk .plain source) hcopy hx hlow
      (by omega)
    rw [a.reason?_of_marker h ht huv] at hreason
    exact absurd hreason (by simp)

theorem exists_copy (ht : t ∈ a.scanner.scan (a.bufferOf templateId templateId_ne disk source pass)) :
    ∃ f r, weave (a.earlierSeams templateId templateId_ne disk source pass) source = f ++ t.text ++ r ∧
      t.start = f.length ∧ (a.bufferOf templateId templateId_ne disk source pass).take t.start = f ∧
        endOf 0 (a.bufferOf templateId templateId_ne disk source pass) t = brackets f + brackets t.inner := by
  obtain ⟨f, r, htext, hplace⟩ := Scanner.exists_text ht
  exact ⟨f, r, (bufferOf_eq_weave ..).symm.trans htext, hplace⟩

theorem earlierSeams_eq_none (h : Scanner.Readable glue a.scanner)
    (ht : t ∈ a.scanner.scan (a.bufferOf templateId templateId_ne disk source pass)) (hreason : a.reason? t = none)
    {k : Nat} (hlow : brackets ((a.bufferOf templateId templateId_ne disk source pass).take t.start) ≤ k)
    (hhigh : k ≤ endOf 0 (a.bufferOf templateId templateId_ne disk source pass) t) :
    a.earlierSeams templateId templateId_ne disk source pass k = none := by
  obtain ⟨f, r, hf, -, htake, hend⟩ := exists_copy ht
  rw [htake] at hlow
  refine (seamless h ht hreason).none f r hf k hlow ?_
  rw [t.text_eq_inner, brackets_append, brackets_cons_bracket, brackets_nil]
  omega

/-- **A tag that a pass finds eligible stands in the source.** -/
theorem exists_place (h : Scanner.Readable glue a.scanner)
    (ht : t ∈ a.scanner.scan (a.bufferOf templateId templateId_ne disk source pass)) (hreason : a.reason? t = none) :
    ∃ front rest, a.Place templateId templateId_ne disk source pass t front rest := by
  obtain ⟨f, r, hf, -, htake, hend⟩ := exists_copy ht
  have hseamless := seamless h ht hreason
  have hmarked := a.marked_earlierSeams templateId templateId_ne disk source pass
  obtain ⟨front, rest, hsource, hfront⟩ := exists_front hmarked hseamless.shape hf (hseamless.none f r hf)
  have hcount : brackets f = brackets front := by rw [← hfront, brackets_weave hmarked]
  exact ⟨front, rest, hsource, by rw [htake, hfront], by rw [hend, hcount], by rw [htake, hcount]⟩

/-! ## The marks of a run -/

theorem of_mem_marksAt {k : Nat} {m : Mark} (hm : m ∈ a.marksAt templateId templateId_ne disk source k) :
    m.pass ∈ a.passes ∧ m.candidate.tag ∈ a.scanner.scan (a.bufferOf templateId templateId_ne disk source m.pass) ∧
      a.Marks m.pass m.candidate.tag ∧
        m.candidate = a.candidate (a.bufferOf templateId templateId_ne disk source m.pass) disk m.candidate.tag ∧
          endOf 0 (a.bufferOf templateId templateId_ne disk source m.pass) m.candidate.tag = k := by
  obtain ⟨pass, hpass, hmark⟩ := List.mem_flatMap.1 hm
  obtain ⟨c, hc, rfl⟩ := Option.map_eq_some_iff.1 (Option.mem_toList.1 hmark)
  have hfound := List.find?_some hc
  rw [Bool.and_eq_true, beq_iff_eq] at hfound
  obtain ⟨t, ht, hselects, rfl⟩ := a.mem_candidates.1 (List.mem_of_find?_eq_some hc)
  exact ⟨hpass, ht, ⟨hselects, Option.isNone_iff_eq_none.1 hfound.1⟩, rfl, hfound.2⟩

theorem exists_mark (hpass : pass ∈ a.passes)
    (ht : t ∈ a.scanner.scan (a.bufferOf templateId templateId_ne disk source pass)) (hmarks : a.Marks pass t) :
    ∃ m ∈ a.marksAt templateId templateId_ne disk source
      (endOf 0 (a.bufferOf templateId templateId_ne disk source pass) t), m.pass = pass ∧ m.candidate.tag = t := by
  have hsome : a.markAt? templateId templateId_ne disk source
      (endOf 0 (a.bufferOf templateId templateId_ne disk source pass) t) pass ≠ none := by
    intro hnone
    exact (a.markAt?_eq_none templateId templateId_ne disk source).1 hnone ⟨t, ht, hmarks, rfl⟩
  obtain ⟨m, hm⟩ := Option.ne_none_iff_exists'.1 hsome
  have hmem : m ∈ a.marksAt templateId templateId_ne disk source
      (endOf 0 (a.bufferOf templateId templateId_ne disk source pass) t) :=
    List.mem_flatMap.2 ⟨pass, hpass, Option.mem_toList.2 hm⟩
  obtain ⟨c, -, rfl⟩ := Option.map_eq_some_iff.1 hm
  obtain ⟨-, ht', -, -, hend⟩ := of_mem_marksAt hmem
  exact ⟨_, hmem, rfl, Scanner.eq_of_endOf_eq ht' ht hend⟩

/-- **A tag gets one marker.** -/
theorem marksAt_eq_singleton (h : Scanner.Readable glue a.scanner) {k : Nat} {m : Mark}
    (hm : m ∈ a.marksAt templateId templateId_ne disk source k) :
    a.marksAt templateId templateId_ne disk source k = [m] := by
  have hle : (a.marksAt templateId templateId_ne disk source k).length ≤ 1 := length_marksAt_le h k
  cases hmarks : a.marksAt templateId templateId_ne disk source k with
  | nil => exact absurd (hmarks ▸ hm) List.not_mem_nil
  | cons n rest =>
    rw [hmarks, List.length_cons] at hle
    obtain rfl : rest = [] := List.length_eq_zero_iff.1 (by omega)
    rw [hmarks, List.mem_singleton] at hm
    rw [hm]

theorem not_marksAt_inside {buffer : Text} (ht : t ∈ a.scanner.scan buffer) {k : Nat}
    (hlow : brackets (buffer.take t.start) ≤ k) (hhigh : k < endOf 0 buffer t) : ¬a.MarksAt pass buffer k := by
  rintro ⟨u, hu, -, rfl⟩
  obtain rfl := (Scanner.scan_placed a.scanner buffer).eq_of_endOf ht hu hlow (Nat.le_of_lt hhigh)
  exact absurd hhigh (Nat.lt_irrefl _)

/-- **No marker is put inside a marked tag**, when the second pass keeps to the component tags of the source. -/
theorem marksAt_inside (h : Scanner.Readable glue a.scanner) {k : Nat} {m : Mark}
    (hm : m ∈ a.marksAt templateId templateId_ne disk source k) {front rest : Text}
    (hplace : a.Place templateId templateId_ne disk source m.pass m.candidate.tag front rest)
    (hkeeps : m.pass = .plain → a.KeepsComponents templateId templateId_ne disk source) {j : Nat}
    (hlow : brackets front ≤ j) (hhigh : j < k) : a.marksAt templateId templateId_ne disk source j = [] := by
  obtain ⟨-, ht, ⟨-, hreason⟩, -, rfl⟩ := of_mem_marksAt hm
  rw [marksAt_eq_nil]
  rintro other -
  have hlow : brackets ((a.bufferOf templateId templateId_ne disk source m.pass).take m.candidate.tag.start) ≤ j := by
    rw [hplace.brackets_eq]
    exact hlow
  have hown {pass : Pass} :
      ¬a.MarksAt pass (a.bufferOf templateId templateId_ne disk source m.pass) j := not_marksAt_inside ht hlow hhigh
  cases hpass : m.pass with
  | plain =>
    rw [hpass] at hown
    cases other with
    | plain => exact hown
    | component => exact fun hmarks => hown ((hkeeps hpass j).1 hmarks).1
  | component =>
    rw [hpass] at hown
    cases other with
    | plain =>
      have hnone : a.passSeams templateId templateId_ne disk .plain source j = none := by
        have hearlier := earlierSeams_eq_none h ht hreason hlow (Nat.le_of_lt hhigh)
        rwa [hpass] at hearlier
      exact a.passSeams_eq_none.1 hnone
    | component => exact hown

/-- **The output has the marked tag where the source has the tag**, when no marker is put inside it. -/
theorem weave_allSeams_tag (h : Scanner.Readable glue a.scanner) {k : Nat} {m : Mark}
    (hm : m ∈ a.marksAt templateId templateId_ne disk source k) {front rest : Text}
    (hplace : a.Place templateId templateId_ne disk source m.pass m.candidate.tag front rest)
    (hinside : ∀ j, brackets front ≤ j → j < k → a.marksAt templateId templateId_ne disk source j = []) :
    weave (a.allSeams templateId templateId_ne disk source) source =
      weave (a.allSeams templateId templateId_ne disk source) front ++
        Marker.insert (a.marker templateId templateId_ne m.candidate) m.candidate.tag ++
          weave ((a.allSeams templateId templateId_ne disk source).drop (k + 1)) rest := by
  obtain ⟨-, -, -, -, hend⟩ := of_mem_marksAt hm
  have hk : brackets front + brackets m.candidate.tag.inner = k := hplace.endOf_eq.symm.trans hend
  have hnone : ∀ j, brackets front ≤ j → j < brackets front + brackets m.candidate.tag.inner →
      a.allSeams templateId templateId_ne disk source j = none := by
    intro j hlow hhigh
    rw [allSeams_eq_joined, hinside j hlow (hk ▸ hhigh)]
    rfl
  have hseam : a.allSeams templateId templateId_ne disk source k =
      some (' ' :: a.marker templateId templateId_ne m.candidate) := by
    rw [allSeams_eq_joined, marksAt_eq_singleton h hm]
    simp [joined, piece]
  have hweave := weave_tag rest (show m.candidate.tag.inner.head? = some '<' from rfl) hnone
  rw [← m.candidate.tag.text_eq_inner, ← hplace.source_eq, hk, hseam, sew_some] at hweave
  rw [hweave, Marker.insert_eq_seam]
  simp

end SourceMark.Annotator
