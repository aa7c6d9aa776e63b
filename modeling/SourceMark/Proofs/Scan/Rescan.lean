/-
Scanning a text and the same text with markers. The scanner finds the same tags in both: as many, with the same names, at
corresponding places. What a marked tag has in its attributes besides is the marker.

Results:
- `scan_blind`: the tags of two texts that differ by markers echo each other.
- `clear_of_ends`: a bracket that ends a tag is not held.
- `rescan`: scanning a weave with seams at the ends of tags finds the same tags, each with its seam.
-/
import SourceMark.Proofs.Marker.Unwoven
import SourceMark.Proofs.Scan.Placed
import SourceMark.Proofs.Scan.Readings
import SourceMark.Proofs.Walk.EndTag

namespace SourceMark.Scanner

variable {glue : Bool} {sc : Scanner} {s o : Text}

/-- two tags of texts that differ by markers, at corresponding places -/
structure Echo (glue : Bool) (source output : Text) (t t' : Tag) : Prop where
  name : t.name = t'.name
  nestedGt : t.nestedGt = t'.nestedGt
  start : Woven glue (source.drop t.start) (output.drop t'.start)
  stop : Woven glue (source.drop t.stop) (output.drop t'.stop)

theorem scanFrom_idle (h : ReadableDialect glue sc.dialect) {run : Text} (hrun : ∀ c ∈ run, Idle c)
    (before : Option Char) (offset : Nat) (rest : Text) : sc.scanFrom 0 before offset (run ++ rest) =
      sc.scanFrom 0 (run.getLast?.or before) (offset + run.length) rest := by
  induction run generalizing before offset with
  | nil => rfl
  | cons c run ih =>
    have hidle := read_idle h before offset (hrun c List.mem_cons_self) (run ++ rest)
    rw [List.cons_append, scanFrom, hidle]
    simp only
    rw [ih (fun d hd => hrun d (List.mem_cons_of_mem _ hd)), List.getLast?_cons, Option.or_some, List.length_cons,
      Nat.add_assoc, Nat.add_comm 1 run.length]
    rfl

theorem idle_dull {z : Text} (hz : ∀ c ∈ z, isDull c = true) : ∀ c ∈ z ++ ['>'], Idle c := by
  intro c hc
  rcases List.mem_append.1 hc with hc | hc
  · exact Or.inl (isInert_of_isDull (hz c hc))
  · exact Or.inr (Or.inr (List.mem_singleton.1 hc))

theorem idle_inserted {x : Text} (hx : Inserted x) : ∀ c ∈ x, Idle c := by
  intro c hc
  rcases hx.mem c hc with h | h
  · exact Or.inl (Text.isInert_of_isQuiet h)
  · exact Or.inr (Or.inl h)

/-- two texts whose scans echo each other, whatever stands before them -/
def Alike (glue : Bool) (sc : Scanner) (s o : Text) : Prop :=
  ∀ (before : Option Char) (p q : Text),
    List.Forall₂ (Echo glue (p ++ s) (q ++ o)) (sc.scanFrom 0 before p.length s) (sc.scanFrom 0 before q.length o)

/-- scans go on alike behind a stretch when they do from all later places -/
theorem forall₂_behind {c : Char} (p q : Text)
    (ih : ∀ {s' o'}, s'.length < (c :: s).length → Woven glue s' o' → Alike glue sc s' o') (hw : Woven glue s o) {m n : Nat}
    (hafter : After glue (c :: s) (c :: o) ((c :: s).drop m) ((c :: o).drop n)) :
    List.Forall₂ (Echo glue (p ++ c :: s) (q ++ c :: o)) (sc.scanFrom (m - 1) (some c) (p.length + 1) s)
      (sc.scanFrom (n - 1) (some c) (q.length + 1) o) := by
  obtain ⟨u, v, hu, hv, hlast, hrest⟩ := hafter
  by_cases hne : u = []
  · have hne' : v = [] := by
      rw [hne, List.getLast?_nil] at hlast
      exact List.getLast?_eq_none_iff.1 hlast.symm
    have zero {n : Nat} {text : Text} (h : c :: text = [] ++ (c :: text).drop n) : n - 1 = 0 := by
      have := congrArg List.length h
      rw [List.nil_append, List.length_drop, List.length_cons] at this
      omega
    have := ih (by simp) hw (some c) (p ++ [c]) (q ++ [c])
    rw [zero (hne ▸ hu), zero (hne' ▸ hv)]
    simpa using this
  · have hne' : v ≠ [] := by
      rintro rfl
      exact hne (List.getLast?_eq_none_iff.1 hlast)
    have hshort : ((c :: s).drop m).length < (c :: s).length := by
      have := congrArg List.length hu
      have := List.length_pos_iff.2 hne
      rw [List.length_append] at *
      omega
    have := ih hshort hrest u.getLast? (p ++ u) (q ++ v)
    rw [scanFrom_stretch hu rfl hne, scanFrom_stretch hv rfl hne', ← hlast]
    rwa [List.append_assoc, List.append_assoc, ← hu, ← hv, List.length_append, List.length_append] at this

/-- **Scanning goes on alike** from corresponding places behind the same character. -/
theorem scanFrom_blind (h : Readable glue sc) (hw : Woven glue s o) : Alike glue sc s o := by
  induction hlen : s.length using Nat.strong_induction_on generalizing s o with
  | _ len ih =>
    subst hlen
    intro before p q
    cases hw with
    | nil => exact .nil
    | @closing x y z s o hx hy hz hhead tail =>
      have hrun : ∀ c ∈ x ++ (y ++ ['>']), Idle c := by
        intro c hc
        exact (List.mem_append.1 hc).elim (idle_inserted hx c) (idle_dull hy c)
      have hs := scanFrom_idle h.dialect (idle_dull hz) before p.length s
      have ho := scanFrom_idle h.dialect hrun before q.length o
      have := ih s.length (by simp; omega) tail rfl (some '>') (p ++ (z ++ ['>'])) (q ++ (x ++ (y ++ ['>'])))
      simp only [List.append_assoc, List.cons_append, List.nil_append, List.length_append] at hs ho this ⊢
      rw [hs, ho]
      simpa using this
    | @keep c s o hheld tail =>
      have hw : Woven glue (c :: s) (c :: o) := .keep hheld tail
      have behind {m n : Nat} (hafter : After glue (c :: s) (c :: o) ((c :: s).drop m) ((c :: o).drop n)) :
          List.Forall₂ (Echo glue (p ++ c :: s) (q ++ c :: o)) (sc.scanFrom (m - 1) (some c) (p.length + 1) s)
            (sc.scanFrom (n - 1) (some c) (q.length + 1) o) :=
        forall₂_behind p q (fun hshort hw => ih _ hshort hw rfl) tail hafter
      have hread := read_blind h before p.length q.length hw tail
      rw [scanFrom, scanFrom]
      generalize hs : sc.read before p.length (c :: s) = reading at hread
      generalize ho : sc.read before q.length (c :: o) = reading' at hread
      cases hread with
      | ordinary => exact behind (m := 0) (n := 0) (Kept.refl hw).after
      | stretch hafter => exact behind hafter
      | @tag t t' hname hgt hafter =>
        obtain ⟨hstart, -⟩ := text_eq_of_tagAt? (tagAt?_of_read hs)
        obtain ⟨hstart', -⟩ := text_eq_of_tagAt? (tagAt?_of_read ho)
        refine .cons ⟨hname, hgt, ?_, ?_⟩ (behind hafter)
        · rw [hstart, hstart', List.drop_left, List.drop_left]
          exact hw
        · rw [Tag.stop, Tag.stop, hstart, hstart', ← List.drop_drop, ← List.drop_drop, List.drop_left, List.drop_left]
          exact hafter.woven

/-- **The tags of two texts that differ by markers echo each other.** -/
theorem scan_blind (h : Readable glue sc) (hw : Woven glue s o) :
    List.Forall₂ (Echo glue s o) (sc.scan s) (sc.scan o) :=
  scanFrom_blind h hw none [] []

/-! ## Names -/

/-- characters that a name of the scanner has no letter for -/
structure Foreign (sc : Scanner) (chars : List Char) : Prop where
  component : ∀ p ∈ sc.componentPrefix, ∀ c ∈ chars, Text.sameLetter p c = false
  names : ∀ name ∈ sc.tagNames, ∀ p ∈ name, ∀ c ∈ chars, Text.sameLetter p c = false
  nameChars : ∀ c ∈ chars, Dialect.isNameChar c = false

theorem Readable.foreign (h : Readable glue sc) : Foreign sc ('<' :: stops) where
  component := h.component
  names := h.names
  nameChars := by decide

theorem dropLetters?_chars {chars : List Char} {name text rest : Text}
    (hname : ∀ p ∈ name, ∀ c ∈ chars, Text.sameLetter p c = false) (h : dropLetters? name text = some rest) :
    name.length ≤ text.length ∧ rest = text.drop name.length ∧ ∀ c ∈ text.take name.length, c ∉ chars := by
  obtain ⟨rfl, hlen⟩ := Text.dropHeadBy?_eq_drop h
  obtain ⟨u, hu, hsame⟩ := exists_recognised h
  obtain rfl : text.take name.length = u := List.append_cancel_right ((List.take_append_drop name.length text).trans hu)
  refine ⟨hlen, rfl, ?_⟩
  intro c hc hstop
  obtain ⟨p, hp, hpc⟩ := exists_left_of_forall₂ hsame hc
  rw [hname p hp c hstop] at hpc
  exact absurd hpc (by decide)

theorem componentName?_chars {chars : List Char} (h : Foreign sc chars) {text : Text} {n : Nat}
    (hn : sc.componentName? text = some n) : 0 < n ∧ n ≤ text.length ∧ ∀ c ∈ text.take n, c ∉ chars := by
  unfold componentName? at hn
  split_ifs at hn with hempty
  obtain ⟨rest, hrest, hif⟩ := Option.bind_eq_some_iff.1 hn
  obtain ⟨hlen, rfl, hchars⟩ := dropLetters?_chars h.component hrest
  dsimp only at hif
  split_ifs at hif with hmore
  obtain rfl := Option.some.inj hif
  have hmore' := (List.takeWhile_sublist Dialect.isNameChar (l := text.drop sc.componentPrefix.length)).length_le
  rw [List.length_drop] at hmore'
  have hpos : sc.componentPrefix.length ≠ 0 := by simpa using hempty
  refine ⟨by omega, by omega, ?_⟩
  intro c hc hstop
  rw [List.take_add, List.mem_append] at hc
  rcases hc with hc | hc
  · exact hchars c hc hstop
  · have htake : (text.drop sc.componentPrefix.length).take
        ((text.drop sc.componentPrefix.length).takeWhile Dialect.isNameChar).length =
        (text.drop sc.componentPrefix.length).takeWhile Dialect.isNameChar :=
      (List.prefix_iff_eq_take.1 (List.takeWhile_prefix _)).symm
    rw [htake] at hc
    have hname := List.mem_takeWhile_imp hc
    rw [h.nameChars c hstop] at hname
    exact absurd hname (by decide)

/-- the characters of a name are those of the scanner's names, case apart, and name characters -/
theorem nameLength?_chars {chars : List Char} (h : Foreign sc chars) {text : Text} {n : Nat}
    (hn : sc.nameLength? text = some n) : 0 < n ∧ n ≤ text.length ∧ ∀ c ∈ text.take n, c ∉ chars := by
  rcases Option.or_eq_some_iff.1 hn with hn | ⟨-, hn⟩
  · exact componentName?_chars h hn
  · obtain ⟨name, hmem, hif⟩ := List.exists_of_findSome?_eq_some hn
    split_ifs at hif with hname
    obtain rfl := Option.some.inj hif
    rw [Bool.and_eq_true, Bool.not_eq_true', List.isEmpty_eq_false_iff] at hname
    obtain ⟨rest, hrest, -⟩ := (Option.any_eq_true _ _).1 hname.2
    obtain ⟨hlen, -, hchars⟩ := dropLetters?_chars (h.names name hmem) hrest
    exact ⟨List.length_pos_iff.2 hname.1, hlen, hchars⟩

/-- the name of a tag is the one that is read behind its opening bracket -/
theorem nameLength?_of_tagAt? {text : Text} {offset : Nat} {t : Tag} (ht : sc.tagAt? offset text = some (.tag t)) :
    ∃ rest n, text = '<' :: rest ∧ sc.nameLength? rest = some n ∧ t.name = rest.take n := by
  unfold tagAt? at ht
  split at ht
  · next text =>
    obtain ⟨n, hn, hreading⟩ := Option.map_eq_some_iff.1 ht
    split at hreading
    · obtain rfl := Reading.tag.inj hreading
      exact ⟨text, n, rfl, hn, rfl⟩
    · exact absurd hreading (by simp)
  · exact absurd ht (by simp)

theorem Foreign.notMem_name {chars : List Char} (h : Foreign sc chars) {text : Text} {offset : Nat} {t : Tag}
    (ht : sc.tagAt? offset text = some (.tag t)) : ∀ c ∈ t.name, c ∉ chars := by
  obtain ⟨rest, n, -, hn, hname⟩ := nameLength?_of_tagAt? ht
  rw [hname]
  exact (nameLength?_chars h hn).2.2

/-- what a tag that is read consists of -/
theorem parts_of_tagAt? (h : Readable glue sc) {text : Text} {offset : Nat} {t : Tag}
    (ht : sc.tagAt? offset text = some (.tag t)) : t.name ≠ [] ∧ (∀ c ∈ t.name, c ∉ '<' :: stops) ∧
      ∃ rest, text = t.inner ++ '>' :: rest ∧
        Nesting.tagEnd? sc.dialect.nestedRegions (.inside 0 []) (t.attributes ++ '>' :: rest) =
          some (t.nestedGt, rest) := by
  unfold tagAt? at ht
  split at ht
  · next text =>
    obtain ⟨n, hn, hreading⟩ := Option.map_eq_some_iff.1 ht
    obtain ⟨hpos, hlen, hchars⟩ := nameLength?_chars h.foreign hn
    split at hreading
    · next body hbody =>
      obtain rfl := Reading.tag.inj hreading
      refine ⟨?_, hchars, body.rest, ?_, ?_⟩
      · rw [← List.length_pos_iff, List.length_take]
        omega
      · rw [Tag.inner, List.append_assoc, ← Nesting.body?_eq_some hbody, List.cons_append, List.take_append_drop]
      · have hclosable : Nesting.Closable [] := fun _ hm => absurd hm List.not_mem_nil
        rw [← Nesting.bodyFrom?_eq_tagEnd? h.dialect.regions.closes hclosable, ← Nesting.body?_eq_some hbody]
        unfold Nesting.body? at hbody
        rw [hbody]
        rfl
    · simp at hreading
  · simp at ht

/-! ## Ends of tags are not held -/

section End

variable {front rest u v : Text} {t : Tag}

/-- no end tag stands right before the bracket that ends a tag -/
theorem beginsEndTag_end (h : Readable glue sc) (ht : Nesting.Tidy sc.dialect.nestedRegions)
    (htag : sc.tagAt? t.start (t.inner ++ '>' :: rest) = some (.tag t)) (hv : front ++ t.inner = u ++ v) (hnot : '>' ∉ v) :
    beginsEndTag (v ++ ['>']) = false := by
  obtain ⟨hname, hchars, rest', htext, hwalk⟩ := parts_of_tagAt? h htag
  obtain rfl : rest = rest' := List.tail_eq_of_cons_eq (List.append_cancel_left htext)
  rw [Bool.eq_false_iff]
  intro hbegins
  obtain ⟨run, tail, hrun, hinert⟩ := beginsEndTag_iff.1 hbegins
  obtain ⟨rfl, -⟩ := cut_inj hnot (bracket_notMem_of_isInert hinert) hrun
  have hopen : '<' ∉ '/' :: run := by
    intro hm
    exact (List.mem_cons.1 hm).elim (by decide) fun hm => Text.ne_of_isInert (hinert _ hm) (by decide) rfl
  have inside (e : Text) (he : t.attributes = e ++ '<' :: '/' :: run) : False := by
    have hguarded : (Nesting.Place.inside 0 []).Guarded glue (e ++ '<' :: '/' :: run ++ '>' :: rest) :=
      ⟨by simp, fun _ hm => absurd hm List.not_mem_nil⟩
    rw [he] at hwalk
    exact Nesting.tagEnd?_endTag h.dialect.regions ht hinert hguarded t.nestedGt hwalk
  have atHead (he : t.name ++ t.attributes = '/' :: run) : False := by
    obtain ⟨c, name, hc⟩ := List.exists_cons_of_ne_nil hname
    rw [hc] at he
    exact hchars c (hc ▸ List.mem_cons_self) ((List.head_eq_of_cons_eq he) ▸ by decide)
  -- the opening bracket of the end tag is before the tag, that of the tag, in its name or in its attributes
  rw [Tag.inner, List.cons_append] at hv
  rcases List.append_eq_append_iff.1 hv with ⟨e, -, he⟩ | ⟨e, -, he⟩
  · cases e with
    | nil => exact atHead (List.tail_eq_of_cons_eq he)
    | cons d e =>
      rw [List.cons_append] at he
      rcases List.append_eq_append_iff.1 (List.tail_eq_of_cons_eq he) with ⟨f, -, hf⟩ | ⟨f, hnamef, hf⟩
      · exact inside f hf
      · cases f with
        | nil => exact inside [] hf.symm
        | cons d f =>
          obtain rfl : '<' = d := List.head_eq_of_cons_eq hf
          exact hchars '<' (hnamef ▸ List.mem_append_right _ List.mem_cons_self) List.mem_cons_self
  · cases e with
    | nil => exact atHead (List.tail_eq_of_cons_eq he).symm
    | cons d e =>
      rw [List.cons_append] at he
      exact hopen (List.tail_eq_of_cons_eq he ▸ List.mem_append_right _ List.mem_cons_self)

/-- no end of a block of code stands at the bracket that ends a tag, when no question mark stands before it -/
theorem beginsCodeEnd_end (hcode : t.inner.getLast? ≠ some '?') (hv : front ++ t.inner = u ++ v) (hnot : '>' ∉ v) :
    beginsCodeEnd (v ++ ['>']) = false := by
  rw [Bool.eq_false_iff]
  intro hbegins
  unfold beginsCodeEnd at hbegins
  split at hbegins
  · next tail hrest =>
    obtain ⟨rfl, -⟩ := cut_inj (b := ['?']) hnot (by decide) hrest
    apply hcode
    have hlast := congrArg List.getLast? hv
    rw [List.getLast?_append, List.getLast?_concat] at hlast
    obtain ⟨c, hc⟩ : ∃ c, t.inner.getLast? = some c := by
      rw [Tag.inner, List.cons_append, List.getLast?_cons]
      exact ⟨_, rfl⟩
    rw [hc] at hlast ⊢
    exact hlast
  · exact absurd hbegins (by decide)

/-- **The bracket that ends a tag is not held**, unless brackets behind question marks are. -/
theorem isHeld_end (h : Readable glue sc) (ht : Nesting.Tidy sc.dialect.nestedRegions) {held : Bool}
    (htag : sc.tagAt? t.start (t.inner ++ '>' :: rest) = some (.tag t))
    (hcode : held = true → t.inner.getLast? ≠ some '?') (hv : front ++ t.inner = u ++ v) (hnot : '>' ∉ v) :
    isHeld held (v ++ ['>']) = false := by
  rw [isHeld, beginsEndTag_end h ht htag hv hnot, Bool.false_or]
  cases held with
  | false => rfl
  | true => rw [beginsCodeEnd_end (hcode rfl) hv hnot, Bool.and_false]

end End

/-! ## Seams at the ends of tags -/

/-- seams that are made at the ends of tags only -/
def EndSeams (sc : Scanner) (text : Text) (seams : Seams) : Prop :=
  ∀ k, seams k ≠ none → ∃ t ∈ sc.scan text, endOf 0 text t = k

variable {seams : Seams} {text : Text}

theorem exists_text {t : Tag} (h : t ∈ sc.scan text) :
    ∃ front rest, text = front ++ t.text ++ rest ∧ t.start = front.length ∧ text.take t.start = front ∧
      endOf 0 text t = brackets front + brackets t.inner := by
  obtain ⟨front, rest, htext, hstart⟩ := (scan_placed sc text).of_mem h
  exact ⟨front, rest, htext, hstart.trans (Nat.zero_add _), take_start htext hstart, endOf_eq htext hstart⟩

theorem exists_around {t : Tag} (h : t ∈ sc.scan text) :
    ∃ front rest, text = front ++ t.inner ++ '>' :: rest ∧ text.take t.start = front ∧
      text.drop t.start = t.inner ++ '>' :: rest ∧ text.drop t.stop = rest ∧
        endOf 0 text t = brackets front + brackets t.inner := by
  obtain ⟨front, rest, htext, hstart, htake, hend⟩ := exists_text h
  have hinner : text = front ++ (t.inner ++ '>' :: rest) := by rw [htext, t.text_eq_inner]; simp
  refine ⟨front, rest, by rw [hinner, List.append_assoc], htake, ?_, ?_, hend⟩
  · rw [hstart, hinner, List.drop_left]
  · exact drop_stop htext (hstart.trans (Nat.zero_add _).symm)

theorem eq_of_endOf_eq {t u : Tag} (ht : t ∈ sc.scan text) (hu : u ∈ sc.scan text)
    (h : endOf 0 text t = endOf 0 text u) : t = u := by
  have hplaced := scan_placed sc text
  rcases hplaced.apart ht hu with h' | h' | h'
  · exact h'
  · have := hplaced.endOf_lt ht hu h'
    omega
  · have := hplaced.endOf_lt hu ht h'
    omega

theorem EndSeams.eq_none (hends : EndSeams sc text seams) {t : Tag} (ht : t ∈ sc.scan text) {k : Nat}
    (hlow : brackets (text.take t.start) ≤ k) (hhigh : k < endOf 0 text t) : seams k = none := by
  by_contra hseam
  obtain ⟨u, hu, rfl⟩ := hends k hseam
  obtain rfl := (scan_placed sc text).eq_of_endOf ht hu hlow (by omega)
  omega

/-- **No seam at the end of a tag is at a held bracket.** -/
theorem clear_of_ends (h : Readable glue sc) (ht : Nesting.Tidy sc.dialect.nestedRegions) (hends : EndSeams sc text seams)
    {held : Bool} (hcode : held = true → ∀ t ∈ sc.scan text, seams (endOf 0 text t) ≠ none → t.inner.getLast? ≠ some '?') :
    Clear held seams text := by
  intro u v r huv hnot hheld
  by_contra hseam
  obtain ⟨t, hmem, hend⟩ := hends _ hseam
  obtain ⟨front, rest, htext, -, hdrop, -, hfront⟩ := exists_around hmem
  have hcount : brackets r = brackets rest := by
    have := congrArg brackets (huv.symm.trans htext)
    simp only [brackets_append, brackets_cons_bracket, brackets_eq_zero.2 hnot] at this
    omega
  obtain ⟨hcut, -⟩ := cut_last (huv.symm.trans htext) hcount
  have htag := tagAt?_of_mem_scan hmem
  rw [hdrop] at htag
  rw [isHeld_end h ht htag (fun hheld => hcode hheld t hmem (by rwa [hend])) hcut.symm hnot] at hheld
  exact absurd hheld (by decide)

/-- **A tag that ends at a seam holds what is inserted there.** -/
theorem exists_inner_of_seam (hm : seams.Marked) {t : Tag} (ht : t ∈ sc.scan (weave seams text)) {x : Text}
    (hx : seams (endOf 0 (weave seams text) t) = some x) : ∃ front back, t.inner = front ++ x ++ back := by
  obtain ⟨front, rest, htext, -, -, -, hend⟩ := exists_around ht
  have hinner : brackets t.inner = brackets (t.name ++ t.attributes) := brackets_cons_of_ne (by decide) _
  rw [hinner] at hend
  exact exists_inserted (u := t.name ++ t.attributes) hm htext hx (by omega) (by omega)

theorem count_sew {inserted : Option Text} (hi : ∀ x, inserted = some x → Inserted x) (stretch : Text) :
    (sew inserted stretch).count '<' = stretch.count '<' := by
  cases inserted with
  | none => rfl
  | some x =>
    have hx : x.count '<' = 0 := List.count_eq_zero.2 ((hi x rfl).notMem (by decide) (by decide))
    have blank {gap : Text} (h : ∀ c ∈ gap, Text.isBlank c = true) : gap.count '<' = 0 :=
      List.count_eq_zero.2 fun hm => absurd (h _ hm) (by decide)
    rw [sew_some]
    rcases seam_cases stretch with ⟨body, gap, rfl, hgap, hseam⟩ | ⟨body, gap, mid, rfl, hgap, hmid, hseam⟩
    · rw [hseam, List.count_append, List.count_append, hx, blank fun c hc => Text.isBlank_of_isHorizontalBlank (hgap c hc)]
    · rw [hseam]
      have hslash : (" /".toList).count '<' = 0 := by decide
      simp only [List.count_append, List.count_cons, hx, hslash,
        blank fun c hc => Text.isBlank_of_isHorizontalBlank (hgap c hc), blank hmid]
      simp

/-- a tag of a text and the tag that is found in its place in the weave -/
structure Rescanned (text : Text) (seams : Seams) (t t' : Tag) : Prop where
  name : t'.name = t.name
  nestedGt : t'.nestedGt = t.nestedGt
  endOf : endOf 0 (weave seams text) t' = SourceMark.endOf 0 text t
  inner : t'.inner = sew (seams (SourceMark.endOf 0 text t)) t.inner

theorem forall₂_mem {α β : Type} {R : α → β → Prop} {as : List α} {bs : List β} (h : List.Forall₂ R as bs) :
    List.Forall₂ (fun a b => a ∈ as ∧ b ∈ bs ∧ R a b) as bs := by
  induction h with
  | nil => exact .nil
  | cons hab _ ih =>
    exact .cons ⟨List.mem_cons_self, List.mem_cons_self, hab⟩ (ih.imp fun a b h =>
      ⟨List.mem_cons_of_mem _ h.1, List.mem_cons_of_mem _ h.2.1, h.2.2⟩)

/-- tags that echo each other have the same characters apart from the seam -/
theorem Echo.rescanned {t t' : Tag} (he : Echo glue text (weave seams text) t t') (hm : seams.Marked)
    (hends : EndSeams sc text seams) (ht : t ∈ sc.scan text) (ht' : t' ∈ sc.scan (weave seams text)) :
    Rescanned text seams t t' := by
  obtain ⟨front, rest, htext, htake, hdrop, hbehind, hend⟩ := exists_around ht
  obtain ⟨front', rest', htext', -, hdrop', hbehind', hend'⟩ := exists_around ht'
  have hnone : ∀ k, brackets front ≤ k → k < brackets front + brackets t.inner → seams k = none := by
    intro k hlow hhigh
    exact hends.eq_none ht (by rw [htake]; exact hlow) (by omega)
  have hweave := weave_tag rest (show t.inner.head? = some '<' from rfl) hnone
  rw [← hend, List.append_assoc, List.append_assoc, List.singleton_append, ← List.append_assoc, ← htext] at hweave
  have hrest : Woven glue rest rest' := by
    have := he.stop
    rwa [hbehind, hbehind'] at this
  have hmark : Seams.Marked (seams.drop (SourceMark.endOf 0 text t + 1)) := fun k x hx => hm _ x hx
  obtain ⟨hcut, -⟩ := cut_last (hweave.symm.trans htext') (by
    rw [← brackets, ← brackets, brackets_weave hmark, hrest.brackets_eq])
  have hsew : sew (seams (SourceMark.endOf 0 text t)) t.inner =
      '<' :: sew (seams (SourceMark.endOf 0 text t)) (t.name ++ t.attributes) := by
    cases seams (SourceMark.endOf 0 text t) with
    | none => rfl
    | some x => exact seam_cons (by decide)
  have hopen : (t.name ++ t.attributes).count '<' = (t'.name ++ t'.attributes).count '<' := by
    have hcount := he.start.count_eq (c := '<') (by decide) (by decide) (by decide)
    rw [hdrop, hdrop', Tag.inner, Tag.inner] at hcount
    simp only [List.cons_append, List.count_cons_self, List.count_append, List.count_cons] at hcount ⊢
    have := hrest.count_eq (c := '<') (by decide) (by decide) (by decide)
    omega
  have hinner : t'.inner = sew (seams (SourceMark.endOf 0 text t)) t.inner := by
    rw [hsew] at hcut ⊢
    rw [Tag.inner, List.cons_append] at hcut ⊢
    rw [(cut_last hcut (by rw [count_sew (hm _), hopen])).2]
  refine ⟨he.name.symm, he.nestedGt.symm, ?_, hinner⟩
  have htotal := congrArg brackets htext
  have htotal' := congrArg brackets htext'
  rw [brackets_weave hm] at htotal'
  simp only [brackets_append, brackets_cons_bracket] at htotal htotal'
  have := hrest.brackets_eq
  omega

/-- **Scanning the weave finds the tags of the text**, each with its seam. -/
theorem rescan (h : Readable glue sc) (ht : Nesting.Tidy sc.dialect.nestedRegions) (hm : seams.Marked)
    (hends : EndSeams sc text seams)
    (hcode : glue = true → ∀ t ∈ sc.scan text, seams (endOf 0 text t) ≠ none → t.inner.getLast? ≠ some '?') :
    List.Forall₂ (Rescanned text seams) (sc.scan text) (sc.scan (weave seams text)) := by
  have hw := woven_weave hm (clear_of_ends h ht hends hcode)
  exact (forall₂_mem (scan_blind h hw)).imp fun t t' ⟨hmem, hmem', he⟩ => he.rescanned hm hends hmem hmem'

end SourceMark.Scanner
