/-
Walks are blind to markers. In two texts that differ by markers, a walk that starts at the same place comes to the same
end. A marker that stands outside quotes is a quoted span between inert characters; one that stands inside a span of
double quotes ends the span, and starts another behind its value. Either way the walk leaves it at the place at which
it came in.

Results:
- `Inserted.read`: a reading leaves what is inserted as it came in.
- `tagEnd?_blind`: the end of a tag is found in both texts or in neither.
- `regionEnd?_blind`: the end of a region is found in both texts or in neither.
-/
import SourceMark.Proofs.Marker.Woven
import SourceMark.Proofs.Walk.Place

namespace SourceMark.Nesting

/-! ## Delimiters that markers neither hide nor make -/

/-- a delimiter that starts with a sign other than a bracket and is seen in spite of markers -/
def Legible (glue : Bool) (delimiter : Text) : Prop :=
  (delimiter.head?.any fun c => Text.signs.contains c && c != '>') = true ∧ Woven.Seen (· == ·) glue delimiter

instance (glue : Bool) (delimiter : Text) : Decidable (Legible glue delimiter) := by
  unfold Legible; infer_instance

/-- regions all of whose delimiters are legible -/
def LegibleRegions (glue : Bool) (regions : List Delimiters) : Prop :=
  ∀ region ∈ regions, Legible glue region.opener ∧ Legible glue region.closer

instance (glue : Bool) (regions : List Delimiters) : Decidable (LegibleRegions glue regions) := by
  unfold LegibleRegions; infer_instance

variable {glue : Bool} {regions : List Delimiters} {s o : Text}

theorem Legible.exists_head {delimiter : Text} (h : Legible glue delimiter) :
    ∃ c rest, delimiter = c :: rest ∧ c ∈ Text.signs ∧ c ≠ '>' := by
  obtain ⟨h, -⟩ := h
  cases delimiter with
  | nil => exact absurd h (by decide)
  | cons c rest => exact ⟨c, rest, rfl, by simpa using h⟩

/-- a legible delimiter does not start with an inert character or with a bracket -/
theorem Legible.isPrefixOf_eq_false {delimiter : Text} (h : Legible glue delimiter) {c : Char}
    (hc : Text.isInert c = true ∨ c = '>') (rest : Text) : delimiter.isPrefixOf (c :: rest) = false := by
  obtain ⟨d, tail, rfl, hsign, hne⟩ := h.exists_head
  have hdc : d ≠ c := by
    rintro rfl
    rcases hc with hc | hc
    · exact Text.isInert_iff.1 hc hsign
    · exact hne hc
  simp [List.isPrefixOf_cons_cons, hdc]

theorem isPrefixOf_eq_isSome (delimiter text : Text) :
    delimiter.isPrefixOf text = (Text.dropHead? delimiter text).isSome := by
  induction delimiter generalizing text with
  | nil => simp [Text.dropHead?, Text.dropHeadBy?]
  | cons c delimiter ih =>
    cases text with
    | nil => rfl
    | cons d text =>
      rw [List.isPrefixOf_cons_cons, ih]
      simp only [Text.dropHead?, Text.dropHeadBy?]
      by_cases hcd : c = d <;> simp [hcd]

theorem Legible.isPrefixOf_eq {delimiter : Text} (hd : Legible glue delimiter) (h : Woven glue s o) :
    delimiter.isPrefixOf s = delimiter.isPrefixOf o ∧ (delimiter.isPrefixOf s = true →
      Kept glue s o (s.drop delimiter.length) (o.drop delimiter.length)) := by
  have hrel : Option.Rel (Kept glue s o) (Text.dropHead? delimiter s) (Text.dropHead? delimiter o) :=
    h.dropHeadBy? Woven.exact_beq hd.2
  rw [isPrefixOf_eq_isSome, isPrefixOf_eq_isSome]
  rcases rel_cases hrel with ⟨hs, ho⟩ | ⟨r, q, hs, ho, hkept⟩ <;> rw [hs, ho]
  · exact ⟨rfl, fun h => absurd h (by decide)⟩
  · rw [← (Text.dropHeadBy?_eq_drop hs).1, ← (Text.dropHeadBy?_eq_drop ho).1]
    exact ⟨rfl, fun _ => hkept⟩

/-- what follows a delimiter at the head of both texts, behind their first character -/
theorem Legible.kept {delimiter : Text} (hd : Legible glue delimiter) {c : Char} (h : Woven glue (c :: s) (c :: o))
    (hhead : delimiter.isPrefixOf (c :: s) = true) : delimiter.length - 1 ≤ s.length ∧
      delimiter.length - 1 ≤ o.length ∧
        Kept glue s o (s.drop (delimiter.length - 1)) (o.drop (delimiter.length - 1)) := by
  obtain ⟨heq, hkept⟩ := hd.isPrefixOf_eq h
  have hs := (List.isPrefixOf_iff_prefix.1 hhead).length_le
  have ho := (List.isPrefixOf_iff_prefix.1 (heq ▸ hhead)).length_le
  obtain ⟨u, hsu, hou, hw⟩ := hkept hhead
  obtain ⟨d, rest, rfl, -⟩ := hd.exists_head
  simp only [List.length_cons, List.drop_succ_cons, Nat.add_sub_cancel] at *
  refine ⟨by omega, by omega, ?_⟩
  cases u with
  | nil =>
    have := congrArg List.length hsu
    simp at this
    omega
  | cons e u =>
    simp only [List.cons_append, List.cons.injEq] at hsu hou
    exact ⟨u, hsu.2, hou.2, hw⟩

theorem opening?_eq (hr : LegibleRegions glue regions) (h : Woven glue s o) :
    opening? regions s = opening? regions o := by
  unfold opening?
  refine List.foldl_ext _ _ _ ?_
  intro best region hregion
  rw [((hr region hregion).1.isPrefixOf_eq h).1]

theorem LegibleRegions.closes (hr : LegibleRegions glue regions) : Closes regions := by
  intro region hregion
  obtain ⟨c, rest, hcloser, -⟩ := (hr region hregion).2.exists_head
  rw [hcloser]
  exact List.cons_ne_nil c rest

/-! ## Places -/

namespace Place

def nesting : Place → Nesting
  | inside _ nesting => nesting
  | quoted _ _ nesting => nesting

/-- a place at the start of a token or in a quoted span, with legible closers around it -/
def Ready (glue : Bool) : Place → Prop
  | inside skip nesting => skip = 0 ∧ ∀ closer ∈ nesting, Legible glue closer
  | quoted quote _ nesting => Quote.isQuote quote = true ∧ ∀ closer ∈ nesting, Legible glue closer

/-- the place behind an inert character -/
def calm : Place → Place
  | inside skip nesting => inside skip nesting
  | quoted quote _ nesting => quoted quote false nesting

variable {place : Place}

theorem calm_calm (place : Place) : place.calm.calm = place.calm := by
  cases place <;> rfl

theorem nesting_calm (place : Place) : place.calm.nesting = place.nesting := by
  cases place <;> rfl

theorem isNested_calm (place : Place) : place.calm.isNested = place.isNested := by
  cases place <;> rfl

theorem calm_eq_iff (place : Place) : place.calm = inside 0 [] ↔ place = inside 0 [] := by
  cases place <;> simp [calm]

theorem Ready.calm (h : place.Ready glue) : place.calm.Ready glue := by
  cases place <;> exact h

theorem not_isQuote {c : Char} (hc : Text.isInert c = true ∨ c = '>') : Quote.isQuote c = false := by
  rw [Quote.isQuote, Bool.or_eq_false_iff, beq_eq_false_iff_ne, beq_eq_false_iff_ne]
  rcases hc with hc | rfl
  · exact ⟨Text.ne_of_isInert hc (by decide), Text.ne_of_isInert hc (by decide)⟩
  · exact ⟨by decide, by decide⟩

theorem next_inert (hr : LegibleRegions glue regions) (h : place.Ready glue) {c : Char}
    (hc : Text.isInert c = true ∨ c = '>') (rest : Text) : place.next regions c rest = place.calm := by
  have hquote := not_isQuote hc
  cases place with
  | inside skip nesting =>
    obtain ⟨rfl, hn⟩ := h
    rcases token?_of_not_isQuote regions nesting hquote rest with
      ⟨closer, outer, rfl, hcl, -⟩ | ⟨region, ho, -, -⟩ | ⟨-, -, htoken⟩
    · rw [(hn closer List.mem_cons_self).isPrefixOf_eq_false hc] at hcl
      exact absurd hcl (by decide)
    · obtain ⟨hmem, -, hhead⟩ := opening?_eq_some ho
      rw [(hr region hmem).1.isPrefixOf_eq_false hc] at hhead
      exact absurd hhead (by decide)
    · simp [next, hquote, htoken, Place.calm]
  | quoted quote escaped nesting =>
    have hne : c ≠ quote := by
      rintro rfl
      rw [h.1] at hquote
      exact absurd hquote (by decide)
    have hslash : c ≠ '\\' := by
      rcases hc with hc | rfl
      · exact Text.ne_of_isInert hc (by decide)
      · decide
    simp [next, hne, hslash, Place.calm]

end Place

/-! ## Readings of markers -/

variable {β : Type} {f : Place → Text → Option β} {place : Place}

/-- a reading that takes one character after the other as long as the open regions are `nesting`, brackets apart -/
def Steps (regions : List Delimiters) (nesting : Nesting) (f : Place → Text → Option β) : Prop :=
  ∀ place c rest, place.nesting = nesting → c ≠ '<' → c ≠ '>' → f place (c :: rest) = f (place.next regions c rest) rest

theorem read_inert (hr : LegibleRegions glue regions) (hf : Steps regions place.nesting f) (hp : place.Ready glue)
    {c : Char} (hc : Text.isInert c = true) (rest : Text) : f place (c :: rest) = f place.calm rest := by
  rw [hf place c rest rfl (Text.ne_of_isInert hc (by decide)) (Text.ne_of_isInert hc (by decide)),
    Place.next_inert hr hp (Or.inl hc)]

theorem read_run (hr : LegibleRegions glue regions) (hf : Steps regions place.nesting f) (hp : place.Ready glue)
    {run : Text} (hrun : ∀ c ∈ run, Text.isInert c = true) (hcalm : place.calm = place) (rest : Text) :
    f place (run ++ rest) = f place rest := by
  induction run with
  | nil => rfl
  | cons c run ih =>
    rw [List.cons_append, read_inert hr hf hp (hrun c List.mem_cons_self), hcalm]
    exact ih fun d hd => hrun d (List.mem_cons_of_mem _ hd)

/-- the place behind a double quote that is not escaped -/
def Place.turn : Place → Place
  | inside _ nesting => quoted '"' false nesting
  | quoted quote _ nesting => if quote = '"' then inside 0 nesting else quoted quote false nesting

theorem Place.next_quote {place : Place} (hp : place.Ready glue) (hcalm : place.calm = place) (rest : Text) :
    place.next regions '"' rest = place.turn := by
  cases place with
  | inside skip nesting =>
    obtain ⟨rfl, -⟩ := hp
    rfl
  | quoted quote escaped nesting =>
    obtain rfl : false = escaped := by simpa [calm] using hcalm
    by_cases h : quote = '"'
    · simp [next, turn, h]
    · simp [next, turn, h, Ne.symm h]

theorem Place.Ready.turn {place : Place} (hp : place.Ready glue) : place.turn.Ready glue := by
  cases place with
  | inside skip nesting => exact ⟨rfl, hp.2⟩
  | quoted quote escaped nesting =>
    by_cases h : quote = '"'
    · rw [Place.turn, if_pos h]
      exact ⟨rfl, hp.2⟩
    · rw [Place.turn, if_neg h]
      exact hp

theorem Place.turn_turn {place : Place} (hp : place.Ready glue) (hcalm : place.calm = place) :
    place.turn.turn = place := by
  cases place with
  | inside skip nesting =>
    obtain ⟨rfl, -⟩ := hp
    rfl
  | quoted quote escaped nesting =>
    obtain rfl : false = escaped := by simpa [calm] using hcalm
    by_cases h : quote = '"' <;> simp [turn, h]

theorem Place.calm_turn (place : Place) : place.turn.calm = place.turn := by
  cases place with
  | inside skip nesting => rfl
  | quoted quote escaped nesting => by_cases h : quote = '"' <;> simp [turn, calm, h]

theorem Place.nesting_turn (place : Place) : place.turn.nesting = place.nesting := by
  cases place with
  | inside skip nesting => rfl
  | quoted quote escaped nesting => by_cases h : quote = '"' <;> simp [turn, Place.nesting, h]

/-- **A reading leaves a marker as it came in**, whatever quotes it is in. -/
theorem read_inserted (hr : LegibleRegions glue regions) (hf : Steps regions place.nesting f) (hp : place.Ready glue)
    {x : Text} (hx : Inserted x) (rest : Text) : f place (x ++ rest) = f place.calm rest := by
  induction hx generalizing place rest with
  | @one marker hm =>
    obtain ⟨front, value, rfl, hfront, hvalue⟩ := Text.exists_quotes hm
    have hcalm := place.calm_calm
    have hf' : Steps regions place.calm.nesting f := place.nesting_calm.symm ▸ hf
    have hft : Steps regions place.calm.turn.nesting f := place.calm.nesting_turn.symm ▸ hf'
    have quote {place : Place} (hf : Steps regions place.nesting f) (hp : place.Ready glue)
        (hcalm : place.calm = place) (rest : Text) : f place ('"' :: rest) = f place.turn rest := by
      rw [hf place '"' rest rfl (by decide) (by decide), Place.next_quote hp hcalm]
    calc f place (' ' :: (front ++ ('"' :: value ++ ['"'])) ++ rest)
        = f place.calm (front ++ '"' :: (value ++ '"' :: rest)) := by
          rw [List.cons_append, read_inert hr hf hp (by decide)]
          simp
      _ = f place.calm.turn (value ++ '"' :: rest) := by
          rw [read_run hr hf' hp.calm hfront hcalm, quote hf' hp.calm hcalm]
      _ = f place.calm.turn.turn rest := by
          rw [read_run hr hft hp.calm.turn hvalue place.calm.calm_turn, quote hft hp.calm.turn place.calm.calm_turn]
      _ = f place.calm rest := by rw [Place.turn_turn hp.calm hcalm]
  | append _ _ ihx ihy =>
    rw [List.append_assoc, ihx hf hp, ihy (place.nesting_calm.symm ▸ hf) hp.calm, place.calm_calm]

theorem read_dull (hr : LegibleRegions glue regions) (hf : Steps regions place.nesting f) (hp : place.Ready glue)
    {y : Text} (hy : ∀ c ∈ y, isDull c = true) (rest : Text) :
    f place (y ++ rest) = f place rest ∨ f place (y ++ rest) = f place.calm rest := by
  cases y with
  | nil => exact Or.inl rfl
  | cons c y =>
    right
    rw [List.cons_append, read_inert hr hf hp (isInert_of_isDull (hy c List.mem_cons_self))]
    exact read_run hr (place.nesting_calm.symm ▸ hf) hp.calm
      (fun d hd => isInert_of_isDull (hy d (List.mem_cons_of_mem _ hd))) place.calm_calm rest

/-! ## One step in both texts -/

theorem read_skip (hskip : ∀ skip nesting c rest, f (.inside (skip + 1) nesting) (c :: rest) = f (.inside skip nesting) rest)
    (nesting : Nesting) {n : Nat} {text : Text} (hn : n ≤ text.length) :
    f (.inside n nesting) text = f (.inside 0 nesting) (text.drop n) := by
  induction n generalizing text with
  | zero => rfl
  | succ n ih =>
    cases text with
    | nil => simp at hn
    | cons c rest => rw [hskip, ih (by simpa using hn), List.drop_succ_cons]

theorem token?_blind (hr : LegibleRegions glue regions) {nesting : Nesting} (hn : ∀ closer ∈ nesting, Legible glue closer)
    {c : Char} (hc : Quote.isQuote c = false) (hw : Woven glue (c :: s) (c :: o)) (htail : Woven glue s o) :
    ∃ n nesting', token? regions nesting c s = some (n, nesting') ∧ token? regions nesting c o = some (n, nesting') ∧
      (∀ closer ∈ nesting', Legible glue closer) ∧ n ≤ s.length ∧ n ≤ o.length ∧
        Kept glue s o (s.drop n) (o.drop n) := by
  have heq : token? regions nesting c o = token? regions nesting c s := by
    cases nesting with
    | nil => simp only [token?, token?.opened, hc, Bool.false_eq_true, if_false, opening?_eq hr hw]
    | cons closer outer =>
      simp only [token?, token?.opened, hc, Bool.false_eq_true, if_false, opening?_eq hr hw,
        ((hn closer List.mem_cons_self).isPrefixOf_eq hw).1]
  rw [heq]
  rcases token?_of_not_isQuote regions nesting hc s with
    ⟨closer, outer, rfl, hcl, htoken⟩ | ⟨region, ho, hcl, htoken⟩ | ⟨ho, hcl, htoken⟩
  · exact ⟨_, _, htoken, htoken, fun closer hm => hn closer (List.mem_cons_of_mem _ hm),
      (hn closer List.mem_cons_self).kept hw hcl⟩
  · obtain ⟨hmem, -, hhead⟩ := opening?_eq_some ho
    refine ⟨_, _, htoken, htoken, fun closer hm => ?_, (hr region hmem).1.kept hw hhead⟩
    rcases List.mem_cons.1 hm with rfl | hm
    · exact (hr region hmem).2
    · exact hn closer hm
  · exact ⟨_, _, htoken, htoken, hn, Nat.zero_le _, Nat.zero_le _, .refl htail⟩

/-- **One step.** From a character that both texts share, a reading goes on in both from the same place and behind the
same characters. -/
theorem next_blind (hr : LegibleRegions glue regions) (hp : place.Ready glue) {c : Char}
    (hw : Woven glue (c :: s) (c :: o)) (htail : Woven glue s o) :
    ∃ place' : Place, ∃ r q, place'.Ready glue ∧ Kept glue s o r q ∧
      (place.nesting ≠ [] → place'.nesting = [] → place' = .inside 0 []) ∧
      ∀ f : Place → Text → Option β,
        (∀ skip nesting c rest, f (.inside (skip + 1) nesting) (c :: rest) = f (.inside skip nesting) rest) →
        f (place.next regions c s) s = f place' r ∧ f (place.next regions c o) o = f place' q := by
  cases place with
  | quoted quote escaped nesting =>
    by_cases h : (c = quote && !escaped) = true
    · refine ⟨.inside 0 nesting, s, o, ⟨rfl, hp.2⟩, .refl htail, fun _ hn => by rw [show nesting = [] from hn], ?_⟩
      intro f _
      simp [Place.next, h]
    · refine ⟨.quoted quote (!nesting.isEmpty && c == '\\' && !escaped) nesting, s, o, hp, .refl htail,
        fun hn hn' => absurd hn' hn, fun f _ => ?_⟩
      simp [Place.next, h]
  | inside skip nesting =>
    obtain ⟨rfl, hn⟩ := hp
    cases hquote : Quote.isQuote c with
    | true =>
      refine ⟨.quoted c false nesting, s, o, ⟨hquote, hn⟩, .refl htail, fun hn hn' => absurd hn' hn, ?_⟩
      intro f _
      simp [Place.next, hquote]
    | false =>
      obtain ⟨n, nesting', hs, ho, hn', hsn, hon, hkept⟩ := token?_blind hr hn hquote hw htail
      refine ⟨.inside 0 nesting', _, _, ⟨rfl, hn'⟩, hkept, fun _ h => by rw [show nesting' = [] from h], ?_⟩
      intro f hskip
      simp only [Place.next, hquote, Bool.false_eq_true, if_false, hs, ho]
      exact ⟨read_skip hskip nesting' hsn, read_skip hskip nesting' hon⟩

/-! ## The end of a tag -/

theorem tagEnd?_steps (nesting : Nesting) : Steps regions nesting (tagEnd? regions) := by
  intro place c rest _ hlt hgt
  rw [tagEnd?, if_neg (fun h => hgt h.2), if_neg (fun h => hlt h.2.1), beq_eq_false_iff_ne.2 hgt]
  simp

theorem tagEnd?_bracket (hr : LegibleRegions glue regions) (hp : place.Ready glue) (rest : Text) :
    tagEnd? regions place ('>' :: rest) = if place = .inside 0 [] then some (false, rest)
      else (tagEnd? regions place.calm rest).map fun found => (place.isNested || found.1, found.2) := by
  by_cases h : place = .inside 0 []
  · rw [tagEnd?, if_pos ⟨h, rfl⟩, if_pos h]
  · rw [tagEnd?, if_neg (fun hh => h hh.1), if_neg (fun hh => h hh.1), if_neg h, Place.next_inert hr hp (Or.inr rfl)]
    simp

theorem tagEnd?_bracket_calm (hr : LegibleRegions glue regions) (hp : place.Ready glue) (rest : Text) :
    tagEnd? regions place.calm ('>' :: rest) = tagEnd? regions place ('>' :: rest) := by
  rw [tagEnd?_bracket hr hp, tagEnd?_bracket hr hp.calm, place.calm_calm, place.isNested_calm]
  simp only [place.calm_eq_iff]

theorem tagEnd?_dull (hr : LegibleRegions glue regions) (hp : place.Ready glue) {y : Text}
    (hy : ∀ c ∈ y, isDull c = true) (rest : Text) :
    tagEnd? regions place (y ++ '>' :: rest) = tagEnd? regions place ('>' :: rest) := by
  rcases read_dull hr (tagEnd?_steps _) hp hy ('>' :: rest) with h | h
  · exact h
  · rw [h, tagEnd?_bracket_calm hr hp]

/-- what two readings of the end of a tag agree on -/
abbrev SameEnd (glue : Bool) (s o : Text) (a b : Bool × Text) : Prop :=
  a.1 = b.1 ∧ After glue s o a.2 b.2

theorem SameEnd.lift {s' o' : Text} (h : After glue s o s' o') {a b : Option (Bool × Text)}
    (hab : Option.Rel (SameEnd glue s' o') a b) (nested : Bool) :
    Option.Rel (SameEnd glue s o) (a.map fun found => (nested || found.1, found.2))
      (b.map fun found => (nested || found.1, found.2)) := by
  cases hab with
  | none => exact .none
  | some hab => exact .some ⟨congrArg (nested || ·) hab.1, h.trans hab.2⟩

/-- **Markers do not change where a tag ends.** -/
theorem tagEnd?_blind (hr : LegibleRegions glue regions) (hp : place.Ready glue) (hw : Woven glue s o) :
    Option.Rel (SameEnd glue s o) (tagEnd? regions place s) (tagEnd? regions place o) := by
  induction hlen : s.length using Nat.strong_induction_on generalizing s o place with
  | _ len ih =>
    subst hlen
    cases hw with
    | nil => exact .none
    | @closing x y z s o hx hy hz hhead tail =>
      have hafter : After glue (z ++ '>' :: s) (x ++ y ++ '>' :: o) s o := Woven.after_closing tail
      rw [tagEnd?_dull hr hp hz, List.append_assoc, read_inserted hr (tagEnd?_steps _) hp hx,
        tagEnd?_dull hr hp.calm hy, tagEnd?_bracket_calm hr hp, tagEnd?_bracket hr hp, tagEnd?_bracket hr hp]
      split_ifs
      · exact .some ⟨rfl, by simpa using hafter⟩
      · rw [List.append_assoc] at hafter
        exact SameEnd.lift hafter (ih s.length (by simp; omega) hp.calm tail rfl) _
    | @keep c s o hheld tail =>
      have hw : Woven glue (c :: s) (c :: o) := .keep hheld tail
      rw [tagEnd?, tagEnd?, opening?_eq hr hw]
      split_ifs
      · exact .some ⟨rfl, (Woven.kept_tail tail).after⟩
      · exact .none
      · obtain ⟨place', r, q, hp', hkept, -, hread⟩ := next_blind hr hp hw tail
        obtain ⟨hs, ho⟩ := hread (tagEnd? regions) fun skip nesting c rest => tagEnd?_skip skip c rest
        rw [hs, ho]
        have hlen : r.length < (c :: s).length := by
          obtain ⟨u, rfl, -, -⟩ := hkept
          rw [List.length_cons, List.length_append]
          omega
        exact SameEnd.lift (hkept.cons c).after (ih r.length hlen hp' hkept.after.woven rfl) _

/-! ## The end of a region -/

theorem regionEnd?_steps {nesting : Nesting} (hn : nesting ≠ []) : Steps regions nesting (regionEnd? regions) := by
  rintro place c rest rfl - -
  cases place with
  | quoted quote escaped nesting => rfl
  | inside skip nesting =>
    cases skip with
    | succ skip => rfl
    | zero =>
      cases nesting with
      | nil => exact absurd rfl hn
      | cons closer outer => rfl

theorem regionEnd?_cons (hp : place.Ready glue) (hn : place.nesting ≠ []) (c : Char) (rest : Text) :
    regionEnd? regions place (c :: rest) = regionEnd? regions (place.next regions c rest) rest := by
  cases place with
  | quoted quote escaped nesting => rfl
  | inside skip nesting =>
    obtain ⟨rfl, -⟩ := hp
    cases nesting with
    | nil => exact absurd rfl hn
    | cons closer outer => rfl

theorem regionEnd?_dull (hr : LegibleRegions glue regions) (hp : place.Ready glue) (hn : place.nesting ≠ []) {y : Text}
    (hy : ∀ c ∈ y, isDull c = true) (rest : Text) :
    regionEnd? regions place (y ++ '>' :: rest) = regionEnd? regions place.calm rest := by
  have hbracket {place : Place} (hp : place.Ready glue) (hn : place.nesting ≠ []) :
      regionEnd? regions place ('>' :: rest) = regionEnd? regions place.calm rest := by
    rw [regionEnd?_cons hp hn, Place.next_inert hr hp (Or.inr rfl)]
  rcases read_dull hr (regionEnd?_steps hn) hp hy ('>' :: rest) with h | h
  · rw [h, hbracket hp hn]
  · rw [h, hbracket hp.calm (place.nesting_calm.symm ▸ hn), place.calm_calm]

/-- **Markers do not change where a region ends.** -/
theorem regionEnd?_blind (hr : LegibleRegions glue regions) (hp : place.Ready glue)
    (hopen : place.nesting = [] → place = .inside 0 []) (hw : Woven glue s o) :
    Option.Rel (After glue s o) (regionEnd? regions place s) (regionEnd? regions place o) := by
  induction hlen : s.length using Nat.strong_induction_on generalizing s o place with
  | _ len ih =>
    subst hlen
    by_cases hend : place.nesting = []
    · obtain rfl := hopen hend
      simpa [regionEnd?] using (Kept.refl hw).after
    have hcalm : place.calm.nesting ≠ [] := place.nesting_calm.symm ▸ hend
    cases hw with
    | nil =>
      cases place with
      | quoted quote escaped nesting => exact .none
      | inside skip nesting =>
        obtain ⟨rfl, -⟩ := hp
        cases nesting with
        | nil => exact absurd rfl hend
        | cons closer outer => exact .none
    | @closing x y z s o hx hy hz hhead tail =>
      have hafter : After glue (z ++ '>' :: s) (x ++ y ++ '>' :: o) s o := Woven.after_closing tail
      have hf : Steps regions place.nesting (regionEnd? regions) := regionEnd?_steps hend
      rw [regionEnd?_dull hr hp hend hz, List.append_assoc, read_inserted hr hf hp hx, regionEnd?_dull hr hp.calm hcalm hy,
        place.calm_calm]
      rw [List.append_assoc] at hafter
      exact hafter.lift (ih s.length (by simp; omega) hp.calm (fun h => absurd h hcalm) tail rfl)
    | @keep c s o hheld tail =>
      have hw : Woven glue (c :: s) (c :: o) := .keep hheld tail
      obtain ⟨place', r, q, hp', hkept, hopen', hread⟩ := next_blind hr hp hw tail
      obtain ⟨hs, ho⟩ := hread (regionEnd? regions) fun skip nesting c rest => regionEnd?_skip skip c rest
      rw [regionEnd?_cons hp hend, regionEnd?_cons hp hend, hs, ho]
      have hlen : r.length < (c :: s).length := by
        obtain ⟨u, rfl, -, -⟩ := hkept
        rw [List.length_cons, List.length_append]
        omega
      exact (hkept.cons c).after.lift (ih r.length hlen hp' (hopen' hend) hkept.after.woven rfl)

end SourceMark.Nesting
