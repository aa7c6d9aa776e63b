/-
Where walks end. Regions that are closed are done with: a walk over a tag goes on behind them as if they had not been there,
and what follows does not change where they end. A walk does not end before the closer of the outermost region that is open.

Results:
- `regionEnd?_bracket`: regions that end in a text end at the same place when a bracket follows the text.
- `tagEnd?_of_regionEnd?`: a walk goes on behind the regions that are open.
- `rest_of_closer`: a walk does not end before the last place of the outermost closer.
-/
import SourceMark.Proofs.Walk.Blind
import SourceMark.Proofs.Walk.Steps

namespace SourceMark.Nesting

variable {regions : List Delimiters} {nesting : Nesting} {place : Place}

/-! ## Regions and what follows them -/

theorem regionEnd?_step (h : place ≠ .inside 0 []) (c : Char) (rest : Text) :
    regionEnd? regions place (c :: rest) = regionEnd? regions (place.next regions c rest) rest := by
  cases place with
  | inside skip nesting =>
    cases skip with
    | succ skip => rfl
    | zero =>
      cases nesting with
      | nil => exact absurd rfl h
      | cons closer outer => rfl
  | quoted quote escaped nesting => rfl

theorem mem_next {closer : Text} (h : closer ∈ place.nesting) (c : Char) (rest : Text) :
    closer ∈ (place.next regions c rest).nesting ∨ closer.isPrefixOf (c :: rest) = true := by
  cases place with
  | quoted quote escaped nesting =>
    simp only [Place.next]
    split_ifs <;> exact Or.inl h
  | inside skip nesting =>
    cases skip with
    | succ skip => exact Or.inl h
    | zero =>
      simp only [Place.next]
      split_ifs with hc
      · exact Or.inl h
      · rcases token?_of_not_isQuote regions nesting (Bool.eq_false_iff.2 hc) rest with
          ⟨top, outer, rfl, htop, htoken⟩ | ⟨region, -, -, htoken⟩ | ⟨-, -, htoken⟩ <;> rw [htoken]
        · rcases List.mem_cons.1 h with rfl | h
          · exact Or.inr htop
          · exact Or.inl h
        · exact Or.inl (List.mem_cons_of_mem _ h)
        · exact Or.inl h

/-- where regions end there are characters enough for each of their closers -/
theorem length_le_of_regionEnd? {text r : Text} (h : regionEnd? regions place text = some r) :
    ∀ closer ∈ place.nesting, closer.length ≤ text.length := by
  intro closer hcloser
  have hplace : place ≠ .inside 0 [] := by
    rintro rfl
    exact absurd hcloser List.not_mem_nil
  induction text generalizing place with
  | nil =>
    unfold regionEnd? at h
    split at h
    · exact absurd rfl hplace
    · exact absurd h (by simp)
    · next heq => exact absurd heq (by simp)
  | cons c rest ih =>
    rw [regionEnd?_step hplace] at h
    rcases mem_next hcloser c rest with hmem | hhead
    · refine Nat.le_succ_of_le (ih h hmem ?_)
      intro hnext
      rw [hnext] at hmem
      exact absurd hmem List.not_mem_nil
    · exact (List.isPrefixOf_iff_prefix.1 hhead).length_le

theorem isPrefixOf_bracket {delimiter text : Text} (h : delimiter ≠ text ++ ['>']) :
    delimiter.isPrefixOf (text ++ ['>']) = delimiter.isPrefixOf text := by
  rw [Bool.eq_iff_iff, List.isPrefixOf_iff_prefix, List.isPrefixOf_iff_prefix, List.prefix_concat_iff]
  exact or_iff_right h

/-- whether a region opens does not depend on a bracket behind the text, when no opener ends in one -/
theorem opening?_bracket (hopeners : ∀ region ∈ regions, region.opener.getLast? ≠ some '>') (text : Text) :
    opening? regions (text ++ ['>']) = opening? regions text := by
  refine List.foldl_ext _ _ _ fun best region hregion => ?_
  rw [isPrefixOf_bracket]
  intro heq
  exact hopeners region hregion (by rw [heq, List.getLast?_concat])

/-- a step does not depend on a bracket behind the text, when the text has characters enough for each closer -/
theorem next_bracket (hopeners : ∀ region ∈ regions, region.opener.getLast? ≠ some '>') {c : Char} {rest : Text}
    (hclosers : ∀ closer ∈ place.nesting, closer.length ≤ (c :: rest).length) :
    place.next regions c (rest ++ ['>']) = place.next regions c rest := by
  cases place with
  | quoted quote escaped nesting => rfl
  | inside skip nesting =>
    cases skip with
    | succ skip => rfl
    | zero =>
      have hopening := opening?_bracket hopeners (c :: rest)
      simp only [Place.next, token?]
      split_ifs with hc
      · rfl
      cases nesting with
      | nil => simp only [token?.opened, ← List.cons_append, hopening]
      | cons closer outer =>
        have hcloser : closer.isPrefixOf (c :: rest ++ ['>']) = closer.isPrefixOf (c :: rest) := by
          apply isPrefixOf_bracket
          rintro rfl
          have hlen := hclosers _ List.mem_cons_self
          rw [List.length_append, List.length_singleton] at hlen
          omega
        simp only [token?.opened, ← List.cons_append, hopening, hcloser]

theorem regionEnd?_nil {r : Text} (h : regionEnd? regions place [] = some r) : place = .inside 0 [] ∧ r = [] := by
  cases place with
  | inside skip nesting =>
    cases skip with
    | succ skip => exact absurd h (by simp [regionEnd?])
    | zero =>
      cases nesting with
      | nil => exact ⟨rfl, (Option.some.inj h).symm⟩
      | cons closer outer => exact absurd h (by simp [regionEnd?])
  | quoted quote escaped nesting => exact absurd h (by simp [regionEnd?])

theorem regionEnd?_inside (regions : List Delimiters) (text : Text) :
    regionEnd? regions (.inside 0 []) text = some text := by
  cases text <;> rfl

/-- **Regions that end in a text** end at the same place when a bracket follows the text. -/
theorem regionEnd?_bracket (hopeners : ∀ region ∈ regions, region.opener.getLast? ≠ some '>') {text r : Text}
    (h : regionEnd? regions place text = some r) : regionEnd? regions place (text ++ ['>']) = some (r ++ ['>']) := by
  induction text generalizing place with
  | nil =>
    obtain ⟨rfl, rfl⟩ := regionEnd?_nil h
    rfl
  | cons c rest ih =>
    have hclosers := length_le_of_regionEnd? h
    by_cases hplace : place = .inside 0 []
    · rw [hplace, regionEnd?_inside] at h ⊢
      rw [← Option.some.inj h]
    · rw [regionEnd?_step hplace] at h
      rw [List.cons_append, regionEnd?_step hplace, next_bracket hopeners hclosers]
      exact ih h

/-- how long the open regions are does not depend on a bracket behind their end -/
theorem length?_bracket (hr : Closes regions) (hn : Closable nesting)
    (hopeners : ∀ region ∈ regions, region.opener.getLast? ≠ some '>') {text : Text}
    (h : length? regions 0 nesting text = some text.length) :
    length? regions 0 nesting (text ++ ['>']) = some text.length := by
  have hend : regionEnd? regions (.inside 0 nesting) text = some [] := by
    rw [← length?_eq_regionEnd? hr hn, h, Option.map_some, List.drop_length]
  have hbracket := regionEnd?_bracket hopeners hend
  rw [← length?_eq_regionEnd? hr hn] at hbracket
  obtain ⟨n, hlength, hdrop⟩ := Option.map_eq_some_iff.1 hbracket
  have hcount := congrArg List.length hdrop
  simp only [List.length_drop, List.length_append, List.nil_append, List.length_singleton] at hcount
  rw [hlength, show n = text.length by omega]

/-! ## Walks over a tag -/

/-- **A walk goes on behind the regions that are open.** -/
theorem tagEnd?_of_regionEnd? {text r : Text} (h : regionEnd? regions place text = some r) :
    (tagEnd? regions place text).map Prod.snd = (tagEnd? regions (.inside 0 []) r).map Prod.snd := by
  induction text generalizing place with
  | nil =>
    obtain ⟨rfl, rfl⟩ := regionEnd?_nil h
    rfl
  | cons c rest ih =>
    by_cases hplace : place = .inside 0 []
    · rw [hplace, regionEnd?_inside] at h
      rw [hplace, Option.some.inj h]
    · rw [regionEnd?_step hplace] at h
      rw [tagEnd?, if_neg (fun hopen => hplace hopen.1), if_neg (fun hopen => hplace hopen.1), Option.map_map]
      exact ih h

/-- a character that starts no token of its own -/
def Plain (regions : List Delimiters) (c : Char) : Prop :=
  Quote.isQuote c = false ∧ c ≠ '<' ∧ c ≠ '>' ∧ ∀ region ∈ regions, region.opener.head? ≠ some c

instance (regions : List Delimiters) (c : Char) : Decidable (Plain regions c) := by
  unfold Plain; infer_instance

theorem tagEnd?_plain {front : Text} (hfront : ∀ c ∈ front, Plain regions c) (rest : Text) :
    tagEnd? regions (.inside 0 []) (front ++ rest) = tagEnd? regions (.inside 0 []) rest := by
  induction front with
  | nil => rfl
  | cons c front ih =>
    obtain ⟨hquote, hopens, hcloses, hheads⟩ := hfront c List.mem_cons_self
    have hnone : opening? regions (c :: (front ++ rest)) = none := by
      rw [Option.eq_none_iff_forall_ne_some]
      intro region hregion
      obtain ⟨hmem, hne, hhead⟩ := opening?_eq_some hregion
      obtain ⟨d, tail, hopener⟩ := List.exists_cons_of_ne_nil hne
      rw [hopener, List.isPrefixOf_cons_cons, Bool.and_eq_true, beq_iff_eq] at hhead
      exact hheads region hmem (by rw [hopener, hhead.1]; rfl)
    have hnext : Place.next regions c (front ++ rest) (.inside 0 []) = .inside 0 [] := by
      simp [Place.next, hquote, token?, token?.opened, hnone]
    rw [List.cons_append, tagEnd?, if_neg (fun h => hcloses h.2), if_neg (fun h => hopens h.2.1), hnext,
      ih fun d hd => hfront d (List.mem_cons_of_mem _ hd)]
    simp [Place.isNested]

/-- what follows a tag is shorter than what the walk still has to read behind its token -/
theorem rest_length_lt {skip : Nat} {text : Text} {body : Body} (h : bodyFrom? regions skip nesting text = some body) :
    body.rest.length + skip < text.length := by
  have hskip := skip_le h
  have htext := congrArg List.length (bodyFrom?_eq_some h)
  rw [List.length_append, List.length_cons] at htext
  omega

theorem exists_behind_token (token : Text) {text : Text} {body : Body}
    (h : bodyFrom? regions token.length nesting (token ++ text) = some body) :
    ∃ inner, bodyFrom? regions 0 nesting text = some inner ∧ inner.rest = body.rest := by
  induction token generalizing body with
  | nil => exact ⟨body, h, rfl⟩
  | cons c token ih =>
    obtain ⟨inner, hinner, rfl⟩ := Option.map_eq_some_iff.1 h
    obtain ⟨behind, hbehind, hrest⟩ := ih hinner
    exact ⟨behind, hbehind, hrest⟩

theorem exists_opened {region : Delimiters} {c : Char} {opener text : Text} {body : Body}
    (hopener : region.opener = c :: opener) (hquote : Quote.isQuote c = false) (hcloses : c ≠ '>')
    (hopening : opening? regions (c :: (opener ++ text)) = some region)
    (h : bodyFrom? regions 0 [] (c :: (opener ++ text)) = some body) :
    ∃ inner, bodyFrom? regions 0 [region.closer] text = some inner ∧ inner.rest = body.rest := by
  have htoken : token? regions [] c (opener ++ text) = some (opener.length, [region.closer]) := by
    simp [token?, token?.opened, hquote, hopening, hopener]
  have hsettle : settle c [] = [] := settle_of_closable (fun _ hm => absurd hm List.not_mem_nil) c
  simp only [bodyFrom?, hsettle, htoken, hopening, beq_eq_false_iff_ne.2 hcloses, Option.isNone_some, Bool.and_false,
    Bool.false_eq_true, if_false, Option.map_eq_some_iff] at h
  obtain ⟨found, hfound, rfl⟩ := h
  obtain ⟨inner, hinner, hrest⟩ := exists_behind_token opener hfound
  exact ⟨inner, hinner, hrest⟩

/-- **A walk does not end before the last place of the outermost closer.** -/
theorem rest_of_closer (hr : Closes regions) {closer : Text} {skip : Nat} {text : Text} {body : Body} {k : Nat}
    (hn : Closable (nesting ++ [closer])) (hlast : ∀ v, v <:+ text → closer <+: v → v.length ≤ closer.length + k)
    (h : bodyFrom? regions skip (nesting ++ [closer]) text = some body) : body.rest.length < k := by
  induction text generalizing skip nesting body with
  | nil => cases skip <;> exact absurd h (by simp [bodyFrom?])
  | cons c text ih =>
    have hbehind : ∀ v, v <:+ text → closer <+: v → v.length ≤ closer.length + k :=
      fun v hv => hlast v (hv.trans (List.suffix_cons c text))
    cases skip with
    | succ skip =>
      obtain ⟨inner, hinner, rfl⟩ := Option.map_eq_some_iff.1 (by simpa only [bodyFrom?] using h)
      show inner.rest.length < k
      exact ih hn hbehind hinner
    | zero =>
      have hopen : (nesting ++ [closer]).isEmpty = false := by simp
      simp only [bodyFrom?, settle_of_closable hn, hopen, Bool.false_and, Bool.false_eq_true, if_false] at h
      split at h
      · exact absurd h (by simp)
      · next n nesting' htoken =>
        obtain ⟨inner, hinner, rfl⟩ := Option.map_eq_some_iff.1 h
        show inner.rest.length < k
        have hclosable := closable_of_token? hr hn htoken
        cases hquote : Quote.isQuote c with
        | true =>
          simp only [token?, hquote, if_true, Option.map_eq_some_iff, Prod.mk.injEq] at htoken
          obtain ⟨_, -, -, rfl⟩ := htoken
          exact ih hn hbehind hinner
        | false =>
          rcases token?_of_not_isQuote regions (nesting ++ [closer]) hquote text with
            ⟨top, outer, hnesting, htop, htoken'⟩ | ⟨region, -, -, htoken'⟩ | ⟨-, -, htoken'⟩
          all_goals
            rw [htoken, Option.some.injEq, Prod.mk.injEq] at htoken'
            obtain ⟨rfl, rfl⟩ := htoken'
          · cases nesting with
            | nil =>
              obtain ⟨rfl, rfl⟩ := List.cons.inj hnesting
              have hshort := hlast _ (List.suffix_refl _) (List.isPrefixOf_iff_prefix.1 htop)
              have hrest := rest_length_lt hinner
              have hne : closer.length ≠ 0 := fun h0 => hn closer (by simp) (List.length_eq_zero_iff.1 h0)
              rw [List.length_cons] at hshort
              omega
            | cons first nesting =>
              obtain ⟨rfl, rfl⟩ := List.cons.inj hnesting
              exact ih hclosable hbehind hinner
          · rw [← List.cons_append] at hclosable hinner
            exact ih hclosable hbehind hinner
          · exact ih hn hbehind hinner

end SourceMark.Nesting
