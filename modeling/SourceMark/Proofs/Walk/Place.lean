/-
The walk over a tag as a machine that reads one character after the other. Its places are the inside of the open
regions, perhaps behind characters that belong to the token before, and the inside of a quoted span. Where the walk jumps
over a span as a whole, the machine reads the span and knows whether the next quote is escaped.

Results:
- `bodyFrom?_eq_tagEnd?`: the machine finds the end of a tag where the walk finds it.
- `length?_eq_regionEnd?`: the machine finds the end of a region where the walk finds it.
-/
import Mathlib.Data.List.Basic
import SourceMark.Tag.Nesting

namespace SourceMark.Nesting

/-- where a walk is: inside the open regions, `skip` characters before the end of a token, or inside a quoted span -/
inductive Place where
  | inside (skip : Nat) (nesting : Nesting)
  | quoted (quote : Char) (escaped : Bool) (nesting : Nesting)
  deriving DecidableEq

namespace Place

def next (regions : List Delimiters) (c : Char) (rest : Text) : Place → Place
  | inside (skip + 1) nesting => inside skip nesting
  | inside 0 nesting =>
    if Quote.isQuote c then quoted c false nesting
    else
      match token? regions nesting c rest with
      | some (n, nesting') => inside n nesting'
      | none => inside 0 nesting
  | quoted quote escaped nesting =>
    if c = quote && !escaped then inside 0 nesting
    else quoted quote (!nesting.isEmpty && c == '\\' && !escaped) nesting

/-- whether a closing bracket counts as nested here -/
def isNested : Place → Bool
  | inside 0 nesting => !nesting.isEmpty
  | _ => false

end Place

/-- what follows the end of a tag, and whether a closing bracket stood inside a region on the way -/
def tagEnd? (regions : List Delimiters) : Place → Text → Option (Bool × Text)
  | _, [] => none
  | place, c :: rest =>
    if place = .inside 0 [] ∧ c = '>' then some (false, rest)
    else if place = .inside 0 [] ∧ c = '<' ∧ (opening? regions (c :: rest)).isNone then none
    else (tagEnd? regions (place.next regions c rest) rest).map fun found =>
      (c == '>' && place.isNested || found.1, found.2)

def regionEnd? (regions : List Delimiters) : Place → Text → Option Text
  | .inside 0 [], text => some text
  | _, [] => none
  | place, c :: rest => regionEnd? regions (place.next regions c rest) rest

/-! ## Closers -/

/-- every region has a closer with characters in it -/
def Closes (regions : List Delimiters) : Prop := ∀ region ∈ regions, region.closer ≠ []

/-- every open region has a closer with characters in it -/
def Closable (nesting : Nesting) : Prop := ∀ closer ∈ nesting, closer ≠ []

variable {regions : List Delimiters} {nesting : Nesting}

theorem settle_of_closable (h : Closable nesting) (c : Char) : settle c nesting = nesting := by
  unfold settle
  split_ifs
  · rfl
  · cases nesting with
    | nil => rfl
    | cons closer outer =>
      have : closer.isEmpty = false := by simpa using h closer List.mem_cons_self
      simp [this]

theorem opening?_eq_some {text : Text} {region : Delimiters} (h : opening? regions text = some region) :
    region ∈ regions ∧ region.opener ≠ [] ∧ region.opener.isPrefixOf text = true := by
  refine List.foldlRecOn (motive := fun best => ∀ found, best = some found →
    found ∈ regions ∧ found.opener ≠ [] ∧ found.opener.isPrefixOf text = true) regions _ (by simp) ?_ region h
  intro best hbest head hhead found hfound
  split_ifs at hfound with hif
  · simp only [Bool.and_eq_true, Bool.not_eq_true', List.isEmpty_eq_false_iff] at hif
    rw [← Option.some.inj hfound]
    exact ⟨hhead, hif.1⟩
  · exact hbest found hfound

variable (regions nesting) in
theorem token?_of_not_isQuote {c : Char} (hc : Quote.isQuote c = false) (rest : Text) :
    (∃ closer outer, nesting = closer :: outer ∧ closer.isPrefixOf (c :: rest) = true ∧
      token? regions nesting c rest = some (closer.length - 1, outer)) ∨
    (∃ region, opening? regions (c :: rest) = some region ∧
      (∀ closer outer, nesting = closer :: outer → closer.isPrefixOf (c :: rest) = false) ∧
      token? regions nesting c rest = some (region.opener.length - 1, region.closer :: nesting)) ∨
    (opening? regions (c :: rest) = none ∧
      (∀ closer outer, nesting = closer :: outer → closer.isPrefixOf (c :: rest) = false) ∧
      token? regions nesting c rest = some (0, nesting)) := by
  cases nesting with
  | nil =>
    cases ho : opening? regions (c :: rest) with
    | some region => exact Or.inr (Or.inl ⟨region, rfl, by simp, by simp [token?, token?.opened, hc, ho]⟩)
    | none => exact Or.inr (Or.inr ⟨rfl, by simp, by simp [token?, token?.opened, hc, ho]⟩)
  | cons closer outer =>
    cases hcl : closer.isPrefixOf (c :: rest) with
    | true => exact Or.inl ⟨closer, outer, rfl, hcl, by simp [token?, hc, hcl]⟩
    | false =>
      have hno : ∀ closer' outer', closer :: outer = closer' :: outer' → closer'.isPrefixOf (c :: rest) = false := by
        rintro _ _ ⟨⟩; exact hcl
      cases ho : opening? regions (c :: rest) with
      | some region => exact Or.inr (Or.inl ⟨region, rfl, hno, by simp [token?, token?.opened, hc, hcl, ho]⟩)
      | none => exact Or.inr (Or.inr ⟨rfl, hno, by simp [token?, token?.opened, hc, hcl, ho]⟩)

variable (regions nesting) in
theorem exists_token {c : Char} (hc : Quote.isQuote c = false) (rest : Text) :
    ∃ n nesting', token? regions nesting c rest = some (n, nesting') := by
  rcases token?_of_not_isQuote regions nesting hc rest with
    ⟨_, _, -, -, h⟩ | ⟨_, -, -, h⟩ | ⟨-, -, h⟩ <;> exact ⟨_, _, h⟩

theorem closable_of_token? (hr : Closes regions) (hn : Closable nesting) {c : Char} {rest : Text} {n : Nat}
    {nesting' : Nesting} (h : token? regions nesting c rest = some (n, nesting')) : Closable nesting' := by
  cases hc : Quote.isQuote c with
  | true =>
    simp only [token?, hc, if_true, Option.map_eq_some_iff, Prod.mk.injEq] at h
    obtain ⟨_, -, -, rfl⟩ := h
    exact hn
  | false =>
    rcases token?_of_not_isQuote regions nesting hc rest with
      ⟨closer, outer, rfl, -, htoken⟩ | ⟨region, ho, -, htoken⟩ | ⟨-, -, htoken⟩
    all_goals
      rw [htoken, Option.some.injEq, Prod.mk.injEq] at h
      obtain ⟨-, rfl⟩ := h
    · exact fun closer hm => hn closer (List.mem_cons_of_mem _ hm)
    · intro closer hm
      rcases List.mem_cons.1 hm with rfl | hm
      · exact hr region (opening?_eq_some ho).1
      · exact hn closer hm
    · exact hn

/-! ## Spans -/

variable (regions) in
/-- a reading that goes through quoted spans character by character reaches the end of the span, if it has one -/
theorem read_quoted {β : Type} (f : Place → Text → Option β)
    (hnil : ∀ quote escaped nesting, f (.quoted quote escaped nesting) [] = none)
    (hstep : ∀ quote escaped nesting c rest, f (.quoted quote escaped nesting) (c :: rest) =
      f (Place.next regions c rest (.quoted quote escaped nesting)) rest)
    (hskip : ∀ skip nesting c rest, f (.inside (skip + 1) nesting) (c :: rest) = f (.inside skip nesting) rest)
    (quote : Char) (before text : Text) :
    f (.quoted quote (!nesting.isEmpty && !Quote.unescaped before) nesting) text =
      (Quote.length? (!nesting.isEmpty) quote before text).bind fun n => f (.inside n nesting) text := by
  induction text generalizing before with
  | nil => simp [hnil, Quote.length?]
  | cons c rest ih =>
    rw [hstep, Place.next]
    simp only [Quote.length?]
    by_cases hend : (c = quote && (!!nesting.isEmpty || Quote.unescaped before)) = true
    · have : (c = quote && !(!nesting.isEmpty && !Quote.unescaped before)) = true := by simpa using hend
      rw [if_pos hend, if_pos this, Option.bind_some, hskip]
    · have : ¬(c = quote && !(!nesting.isEmpty && !Quote.unescaped before)) = true := by simpa using hend
      rw [if_neg hend, if_neg this]
      have hbefore : (!nesting.isEmpty && c == '\\' && !(!nesting.isEmpty && !Quote.unescaped before)) =
          (!nesting.isEmpty && !Quote.unescaped (c :: before)) := by
        by_cases hc : c = '\\'
        · subst hc
          cases hn : nesting.isEmpty
          · simp only [Quote.unescaped, List.takeWhile_cons, beq_self_eq_true, if_true, List.length_cons,
              Bool.not_false, Bool.true_and, Bool.not_not]
            rcases Nat.mod_two_eq_zero_or_one (before.takeWhile (· == '\\')).length with h | h <;> simp [h, Nat.add_mod]
          · rfl
        · simp [hc, Quote.unescaped]
      rw [hbefore, ih, Option.bind_map]
      simp only [Function.comp_def, hskip]

/-! ## The end of a tag -/

theorem tagEnd?_skip (skip : Nat) (c : Char) (rest : Text) :
    tagEnd? regions (.inside (skip + 1) nesting) (c :: rest) = tagEnd? regions (.inside skip nesting) rest := by
  simp [tagEnd?, Place.next, Place.isNested]

variable (regions nesting) in
theorem tagEnd?_quoted (quote : Char) (before text : Text) :
    tagEnd? regions (.quoted quote (!nesting.isEmpty && !Quote.unescaped before) nesting) text =
      (Quote.length? (!nesting.isEmpty) quote before text).bind fun n => tagEnd? regions (.inside n nesting) text :=
  read_quoted regions (tagEnd? regions) (fun _ _ _ => rfl) (fun _ _ _ c rest => by simp [tagEnd?, Place.isNested])
    (fun skip _ c rest => tagEnd?_skip skip c rest) quote before text

/-- **The end of a tag**, found by the walk and by the machine. -/
theorem bodyFrom?_eq_tagEnd? (hr : Closes regions) (hn : Closable nesting) (skip : Nat) (text : Text) :
    (bodyFrom? regions skip nesting text).map (fun body => (body.nestedGt, body.rest)) =
      tagEnd? regions (.inside skip nesting) text := by
  induction text generalizing skip nesting with
  | nil => cases skip <;> rfl
  | cons c rest ih =>
    cases skip with
    | succ skip =>
      rw [tagEnd?_skip, ← ih hn]
      simp [bodyFrom?, Body.push, Function.comp_def]
    | zero =>
      have push (n : Nat) {nesting' : Nesting} (hn' : Closable nesting') :
          ((bodyFrom? regions n nesting' rest).map (Body.push c (c == '>' && !nesting.isEmpty))).map
              (fun body => (body.nestedGt, body.rest)) =
            (tagEnd? regions (.inside n nesting') rest).map fun found =>
              (c == '>' && !nesting.isEmpty || found.1, found.2) := by
        rw [← ih hn']
        simp [Body.push, Function.comp_def]
      simp only [bodyFrom?, settle_of_closable hn, tagEnd?, Place.inside.injEq, true_and, Place.isNested]
      by_cases hgt : nesting = [] ∧ c = '>'
      · simp [hgt]
      · rw [if_neg hgt, if_neg (by simpa using hgt)]
        by_cases hlt : nesting = [] ∧ c = '<' ∧ (opening? regions (c :: rest)).isNone = true
        · rw [if_pos hlt, if_pos (by simpa [and_assoc] using hlt)]
          rfl
        · rw [if_neg hlt, if_neg (by simpa [and_assoc] using hlt)]
          cases hc : Quote.isQuote c with
          | true =>
            have hspan := tagEnd?_quoted regions nesting c [] rest
            rw [show (!nesting.isEmpty && !Quote.unescaped []) = false by simp [Quote.unescaped]] at hspan
            simp only [token?, Place.next, hc, if_true, hspan]
            cases Quote.length? (!nesting.isEmpty) c [] rest with
            | none => rfl
            | some n => exact push n hn
          | false =>
            obtain ⟨n, nesting', htoken⟩ := exists_token regions nesting hc rest
            simp only [htoken, Place.next, hc, Bool.false_eq_true, if_false]
            exact push n (closable_of_token? hr hn htoken)

/-! ## The end of a region -/

theorem regionEnd?_skip (skip : Nat) (c : Char) (rest : Text) :
    regionEnd? regions (.inside (skip + 1) nesting) (c :: rest) = regionEnd? regions (.inside skip nesting) rest := by
  simp [regionEnd?, Place.next]

variable (regions nesting) in
theorem regionEnd?_quoted (quote : Char) (before text : Text) :
    regionEnd? regions (.quoted quote (!nesting.isEmpty && !Quote.unescaped before) nesting) text =
      (Quote.length? (!nesting.isEmpty) quote before text).bind fun n => regionEnd? regions (.inside n nesting) text :=
  read_quoted regions (regionEnd? regions) (fun _ _ _ => rfl) (fun _ _ _ _ _ => rfl)
    (fun skip _ c rest => regionEnd?_skip skip c rest) quote before text

/-- **The end of a region**, found by the walk and by the machine. -/
theorem length?_eq_regionEnd? (hr : Closes regions) (hn : Closable nesting) (skip : Nat) (text : Text) :
    (length? regions skip nesting text).map (text.drop ·) = regionEnd? regions (.inside skip nesting) text := by
  induction text generalizing skip nesting with
  | nil =>
    cases skip with
    | succ skip => rfl
    | zero => cases nesting <;> rfl
  | cons c rest ih =>
    have push (n : Nat) {nesting' : Nesting} (hn' : Closable nesting') :
        ((length? regions n nesting' rest).map (· + 1)).map ((c :: rest).drop ·) =
          regionEnd? regions (.inside n nesting') rest := by
      rw [← ih hn']
      simp [Function.comp_def]
    cases skip with
    | succ skip =>
      rw [regionEnd?_skip, ← push skip hn]
      rfl
    | zero =>
      cases nesting with
      | nil => rfl
      | cons closer outer =>
        simp only [length?, settle_of_closable hn, regionEnd?]
        cases hc : Quote.isQuote c with
        | true =>
          have hspan := regionEnd?_quoted regions (closer :: outer) c [] rest
          rw [show (!(closer :: outer).isEmpty && !Quote.unescaped []) = false by simp [Quote.unescaped]] at hspan
          simp only [token?, Place.next, hc, if_true, hspan]
          cases Quote.length? (!(closer :: outer).isEmpty) c [] rest with
          | none => rfl
          | some n => exact push n hn
        | false =>
          obtain ⟨n, nesting', htoken⟩ := exists_token regions (closer :: outer) hc rest
          simp only [htoken, Place.next, hc, Bool.false_eq_true, if_false]
          exact push n (closable_of_token? hr hn htoken)

end SourceMark.Nesting
