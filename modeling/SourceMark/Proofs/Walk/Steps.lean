/-
The walk over a tag, step by step. A step reads a quoted span, an opener, a closer or one character, and the steps of a
walk that finds the end of its tag make up the attributes of the tag. Blanking reads the same characters without regard
to regions: it agrees with the walk up to the first span that holds a quote of its own kind, and such a span holds a
backslash.

Results:
- `stepsFrom_spec`: the steps of a walk are the attributes that it finds, and quotes stand at the ends of spans only.
- `backslash_mem_of_span`: a span that holds a quote of its own kind holds a backslash.
- `blank_steps`: blanking leaves every step as it is but the spans, when none of them holds a quote of its kind.
-/
import SourceMark.Proofs.Walk.Place

namespace SourceMark

/-! ## Blanking -/

namespace Quote

theorem exists_content {escapes : Bool} {quote : Char} {before text : Text} {n : Nat}
    (h : length? escapes quote before text = some n) :
    ∃ content rest, text = content ++ quote :: rest ∧ n = content.length + 1 := by
  induction text generalizing before n with
  | nil => exact absurd h (by simp [length?])
  | cons c text ih =>
    rw [length?] at h
    split_ifs at h with hc
    · obtain rfl : c = quote := by
        rw [Bool.and_eq_true, decide_eq_true_eq] at hc
        exact hc.1
      exact ⟨[], text, rfl, (Option.some.inj h).symm⟩
    · obtain ⟨m, hm, rfl⟩ := Option.map_eq_some_iff.1 h
      obtain ⟨content, rest, rfl, rfl⟩ := ih hm
      exact ⟨c :: content, rest, rfl, rfl⟩

/-- a span that goes on behind a quote of its kind holds a backslash -/
theorem backslash_mem_content {escapes : Bool} {quote : Char} {before content rest : Text}
    (h : length? escapes quote before (content ++ quote :: rest) = some (content.length + 1)) (hquote : quote ∈ content) :
    '\\' ∈ before ∨ '\\' ∈ content := by
  induction content generalizing before with
  | nil => exact absurd hquote List.not_mem_nil
  | cons c content ih =>
    rw [List.cons_append, length?] at h
    split_ifs at h with hend
    · exact absurd (Option.some.inj h) (by simp)
    · obtain ⟨m, hm, hlen⟩ := Option.map_eq_some_iff.1 h
      obtain rfl : m = content.length + 1 := Nat.succ.inj hlen
      rcases List.mem_cons.1 hquote with rfl | hquote
      · -- the quote in front did not end the span, so backslashes stand before it
        left
        have hescaped : unescaped before = false := by
          by_contra hnot
          exact hend (by simp [hnot])
        by_contra hnone
        have hrun : before.takeWhile (· == '\\') = [] := by
          cases before with
          | nil => rfl
          | cons d before =>
            have hd : d ≠ '\\' := fun e => hnone (e ▸ List.mem_cons_self)
            simp [hd]
        rw [unescaped, hrun] at hescaped
        exact absurd hescaped (by decide)
      · rcases ih hm hquote with hmem | hmem
        · rcases List.mem_cons.1 hmem with hc | hmem
          · exact Or.inr (hc ▸ List.mem_cons_self)
          · exact Or.inl hmem
        · exact Or.inr (List.mem_cons_of_mem _ hmem)

theorem length?_span {quote : Char} {content : Text} (h : quote ∉ content) (before rest : Text) :
    length? false quote before (content ++ quote :: rest) = some (content.length + 1) := by
  induction content generalizing before with
  | nil => simp [length?]
  | cons c content ih =>
    have hc : c ≠ quote := fun e => h (e ▸ List.mem_cons_self)
    rw [List.cons_append, length?, if_neg (by simp [hc]), ih fun hm => h (List.mem_cons_of_mem _ hm)]
    rfl

theorem blankFrom_append (front rest : Text) : blankFrom front.length (front ++ rest) = blankFrom 0 rest := by
  induction front with
  | nil => rfl
  | cons c front ih => exact ih

theorem blank_span {quote : Char} (hquote : isQuote quote = true) {content : Text} (h : quote ∉ content) (rest : Text) :
    blank (quote :: (content ++ quote :: rest)) = quote :: quote :: blank rest := by
  have hskip := blankFrom_append (content ++ [quote]) rest
  rw [List.append_assoc, List.singleton_append, List.length_append, List.length_singleton] at hskip
  rw [blank, blankFrom, if_pos hquote, length?_span h]
  exact congrArg (quote :: quote :: ·) hskip

theorem blank_append {front : Text} (h : ∀ c ∈ front, isQuote c = false) (rest : Text) :
    blank (front ++ rest) = front ++ blank rest := by
  induction front with
  | nil => rfl
  | cons c front ih =>
    have hc : ¬isQuote c = true := by
      rw [h c List.mem_cons_self]
      decide
    have ih := ih fun d hd => h d (List.mem_cons_of_mem _ hd)
    rw [blank] at ih ⊢
    rw [List.cons_append, blankFrom, if_neg hc, ih]
    rfl

theorem head?_blank (text : Text) : (blank text).head? = text.head? := by
  cases text with
  | nil => rfl
  | cons c rest =>
    rw [blank, blankFrom]
    split_ifs
    · split <;> rfl
    · rfl

end Quote

namespace Nesting

/-! ## Steps -/

inductive Step where
  | span (quote : Char) (content : Text)
  | opener (text : Text)
  | closer (text : Text)
  | char (c : Char)
  deriving DecidableEq

namespace Step

def chars : Step → Text
  | span quote content => quote :: (content ++ [quote])
  | opener text => text
  | closer text => text
  | char c => [c]

/-- what blanking leaves of a step -/
def blanked : Step → Text
  | span quote _ => [quote, quote]
  | opener text => text
  | closer text => text
  | char c => [c]

/-- whether quotes stand at the ends of a step that is a span, and nowhere in another step -/
def Separate : Step → Prop
  | span quote _ => Quote.isQuote quote = true
  | opener text => ∀ c ∈ text, Quote.isQuote c = false
  | closer text => ∀ c ∈ text, Quote.isQuote c = false
  | char c => Quote.isQuote c = false

/-- the step that reads `c` and `more` behind it, by the regions that are open before and afterwards -/
def of (c : Char) (more : Text) (nesting nesting' : Nesting) : Step :=
  if Quote.isQuote c then span c more.dropLast
  else if nesting.length < nesting'.length then opener (c :: more)
  else if nesting'.length < nesting.length then closer (c :: more)
  else char c

end Step

/-- whether no span among the steps holds a quote of its own kind -/
def NoEscapes (steps : List Step) : Prop :=
  ∀ quote content, .span quote content ∈ steps → quote ∉ content

/-- the steps of a walk; the first `skip` characters belong to the step before -/
def stepsFrom (regions : List Delimiters) : (skip : Nat) → Nesting → Text → List Step
  | _, _, [] => []
  | skip + 1, nesting, _ :: rest => stepsFrom regions skip nesting rest
  | 0, nesting, c :: rest =>
    let nesting := settle c nesting
    if nesting.isEmpty && c == '>' then []
    else
      match token? regions nesting c rest with
      | none => []
      | some (n, nesting') => .of c (rest.take n) nesting nesting' :: stepsFrom regions n nesting' rest

def steps (regions : List Delimiters) (text : Text) : List Step :=
  stepsFrom regions 0 [] text

variable {regions : List Delimiters} {nesting : Nesting}

/-! ## What a step reads -/

def Unquoted (delimiters : List Text) : Prop :=
  ∀ delimiter ∈ delimiters, ∀ c ∈ delimiter, Quote.isQuote c = false

instance (delimiters : List Text) : Decidable (Unquoted delimiters) :=
  decidable_of_iff (delimiters.all (·.all (!Quote.isQuote ·)) = true) (by simp [Unquoted])

/-- a delimiter at the head of the text is the first character and those that a step takes behind it -/
theorem take_of_isPrefixOf {delimiter rest : Text} {c : Char} (hne : delimiter ≠ [])
    (h : delimiter.isPrefixOf (c :: rest) = true) : c :: rest.take (delimiter.length - 1) = delimiter := by
  obtain ⟨behind, hbehind⟩ := List.isPrefixOf_iff_prefix.1 h
  cases delimiter with
  | nil => exact absurd rfl hne
  | cons d delimiter =>
    obtain ⟨rfl, hrest⟩ := List.cons.inj hbehind
    rw [← hrest, List.length_cons, Nat.add_sub_cancel]
    exact congrArg (d :: ·) List.take_left

/-- **One step of a walk** reads the characters of its token, and its quotes are apart. -/
theorem step_spec (hn : Closable nesting)
    (hquotes : Unquoted (regions.flatMap fun region => [region.opener, region.closer])) (hnesting : Unquoted nesting)
    {c : Char} {rest : Text} {n : Nat} {nesting' : Nesting} (h : token? regions nesting c rest = some (n, nesting')) :
    (Step.of c (rest.take n) nesting nesting').chars = c :: rest.take n ∧
      (Step.of c (rest.take n) nesting nesting').Separate ∧ Unquoted nesting' := by
  cases hc : Quote.isQuote c with
  | true =>
    simp only [token?, hc, if_true, Option.map_eq_some_iff, Prod.mk.injEq] at h
    obtain ⟨m, hm, rfl, rfl⟩ := h
    obtain ⟨content, behind, rfl, rfl⟩ := Quote.exists_content hm
    have htake : (content ++ c :: behind).take (content.length + 1) = content ++ [c] := by
      rw [List.take_length_add_append]
      rfl
    rw [Step.of, if_pos hc, htake, List.dropLast_concat]
    exact ⟨rfl, hc, hnesting⟩
  | false =>
    have hnot : ¬Quote.isQuote c = true := by simp [hc]
    have hof : Step.of c (rest.take n) nesting nesting' =
        if nesting.length < nesting'.length then .opener (c :: rest.take n)
        else if nesting'.length < nesting.length then .closer (c :: rest.take n) else .char c := if_neg hnot
    rcases token?_of_not_isQuote regions nesting hc rest with
      ⟨closer, outer, rfl, hcl, htoken⟩ | ⟨region, ho, -, htoken⟩ | ⟨-, -, htoken⟩
    all_goals
      rw [htoken, Option.some.injEq, Prod.mk.injEq] at h
      obtain ⟨rfl, rfl⟩ := h
    · have hclosed := take_of_isPrefixOf (hn closer List.mem_cons_self) hcl
      rw [hof, if_neg (by simp), if_pos (by simp), hclosed]
      exact ⟨rfl, hnesting closer List.mem_cons_self, fun d hd => hnesting d (List.mem_cons_of_mem _ hd)⟩
    · obtain ⟨hmem, hne, hhead⟩ := opening?_eq_some ho
      have hdelimiter {delimiter : Text} (hd : delimiter ∈ [region.opener, region.closer]) :=
        hquotes delimiter (List.mem_flatMap.2 ⟨region, hmem, hd⟩)
      rw [hof, if_pos (by simp), take_of_isPrefixOf hne hhead]
      refine ⟨rfl, hdelimiter (by simp), ?_⟩
      intro d hd
      rcases List.mem_cons.1 hd with rfl | hd
      · exact hdelimiter (by simp)
      · exact hnesting d hd
    · rw [hof, if_neg (Nat.lt_irrefl _), if_neg (Nat.lt_irrefl _)]
      exact ⟨rfl, hc, hnesting⟩

/-! ## The steps of a walk -/

theorem skip_le {skip : Nat} {text : Text} {body : Body} (h : bodyFrom? regions skip nesting text = some body) :
    skip ≤ body.attributes.length := by
  induction text generalizing skip body with
  | nil => exact absurd h (by cases skip <;> simp [bodyFrom?])
  | cons c rest ih =>
    cases skip with
    | zero => exact Nat.zero_le _
    | succ skip =>
      obtain ⟨inner, hinner, rfl⟩ := Option.map_eq_some_iff.1 h
      exact Nat.succ_le_succ (ih hinner)

/-- **The steps of a walk are the attributes that it finds**, and quotes are apart in each of them. -/
theorem stepsFrom_spec (hr : Closes regions)
    (hquotes : Unquoted (regions.flatMap fun region => [region.opener, region.closer])) {skip : Nat} {text : Text}
    {body : Body} (hn : Closable nesting) (hnesting : Unquoted nesting)
    (h : bodyFrom? regions skip nesting text = some body) :
    (stepsFrom regions skip nesting text).flatMap Step.chars = body.attributes.drop skip ∧
      ∀ step ∈ stepsFrom regions skip nesting text, step.Separate := by
  induction text generalizing skip nesting body with
  | nil => exact absurd h (by cases skip <;> simp [bodyFrom?])
  | cons c rest ih =>
    cases skip with
    | succ skip =>
      obtain ⟨inner, hinner, rfl⟩ := Option.map_eq_some_iff.1 h
      exact ih hn hnesting hinner
    | zero =>
      simp only [bodyFrom?, settle_of_closable hn] at h
      simp only [stepsFrom, settle_of_closable hn]
      split at h
      · next hend =>
        rw [if_pos hend, ← Option.some.inj h]
        exact ⟨rfl, fun _ hm => absurd hm List.not_mem_nil⟩
      · next hend =>
        split at h
        · exact absurd h (by simp)
        · cases htoken : token? regions nesting c rest with
          | none =>
            rw [htoken] at h
            exact absurd h (by simp)
          | some token =>
            obtain ⟨n, nesting'⟩ := token
            rw [htoken] at h
            obtain ⟨inner, hinner, rfl⟩ := Option.map_eq_some_iff.1 h
            obtain ⟨hchars, hseparate, hnesting'⟩ := step_spec hn hquotes hnesting htoken
            obtain ⟨hrest, hall⟩ := ih (closable_of_token? hr hn htoken) hnesting' hinner
            have htake : rest.take n = inner.attributes.take n := by
              rw [bodyFrom?_eq_some hinner, List.take_append_of_le_length (skip_le hinner)]
            rw [if_neg hend, List.flatMap_cons, hchars, hrest, htake]
            refine ⟨?_, ?_⟩
            · rw [List.cons_append, List.take_append_drop]
              rfl
            · intro step hstep
              rcases List.mem_cons.1 hstep with rfl | hstep
              · exact hseparate
              · exact hall step hstep

/-- **A span that holds a quote of its own kind holds a backslash.** -/
theorem backslash_mem_of_span {skip : Nat} {text : Text} {quote : Char} {content : Text}
    (h : .span quote content ∈ stepsFrom regions skip nesting text) (hquote : quote ∈ content) : '\\' ∈ content := by
  induction text generalizing skip nesting with
  | nil => exact absurd h (by cases skip <;> simp [stepsFrom])
  | cons c rest ih =>
    cases skip with
    | succ skip => exact ih h
    | zero =>
      simp only [stepsFrom] at h
      split_ifs at h
      · exact absurd h List.not_mem_nil
      · split at h
        · exact absurd h List.not_mem_nil
        · next n nesting' htoken =>
          rcases List.mem_cons.1 h with hstep | h
          · have hc : Quote.isQuote c = true := by
              by_contra hnot
              rw [Step.of, if_neg hnot] at hstep
              split_ifs at hstep
            rw [Step.of, if_pos hc] at hstep
            obtain ⟨rfl, rfl⟩ := Step.span.inj hstep
            simp only [token?, hc, if_true, Option.map_eq_some_iff, Prod.mk.injEq] at htoken
            obtain ⟨m, hm, rfl, -⟩ := htoken
            obtain ⟨content, behind, rfl, rfl⟩ := Quote.exists_content hm
            have htake : (content ++ quote :: behind).take (content.length + 1) = content ++ [quote] := by
              rw [List.take_length_add_append]
              rfl
            rw [htake, List.dropLast_concat] at hquote ⊢
            exact (Quote.backslash_mem_content hm hquote).elim (fun hm => absurd hm List.not_mem_nil) id
          · exact ih h

/-! ## Blanking the steps -/

/-- **Blanking agrees with the walk** where no span holds a quote of its own kind. -/
theorem blank_steps {steps : List Step} (hseparate : ∀ step ∈ steps, step.Separate) (hplain : NoEscapes steps)
    (rest : Text) : Quote.blank (steps.flatMap Step.chars ++ rest) = steps.flatMap Step.blanked ++ Quote.blank rest := by
  induction steps with
  | nil => rfl
  | cons step steps ih =>
    have ih := ih (fun step hm => hseparate step (List.mem_cons_of_mem _ hm))
      fun quote content hm => hplain quote content (List.mem_cons_of_mem _ hm)
    have hstep := hseparate step List.mem_cons_self
    rw [List.flatMap_cons, List.flatMap_cons, List.append_assoc, List.append_assoc, ← ih]
    cases step with
    | span quote content =>
      have := Quote.blank_span hstep (hplain quote content List.mem_cons_self) (steps.flatMap Step.chars ++ rest)
      simpa [Step.chars, Step.blanked] using this
    | opener text => exact Quote.blank_append hstep _
    | closer text => exact Quote.blank_append hstep _
    | char c =>
      have hc : ∀ d ∈ [c], Quote.isQuote d = false := fun d hd => List.mem_singleton.1 hd ▸ hstep
      exact Quote.blank_append hc _

end Nesting

end SourceMark
