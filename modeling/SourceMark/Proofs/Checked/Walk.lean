/-
The walk over a tag by positions. It reads the character at its position, jumps behind a quoted span, behind a closer or
behind an opener, and keeps the closers of the open regions on a stack; it asks for characters, for the innermost region
and for the closer of an opener, and each of these may be missing. With regions that are well formed none ever is, and
the walk comes to the place where the walk over characters comes to.

Results:
- `spanEnd_eq`: a quoted span ends where it ends character by character.
- `advance_eq`: a step reads the token that stands at its position.
- `regionEnd_eq`, `tagEnd_eq`: the ends of open regions and of a tag.
-/
import Mathlib.Data.List.Induction
import Mathlib.Data.List.Nodup
import SourceMark.Proofs.Checked.Basic
import SourceMark.Proofs.Walk.Steps

namespace SourceMark.Checked

/-! ## Quoted spans -/

/-- where the run of backslashes starts that ends before a position; the run starts at `low` at the earliest -/
def runStart (text : Text) (low : Nat) : (stop : Nat) → Except Fault Nat
  | 0 => .ok 0
  | stop + 1 =>
    if low ≤ stop then do
      let c ← charAt text stop
      if c = '\\' then runStart text low stop else .ok (stop + 1)
    else .ok (stop + 1)

/-- where the run of backslashes before a quote starts that may end a span, when backslashes escape there -/
def spanStart (escapes : Bool) (text : Text) (low stop : Nat) : Except Fault Nat :=
  if escapes then runStart text low stop else .ok stop

/-- looks for the end of the span that opens at `position`, from `index` on -/
def spanRound (escapes : Bool) (text : Text) (position : Nat) (quote : Char) (index : Nat) :
    Except Fault (Round Unit (Option Nat)) :=
  match find? [quote] text index with
  | none => .ok (.done none)
  | some stop => do
    let start ← spanStart escapes text (position + 1) stop
    if (stop - start) % 2 = 0 then .ok (.done (some (stop + 1))) else .ok (.next () (stop + 1))

/-- the position behind the quoted span that opens at a position, if the span is closed -/
def spanEnd (escapes : Bool) (text : Text) (position : Nat) : Except Fault (Option Nat) := do
  let quote ← charAt text position
  iterate text.length (fun _ index => spanRound escapes text position quote index) () (position + 1)

def backslashes (text : Text) : Nat :=
  (text.reverse.takeWhile (· == '\\')).length

theorem runStart_eq {text : Text} {low stop : Nat} (hstop : stop ≤ text.length) :
    runStart text low stop = .ok (stop - backslashes (slice text low stop)) := by
  induction stop with
  | zero => simp [runStart]
  | succ stop ih =>
    rw [runStart]
    split_ifs with hlow
    · obtain ⟨c, rest, hdrop, -⟩ := exists_drop (show stop < text.length by omega)
      rw [charAt_of_drop hdrop, ok_bind, slice_succ hlow hdrop, backslashes, List.reverse_append,
        List.reverse_singleton, List.singleton_append]
      split_ifs with hc
      · rw [ih (by omega), List.takeWhile_cons_of_pos (by simp [hc]), List.length_cons, backslashes,
          Nat.add_sub_add_right]
      · rw [List.takeWhile_cons_of_neg (by simp [hc])]
        rfl
    · have hempty : slice text low (stop + 1) = [] := by
        rw [slice, show stop + 1 - low = 0 by omega, List.take_zero]
      rw [hempty]
      rfl

theorem spanStart_spec (escapes : Bool) {text : Text} (low : Nat) {stop : Nat} (hstop : stop ≤ text.length) :
    ∃ start, spanStart escapes text low stop = .ok start ∧
      ((stop - start) % 2 = 0 ↔ (!escapes || Quote.unescaped (slice text low stop).reverse) = true) := by
  cases escapes with
  | false => exact ⟨stop, rfl, by simp⟩
  | true =>
    have hle : backslashes (slice text low stop) ≤ stop := by
      have hrun := (List.takeWhile_sublist (· == '\\') (l := (slice text low stop).reverse)).length_le
      have hslice : (slice text low stop).length ≤ stop - low := List.length_take_le _ _
      rw [List.length_reverse] at hrun
      exact Nat.le_trans hrun (by omega)
    refine ⟨_, runStart_eq hstop, ?_⟩
    rw [Nat.sub_sub_self hle, backslashes, Bool.not_true, Bool.false_or, Quote.unescaped, beq_iff_eq]

theorem length?_append {escapes : Bool} {quote : Char} {content : Text} (h : quote ∉ content) (before rest : Text) :
    Quote.length? escapes quote before (content ++ rest) =
      (Quote.length? escapes quote (content.reverse ++ before) rest).map (content.length + ·) := by
  induction content generalizing before with
  | nil => simp
  | cons c content ih =>
    rw [List.mem_cons, not_or] at h
    have hc : ¬((c = quote && (!escapes || Quote.unescaped before)) = true) := by simp [Ne.symm h.1]
    rw [List.cons_append, Quote.length?, if_neg hc, ih h.2, Option.map_map, List.reverse_cons, List.append_assoc]
    refine Option.map_congr fun n _ => ?_
    simp only [Function.comp_apply, List.length_cons]
    omega

theorem length?_eq_none {escapes : Bool} {quote : Char} {before text : Text} (h : quote ∉ text) :
    Quote.length? escapes quote before text = none := by
  have happend : Quote.length? escapes quote before (text ++ []) = none := length?_append h before []
  rwa [List.append_nil] at happend

/-- the end of the span that opens at `position`, when none of its ends stands before `index` -/
def expectedSpan (escapes : Bool) (text : Text) (position : Nat) (quote : Char) (index : Nat) : Option Nat :=
  (Quote.length? escapes quote (slice text (position + 1) index).reverse (text.drop index)).map (index + ·)

theorem expectedSpan_eq (escapes : Bool) {text front behind : Text} {position index : Nat} {quote : Char}
    (hindex : position + 1 ≤ index) (hdrop : text.drop index = front ++ quote :: behind) (hfront : quote ∉ front) :
    expectedSpan escapes text position quote index =
      if !escapes || Quote.unescaped (slice text (position + 1) (index + front.length)).reverse then
        some (index + front.length + 1)
      else expectedSpan escapes text position quote (index + front.length + 1) := by
  have hstop : text.drop (index + front.length) = quote :: behind := by
    rw [← List.drop_drop, hdrop, List.drop_left]
  have hbehind : text.drop (index + front.length + 1) = behind := by
    rw [← List.drop_drop, hstop]
    rfl
  have hbefore : front.reverse ++ (slice text (position + 1) index).reverse =
      (slice text (position + 1) (index + front.length)).reverse := by
    rw [← slice_append hindex (Nat.le_add_right index front.length), slice_of_drop hdrop, List.reverse_append]
  have hsnoc : (slice text (position + 1) (index + front.length + 1)).reverse =
      quote :: (slice text (position + 1) (index + front.length)).reverse := by
    rw [slice_succ (by omega) hstop, List.reverse_append]
    rfl
  rw [expectedSpan, hdrop, length?_append hfront, hbefore, Quote.length?, expectedSpan, hsnoc, hbehind, Option.map_map]
  simp only [decide_true, Bool.true_and]
  split_ifs with hend
  · simp [Nat.add_assoc]
  · rw [Option.map_map]
    refine Option.map_congr fun n _ => ?_
    simp only [Function.comp_apply]
    omega

theorem spanRound_keeps (escapes : Bool) (text : Text) (position : Nat) (quote : Char) (state : Unit) (index : Nat)
    (hindex : position + 1 ≤ index) :
    Keeps text.length (fun _ => spanRound escapes text position quote) (fun _ index => position + 1 ≤ index)
      (fun _ => expectedSpan escapes text position quote) state index := by
  simp only [Keeps, spanRound, find?]
  rcases findFrom?_char quote index (text.drop index) with ⟨hnone, hquote⟩ | ⟨front, behind, hdrop, hfront, hsome⟩
  · left
    rw [hnone, expectedSpan, length?_eq_none hquote]
    rfl
  have hlength : index + front.length < text.length := by
    have := congrArg List.length hdrop
    rw [List.length_drop, List.length_append, List.length_cons] at this
    omega
  obtain ⟨start, hstart, heven⟩ := spanStart_spec escapes (position + 1) (Nat.le_of_lt hlength)
  rw [hsome, expectedSpan_eq escapes hindex hdrop hfront]
  simp only [hstart, ok_bind]
  by_cases hmod : (index + front.length - start) % 2 = 0
  · rw [if_pos hmod, if_pos (heven.1 hmod)]
    exact .inl rfl
  · rw [if_neg hmod, if_neg fun hend => hmod (heven.2 hend)]
    exact .inr ⟨(), _, rfl, by omega, by omega, by omega, rfl⟩

/-- **A quoted span ends where it ends character by character.** -/
theorem spanEnd_eq (escapes : Bool) {text rest : Text} {position : Nat} {quote : Char}
    (h : text.drop position = quote :: rest) :
    spanEnd escapes text position = .ok ((Quote.length? escapes quote [] rest).map (position + 1 + ·)) := by
  have hrest : text.drop (position + 1) = rest := by
    rw [← List.drop_drop, h]
    rfl
  have hexpected : expectedSpan escapes text position quote (position + 1) =
      (Quote.length? escapes quote [] rest).map (position + 1 + ·) := by
    rw [expectedSpan, hrest, slice, Nat.sub_self, List.take_zero, List.reverse_nil]
  rw [spanEnd, charAt_of_drop h, ok_bind, ← hexpected]
  exact iterate_eq (spanRound_keeps escapes text position quote) (Nat.le_refl _)

/-! ## Regions -/

/-- regions whose delimiters have characters in them and whose openers differ -/
structure WellFormed (regions : List Delimiters) : Prop where
  openers : ∀ region ∈ regions, region.opener ≠ []
  closers : Nesting.Closes regions
  distinct : (regions.map (·.opener)).Nodup

def sortedOpeners (regions : List Delimiters) : List Text :=
  (regions.map (·.opener)).mergeSort fun a b => b.length ≤ a.length

/-- the first of the sorted openers that stands at a position -/
def openerAt? (regions : List Delimiters) (text : Text) (position : Nat) : Option Text :=
  (sortedOpeners regions).find? (·.isPrefixOf (text.drop position))

def closerOf (regions : List Delimiters) (opener : Text) : Except Fault Text :=
  match regions.reverse.find? (·.opener == opener) with
  | some region => .ok region.closer
  | none => .error (.unknownOpener opener)

def innermost : Nesting → Except Fault Text
  | [] => .error .noOpenRegion
  | closer :: _ => .ok closer

/-- the closer of the innermost open region, and the regions around it -/
def leave : Nesting → Except Fault (Text × Nesting)
  | [] => .error .noOpenRegion
  | closer :: outer => .ok (closer, outer)

def closesAt (nesting : Nesting) (text : Text) (position : Nat) : Except Fault Bool :=
  if nesting.isEmpty then .ok false
  else do
    let closer ← innermost nesting
    .ok (closer.isPrefixOf (text.drop position))

/-- the opener that is read is at least as long as any other that stands there -/
theorem opening?_longest {regions : List Delimiters} (hopeners : ∀ region ∈ regions, region.opener ≠ []) {text : Text} :
    ∀ region ∈ regions, region.opener.isPrefixOf text = true →
      ∃ found, Nesting.opening? regions text = some found ∧ region.opener.length ≤ found.opener.length := by
  induction regions using List.reverseRecOn with
  | nil => simp
  | append_singleton regions last ih =>
    have hfold : Nesting.opening? (regions ++ [last]) text =
        if !last.opener.isEmpty && last.opener.isPrefixOf text &&
          (Nesting.opening? regions text).all fun other => other.opener.length ≤ last.opener.length
        then some last else Nesting.opening? regions text := by
      rw [Nesting.opening?, List.foldl_append]
      rfl
    intro region hregion hhead
    rw [hfold]
    rcases List.mem_append.1 hregion with hregion | hregion
    · obtain ⟨found, hfound, hlength⟩ :=
        ih (fun other hother => hopeners other (by simp [hother])) region hregion hhead
      rw [hfound]
      split_ifs with hlast
      · simp only [Bool.and_eq_true, Option.all_some, decide_eq_true_eq] at hlast
        exact ⟨last, rfl, Nat.le_trans hlength hlast.2⟩
      · exact ⟨found, rfl, hlength⟩
    · obtain rfl := List.mem_singleton.1 hregion
      have hne : region.opener.isEmpty = false := by simpa using hopeners region (by simp)
      rw [hne, hhead]
      cases hbest : Nesting.opening? regions text with
      | none => exact ⟨region, rfl, Nat.le_refl _⟩
      | some found =>
        by_cases hlength : found.opener.length ≤ region.opener.length
        · exact ⟨region, by simp [hlength], Nat.le_refl _⟩
        · exact ⟨found, by simp [hlength], by omega⟩

theorem mem_sortedOpeners {regions : List Delimiters} {opener : Text} :
    opener ∈ sortedOpeners regions ↔ opener ∈ regions.map (·.opener) :=
  List.mem_mergeSort

theorem pairwise_sortedOpeners (regions : List Delimiters) :
    (sortedOpeners regions).Pairwise fun a b => b.length ≤ a.length :=
  (List.pairwise_mergeSort (by simp; omega) (by simp; omega) _).imp of_decide_eq_true

/-- the opener that is found is at least as long as any other that stands there -/
theorem openerAt?_longest {regions : List Delimiters} {text : Text} {position : Nat} {opener : Text}
    (h : openerAt? regions text position = some opener) : opener ∈ sortedOpeners regions ∧
      opener.isPrefixOf (text.drop position) = true ∧ ∀ other ∈ sortedOpeners regions,
        other.isPrefixOf (text.drop position) = true → other.length ≤ opener.length := by
  obtain ⟨hhead, before, behind, hsplit, hbefore⟩ := List.find?_eq_some_iff_append.1 h
  refine ⟨by rw [hsplit]; simp, hhead, fun other hother hstands => ?_⟩
  have hsorted := pairwise_sortedOpeners regions
  rw [hsplit] at hother hsorted
  rcases List.mem_append.1 hother with hin | hin
  · have hno := hbefore _ hin
    rw [hstands] at hno
    exact absurd hno (by decide)
  · rcases List.mem_cons.1 hin with rfl | hin
    · exact Nat.le_refl _
    · exact List.rel_of_pairwise_cons (List.pairwise_append.1 hsorted).2.1 hin

/-- **The opener that is found is the one that is read.** -/
theorem openerAt?_eq {regions : List Delimiters} (h : WellFormed regions) (text : Text) (position : Nat) :
    openerAt? regions text position = (Nesting.opening? regions (text.drop position)).map (·.opener) := by
  cases hfind : openerAt? regions text position with
  | none =>
    have hnone := List.find?_eq_none.1 hfind
    cases hopening : Nesting.opening? regions (text.drop position) with
    | none => rfl
    | some found =>
      obtain ⟨hmem, -, hhead⟩ := Nesting.opening?_eq_some hopening
      exact absurd hhead (hnone _ (mem_sortedOpeners.2 (List.mem_map_of_mem hmem)))
  | some opener =>
    obtain ⟨hopener, hhead, hlongest⟩ := openerAt?_longest hfind
    obtain ⟨region, hregion, rfl⟩ := List.mem_map.1 (mem_sortedOpeners.1 hopener)
    obtain ⟨found, hfound, hlength⟩ := opening?_longest h.openers region hregion hhead
    obtain ⟨hfoundmem, -, hfoundhead⟩ := Nesting.opening?_eq_some hfound
    have hback := hlongest found.opener (mem_sortedOpeners.2 (List.mem_map_of_mem hfoundmem)) hfoundhead
    -- both stand at the head of one text and neither is longer
    have hsame : region.opener = found.opener :=
      (List.prefix_of_prefix_length_le (List.isPrefixOf_iff_prefix.1 hhead)
        (List.isPrefixOf_iff_prefix.1 hfoundhead) hlength).eq_of_length (by omega)
    rw [hfound, hsame]
    rfl

theorem closerOf_eq {regions : List Delimiters} (h : WellFormed regions) {region : Delimiters}
    (hregion : region ∈ regions) : closerOf regions region.opener = .ok region.closer := by
  have hfound : regions.reverse.find? (·.opener == region.opener) = some region := by
    cases hfind : regions.reverse.find? (·.opener == region.opener) with
    | none =>
      rw [List.find?_eq_none] at hfind
      exact absurd (beq_self_eq_true region.opener) (hfind region (by simpa using hregion))
    | some other =>
      have hsame := List.find?_some hfind
      have hmem := List.mem_of_find?_eq_some hfind
      rw [List.mem_reverse] at hmem
      rw [List.inj_on_of_nodup_map h.distinct hmem hregion (by simpa using hsame)]
  rw [closerOf, hfound]

/-! ## Steps -/

/-- goes on from a position by one token: the position behind it and the regions that are open there -/
def advance (regions : List Delimiters) (text : Text) (nesting : Nesting) (position : Nat) :
    Except Fault (Option (Nat × Nesting)) := do
  let c ← charAt text position
  if Quote.isQuote c then
    let stop? ← spanEnd (!nesting.isEmpty) text position
    .ok (stop?.map (·, nesting))
  else if ← closesAt nesting text position then
    let (closer, outer) ← leave nesting
    .ok (some (position + closer.length, outer))
  else
    match openerAt? regions text position with
    | none => .ok (some (position + 1, nesting))
    | some opener => do
      let closer ← closerOf regions opener
      .ok (some (position + opener.length, closer :: nesting))

theorem closesAt_eq (nesting : Nesting) (text : Text) (position : Nat) : closesAt nesting text position =
    .ok (match nesting with | [] => false | closer :: _ => closer.isPrefixOf (text.drop position)) := by
  cases nesting <;> rfl

/-- **A step reads the token that stands at its position.** -/
theorem advance_eq {regions : List Delimiters} (h : WellFormed regions) {nesting : Nesting}
    (hnesting : Nesting.Closable nesting) {text rest : Text} {position : Nat} {c : Char}
    (hdrop : text.drop position = c :: rest) :
    advance regions text nesting position =
      .ok ((Nesting.token? regions nesting c rest).map fun token => (position + 1 + token.1, token.2)) := by
  rw [advance, charAt_of_drop hdrop, ok_bind]
  cases hc : Quote.isQuote c with
  | true =>
    rw [if_pos rfl, spanEnd_eq _ hdrop, ok_bind, Nesting.token?.eq_def, if_pos hc, Option.map_map, Option.map_map]
    rfl
  | false =>
    have hlength {delimiter : Text} (hne : delimiter ≠ []) :
        position + delimiter.length = position + 1 + (delimiter.length - 1) := by
      have := List.length_pos_of_ne_nil hne
      omega
    have hcloses (hno : ∀ closer outer, nesting = closer :: outer → closer.isPrefixOf (c :: rest) = false) :
        closesAt nesting text position = .ok false := by
      cases nesting with
      | nil => rfl
      | cons closer outer => rw [closesAt_eq, hdrop, ← hno closer outer rfl]
    rw [if_neg (by decide), openerAt?_eq h, hdrop]
    rcases Nesting.token?_of_not_isQuote regions nesting hc rest with
      ⟨closer, outer, rfl, hcloser, htoken⟩ | ⟨region, hregion, hno, htoken⟩ | ⟨hnone, hno, htoken⟩
    · rw [htoken, closesAt_eq, ok_bind, hdrop, if_pos hcloser, leave, ok_bind]
      exact congrArg (fun stop => Except.ok (some (stop, outer))) (hlength (hnesting closer List.mem_cons_self))
    · obtain ⟨hmem, hne, -⟩ := Nesting.opening?_eq_some hregion
      rw [htoken, hcloses hno, ok_bind, if_neg (by decide), hregion]
      simp only [Option.map_some, closerOf_eq h hmem, ok_bind, hlength hne]
    · rw [htoken, hcloses hno, ok_bind, if_neg (by decide), hnone]
      rfl

theorem token?_le {regions : List Delimiters} {nesting nesting' : Nesting} {c : Char} {rest : Text} {n : Nat}
    (h : Nesting.token? regions nesting c rest = some (n, nesting')) : n ≤ rest.length := by
  have hdelimiter {delimiter : Text} (hhead : delimiter.isPrefixOf (c :: rest) = true) :
      delimiter.length - 1 ≤ rest.length := by
    have := (List.isPrefixOf_iff_prefix.1 hhead).length_le
    rw [List.length_cons] at this
    omega
  cases hc : Quote.isQuote c with
  | true =>
    rw [Nesting.token?.eq_def, if_pos hc, Option.map_eq_some_iff] at h
    obtain ⟨m, hm, heq⟩ := h
    obtain ⟨rfl, -⟩ := Prod.mk.inj heq
    exact (Quote.length?_le hm).2
  | false =>
    rcases Nesting.token?_of_not_isQuote regions nesting hc rest with
      ⟨closer, outer, -, hcloser, htoken⟩ | ⟨region, hregion, -, htoken⟩ | ⟨-, -, htoken⟩
    all_goals
      rw [htoken, Option.some.injEq, Prod.mk.injEq] at h
      obtain ⟨rfl, -⟩ := h
    · exact hdelimiter hcloser
    · exact hdelimiter (Nesting.opening?_eq_some hregion).2.2
    · exact Nat.zero_le _

/-- a step that reads a token moves on, and what it reads is in the text -/
theorem advance_moves {regions : List Delimiters} (h : WellFormed regions) {nesting : Nesting}
    (hnesting : Nesting.Closable nesting) {text rest : Text} {position : Nat} {c : Char}
    (hdrop : text.drop position = c :: rest) :
    (advance regions text nesting position = .ok none ∧ Nesting.token? regions nesting c rest = none) ∨
      ∃ n nesting', advance regions text nesting position = .ok (some (position + 1 + n, nesting')) ∧
        Nesting.token? regions nesting c rest = some (n, nesting') ∧ n ≤ rest.length ∧ Nesting.Closable nesting' ∧
        text.drop (position + 1 + n) = rest.drop n := by
  rw [advance_eq h hnesting hdrop]
  cases htoken : Nesting.token? regions nesting c rest with
  | none => exact .inl ⟨rfl, rfl⟩
  | some token =>
    refine .inr ⟨token.1, token.2, rfl, rfl, token?_le htoken, Nesting.closable_of_token? h.closers hnesting htoken, ?_⟩
    rw [← List.drop_drop, ← List.drop_drop, hdrop]
    rfl

/-! ## The end of the open regions -/

/-- goes on by one token while a region is open -/
def regionRound (regions : List Delimiters) (text : Text) (nesting : Nesting) (position : Nat) :
    Except Fault (Round Nesting (Option Nat)) :=
  if nesting.isEmpty then .ok (.done (some position))
  else if text.length ≤ position then .ok (.done none)
  else do
    match ← advance regions text nesting position with
    | none => .ok (.done none)
    | some (position', nesting') => .ok (.next nesting' position')

/-- the position behind the open regions, if they end -/
def regionEnd (regions : List Delimiters) (text : Text) (nesting : Nesting) (position : Nat) :
    Except Fault (Option Nat) :=
  iterate text.length (regionRound regions text) nesting position

theorem length?_skip {regions : List Delimiters} {nesting : Nesting} {skip : Nat} {text : Text}
    (h : skip ≤ text.length) : Nesting.length? regions skip nesting text =
      (Nesting.length? regions 0 nesting (text.drop skip)).map (skip + ·) := by
  induction text generalizing skip with
  | nil =>
    obtain rfl : skip = 0 := by simpa using h
    simp
  | cons c rest ih =>
    cases skip with
    | zero => simp
    | succ skip =>
      rw [Nesting.length?, ih (Nat.le_of_succ_le_succ h), List.drop_succ_cons, Option.map_map]
      refine Option.map_congr fun n _ => ?_
      simp only [Function.comp_apply]
      omega

/-- the position behind the open regions, character by character -/
def expectedRegion (regions : List Delimiters) (text : Text) (nesting : Nesting) (position : Nat) : Option Nat :=
  (Nesting.length? regions 0 nesting (text.drop position)).map (position + ·)

/-- one round is behind the regions, at the end of the text, or reads one token -/
theorem regionRound_keeps {regions : List Delimiters} (h : WellFormed regions) (text : Text) (nesting : Nesting)
    (position : Nat) (hnesting : Nesting.Closable nesting) :
    Keeps text.length (regionRound regions text) (fun nesting _ => Nesting.Closable nesting)
      (expectedRegion regions text) nesting position := by
  unfold Keeps
  rw [regionRound, expectedRegion]
  cases nesting with
  | nil =>
    left
    have hdone : Nesting.length? regions 0 [] (text.drop position) = some 0 := by
      cases text.drop position <;> rfl
    rw [hdone]
    rfl
  | cons closer outer =>
    rw [if_neg (by simp)]
    split_ifs with hend
    · left
      rw [List.drop_eq_nil_of_le hend]
      rfl
    obtain ⟨c, rest, hdrop, -⟩ := exists_drop (Nat.lt_of_not_le hend)
    have hread : Nesting.length? regions 0 (closer :: outer) (c :: rest) =
        (Nesting.token? regions (closer :: outer) c rest).bind fun token =>
          (Nesting.length? regions token.1 token.2 rest).map (· + 1) := by
      simp only [Nesting.length?, Nesting.settle_of_closable hnesting]
      cases Nesting.token? regions (closer :: outer) c rest <;> rfl
    rw [hdrop, hread]
    rcases advance_moves h hnesting hdrop with
      ⟨hadvance, htoken⟩ | ⟨n, nesting', hadvance, htoken, hle, hnesting', hdrop'⟩
    · left
      rw [hadvance, htoken]
      rfl
    · right
      refine ⟨nesting', _, by rw [hadvance]; rfl, by omega, by omega, hnesting', ?_⟩
      rw [expectedRegion, htoken, hdrop', Option.bind_some, length?_skip hle, Option.map_map, Option.map_map]
      refine Option.map_congr fun m _ => ?_
      simp only [Function.comp_apply]
      omega

/-- **The open regions end where they end character by character.** -/
theorem regionEnd_eq {regions : List Delimiters} (h : WellFormed regions) (text : Text) {nesting : Nesting}
    (hnesting : Nesting.Closable nesting) (position : Nat) : regionEnd regions text nesting position =
      .ok ((Nesting.length? regions 0 nesting (text.drop position)).map (position + ·)) :=
  iterate_eq (regionRound_keeps h text) hnesting

/-! ## The end of a tag -/

/-- goes on by one token while the tag is not at its end; a bracket inside a region is noted -/
def tagRound (regions : List Delimiters) (text : Text) (state : Nesting × Bool) (position : Nat) :
    Except Fault (Round (Nesting × Bool) (Option (Nat × Bool))) :=
  if text.length ≤ position then .ok (.done none)
  else do
    let c ← charAt text position
    if state.1.isEmpty && c == '>' then .ok (.done (some (position, state.2)))
    else if state.1.isEmpty && c == '<' && (openerAt? regions text position).isNone then .ok (.done none)
    else do
      match ← advance regions text state.1 position with
      | none => .ok (.done none)
      | some (position', nesting') => .ok (.next (nesting', state.2 || (c == '>' && !state.1.isEmpty)) position')

/-- the position of the bracket that ends the tag whose name ends at a position, if there is one, and whether a bracket
stands inside a region before it -/
def tagEnd (regions : List Delimiters) (text : Text) (position : Nat) : Except Fault (Option (Nat × Bool)) :=
  iterate text.length (tagRound regions text) ([], false) position

theorem bodyFrom?_skip {regions : List Delimiters} {nesting : Nesting} {skip : Nat} {text : Text}
    (h : skip ≤ text.length) : Nesting.bodyFrom? regions skip nesting text =
      (Nesting.bodyFrom? regions 0 nesting (text.drop skip)).map fun body =>
        { body with attributes := text.take skip ++ body.attributes } := by
  induction text generalizing skip with
  | nil =>
    obtain rfl : skip = 0 := by simpa using h
    rfl
  | cons c rest ih =>
    cases skip with
    | zero => simp
    | succ skip =>
      rw [Nesting.bodyFrom?, ih (Nat.le_of_succ_le_succ h), List.drop_succ_cons, Option.map_map]
      rfl

/-- the end of the tag that goes on at a position, character by character -/
def expectedEnd (regions : List Delimiters) (text : Text) (state : Nesting × Bool) (position : Nat) :
    Option (Nat × Bool) :=
  (Nesting.bodyFrom? regions 0 state.1 (text.drop position)).map fun body =>
    (position + body.attributes.length, state.2 || body.nestedGt)

/-- one round is at the end of the tag, sees that it has none, or reads one token -/
theorem tagRound_keeps {regions : List Delimiters} (h : WellFormed regions) (text : Text) (state : Nesting × Bool)
    (position : Nat) (hnesting : Nesting.Closable state.1) :
    Keeps text.length (tagRound regions text) (fun state _ => Nesting.Closable state.1) (expectedEnd regions text)
      state position := by
  obtain ⟨nesting, gt⟩ := state
  unfold Keeps
  rw [tagRound, expectedEnd]
  split_ifs with hend
  · left
    rw [List.drop_eq_nil_of_le hend]
    rfl
  obtain ⟨c, rest, hdrop, -⟩ := exists_drop (Nat.lt_of_not_le hend)
  rw [charAt_of_drop hdrop, ok_bind, hdrop, Nesting.bodyFrom?, openerAt?_eq h, hdrop, Option.isNone_map]
  simp only [Nesting.settle_of_closable hnesting]
  by_cases hgt : (nesting.isEmpty && c == '>') = true
  · left
    rw [if_pos hgt, if_pos hgt]
    have hempty : nesting.isEmpty = true := (Bool.and_eq_true_iff.1 hgt).1
    simp [hempty]
  rw [if_neg hgt, if_neg hgt]
  by_cases hlt : (nesting.isEmpty && c == '<' && (Nesting.opening? regions (c :: rest)).isNone) = true
  · left
    rw [if_pos hlt, if_pos hlt]
    rfl
  rw [if_neg hlt, if_neg hlt]
  rcases advance_moves h hnesting hdrop with
    ⟨hadvance, htoken⟩ | ⟨n, nesting', hadvance, htoken, hle, hnesting', hdrop'⟩
  · left
    rw [hadvance, htoken]
    rfl
  · right
    refine ⟨(nesting', gt || (c == '>' && !nesting.isEmpty)), _, by rw [hadvance]; rfl, by omega, by omega, hnesting',
      ?_⟩
    simp only [expectedEnd, htoken, hdrop', bodyFrom?_skip hle, Option.map_map]
    refine Option.map_congr fun body _ => ?_
    simp only [Function.comp_apply, Nesting.Body.push, Prod.mk.injEq, List.length_cons, List.length_append,
      List.length_take, Bool.or_assoc, and_true]
    omega

/-- **A tag ends where it ends character by character.** -/
theorem tagEnd_eq {regions : List Delimiters} (h : WellFormed regions) (text : Text) (position : Nat) :
    tagEnd regions text position = .ok ((Nesting.body? regions (text.drop position)).map fun body =>
      (position + body.attributes.length, body.nestedGt)) := by
  have hempty : Nesting.Closable [] := by simp [Nesting.Closable]
  rw [tagEnd, iterate_eq (tagRound_keeps h text) hempty, expectedEnd]
  simp only [Bool.false_or]
  rfl

end SourceMark.Checked
