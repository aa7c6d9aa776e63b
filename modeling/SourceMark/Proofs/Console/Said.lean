/-
What a markup says. Escaped text says what it was made from, whatever tags it seems to hold, with two exceptions: a
backslash in front of a bracket that begins no tag is not said, and backslashes at the end run into what follows the text.
A single backslash at the end is written twice, which is right in front of a tag and too much at the end of the markup.

Results:
- `body_escape`: what an escaped text says, with anything behind it.
- `withoutSlashes_eq_iff`: which texts have no backslash in front of a bracket that begins no tag.
- `unbounded_display`: a console with room shows what is said as it is, but for colons, tabs and controls.
-/
import SourceMark.Console.Screen
import SourceMark.Proofs.Console.Escaped
import SourceMark.Proofs.Text.Pieces

namespace SourceMark.Markup

def body (markup : Text) : Text :=
  (said markup).flatten

/-! ## Pieces -/

theorem text_plain_slash (text : Text) :
    (Chunk.plain ('\\' :: '[' :: text)).text = (Chunk.plain ('[' :: text)).text := by
  simp [Chunk.text, Text.replaceAll, Text.replaceFrom]

theorem text_plain_cons {c : Char} {text : Text} (h : ¬(c = '\\' ∧ text.head? = some '[')) :
    (Chunk.plain (c :: text)).text = c :: (Chunk.plain text).text := by
  have hprefix : "\\[".toList.isPrefixOf (c :: text) = false := by
    rw [Bool.eq_false_iff]
    intro hprefix
    obtain ⟨rest, hrest⟩ := List.isPrefixOf_iff_prefix.1 hprefix
    obtain ⟨rfl, rfl⟩ := List.cons.inj hrest
    exact h ⟨rfl, rfl⟩
  have hreplace : Text.replaceFrom "\\[".toList "[".toList 0 (c :: text) =
      c :: Text.replaceFrom "\\[".toList "[".toList 0 text := by
    rw [Text.replaceFrom, hprefix]
    rfl
  exact hreplace

theorem head?_of_chunks {markup text : Text} {rest : List Chunk} (h : chunks markup = .plain text :: rest) :
    text.head? = markup.head? := by
  cases markup with
  | nil => exact absurd h.symm (List.cons_ne_nil _ _)
  | cons c markup =>
    cases hslashed : slashedTag? (c :: markup) with
    | some slashed =>
      rw [chunks, chunksFrom, hslashed] at h
      cases (List.cons.inj h).1
    | none =>
      rw [chunks_cons hslashed] at h
      cases hchunks : chunks markup with
      | nil =>
        rw [hchunks] at h
        rw [← Chunk.plain.inj (List.cons.inj h).1]
        rfl
      | cons chunk chunks =>
        rw [hchunks] at h
        cases chunk <;>
        · rw [← Chunk.plain.inj (List.cons.inj h).1]
          rfl

/-- where no tag stands, a character says itself, unless it is a backslash in front of a bracket -/
theorem body_cons {c : Char} {rest : Text} (h : slashedTag? (c :: rest) = none)
    (hc : ¬(c = '\\' ∧ rest.head? = some '[')) : body (c :: rest) = c :: body rest := by
  have halone : (Chunk.plain [c]).text = [c] := text_plain_cons (by simp)
  rw [body, said, chunks_cons h, body, said]
  cases hchunks : chunks rest with
  | nil => exact congrArg (· ++ []) halone
  | cons chunk more =>
    cases chunk with
    | plain text =>
      rw [← head?_of_chunks hchunks] at hc
      exact congrArg (· ++ (more.map Chunk.text).flatten) (text_plain_cons hc)
    | escaped text => exact congrArg (· ++ ((Chunk.escaped text :: more).map Chunk.text).flatten) halone
    | tag tag => exact congrArg (· ++ ((Chunk.tag tag :: more).map Chunk.text).flatten) halone

/-- a backslash in front of a bracket that begins no tag says nothing -/
theorem body_slash {rest : Text} (h : tag? ('[' :: rest) = none) : body ('\\' :: '[' :: rest) = body ('[' :: rest) := by
  have hbracket : slashedTag? ('[' :: rest) = none := slashedTag?_eq_none (by decide) h 0
  have hslash : slashedTag? ('\\' :: '[' :: rest) = none := slashedTag?_eq_none (by decide) h 1
  obtain ⟨text, more, hchunks⟩ : ∃ text more, chunks ('[' :: rest) = .plain ('[' :: text) :: more := by
    rw [chunks_cons hbracket]
    cases chunks rest with
    | nil => exact ⟨_, _, rfl⟩
    | cons chunk more => cases chunk <;> exact ⟨_, _, rfl⟩
  rw [body, said, chunks_cons hslash, body, said, hchunks]
  exact congrArg (· ++ (more.map Chunk.text).flatten) (text_plain_slash text)

/-- characters that neither make a tag nor change one behind them say themselves -/
theorem body_append {front : Text} (h : ∀ c ∈ front, c ≠ '[' ∧ c ≠ '\\') (rest : Text) :
    body (front ++ rest) = front ++ body rest := by
  induction front with
  | nil => rfl
  | cons c front ih =>
    obtain ⟨hbracket, hslash⟩ := h c List.mem_cons_self
    have hnone : slashedTag? (c :: (front ++ rest)) = none := 
      slashedTag?_eq_none hslash (tag?_of_ne hbracket _) 0
    rw [List.cons_append, body_cons hnone (fun hhead => hslash hhead.1),
      ih fun d hd => h d (List.mem_cons_of_mem c hd)]
    rfl

theorem head?_replicate_ne (n : Nat) : (List.replicate n '\\').head? ≠ some '[' := by
  intro hhead
  exact absurd (List.eq_of_mem_replicate (List.mem_of_head? hhead)) (by decide)

/-- behind backslashes a bracket comes first only if there are none of them -/
theorem eq_of_head?_slashes {n : Nat} {d : Char} {rest : Text}
    (h : (List.replicate n '\\' ++ d :: rest).head? = some '[') : n = 0 ∧ d = '[' := by
  cases n with
  | zero => exact ⟨rfl, Option.some.inj h⟩
  | succ n => exact absurd (Option.some.inj h) (by decide)

theorem body_replicate (n : Nat) : body (List.replicate n '\\') = List.replicate n '\\' := by
  induction n with
  | zero => rfl
  | succ n ih =>
    have hnone : slashedTag? ('\\' :: List.replicate n '\\') = none := by
      rw [← List.replicate_succ]
      simp [slashedTag?, tag?]
    rw [List.replicate_succ, body_cons hnone (fun h => head?_replicate_ne n h.2), ih]

/-- a tag behind backslashes: every second one is said, and the tag too if one is left over -/
theorem body_tag {tag : Text} (h : IsTag tag) (n : Nat) (rest : Text) :
    body (List.replicate n '\\' ++ '[' :: (tag ++ ']' :: rest)) =
      List.replicate (n / 2) '\\' ++ ((if n % 2 = 1 then '[' :: tag ++ [']'] else []) ++ body rest) := by
  rw [body, said, chunks_tag h]
  by_cases hodd : n % 2 = 1
  · rw [if_pos hodd, if_pos hodd]
    rfl
  · rw [if_neg hodd, if_neg hodd]
    rfl

/-! ## Backslashes in front of brackets -/

/-- the backslashes that are said in front of a character that begins no tag -/
def slashesBefore (n : Nat) (c : Char) : Text :=
  List.replicate (if c = '[' then n - 1 else n) '\\'

theorem slashesBefore_zero (c : Char) : slashesBefore 0 c = [] := by
  rw [slashesBefore, Nat.zero_sub, ite_self, List.replicate_zero]

theorem slashesBefore_succ {n : Nat} {c : Char} (h : ¬(n = 0 ∧ c = '[')) :
    slashesBefore (n + 1) c = '\\' :: slashesBefore n c := by
  rw [slashesBefore, slashesBefore, ← List.replicate_succ]
  congr 1
  by_cases hc : c = '['
  · have hn : n ≠ 0 := fun hn => h ⟨hn, hc⟩
    rw [if_pos hc, if_pos hc]
    omega
  · rw [if_neg hc, if_neg hc]

theorem body_slashes {d : Char} (hd : d ≠ '\\') {rest : Text} (h : tag? (d :: rest) = none) (n : Nat) :
    body (List.replicate n '\\' ++ d :: rest) = slashesBefore n d ++ d :: body rest := by
  induction n with
  | zero =>
    rw [slashesBefore_zero]
    exact body_cons (slashedTag?_eq_none hd h 0) fun hslash => hd hslash.1
  | succ n ih =>
    have hnone := slashedTag?_eq_none hd h (n + 1)
    rw [List.replicate_succ, List.cons_append] at hnone ⊢
    by_cases hlast : n = 0 ∧ d = '['
    · obtain ⟨rfl, rfl⟩ := hlast
      exact (body_slash h).trans ih
    · rw [body_cons hnone (fun h => hlast (eq_of_head?_slashes h.2)), ih, slashesBefore_succ hlast]
      rfl

/-- a text without the backslashes in front of brackets that begin no tag -/
def withoutSlashes : Text → Text
  | [] => []
  | c :: rest =>
    if c = '\\' ∧ rest.head? = some '[' ∧ tag? rest = none then withoutSlashes rest else c :: withoutSlashes rest

theorem withoutSlashes_cons {c : Char} (hc : c ≠ '\\') (rest : Text) :
    withoutSlashes (c :: rest) = c :: withoutSlashes rest :=
  if_neg fun h => hc h.1

theorem withoutSlashes_append {front : Text} (h : ∀ c ∈ front, isBracket c = false) {d : Char}
    (hd : d ≠ '[') (rest : Text) : withoutSlashes (front ++ d :: rest) = front ++ withoutSlashes (d :: rest) := by
  induction front with
  | nil => rfl
  | cons c front ih =>
    have hhead : ¬(c = '\\' ∧ (front ++ d :: rest).head? = some '[' ∧ tag? (front ++ d :: rest) = none) := by
      rintro ⟨-, hhead, -⟩
      cases front with
      | nil => exact hd (Option.some.inj hhead)
      | cons e front =>
        have he := h e (by simp)
        rw [Option.some.inj hhead] at he
        exact absurd he (by decide)
    rw [List.cons_append, withoutSlashes, if_neg hhead, ih fun e he => h e (List.mem_cons_of_mem c he)]
    rfl

theorem withoutSlashes_slashes {d : Char} (hd : d ≠ '\\') {rest : Text} (h : tag? (d :: rest) = none) (n : Nat) :
    withoutSlashes (List.replicate n '\\' ++ d :: rest) = slashesBefore n d ++ d :: withoutSlashes rest := by
  induction n with
  | zero =>
    rw [slashesBefore_zero]
    exact withoutSlashes_cons hd rest
  | succ n ih =>
    rw [List.replicate_succ, List.cons_append, withoutSlashes]
    by_cases hlast : n = 0 ∧ d = '['
    · obtain ⟨rfl, rfl⟩ := hlast
      rw [if_pos ⟨rfl, rfl, h⟩, ih]
      rfl
    · rw [if_neg (fun h => hlast (eq_of_head?_slashes h.2.1)), ih, slashesBefore_succ hlast]
      rfl

theorem withoutSlashes_tag {tag : Text} (h : IsTag tag) (n : Nat) (rest : Text) :
    withoutSlashes (List.replicate n '\\' ++ '[' :: (tag ++ ']' :: rest)) =
      List.replicate n '\\' ++ '[' :: (tag ++ ']' :: withoutSlashes rest) := by
  have hbrackets : ∀ c ∈ tag, isBracket c = false := by
    obtain ⟨c, more, rfl, hc, hmore⟩ := h
    intro d hd
    rcases List.mem_cons.1 hd with rfl | hd
    · exact isBracket_of_isTagHead hc
    · exact hmore d hd
  induction n with
  | zero =>
    have hclosing : withoutSlashes (']' :: rest) = ']' :: withoutSlashes rest := withoutSlashes_cons (by decide) rest
    have htag : withoutSlashes (tag ++ ']' :: rest) = tag ++ ']' :: withoutSlashes rest := by
      rw [withoutSlashes_append hbrackets (by decide), hclosing]
    rw [List.replicate_zero, List.nil_append, List.nil_append, withoutSlashes_cons (by decide), htag]
  | succ n ih =>
    have hhead : ¬('\\' = '\\' ∧ (List.replicate n '\\' ++ '[' :: (tag ++ ']' :: rest)).head? = some '[' ∧
        tag? (List.replicate n '\\' ++ '[' :: (tag ++ ']' :: rest)) = none) := by
      rintro ⟨-, hhead, hnone⟩
      obtain ⟨rfl, -⟩ := eq_of_head?_slashes hhead
      rw [List.replicate_zero, List.nil_append, tag?_of_isTag h] at hnone
      exact absurd hnone nofun
    rw [List.replicate_succ, List.cons_append, withoutSlashes, if_neg hhead, ih]
    rfl

/-! ## Backslashes at the end -/

/-- how many backslashes a text ends with -/
def slashesAtEnd (text : Text) : Nat :=
  (text.reverse.takeWhile (· == '\\')).length

def beforeSlashes (text : Text) : Text :=
  Text.dropEnd (· == '\\') text

theorem beforeSlashes_append (text : Text) :
    beforeSlashes text ++ List.replicate (slashesAtEnd text) '\\' = text := by
  have hrun : List.replicate (slashesAtEnd text) '\\' = (text.reverse.takeWhile (· == '\\')).reverse := by
    refine (List.eq_replicate_iff.2 ⟨List.length_reverse, fun c hc => ?_⟩).symm
    simpa using List.all_eq_true.1 List.all_takeWhile c (List.mem_reverse.1 hc)
  rw [hrun, beforeSlashes, Text.dropEnd, ← List.reverse_append, List.takeWhile_append_dropWhile, List.reverse_reverse]

theorem getLast?_beforeSlashes (text : Text) : (beforeSlashes text).getLast? ≠ some '\\' := by
  rw [beforeSlashes, Text.dropEnd, List.getLast?_reverse]
  intro hhead
  have hdrop := List.head?_dropWhile_not (p := (· == '\\')) text.reverse
  rw [hhead] at hdrop
  simp at hdrop

theorem tag?_append_slashes (d : Char) (more : Text) (n : Nat) :
    tag? (d :: (more ++ List.replicate n '\\')) = tag? (d :: more) := by
  cases htag : tag? (d :: more) with
  | some tag =>
    obtain ⟨behind, hbehind, hisTag⟩ := tag?_eq_some htag
    obtain ⟨rfl, rfl⟩ := List.cons.inj hbehind
    rw [List.append_assoc, List.cons_append, tag?_of_isTag hisTag]
  | none =>
    cases htag' : tag? (d :: (more ++ List.replicate n '\\')) with
    | none => rfl
    | some tag =>
      obtain ⟨behind, hbehind, hisTag⟩ := tag?_eq_some htag'
      obtain ⟨rfl, hmore⟩ := List.cons.inj hbehind
      -- the closing bracket is no backslash, so it stands in the text
      have hclosing : ']' ∉ List.replicate n '\\' := fun hmem => absurd (List.eq_of_mem_replicate hmem) (by decide)
      rcases List.append_eq_append_iff.1 hmore with ⟨cut, -, hcut⟩ | ⟨cut, hcut, hend⟩
      · exact absurd (by simp [hcut]) hclosing
      · cases cut with
        | nil =>
          rw [List.nil_append] at hend
          exact absurd (hend ▸ List.mem_cons_self) hclosing
        | cons c cut =>
          obtain ⟨rfl, -⟩ := List.cons.inj hend
          rw [hcut, tag?_of_isTag hisTag] at htag
          exact absurd htag nofun

theorem withoutSlashes_replicate (n : Nat) : withoutSlashes (List.replicate n '\\') = List.replicate n '\\' := by
  induction n with
  | zero => rfl
  | succ n ih => rw [List.replicate_succ, withoutSlashes, if_neg (fun h => head?_replicate_ne n h.2.1), ih]

theorem withoutSlashes_append_slashes (text : Text) (n : Nat) :
    withoutSlashes (text ++ List.replicate n '\\') = withoutSlashes text ++ List.replicate n '\\' := by
  induction text with
  | nil => exact withoutSlashes_replicate n
  | cons c text ih =>
    have hbehind : (text ++ List.replicate n '\\').head? = some '[' ∧ tag? (text ++ List.replicate n '\\') = none ↔
        text.head? = some '[' ∧ tag? text = none := by
      cases text with
      | nil => exact iff_of_false (fun h => head?_replicate_ne n h.1) (fun h => absurd h.1 nofun)
      | cons d text => exact and_congr_right fun _ => by rw [List.cons_append, tag?_append_slashes]
    rw [List.cons_append, withoutSlashes, withoutSlashes, ih]
    simp only [hbehind]
    split_ifs <;> rfl

theorem escapeFrom_append_slashes (text : Text) (n : Nat) :
    escapeFrom 0 (text ++ List.replicate n '\\') = escapeFrom 0 text ++ List.replicate n '\\' := by
  induction hlength : text.length using Nat.strongRecOn generalizing text with
  | ind length ih =>
    rcases eq_slashes_or text with ⟨k, rfl⟩ | ⟨k, d, more, hd, rfl⟩
    · rw [List.replicate_append_replicate, escapeFrom_replicate, escapeFrom_replicate,
        List.replicate_append_replicate]
    · rw [List.length_append, List.length_cons, List.length_replicate] at hlength
      rw [List.append_assoc, List.cons_append]
      cases htag : tag? (d :: more) with
      | some tag =>
        obtain ⟨behind, hbehind, hisTag⟩ := tag?_eq_some htag
        obtain ⟨rfl, rfl⟩ := List.cons.inj hbehind
        rw [List.length_append, List.length_cons] at hlength
        rw [List.append_assoc, List.cons_append, escapeFrom_tag hisTag, escapeFrom_tag hisTag,
          ih behind.length (by omega) behind rfl]
        simp only [List.append_assoc, List.cons_append]
      | none =>
        have htag' : tag? (d :: (more ++ List.replicate n '\\')) = none := by
          rw [tag?_append_slashes, htag]
        rw [escapeFrom_slashes hd htag', escapeFrom_slashes hd htag, ih more.length (by omega) more rfl]
        simp only [List.append_assoc, List.cons_append]

/-! ## Escaped texts -/

/-- **What an escaped text says** up to the backslashes at its end. -/
theorem body_escapeFrom {text : Text} (h : text.getLast? ≠ some '\\') {rest : Text}
    (hrest : rest.find? isBracket ≠ some ']') :
    body (escapeFrom 0 text ++ rest) = withoutSlashes text ++ body rest := by
  -- on the length: a tag is escaped as a whole, and escaping goes on behind it
  induction hlength : text.length using Nat.strongRecOn generalizing text with
  | ind length ih =>
    rcases eq_slashes_or text with ⟨k, rfl⟩ | ⟨k, d, more, hd, rfl⟩
    · cases k with
      | zero => rfl
      | succ k => exact absurd (by rw [List.replicate_succ', List.getLast?_concat]) h
    · rw [List.length_append, List.length_cons, List.length_replicate] at hlength
      cases htag : tag? (d :: more) with
      | some tag =>
        obtain ⟨behind, hbehind, hisTag⟩ := tag?_eq_some htag
        obtain ⟨rfl, rfl⟩ := List.cons.inj hbehind
        rw [List.length_append, List.length_cons] at hlength
        have hlast : behind.getLast? ≠ some '\\' :=
          fun hlast => h (by simp [List.getLast?_append, List.getLast?_cons, hlast])
        rw [escapeFrom_tag hisTag, List.append_assoc, List.cons_append, List.append_assoc, List.cons_append,
          body_tag hisTag, ih behind.length (by omega) hlast rfl, withoutSlashes_tag hisTag, if_pos (by omega),
          show (2 * k + 1) / 2 = k by omega]
        simp only [List.append_assoc, List.cons_append, List.nil_append]
      | none =>
        have hlast : more.getLast? ≠ some '\\' :=
          fun hlast => h (by simp [List.getLast?_append, List.getLast?_cons, hlast])
        rw [escapeFrom_slashes hd htag, List.append_assoc, List.cons_append,
          body_slashes hd (tag?_escapeFrom hrest htag), ih more.length (by omega) hlast rfl,
          withoutSlashes_slashes hd htag]
        simp only [List.append_assoc, List.cons_append]

theorem getLast?_escapeFrom (skip : Nat) (text : Text) : (escapeFrom skip text).getLast? = text.getLast? := by
  induction text generalizing skip with
  | nil => cases skip <;> rfl
  | cons c text ih =>
    have hcons (skip : Nat) : (c :: escapeFrom skip text).getLast? = (c :: text).getLast? := by
      rw [List.getLast?_cons, List.getLast?_cons, ih]
    cases skip with
    | succ skip => exact hcons skip
    | zero =>
      rw [escapeFrom]
      split
      · rw [List.getLast?_append, hcons, List.getLast?_cons]
        rfl
      · exact hcons 0

/-- how many backslashes are written for those at the end of a text: two for a single one -/
def slashesWritten (text : Text) : Nat :=
  if slashesAtEnd text = 1 then 2 else slashesAtEnd text

theorem endsWith_slashes {text : Text} (h : text.getLast? ≠ some '\\') (n : Nat) :
    Text.endsWith ['\\'] (text ++ List.replicate n '\\') = decide (1 ≤ n) ∧
      Text.endsWith ['\\', '\\'] (text ++ List.replicate n '\\') = decide (2 ≤ n) := by
  rw [List.getLast?_eq_head?_reverse] at h
  simp only [Text.endsWith, List.reverse_append, List.reverse_replicate]
  cases hreverse : text.reverse with
  | nil =>
    rcases n with - | - | n <;> simp [List.replicate_succ]
  | cons c front =>
    rw [hreverse] at h
    have hc : '\\' ≠ c := fun hc => h (congrArg some hc.symm)
    have hnone (tail : Text) : ('\\' :: tail).isPrefixOf (c :: front) = false := by
      simp [List.isPrefixOf, hc]
    rcases n with - | - | n <;> simp [List.replicate_succ, hnone]

theorem escape_eq (text : Text) :
    escape text = escapeFrom 0 (beforeSlashes text) ++ List.replicate (slashesWritten text) '\\' := by
  have hescaped : escapeFrom 0 text =
      escapeFrom 0 (beforeSlashes text) ++ List.replicate (slashesAtEnd text) '\\' := by
    rw [← escapeFrom_append_slashes, beforeSlashes_append]
  have hlast : (escapeFrom 0 (beforeSlashes text)).getLast? ≠ some '\\' := by
    rw [getLast?_escapeFrom]
    exact getLast?_beforeSlashes text
  obtain ⟨hone, htwo⟩ := endsWith_slashes hlast (slashesAtEnd text)
  simp only [escape, hescaped, hone, htwo, slashesWritten, Bool.and_eq_true, Bool.not_eq_true', decide_eq_true_eq,
    decide_eq_false_iff_not]
  by_cases hsingle : slashesAtEnd text = 1
  · rw [if_pos (by omega), if_pos hsingle, hsingle, List.append_assoc]
    rfl
  · rw [if_neg (by omega), if_neg hsingle]

/-- **What an escaped text says**, with anything behind it that does not come to a closing bracket first. -/
theorem body_escape (text : Text) {rest : Text} (hrest : rest.find? isBracket ≠ some ']') :
    body (escape text ++ rest) =
      withoutSlashes (beforeSlashes text) ++ body (List.replicate (slashesWritten text) '\\' ++ rest) := by
  have hnext : (List.replicate (slashesWritten text) '\\' ++ rest).find? isBracket ≠ some ']' := by
    rw [List.find?_append, List.find?_eq_none.2, Option.none_or]
    · exact hrest
    · intro c hc
      rw [List.eq_of_mem_replicate hc]
      decide
  rw [escape_eq, List.append_assoc, body_escapeFrom (getLast?_beforeSlashes text) hnext]

theorem body_escape_nil (text : Text) : body (escape text) =
    withoutSlashes (beforeSlashes text) ++ List.replicate (slashesWritten text) '\\' := by
  have hend : ([] : Text).find? isBracket ≠ some ']' := by decide
  have hescape := body_escape text hend
  rwa [List.append_nil, List.append_nil, body_replicate] at hescape

theorem body_escape_tag (text : Text) {tag : Text} (h : IsTag tag) (rest : Text) :
    body (escape text ++ '[' :: (tag ++ ']' :: rest)) = withoutSlashes (beforeSlashes text) ++
      (List.replicate (slashesWritten text / 2) '\\' ++
        ((if slashesWritten text % 2 = 1 then '[' :: tag ++ [']'] else []) ++ body rest)) := by
  have hopening : ('[' :: (tag ++ ']' :: rest)).find? isBracket ≠ some ']' := by
    rw [List.find?_cons_of_pos rfl]
    decide
  rw [body_escape text hopening, body_tag h]

/-! ## Texts that are said as they stand -/

theorem length_withoutSlashes_le (text : Text) : (withoutSlashes text).length ≤ text.length := by
  induction text with
  | nil => exact Nat.le_refl 0
  | cons c text ih =>
    rw [withoutSlashes]
    split_ifs
    · exact Nat.le_succ_of_le ih
    · exact Nat.succ_le_succ ih

theorem withoutSlashes_eq_iff {text : Text} : withoutSlashes text = text ↔
    ∀ front rest, text = front ++ '\\' :: '[' :: rest → tag? ('[' :: rest) ≠ none := by
  induction text with
  | nil => exact iff_of_true rfl fun front rest h => absurd h (by simp)
  | cons c text ih =>
    rw [withoutSlashes]
    by_cases hhead : c = '\\' ∧ text.head? = some '[' ∧ tag? text = none
    · rw [if_pos hhead]
      refine iff_of_false (fun h => ?_) (fun h => ?_)
      · have hlength := length_withoutSlashes_le text
        rw [h, List.length_cons] at hlength
        omega
      · obtain ⟨rfl, hbracket, hnone⟩ := hhead
        obtain ⟨rest, rfl⟩ := List.head?_eq_some_iff.1 hbracket
        exact h [] rest rfl hnone
    · rw [if_neg hhead, List.cons.injEq, and_iff_right rfl, ih]
      constructor
      · intro h front rest hsplit hnone
        cases front with
        | nil =>
          obtain ⟨rfl, rfl⟩ := List.cons.inj hsplit
          exact hhead ⟨rfl, rfl, hnone⟩
        | cons d front => exact h front rest (List.cons.inj hsplit).2 hnone
      · intro h front rest hsplit
        exact h (c :: front) rest (congrArg (c :: ·) hsplit)

theorem getLast?_withoutSlashes (text : Text) : (withoutSlashes text).getLast? = text.getLast? := by
  induction text with
  | nil => rfl
  | cons c text ih =>
    rw [withoutSlashes]
    split_ifs with hhead
    · obtain ⟨-, hbracket, -⟩ := hhead
      obtain ⟨rest, rfl⟩ := List.head?_eq_some_iff.1 hbracket
      rw [ih, List.getLast?_cons_cons]
    · rw [List.getLast?_cons, List.getLast?_cons, ih]

theorem slashesAtEnd_append {text : Text} (h : text.getLast? ≠ some '\\') (n : Nat) :
    slashesAtEnd (text ++ List.replicate n '\\') = n := by
  rw [List.getLast?_eq_head?_reverse] at h
  have hnone : text.reverse.takeWhile (· == '\\') = [] := by
    cases hreverse : text.reverse with
    | nil => rfl
    | cons c front =>
      rw [hreverse] at h
      exact List.takeWhile_cons_of_neg (by simpa using fun hc => h (congrArg some hc))
  rw [slashesAtEnd, List.reverse_append, List.reverse_replicate, List.takeWhile_append_of_pos (by simp), hnone,
    List.append_nil, List.length_replicate]

/-- backslashes at the end are said as they stand when there are as many as before -/
theorem withoutSlashes_append_eq_iff {text : Text} {n : Nat} :
    withoutSlashes (beforeSlashes text) ++ List.replicate n '\\' = text ↔
      withoutSlashes text = text ∧ n = slashesAtEnd text := by
  have hlast := getLast?_beforeSlashes text
  have hlast' : (withoutSlashes (beforeSlashes text)).getLast? ≠ some '\\' := by
    rwa [getLast?_withoutSlashes]
  have htext : withoutSlashes text =
      withoutSlashes (beforeSlashes text) ++ List.replicate (slashesAtEnd text) '\\' := by
    rw [← withoutSlashes_append_slashes, beforeSlashes_append]
  constructor
  · intro h
    have hn : n = slashesAtEnd text := by
      rw [← slashesAtEnd_append hlast' n, h]
    refine ⟨?_, hn⟩
    rwa [htext, ← hn]
  · rintro ⟨h, rfl⟩
    rwa [← htext]

end SourceMark.Markup

/-! ## Consoles that show text as it is -/

namespace SourceMark.Console

/-- a console that shows pieces of text one behind the other and each as it is -/
def PrintsText (console : Console) : Prop :=
  ∀ pieces, console.display pieces = pieces.flatten

theorem print_of_printsText {console : Console} (h : console.PrintsText) (markup : Text) :
    console.print markup = Markup.body markup ++ ['\n'] :=
  congrArg (· ++ ['\n']) (h (Markup.said markup))

theorem replace_of_notMem {text : Text} (h : ':' ∉ text) : Emoji.replace text = text := by
  rw [Emoji.replace]
  induction text with
  | nil => rfl
  | cons c text ih =>
    rw [List.mem_cons, not_or] at h
    rw [Emoji.replaceFrom, if_neg (Ne.symm h.1), ih h.2]

theorem expandTabsFrom_of_notMem {text : Text} (h : '\t' ∉ text) (column : Nat) :
    Text.expandTabsFrom column text = text := by
  induction text generalizing column with
  | nil => rfl
  | cons c text ih =>
    rw [List.mem_cons, not_or] at h
    rw [Text.expandTabsFrom, if_neg (Ne.symm h.1), ih h.2]

/-- **A console with room shows text as it is** when there are no colons, tabs and hidden controls in it. -/
theorem unbounded_display {pieces : List Text}
    (h : ∀ c ∈ pieces.flatten, c ≠ ':' ∧ c ≠ '\t' ∧ isHiddenControl c = false) :
    unbounded.display pieces = pieces.flatten := by
  have hreplace : pieces.flatMap Emoji.replace = pieces.flatten := by
    rw [List.flatMap_def, List.map_congr_left (g := id), List.map_id]
    intro piece hpiece
    exact replace_of_notMem fun hcolon => (h ':' (List.mem_flatten.2 ⟨piece, hpiece, hcolon⟩)).1 rfl
  have hfilter : pieces.flatten.filter (fun c => !isHiddenControl c) = pieces.flatten :=
    List.filter_eq_self.2 fun c hc => by rw [(h c hc).2.2]; rfl
  have htabs : (Text.splitOn '\n' pieces.flatten).map Text.expandTabs = Text.splitOn '\n' pieces.flatten := by
    rw [List.map_congr_left (g := id), List.map_id]
    intro line hline
    refine expandTabsFrom_of_notMem (fun htab => ?_) 0
    exact (h '\t' ((Text.mem_iff_exists_splitOn (by decide)).2 ⟨line, hline, htab⟩)).2.1 rfl
  calc unbounded.display pieces
      = Text.join ['\n'] ((Text.splitOn '\n' ((pieces.flatMap Emoji.replace).filter fun c =>
          !isHiddenControl c)).map Text.expandTabs) := rfl
    _ = Text.join ['\n'] (Text.splitOn '\n' pieces.flatten) := by rw [hreplace, hfilter, htabs]
    _ = pieces.flatten := Text.join_splitOn '\n' pieces.flatten

end SourceMark.Console
