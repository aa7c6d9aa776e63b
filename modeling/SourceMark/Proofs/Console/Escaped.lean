/-
Escaped text in markup. Escaping puts backslashes before everything that could be read as a tag, one more than stand
there already, so that what is read of it is text; only the backslashes at its end reach into what follows. This holds
wherever the text stands, as long as what follows does not come to a closing bracket first, which could end a tag that
the text only begins.

Results:
- `tags_escape`: the tags of a markup that starts with an escaped text are those behind it.
-/
import Mathlib.Tactic.SplitIfs
import SourceMark.Console.Markup

namespace SourceMark.Markup

/-! ## Tags -/

def isBracket (c : Char) : Bool :=
  c == '[' || c == ']'

/-- what may stand between the brackets of a tag -/
def IsTag (tag : Text) : Prop :=
  ∃ c more, tag = c :: more ∧ isTagHead c = true ∧ ∀ d ∈ more, isBracket d = false

theorem isBracket_of_isTagHead {c : Char} (h : isTagHead c = true) : isBracket c = false := by
  rw [isBracket, Bool.or_eq_false_iff, beq_eq_false_iff_ne, beq_eq_false_iff_ne]
  constructor <;>
  · rintro rfl
    exact absurd h (by decide)

theorem tag?_of_ne {c : Char} (h : c ≠ '[') (rest : Text) : tag? (c :: rest) = none := by
  unfold tag?
  split
  · next heq => exact absurd (List.cons.inj heq).1 h
  · rfl

/-- a tag stands at a bracket when the next character may start one and the next bracket is a closing one -/
theorem tag?_bracket (c : Char) (rest : Text) : tag? ('[' :: c :: rest) =
    if isTagHead c = true ∧ rest.find? isBracket = some ']' then some (c :: rest.takeWhile fun d => !isBracket d)
    else none := by
  have hplain : (fun d => d != '[' && d != ']') = fun d => !isBracket d := by
    funext d
    simp [isBracket, bne]
  have hnext (rest : Text) :
      (rest.drop (rest.takeWhile fun d => !isBracket d).length).head? = rest.find? isBracket := by
    induction rest with
    | nil => rfl
    | cons d rest ih =>
      cases hd : isBracket d <;> simp [hd, ih]
  simp only [tag?, hplain, hnext, Bool.and_eq_true, beq_iff_eq]

theorem exists_of_find?_isBracket {rest : Text} {b : Char} (h : rest.find? isBracket = some b) :
    ∃ front behind, rest = front ++ b :: behind ∧ (∀ d ∈ front, isBracket d = false) ∧
      front = rest.takeWhile fun d => !isBracket d := by
  obtain ⟨hb, front, behind, rfl, hfront⟩ := List.find?_eq_some_iff_append.1 h
  have hfront : ∀ d ∈ front, isBracket d = false := fun d hd => by simpa using hfront d hd
  refine ⟨front, behind, rfl, hfront, ?_⟩
  rw [List.takeWhile_append_of_pos (by simpa using hfront), List.takeWhile_cons_of_neg (by simp [hb]), List.append_nil]

theorem tag?_eq_some {text tag : Text} (h : tag? text = some tag) :
    ∃ rest, text = '[' :: (tag ++ ']' :: rest) ∧ IsTag tag := by
  cases text with
  | nil => exact absurd h (by simp [tag?])
  | cons b text =>
    by_cases hb : b = '['
    · subst hb
      cases text with
      | nil => exact absurd h (by simp [tag?])
      | cons c rest =>
        rw [tag?_bracket] at h
        split_ifs at h with hif
        obtain ⟨front, behind, hrest, hfront, hwhile⟩ := exists_of_find?_isBracket hif.2
        obtain rfl := Option.some.inj h
        rw [← hwhile]
        exact ⟨behind, by rw [hrest]; rfl, c, front, rfl, hif.1, hfront⟩
    · rw [tag?_of_ne hb] at h
      exact absurd h (by simp)

theorem tag?_of_isTag {tag : Text} (h : IsTag tag) (rest : Text) : tag? ('[' :: (tag ++ ']' :: rest)) = some tag := by
  obtain ⟨c, more, rfl, hc, hmore⟩ := h
  have hfind : (more ++ ']' :: rest).find? isBracket = some ']' :=
    List.find?_eq_some_iff_append.2 ⟨rfl, more, rest, rfl, by simpa using hmore⟩
  rw [List.cons_append, tag?_bracket, if_pos ⟨hc, hfind⟩, List.takeWhile_append_of_pos (by simpa using hmore)]
  simp [isBracket]

theorem slashedTag?_slashes (n : Nat) {d : Char} (hd : d ≠ '\\') (more : Text) :
    slashedTag? (List.replicate n '\\' ++ d :: more) = (tag? (d :: more)).map (n, ·) := by
  have hrun : (List.replicate n '\\' ++ d :: more).takeWhile (· == '\\') = List.replicate n '\\' := by
    rw [List.takeWhile_append_of_pos (by simp), List.takeWhile_cons_of_neg (by simpa using hd), List.append_nil]
  rw [slashedTag?, hrun, List.length_replicate]
  simp

theorem slashedTag?_eq_none {d : Char} (hd : d ≠ '\\') {rest : Text} (h : tag? (d :: rest) = none) (n : Nat) :
    slashedTag? (List.replicate n '\\' ++ d :: rest) = none := by
  rw [slashedTag?_slashes n hd, h, Option.map_none]

/-! ## The tags of a markup -/

def Chunk.tag? : Chunk → Option Text
  | .tag name => some name
  | _ => none

def tags (markup : Text) : List Text :=
  (chunks markup).filterMap Chunk.tag?

/-- the open tags behind a tag -/
def afterTag? (opened : List Text) (tag : Text) : Option (List Text) :=
  afterChunk? opened (.tag tag)

theorem isBalanced_eq (markup : Text) : isBalanced markup = ((tags markup).foldlM afterTag? []).isSome := by
  have hfold (chunks : List Chunk) (opened : List Text) :
      chunks.foldlM afterChunk? opened = (chunks.filterMap Chunk.tag?).foldlM afterTag? opened := by
    induction chunks generalizing opened with
    | nil => rfl
    | cons chunk chunks ih =>
      cases chunk with
      | plain text => exact ih opened
      | escaped text => exact ih opened
      | tag tag =>
        have htags : (Chunk.tag tag :: chunks).filterMap Chunk.tag? = tag :: chunks.filterMap Chunk.tag? := rfl
        rw [htags, List.foldlM_cons, List.foldlM_cons]
        exact bind_congr fun opened => ih opened
  rw [isBalanced, tags, hfold]

theorem chunksFrom_skip (front rest : Text) : chunksFrom front.length (front ++ rest) = chunksFrom 0 rest := by
  induction front with
  | nil => rfl
  | cons c front ih => exact ih

theorem filterMap_consPlain (c : Char) (chunks : List Chunk) :
    (consPlain c chunks).filterMap Chunk.tag? = chunks.filterMap Chunk.tag? := by
  cases chunks with
  | nil => rfl
  | cons chunk chunks => cases chunk <;> rfl

theorem chunks_cons {c : Char} {rest : Text} (h : slashedTag? (c :: rest) = none) :
    chunks (c :: rest) = consPlain c (chunks rest) := by
  rw [chunks, chunksFrom, h]
  rfl

theorem tags_cons {c : Char} {rest : Text} (h : slashedTag? (c :: rest) = none) : tags (c :: rest) = tags rest := by
  rw [tags, chunks_cons h, filterMap_consPlain]
  rfl

theorem tags_slashes {d : Char} (hd : d ≠ '\\') {rest : Text} (h : tag? (d :: rest) = none) (n : Nat) :
    tags (List.replicate n '\\' ++ d :: rest) = tags rest := by
  induction n with
  | zero => exact tags_cons (slashedTag?_eq_none hd h 0)
  | succ n ih => exact (tags_cons (slashedTag?_eq_none hd h (n + 1))).trans ih

/-- a tag with backslashes in front of it: its first character and the others -/
theorem exists_slashed {tag : Text} (h : IsTag tag) (n : Nat) : ∃ c front,
    List.replicate n '\\' ++ '[' :: (tag ++ [']']) = c :: front ∧ front.length = n + tag.length + 1 ∧
      ∀ rest, List.replicate n '\\' ++ '[' :: (tag ++ ']' :: rest) = c :: (front ++ rest) ∧
        slashedTag? (c :: (front ++ rest)) = some (n, tag) := by
  obtain ⟨c, front, hcons⟩ :=
    List.exists_cons_of_ne_nil (show List.replicate n '\\' ++ '[' :: (tag ++ [']']) ≠ [] by simp)
  have hlength : front.length = n + tag.length + 1 := by
    have := congrArg List.length hcons
    simp at this
    omega
  refine ⟨c, front, hcons, hlength, fun rest => ?_⟩
  have htext : List.replicate n '\\' ++ '[' :: (tag ++ ']' :: rest) = c :: (front ++ rest) := by
    have := congrArg (· ++ rest) hcons
    simpa using this
  rw [← htext, slashedTag?_slashes n (by decide), tag?_of_isTag h, Option.map_some]
  exact ⟨rfl, rfl⟩

theorem tags_plain {front : Text} (h : ∀ c ∈ front, c ≠ '[' ∧ c ≠ '\\') (rest : Text) :
    tags (front ++ rest) = tags rest := by
  induction front with
  | nil => rfl
  | cons c front ih =>
    obtain ⟨hbracket, hslash⟩ := h c List.mem_cons_self
    have hcons : tags (c :: (front ++ rest)) = tags (front ++ rest) := tags_slashes hslash (tag?_of_ne hbracket _) 0
    exact hcons.trans (ih fun d hd => h d (List.mem_cons_of_mem c hd))

theorem tags_replicate (n : Nat) : tags (List.replicate n '\\') = [] := by
  induction n with
  | zero => rfl
  | succ n ih =>
    have hnone : slashedTag? (List.replicate (n + 1) '\\') = none := by
      simp [slashedTag?, tag?]
    exact (tags_cons hnone).trans ih

theorem chunks_tag {tag : Text} (h : IsTag tag) (n : Nat) (rest : Text) :
    chunks (List.replicate n '\\' ++ '[' :: (tag ++ ']' :: rest)) =
      .escaped (List.replicate (n / 2) '\\') ::
        (if n % 2 = 1 then .escaped ('[' :: tag ++ [']']) else .tag tag) :: chunks rest := by
  obtain ⟨c, front, -, hlength, hslashed⟩ := exists_slashed h n
  obtain ⟨htext, hslashed⟩ := hslashed rest
  rw [htext, chunks, chunksFrom, hslashed]
  simp only [← hlength, chunksFrom_skip]
  rfl

/-- a tag behind an even number of backslashes counts -/
theorem tags_tag {tag : Text} (h : IsTag tag) (n : Nat) (rest : Text) :
    tags (List.replicate n '\\' ++ '[' :: (tag ++ ']' :: rest)) = (if n % 2 = 1 then [] else [tag]) ++ tags rest := by
  rw [tags, chunks_tag h]
  by_cases hodd : n % 2 = 1
  · rw [if_pos hodd, if_pos hodd]
    rfl
  · rw [if_neg hodd, if_neg hodd]
    rfl

/-! ## Escaped texts -/

theorem find?_escapeFrom (skip : Nat) (text rest : Text) :
    (escapeFrom skip text ++ rest).find? isBracket = (text ++ rest).find? isBracket := by
  induction text generalizing skip with
  | nil => cases skip <;> rfl
  | cons c text ih =>
    have hcons (skip : Nat) :
        (c :: (escapeFrom skip text ++ rest)).find? isBracket = (c :: (text ++ rest)).find? isBracket := by
      rw [List.find?_cons, List.find?_cons, ih]
    cases skip with
    | succ skip => exact hcons skip
    | zero =>
      rw [escapeFrom]
      split
      · next slashes tag _ =>
        have hslashes : (List.replicate (slashes + 1) '\\').find? isBracket = none := by
          simp [isBracket]
        rw [List.append_assoc, List.find?_append, hslashes, Option.none_or]
        exact hcons _
      · exact hcons 0

theorem escapeFrom_skip (front rest : Text) : escapeFrom front.length (front ++ rest) = front ++ escapeFrom 0 rest := by
  induction front with
  | nil => rfl
  | cons c front ih => exact congrArg (c :: ·) ih

theorem escapeFrom_slashes {d : Char} (hd : d ≠ '\\') {rest : Text} (h : tag? (d :: rest) = none) (n : Nat) :
    escapeFrom 0 (List.replicate n '\\' ++ d :: rest) = List.replicate n '\\' ++ d :: escapeFrom 0 rest := by
  induction n with
  | zero =>
    have hnone : slashedTag? (d :: rest) = none := slashedTag?_eq_none hd h 0
    rw [List.replicate_zero, List.nil_append, escapeFrom, hnone]
    rfl
  | succ n ih =>
    have hnone := slashedTag?_eq_none hd h (n + 1)
    rw [List.replicate_succ, List.cons_append] at hnone ⊢
    rw [escapeFrom, hnone]
    exact congrArg ('\\' :: ·) ih

/-- a tag gets one backslash more than stand in front of it -/
theorem escapeFrom_tag {tag : Text} (h : IsTag tag) (n : Nat) (rest : Text) :
    escapeFrom 0 (List.replicate n '\\' ++ '[' :: (tag ++ ']' :: rest)) =
      List.replicate (2 * n + 1) '\\' ++ '[' :: (tag ++ ']' :: escapeFrom 0 rest) := by
  obtain ⟨c, front, hcons, hlength, hslashed⟩ := exists_slashed h n
  obtain ⟨htext, hslashed⟩ := hslashed rest
  rw [htext, escapeFrom, hslashed]
  simp only [← hlength, escapeFrom_skip]
  rw [← List.cons_append, ← hcons, show 2 * n + 1 = n + 1 + n by omega,
    ← List.replicate_append_replicate (n := n + 1) (m := n)]
  simp only [List.append_assoc, List.cons_append, List.nil_append]

theorem escapeFrom_replicate (n : Nat) : escapeFrom 0 (List.replicate n '\\') = List.replicate n '\\' := by
  induction n with
  | zero => rfl
  | succ n ih =>
    have hnone : slashedTag? (List.replicate (n + 1) '\\') = none := by
      simp [slashedTag?, tag?]
    rw [List.replicate_succ] at hnone ⊢
    rw [escapeFrom, hnone]
    exact congrArg ('\\' :: ·) ih

/-- a text is made of backslashes only, or another character stands behind those at its head -/
theorem eq_slashes_or (text : Text) : (∃ n, text = List.replicate n '\\') ∨
    ∃ n d rest, d ≠ '\\' ∧ text = List.replicate n '\\' ++ d :: rest := by
  induction text with
  | nil => exact .inl ⟨0, rfl⟩
  | cons c text ih =>
    by_cases hc : c = '\\'
    · subst hc
      rcases ih with ⟨n, rfl⟩ | ⟨n, d, rest, hd, rfl⟩
      · exact .inl ⟨n + 1, rfl⟩
      · exact .inr ⟨n + 1, d, rest, hd, rfl⟩
    · exact .inr ⟨0, c, text, hc, rfl⟩

/-- what is no tag is none behind escaping either -/
theorem tag?_escapeFrom {d : Char} {text rest : Text} (hrest : rest.find? isBracket ≠ some ']')
    (h : tag? (d :: text) = none) : tag? (d :: (escapeFrom 0 text ++ rest)) = none := by
  by_cases hd : d = '['
  · subst hd
    cases text with
    | nil =>
      cases rest with
      | nil => rfl
      | cons e rest =>
        refine (tag?_bracket e rest).trans (if_neg fun hif => hrest ?_)
        rw [List.find?_cons, isBracket_of_isTagHead hif.1]
        exact hif.2
    | cons e text =>
      rw [escapeFrom]
      split
      · rw [List.replicate_succ, List.cons_append, List.cons_append, tag?_bracket, if_neg]
        exact fun hif => absurd hif.1 (by decide)
      · rw [List.cons_append, tag?_bracket, find?_escapeFrom, List.find?_append, if_neg]
        rintro ⟨he, hfind⟩
        rw [tag?_bracket] at h
        rcases Option.or_eq_some_iff.1 hfind with hfind | ⟨-, hfind⟩
        · rw [if_pos ⟨he, hfind⟩] at h
          exact absurd h (by simp)
        · exact hrest hfind
  · exact tag?_of_ne hd _

/-- **Escaped text has no tags**: only the backslashes at its end reach into what follows, which must not come to a
closing bracket first. -/
theorem tags_escapeFrom (text : Text) {rest : Text} (hrest : rest.find? isBracket ≠ some ']') :
    ∃ n, tags (escapeFrom 0 text ++ rest) = tags (List.replicate n '\\' ++ rest) := by
  induction hlength : text.length using Nat.strongRecOn generalizing text with
  | ind length ih =>
    rcases eq_slashes_or text with ⟨n, rfl⟩ | ⟨n, d, more, hd, rfl⟩
    · exact ⟨n, by rw [escapeFrom_replicate]⟩
    · rw [List.length_append, List.length_cons, List.length_replicate] at hlength
      cases htag : tag? (d :: more) with
      | some tag =>
        obtain ⟨behind, hbehind, hisTag⟩ := tag?_eq_some htag
        obtain ⟨rfl, rfl⟩ := List.cons.inj hbehind
        rw [List.length_append, List.length_cons] at hlength
        obtain ⟨k, hk⟩ := ih behind.length (by omega) behind rfl
        refine ⟨k, ?_⟩
        rw [escapeFrom_tag hisTag, List.append_assoc, List.cons_append, List.append_assoc, List.cons_append,
          tags_tag hisTag, if_pos (by omega), List.nil_append, hk]
      | none =>
        obtain ⟨k, hk⟩ := ih more.length (by omega) more rfl
        refine ⟨k, ?_⟩
        rw [escapeFrom_slashes hd htag, List.append_assoc, List.cons_append,
          tags_slashes hd (tag?_escapeFrom hrest htag), hk]

/-- **The tags behind an escaped text** are those of what follows, with backslashes in front of it. -/
theorem tags_escape (text : Text) {rest : Text} (hrest : rest.find? isBracket ≠ some ']') :
    ∃ n, tags (escape text ++ rest) = tags (List.replicate n '\\' ++ rest) := by
  unfold escape
  dsimp only
  split_ifs
  · have hnext : (['\\'] ++ rest).find? isBracket ≠ some ']' := hrest
    obtain ⟨n, hn⟩ := tags_escapeFrom text hnext
    refine ⟨n + 1, ?_⟩
    rw [List.append_assoc]
    rw [hn, ← List.replicate_append_replicate, List.append_assoc]
    rfl
  · exact tags_escapeFrom text hrest

end SourceMark.Markup
