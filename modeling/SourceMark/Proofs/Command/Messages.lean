/-
What the commands print, as markup. Every text that comes from outside is escaped, so the only tags are the colours, and
a colour is closed at most where it is open: the console never stops at one of these markups.

Results:
- `isBalanced_coloured`: an escaped text in a colour, with plain text around it.
- `isBalanced_invalidSettings`, `isBalanced_invalidReference`, `isBalanced_notFound`, `isBalanced_unreadable`: what is
  told when something is wrong.
- `isBalanced_placeMarkup`, `isBalanced_rowMarkup`: the head of an excerpt and its lines.
-/
import SourceMark.Command.Run
import SourceMark.Proofs.Console.Escaped
import SourceMark.Proofs.Token

namespace SourceMark

open Markup

namespace Command

/-! ## Colours -/

def colours : List String := ["red", "bold", "yellow"]

theorem isTag_colour : ∀ colour ∈ colours, IsTag colour.toList ∧ IsTag ('/' :: colour.toList) := by
  intro colour hcolour
  have hletters : ∀ colour ∈ colours, ∀ c ∈ colour.toList, isBracket c = false := by decide
  have hhead : ∀ colour ∈ colours, ∃ c more, colour.toList = c :: more ∧ isTagHead c = true := by
    simp [colours]
    decide
  obtain ⟨c, more, htext, hc⟩ := hhead colour hcolour
  have hplain := hletters colour hcolour
  refine ⟨⟨c, more, htext, hc, fun d hd => hplain d ?_⟩, '/', colour.toList, rfl, by decide, hplain⟩
  rw [htext]
  exact List.mem_cons_of_mem c hd

/-- the end of a coloured text, with what follows it -/
def closing (colour : String) (rest : Text) : Text :=
  '[' :: ('/' :: colour.toList ++ ']' :: rest)

variable {colour : String}

theorem tags_coloured (h : colour ∈ colours) (markup rest : Text) :
    tags (coloured colour markup ++ rest) = colour.toList :: tags (markup ++ closing colour rest) := by
  have htext : coloured colour markup ++ rest =
      '[' :: (colour.toList ++ ']' :: (markup ++ closing colour rest)) := by
    simp [coloured, closing]
  rw [htext]
  exact tags_tag (isTag_colour colour h).1 0 _

/-! ## Plain text -/

/-- characters that neither make a tag nor change one behind them -/
def Plain (text : Text) : Prop :=
  ∀ c ∈ text, isBracket c = false ∧ c ≠ '\\'

instance (text : Text) : Decidable (Plain text) :=
  inferInstanceAs (Decidable (∀ c ∈ text, isBracket c = false ∧ c ≠ '\\'))

theorem Plain.ne_bracket {text : Text} (h : Plain text) {c : Char} (hc : c ∈ text) : c ≠ '[' := by
  rintro rfl
  exact absurd (h _ hc).1 (by decide)

theorem Plain.tags_append {front : Text} (h : Plain front) (rest : Text) : tags (front ++ rest) = tags rest := by
  apply tags_plain
  intro c hc
  exact ⟨h.ne_bracket hc, (h c hc).2⟩

theorem Plain.find?_append {front : Text} (h : Plain front) (rest : Text) :
    (front ++ rest).find? isBracket = rest.find? isBracket := by
  have hnone : front.find? isBracket = none := by
    rw [List.find?_eq_none]
    intro c hc
    rw [(h c hc).1]
    decide
  rw [List.find?_append, hnone, Option.none_or]

theorem plain_nil : Plain [] := by
  decide

theorem Plain.append {front behind : Text} (hfront : Plain front) (hbehind : Plain behind) :
    Plain (front ++ behind) := by
  intro c hc
  rcases List.mem_append.1 hc with hc | hc
  · exact hfront c hc
  · exact hbehind c hc

theorem plain_decimal (n : Nat) : Plain (Text.decimal n) := by
  intro c hc
  have hdigit : c.isDigit = true := Json.isDigit_of_mem_decimal c hc
  refine ⟨?_, ?_⟩
  · rw [Bool.eq_false_iff]
    intro hbracket
    simp only [isBracket, Bool.or_eq_true, beq_iff_eq] at hbracket
    rcases hbracket with rfl | rfl
    · exact absurd hdigit (by decide)
    · exact absurd hdigit (by decide)
  · rintro rfl
    exact absurd hdigit (by decide)

/-! ## Escaped texts in colours -/

/-- behind an escaped text and plain text, the tags are those of what follows, perhaps with backslashes in front of it -/
theorem tags_escape_append (text : Text) {behind rest : Text} (hbehind : Plain behind)
    (hrest : rest.find? isBracket ≠ some ']') :
    ∃ n, tags (escape text ++ (behind ++ rest)) = tags (List.replicate n '\\' ++ rest) := by
  have hnext : (behind ++ rest).find? isBracket ≠ some ']' := by
    rwa [hbehind.find?_append]
  obtain ⟨n, hn⟩ := tags_escape text hnext
  rw [hn]
  cases behind with
  | nil => exact ⟨n, rfl⟩
  | cons c behind =>
    -- the backslashes stand in front of a plain character
    have hc : c ≠ '[' := hbehind.ne_bracket List.mem_cons_self
    have hplain : Plain behind := fun d hd => hbehind d (List.mem_cons_of_mem c hd)
    refine ⟨0, ?_⟩
    rw [List.cons_append, tags_slashes (hbehind c List.mem_cons_self).2 (tag?_of_ne hc _), hplain.tags_append]
    rfl

/-- an escaped text may take the end of its colour with it -/
theorem tags_escape_closing (h : colour ∈ colours) (text : Text) {behind : Text} (hbehind : Plain behind)
    (rest : Text) :
    tags (escape text ++ (behind ++ closing colour rest)) = tags rest ∨
      tags (escape text ++ (behind ++ closing colour rest)) = ('/' :: colour.toList) :: tags rest := by
  have hopening : (closing colour rest).find? isBracket ≠ some ']' := by
    simp [closing, isBracket]
  obtain ⟨n, hn⟩ := tags_escape_append text hbehind hopening
  rw [hn, closing, tags_tag (isTag_colour colour h).2]
  by_cases hodd : n % 2 = 1
  · exact .inl (by rw [if_pos hodd]; rfl)
  · exact .inr (by rw [if_neg hodd]; rfl)

theorem tags_escape_plain (text : Text) {behind : Text} (hbehind : Plain behind) :
    tags (escape text ++ behind) = [] := by
  have hend : ([] : Text).find? isBracket ≠ some ']' := by decide
  obtain ⟨n, hn⟩ := tags_escape_append text hbehind hend
  rw [List.append_nil, List.append_nil, tags_replicate] at hn
  exact hn

theorem Plain.tags_escape {front : Text} (h : Plain front) (text : Text) : tags (front ++ escape text) = [] := by
  rw [h.tags_append, ← List.append_nil (escape text)]
  exact tags_escape_plain text plain_nil

theorem isBalanced_of_tags {markup : Text} (h : colour ∈ colours)
    (htags : tags markup = [colour.toList] ∨ tags markup = [colour.toList, '/' :: colour.toList]) :
    isBalanced markup = true := by
  have hopened : ∀ colour ∈ colours, ([colour.toList].foldlM afterTag? []).isSome = true := by decide
  have hclosed : ∀ colour ∈ colours, ([colour.toList, '/' :: colour.toList].foldlM afterTag? []).isSome = true := by
    decide
  rw [isBalanced_eq]
  rcases htags with htags | htags
  · rw [htags]
    exact hopened colour h
  · rw [htags]
    exact hclosed colour h

theorem isBalanced_coloured (h : colour ∈ colours) {front behind rest : Text} (hfront : Plain front)
    (hbehind : Plain behind) (hrest : tags rest = []) (text : Text) :
    isBalanced (coloured colour (front ++ escape text ++ behind) ++ rest) = true := by
  apply isBalanced_of_tags h
  rw [tags_coloured h, List.append_assoc, List.append_assoc, hfront.tags_append]
  rcases tags_escape_closing h text hbehind rest with hclosing | hclosing
  · left
    rw [hclosing, hrest]
  · right
    rw [hclosing, hrest]

/-! ## What is told -/

theorem isBalanced_invalidSettings (message : Text) :
    isBalanced (coloured "red" "Invalid settings:".toList ++ ' ' :: escape message) = true := by
  have hred : "red" ∈ colours := by decide
  have htitle : Plain "Invalid settings:".toList := by decide
  have hblank : Plain [' '] := by decide
  exact isBalanced_coloured hred htitle plain_nil (hblank.tags_escape message) []

theorem isBalanced_invalidReference : isBalanced (coloured "red" LookupError.invalidReference.message) = true := by
  decide

theorem isBalanced_notFound (message : Text) : isBalanced (coloured "red" (escape message)) = true := by
  have hred : "red" ∈ colours := by decide
  have hbalanced := isBalanced_coloured hred plain_nil plain_nil (show tags [] = [] from rfl) message
  rwa [List.nil_append, List.append_nil, List.append_nil] at hbalanced

theorem isBalanced_unreadable (path message : Text) :
    isBalanced (coloured "red" ("Could not read ".toList ++ escape path ++ [':']) ++ ' ' :: escape message) = true := by
  have hred : "red" ∈ colours := by decide
  have htitle : Plain "Could not read ".toList := by decide
  have hcolon : Plain [':'] := by decide
  have hblank : Plain [' '] := by decide
  exact isBalanced_coloured hred htitle hcolon (hblank.tags_escape message) path

/-! ## Excerpts -/

theorem isBalanced_placeMarkup (located : Located) : isBalanced (placeMarkup located) = true := by
  have hbold : "bold" ∈ colours := by decide
  have hcolon : Plain [':'] := by decide
  have hopen : Plain " (".toList := by decide
  have hclose : Plain [')'] := by decide
  have hfront := (hcolon.append (plain_decimal located.reference.line)).append hopen
  have hrest : tags ([':'] ++ Text.decimal located.reference.line ++ " (".toList ++
      (escape located.reference.templateId ++ [')'])) = [] := by
    rw [hfront.tags_append]
    exact tags_escape_plain located.reference.templateId hclose
  have hbalanced := isBalanced_coloured hbold plain_nil plain_nil hrest located.path
  have hplace : placeMarkup located = coloured "bold" ([] ++ escape located.path ++ []) ++
      ([':'] ++ Text.decimal located.reference.line ++ " (".toList ++
        (escape located.reference.templateId ++ [')'])) := by
    simp [placeMarkup]
  rw [hplace]
  exact hbalanced

theorem plain_gutter (e : Excerpt) (number : Nat) : Plain (gutter e number) := by
  refine Plain.append ?_ (plain_decimal number)
  intro c hc
  rw [List.eq_of_mem_replicate hc]
  decide

theorem isBalanced_rowMarkup (e : Excerpt) (number : Nat) (text : Text) :
    isBalanced (rowMarkup e number text) = true := by
  have hgutter := plain_gutter e number
  unfold rowMarkup
  split_ifs
  · have hyellow : "yellow" ∈ colours := by decide
    have hmark : Plain " > ".toList := by decide
    have hbalanced := isBalanced_coloured hyellow (hgutter.append hmark) plain_nil (show tags [] = [] from rfl) text
    rwa [List.append_nil, List.append_nil] at hbalanced
  · have hgap : Plain "   ".toList := by decide
    rw [isBalanced_eq, (hgutter.append hgap).tags_escape text]
    rfl

end Command

end SourceMark
