/-
Blocks of code in a template, as the template language reads it. The reading knows no HTML: from left to right, a block
stands where the opener of one of the dialect's blocks stands and its closer follows later, and it goes on to the first
such closer; the rest is text. The annotator reads tags first and their quotes before blocks, so a tag may end for it
inside what the template language takes for a block.

Results:
- `parts_spec`: the parts of a template are the template, cut at the borders of its blocks.
- `annotate_keepsBlocks_iff`: a run copies every block unchanged if and only if no pass marks a tag that ends in a block.
- `keepsBlocks_iff_preview`: where previews agree with runs, the preview tells whether the blocks are kept.
- `annotate_splits_block`: in both languages there is a template one of whose blocks gets a marker.
-/
import SourceMark.Proofs.Preview
import SourceMark.Proofs.Scan.Opaque

namespace SourceMark

namespace Template

/-! ## Reading a template -/

/-- how the letters of delimiters are compared -/
def compares (caseless : Bool) : Char → Char → Bool :=
  if caseless then Text.sameLetter else (· == ·)

def behindFirst? (same : Char → Char → Bool) (closer : Text) : Text → Option Text
  | [] => Text.dropHeadBy? same closer []
  | c :: rest => (Text.dropHeadBy? same closer (c :: rest)).or (behindFirst? same closer rest)

/-- what follows the block that starts at the head of the text: the first whose opener stands there and whose closer
follows later -/
def behindCode? (same : Char → Char → Bool) (blocks : List Delimiters) (text : Text) : Option Text :=
  blocks.findSome? fun block => (Text.dropHeadBy? same block.opener text).bind (behindFirst? same block.closer)

inductive Part where
  | text (run : Text)
  | code (block : Text)

def Part.chars : Part → Text
  | .text run => run
  | .code block => block

def Part.isCode : Part → Bool
  | .text _ => false
  | .code _ => true

/-- the parts with one more character of text in front -/
def push (c : Char) : List Part → List Part
  | .text run :: parts => .text (c :: run) :: parts
  | parts => .text [c] :: parts

/-- the parts of a text; the first `skip` characters belong to the block before -/
def partsFrom (same : Char → Char → Bool) (blocks : List Delimiters) : (skip : Nat) → Text → List Part
  | _, [] => []
  | skip + 1, _ :: rest => partsFrom same blocks skip rest
  | 0, c :: rest =>
    match behindCode? same blocks (c :: rest) with
    | none => push c (partsFrom same blocks 0 rest)
    | some behind =>
      .code ((c :: rest).take (rest.length + 1 - behind.length)) :: partsFrom same blocks (rest.length - behind.length) rest

def parts (caseless : Bool) (d : Dialect) (text : Text) : List Part :=
  partsFrom (compares caseless) d.codeBlocks 0 text

/-- whether the bracket with number k lies in a block, where the first bracket of the parts has the number `n` -/
def inCode : (n : Nat) → List Part → Nat → Bool
  | _, [], _ => false
  | n, part :: parts, k => (part.isCode && n ≤ k && k < n + brackets part.chars) || inCode (n + brackets part.chars) parts k

@[simp] theorem inCode_text (n : Nat) (run : Text) (parts : List Part) (k : Nat) :
    inCode n (.text run :: parts) k = inCode (n + brackets run) parts k := rfl

@[simp] theorem inCode_code (n : Nat) (block : Text) (parts : List Part) (k : Nat) :
    inCode n (.code block :: parts) k =
      ((decide (n ≤ k) && decide (k < n + brackets block)) || inCode (n + brackets block) parts k) := rfl

/-! ## Borders of blocks -/

/-- delimiters that start and end in signs -/
def Bounded (block : Delimiters) : Prop :=
  (block.opener.head?.any fun c => Text.signs.contains c && c != '>') = true ∧
    (block.closer.getLast?.any fun c => Text.signs.contains c) = true

instance (block : Delimiters) : Decidable (Bounded block) := by
  unfold Bounded; infer_instance

/-- a block of code at whose borders trimming stops -/
structure Framed (block : Text) : Prop where
  first : ∃ c, block.head? = some c ∧ Text.isFirm c = true ∧ c ≠ '>'
  last : ∃ c, block.getLast? = some c ∧ Text.isFirm c = true

/-- parts whose blocks are framed, and no two texts of which are neighbours -/
def Framing : List Part → Prop
  | [] => True
  | .text _ :: parts => (∀ p ∈ parts.head?, p.isCode = true) ∧ Framing parts
  | .code block :: parts => Framed block ∧ Framing parts

theorem exact_compares (caseless : Bool) : Woven.Exact (compares caseless) := by
  cases caseless
  · exact Woven.exact_beq
  · exact Woven.exact_sameLetter

theorem isFirm_of_sign : ∀ c ∈ Text.signs, Text.isFirm c = true := by
  decide

/-- a sign at the start of a pattern stands at the start of what is recognised -/
theorem head?_of_recognised {same : Char → Char → Bool} (he : Woven.Exact same) {pattern u : Text}
    (h : List.Forall₂ (fun p c => same p c = true) pattern u) {c : Char} (hc : pattern.head? = some c)
    (hsign : c ∈ Text.signs) : u.head? = some c := by
  cases h with
  | nil => exact absurd hc (by simp)
  | @cons p d ps u hsame hrest =>
    obtain rfl : p = c := Option.some.inj hc
    rw [List.head?_cons, he p hsign d hsame]

theorem getLast?_of_recognised {same : Char → Char → Bool} (he : Woven.Exact same) {pattern u : Text}
    (h : List.Forall₂ (fun p c => same p c = true) pattern u) {c : Char} (hc : pattern.getLast? = some c)
    (hsign : c ∈ Text.signs) : u.getLast? = some c := by
  rw [List.getLast?_eq_head?_reverse] at hc ⊢
  exact head?_of_recognised he (List.forall₂_reverse_iff.2 h) hc hsign

theorem exists_behindFirst {same : Char → Char → Bool} {closer text behind : Text}
    (h : behindFirst? same closer text = some behind) :
    ∃ front last, text = front ++ last ++ behind ∧ List.Forall₂ (fun p c => same p c = true) closer last := by
  induction text with
  | nil =>
    obtain ⟨u, hu, hsame⟩ := Scanner.exists_recognised h
    exact ⟨[], u, hu, hsame⟩
  | cons c rest ih =>
    rcases Option.or_eq_some_iff.1 h with h | ⟨-, h⟩
    · obtain ⟨u, hu, hsame⟩ := Scanner.exists_recognised h
      exact ⟨[], u, hu, hsame⟩
    · obtain ⟨front, last, rfl, hsame⟩ := ih h
      exact ⟨c :: front, last, rfl, hsame⟩

/-- **A block is framed by its delimiters.** -/
theorem exists_framed {same : Char → Char → Bool} (he : Woven.Exact same) {blocks : List Delimiters}
    (hb : ∀ block ∈ blocks, Bounded block) {text behind : Text} (h : behindCode? same blocks text = some behind) :
    ∃ code, text = code ++ behind ∧ Framed code := by
  obtain ⟨block, hmem, hblock⟩ := List.exists_of_findSome?_eq_some h
  obtain ⟨rest, hrest, hfirst⟩ := Option.bind_eq_some_iff.1 hblock
  obtain ⟨opener, rfl, hopener⟩ := Scanner.exists_recognised hrest
  obtain ⟨front, closer, rfl, hcloser⟩ := exists_behindFirst hfirst
  obtain ⟨hhead, hlast⟩ := hb block hmem
  obtain ⟨c, hc, hsign⟩ := (Option.any_eq_true _ _).1 hhead
  obtain ⟨d, hd, hsign'⟩ := (Option.any_eq_true _ _).1 hlast
  rw [Bool.and_eq_true, List.contains_iff_mem, bne_iff_ne] at hsign
  rw [List.contains_iff_mem] at hsign'
  refine ⟨opener ++ (front ++ closer), by simp, ⟨c, ?_, isFirm_of_sign c hsign.1, hsign.2⟩,
    ⟨d, ?_, isFirm_of_sign d hsign'⟩⟩
  · rw [List.head?_append, head?_of_recognised he hopener hc hsign.1]
    rfl
  · rw [← List.append_assoc, List.getLast?_append, getLast?_of_recognised he hcloser hd hsign']
    rfl

/-! ## The parts make up the template -/

variable {same : Char → Char → Bool} {blocks : List Delimiters}

theorem flatMap_push (c : Char) (parts : List Part) : (push c parts).flatMap Part.chars = c :: parts.flatMap Part.chars := by
  unfold push
  split <;> rfl

theorem framing_push {c : Char} {parts : List Part} (h : Framing parts) : Framing (push c parts) := by
  unfold push
  split
  · exact h
  · next parts hnot =>
    refine ⟨fun p hp => ?_, h⟩
    cases p with
    | code block => rfl
    | text run =>
      obtain ⟨rest, rfl⟩ := List.head?_eq_some_iff.1 hp
      exact absurd rfl (hnot run rest)

/-- **The parts of a template are the template**, cut at the borders of its blocks. -/
theorem partsFrom_spec (he : Woven.Exact same) (hb : ∀ block ∈ blocks, Bounded block) (skip : Nat) (text : Text) :
    (partsFrom same blocks skip text).flatMap Part.chars = text.drop skip ∧ Framing (partsFrom same blocks skip text) := by
  induction text generalizing skip with
  | nil => cases skip <;> exact ⟨rfl, trivial⟩
  | cons c rest ih =>
    cases skip with
    | succ skip => exact ih skip
    | zero =>
      rw [partsFrom]
      split
      · obtain ⟨hchars, hframing⟩ := ih 0
        exact ⟨by rw [flatMap_push, hchars]; rfl, framing_push hframing⟩
      · next behind hbehind =>
        obtain ⟨code, htext, hframed⟩ := exists_framed he hb hbehind
        obtain ⟨d, code, rfl⟩ : ∃ d tail, code = d :: tail := by
          obtain ⟨d, hd, -⟩ := hframed.first
          obtain ⟨tail, htail⟩ := List.head?_eq_some_iff.1 hd
          exact ⟨d, tail, htail⟩
        obtain rfl : rest = code ++ behind := List.tail_eq_of_cons_eq htext
        obtain rfl : c = d := List.head_eq_of_cons_eq htext
        have hlen : (code ++ behind).length - behind.length = code.length := by
          rw [List.length_append, Nat.add_sub_cancel]
        have hlen' : (code ++ behind).length + 1 - behind.length = (c :: code).length := by
          rw [List.length_append, List.length_cons]
          omega
        obtain ⟨hchars, hframing⟩ := ih code.length
        rw [List.drop_left] at hchars
        rw [hlen, hlen', ← List.cons_append, List.take_left]
        exact ⟨by rw [List.flatMap_cons, hchars]; rfl, hframed, hframing⟩

theorem bounded_codeBlocks (language : Language) : ∀ block ∈ language.dialect.codeBlocks, Bounded block := by
  cases language <;> decide

theorem parts_spec (caseless : Bool) (s : Settings) (text : Text) :
    (parts caseless s.dialect text).flatMap Part.chars = text ∧ Framing (parts caseless s.dialect text) :=
  partsFrom_spec (exact_compares caseless) (bounded_codeBlocks s.language) 0 text

end Template

namespace Annotator

open Template

variable (a : Annotator) (templateId : Text) (templateId_ne : templateId ≠ []) (disk : Option Text) (source : Text)

/-! ## Blocks that are kept -/

/-- whether an output copies every block unchanged and in order, with markers inserted in the text between only -/
inductive KeepsBlocks : List Part → Text → Prop
  | nil : KeepsBlocks [] []
  | code {block o : Text} {parts : List Part} (rest : KeepsBlocks parts o) :
      KeepsBlocks (.code block :: parts) (block ++ o)
  | text {run inserted kept o : Text} {parts : List Part} (marks : Nat → List Mark)
      (hrun : Inserts (fun k => (marks k).map (a.piece templateId templateId_ne)) 0 run inserted kept)
      (rest : KeepsBlocks parts o) : KeepsBlocks (.text run :: parts) (inserted ++ o)

variable {a templateId templateId_ne disk source} {parts : List Part} {output : Text}

theorem le_of_inCode {n k : Nat} (h : inCode n parts k = true) : n ≤ k := by
  induction parts generalizing n with
  | nil => exact absurd h (by simp [inCode])
  | cons part parts ih =>
    simp only [inCode, Bool.or_eq_true, Bool.and_eq_true, decide_eq_true_eq] at h
    rcases h with ⟨⟨-, h⟩, -⟩ | h
    · exact h
    · have := ih h
      omega

/-- what is inserted in a part and what is inserted in those behind it -/
theorem inserts_cons {marks marks' : Nat → List Mark} {first rest out out' kept kept' : Text} (n : Nat)
    (h : Inserts (fun k => (marks k).map (a.piece templateId templateId_ne)) 0 first out kept)
    (h' : Inserts (fun k => (marks' k).map (a.piece templateId templateId_ne)) (n + brackets first) rest out' kept') :
    Inserts (fun k => ((if k < n + brackets first then marks (k - n) else marks' k)).map (a.piece templateId templateId_ne)) n
      (first ++ rest) (out ++ out') (kept ++ kept') := by
  refine Inserts.append (h.congr fun k hk => ?_) (h'.congr fun k hk => ?_)
  · rw [if_pos (by omega), Nat.zero_add, Nat.add_sub_cancel_left]
  · rw [if_neg (by omega)]

/-- **What keeps blocks inserts nothing at their brackets.** -/
theorem KeepsBlocks.exists_inserts (h : a.KeepsBlocks templateId templateId_ne parts output) (n : Nat) :
    ∃ (marks : Nat → List Mark) (kept : Text),
      Inserts (fun k => (marks k).map (a.piece templateId templateId_ne)) n (parts.flatMap Part.chars) output kept ∧
        ∀ k, inCode n parts k = true → marks k = [] := by
  induction h generalizing n with
  | nil => exact ⟨fun _ => [], [], .nil n, fun k hk => absurd hk (by simp [inCode])⟩
  | @code block o parts _ ih =>
    obtain ⟨marks, kept, hrest, hcode⟩ := ih (n + brackets block)
    have hblock : Inserts (fun k => ([] : List Mark).map (a.piece templateId templateId_ne)) 0 block block block :=
      Inserts.refl fun _ _ _ => rfl
    refine ⟨_, _, inserts_cons n hblock hrest, ?_⟩
    intro k hk
    split_ifs with hlt
    · rfl
    · simp only [inCode_code, Bool.or_eq_true, Bool.and_eq_true, decide_eq_true_eq] at hk
      rcases hk with ⟨-, hk⟩ | hk
      · exact absurd hk hlt
      · exact hcode k hk
  | @text run inserted kept o parts marks hrun _ ih =>
    obtain ⟨marks', kept', hrest, hcode⟩ := ih (n + brackets run)
    refine ⟨_, _, inserts_cons n hrun hrest, ?_⟩
    intro k hk
    rw [inCode_text] at hk
    have hnot : ¬k < n + brackets (Part.text run).chars := Nat.not_lt.2 (le_of_inCode hk)
    rw [if_neg hnot]
    exact hcode k hk

theorem drop_drop (seams : Seams) (m n : Nat) : (seams.drop m).drop n = seams.drop (m + n) := by
  funext k
  rw [Seams.drop, Seams.drop, Seams.drop, Nat.add_assoc]

/-- **A weave without seams at the brackets of blocks keeps the blocks.** -/
theorem keepsBlocks_weave {seams : Seams} {marks : Nat → List Mark}
    (hseams : ∀ k, seams k = joined ((marks k).map (a.piece templateId templateId_ne))) (hframing : Framing parts) (n : Nat)
    (hcode : ∀ k, inCode n parts k = true → seams k = none) :
    a.KeepsBlocks templateId templateId_ne parts (weave (seams.drop n) (parts.flatMap Part.chars)) := by
  induction parts generalizing n with
  | nil => exact .nil
  | cons part parts ih =>
    rw [List.flatMap_cons]
    cases part with
    | code block =>
      obtain ⟨hframed, hframing⟩ := hframing
      have hlast : ∀ c, block.getLast? = some c → Text.isFirm c = true := by
        intro c hc
        obtain ⟨d, hd, hfirm⟩ := hframed.last
        exact Option.some.inj (hd.symm.trans hc) ▸ hfirm
      have hblock : weave (seams.drop n) block = block := weave_none fun k hk => hcode (n + k) (by
        simp [hk])
      have hrest := ih hframing (n + brackets block) fun k hk => hcode k (by rw [inCode_code, hk, Bool.or_true])
      rw [Part.chars, weave_append (Or.inl hlast), hblock, drop_drop]
      exact .code hrest
    | text run =>
      obtain ⟨hnext, hframing⟩ := hframing
      obtain ⟨kept, hrun⟩ : ∃ kept, Inserts (fun k => (marks (n + k)).map (a.piece templateId templateId_ne)) 0 run
          (weave (seams.drop n) run) kept := inserts_weave (fun k => hseams (n + k)) run
      have hrest := ih hframing (n + brackets run) hcode
      have hborder : weave (seams.drop n) (run ++ parts.flatMap Part.chars) =
          weave (seams.drop n) run ++ weave (seams.drop (n + brackets run)) (parts.flatMap Part.chars) := by
        cases parts with
        | nil => rw [List.flatMap_nil, List.append_nil]; exact (List.append_nil _).symm
        | cons next parts =>
          cases next with
          | text other => exact absurd (hnext _ rfl) (by simp [Part.isCode])
          | code block =>
            obtain ⟨c, hc, hfirm⟩ := hframing.1.first
            rw [weave_append (Or.inr ⟨c, ?_, hfirm⟩), drop_drop]
            rw [List.flatMap_cons, List.head?_append, Part.chars, hc]
            rfl
      rw [Part.chars, hborder]
      exact .text (fun k => marks (n + k)) hrun hrest

/-- **Framed blocks are kept** by a run if and only if no pass marks a tag that ends inside one. -/
theorem keepsBlocks_iff_of_framing (hchars : parts.flatMap Part.chars = source) (hframing : Framing parts) {kept : Text}
    (hweave : output = weave (a.allSeams templateId templateId_ne disk source) source)
    (hrun : Inserts (fun k => (a.marksAt templateId templateId_ne disk source k).map (a.piece templateId templateId_ne)) 0
      source output kept) :
    a.KeepsBlocks templateId templateId_ne parts output ↔
      ∀ pass ∈ a.passes, ∀ k, a.MarksAt pass (a.bufferOf templateId templateId_ne disk source pass) k →
        inCode 0 parts k = false := by
  constructor
  · intro hkeeps pass hpass k hmarks
    rw [Bool.eq_false_iff]
    intro hin
    obtain ⟨marks, kept', hinserts, hnone⟩ := hkeeps.exists_inserts 0
    rw [hchars] at hinserts
    have hk := a.lt_brackets hmarks
    rw [brackets_bufferOf, ← Nat.zero_add (brackets source)] at hk
    have hsame := hrun.eq_nil_iff hinserts (fun k => a.inserted_of_mem templateId templateId_ne)
      (fun k => a.inserted_of_mem templateId templateId_ne) (Nat.zero_le k) hk
    rw [List.map_eq_nil_iff, List.map_eq_nil_iff, marksAt_eq_nil] at hsame
    exact hsame.2 (hnone k hin) pass hpass hmarks
  · intro hcode
    have hnone : ∀ k, inCode 0 parts k = true → a.allSeams templateId templateId_ne disk source k = none := by
      intro k hk
      rw [allSeams_eq_none]
      intro pass hpass hmarks
      rw [hcode pass hpass k hmarks] at hk
      exact absurd hk (by decide)
    have hkeeps := keepsBlocks_weave (a.allSeams_eq_joined templateId templateId_ne disk source) hframing 0 hnone
    have hdrop : (a.allSeams templateId templateId_ne disk source).drop 0 =
        a.allSeams templateId templateId_ne disk source := by
      funext k
      rw [Seams.drop, Nat.zero_add]
    rwa [hdrop, hchars, ← hweave] at hkeeps

/-- **Blocks are kept** by a run if and only if no pass marks a tag that ends inside one. -/
theorem keepsBlocks_iff {s : Settings} (caseless : Bool) {kept : Text}
    (hweave : output = weave ((ofSettings s).allSeams templateId templateId_ne disk source) source)
    (hrun : Inserts (fun k => ((ofSettings s).marksAt templateId templateId_ne disk source k).map
      ((ofSettings s).piece templateId templateId_ne)) 0 source output kept) :
    (ofSettings s).KeepsBlocks templateId templateId_ne (Template.parts caseless s.dialect source) output ↔
      ∀ pass ∈ (ofSettings s).passes, ∀ k,
        (ofSettings s).MarksAt pass ((ofSettings s).bufferOf templateId templateId_ne disk source pass) k →
          inCode 0 (Template.parts caseless s.dialect source) k = false := by
  obtain ⟨hchars, hframing⟩ := parts_spec caseless s source
  exact keepsBlocks_iff_of_framing hchars hframing hweave hrun

/-- **Where previews agree with runs, a preview tells whether the blocks are kept**: they are if and only if none of its
eligible candidates ends in a block. -/
theorem keepsBlocks_iff_preview {s : Settings} (caseless : Bool) (hnames : s.HasOrdinaryNames)
    (hcomponents : Pass.component ∈ (ofSettings s).passes →
      (ofSettings s).KeepsComponents templateId templateId_ne disk source) :
    ∃ r, (ofSettings s).annotate source templateId disk = .ok r ∧
      ((ofSettings s).KeepsBlocks templateId templateId_ne (Template.parts caseless s.dialect source) r.output ↔
        ∀ c ∈ (ofSettings s).preview source disk, c.isEligible = true →
          inCode 0 (Template.parts caseless s.dialect source) (endOf 0 source c.tag) = false) := by
  have hmarked := (marked_iff_previewed (readable_ofSettings hnames)).2 hcomponents
  obtain ⟨r, kept, hannotate, hweave, hrun⟩ := (ofSettings s).annotate_marksAt templateId templateId_ne disk source
  refine ⟨r, hannotate, (keepsBlocks_iff caseless hweave hrun).trans ?_⟩
  constructor
  · intro hcode c hc heligible
    have hk : endOf 0 source c.tag < brackets source := by
      obtain ⟨pass, -, hmarks⟩ := ((ofSettings s).exists_previewed disk source).1 ⟨c, hc, heligible, rfl⟩
      exact (ofSettings s).lt_brackets hmarks
    obtain ⟨pass, hpass, hmarks⟩ := marksAt_ne_nil.1 ((hmarked _ hk).2 ⟨c, hc, heligible, rfl⟩)
    exact hcode pass hpass _ hmarks
  · intro hcode pass hpass k hmarks
    have hk := (ofSettings s).lt_brackets hmarks
    rw [brackets_bufferOf] at hk
    obtain ⟨c, hc, heligible, rfl⟩ := (hmarked k hk).1 (marksAt_ne_nil.2 ⟨pass, hpass, hmarks⟩)
    exact hcode c hc heligible

/-- **A run copies every block of code unchanged**, with markers in the text between only, if and only if no pass marks a
tag that ends inside a block. The reading of the template may tell letters by their case or not. -/
theorem annotate_keepsBlocks_iff (s : Settings) (caseless : Bool) {templateId : Text} (templateId_ne : templateId ≠ [])
    (disk : Option Text) (source : Text) : ∃ r, (ofSettings s).annotate source templateId disk = .ok r ∧
      ((ofSettings s).KeepsBlocks templateId templateId_ne (Template.parts caseless s.dialect source) r.output ↔
        ∀ pass ∈ (ofSettings s).passes, ∀ k,
          (ofSettings s).MarksAt pass ((ofSettings s).bufferOf templateId templateId_ne disk source pass) k →
            inCode 0 (Template.parts caseless s.dialect source) k = false) := by
  obtain ⟨r, kept, hannotate, hweave, hrun⟩ := (ofSettings s).annotate_marksAt templateId templateId_ne disk source
  exact ⟨r, hannotate, keepsBlocks_iff caseless hweave hrun⟩

theorem annotate_keepsBlocks_home : "home".toList ≠ [] ∧
    ∃ r, (ofSettings .standard).annotate "\x7b\x7b '<div>' \x7d\x7d<p>".toList "home".toList none = .ok r ∧
      (ofSettings .standard).KeepsBlocks "home".toList (by decide)
        (Template.parts false Settings.standard.dialect "\x7b\x7b '<div>' \x7d\x7d<p>".toList) r.output := by
  obtain ⟨r, hrun, hkeeps⟩ := annotate_keepsBlocks_iff .standard false (show "home".toList ≠ [] by decide) none
    "\x7b\x7b '<div>' \x7d\x7d<p>".toList
  refine ⟨by decide, r, hrun, hkeeps.2 ?_⟩
  intro pass _ k hmarks
  have hk := (ofSettings .standard).lt_brackets hmarks
  rw [brackets_bufferOf] at hk
  have hall : ∀ pass ∈ [Pass.plain, .component], ∀ k < brackets "\x7b\x7b '<div>' \x7d\x7d<p>".toList,
      (ofSettings .standard).MarksAt pass ((ofSettings .standard).bufferOf "home".toList (by decide) none
        "\x7b\x7b '<div>' \x7d\x7d<p>".toList pass) k →
      inCode 0 (Template.parts false Settings.standard.dialect "\x7b\x7b '<div>' \x7d\x7d<p>".toList) k = false := by
    decide +kernel
  exact hall pass (by cases pass <;> decide) k hk hmarks

/-- a tag that the first pass marks inside a block splits the block -/
theorem exists_split {s : Settings} (caseless : Bool) {templateId : Text} (templateId_ne : templateId ≠ [])
    (disk : Option Text) {source : Text} {k : Nat} (hmarks : (ofSettings s).MarksAt .plain source k)
    (hin : inCode 0 (Template.parts caseless s.dialect source) k = true) :
    ∃ r, (ofSettings s).annotate source templateId disk = .ok r ∧
      ¬(ofSettings s).KeepsBlocks templateId templateId_ne (Template.parts caseless s.dialect source) r.output := by
  obtain ⟨r, kept, hannotate, hweave, hrun⟩ := (ofSettings s).annotate_marksAt templateId templateId_ne disk source
  refine ⟨r, hannotate, ?_⟩
  intro hkeeps
  rw [(keepsBlocks_iff caseless hweave hrun).1 hkeeps .plain (plain_mem_passes _) k hmarks] at hin
  exact absurd hin (by decide)

/-- a template with a block between double quotes, and double quotes and a bracket in the block -/
def quotedCode : Text := "<div title=\"\x7b\x7b \"a>b\" \x7d\x7d\" \x7b\x7b $x \x7d\x7d>".toList

/-- in both languages the tag ends at the bracket in the block, and there it gets its marker -/
theorem annotate_splits_block :
    (∃ r, (ofSettings .standard).annotate quotedCode "t".toList none = .ok r ∧
      ¬(ofSettings .standard).KeepsBlocks "t".toList (by decide)
        (Template.parts false Settings.standard.dialect quotedCode) r.output) ∧
    ∃ r, (ofSettings { language := .jinja }).annotate quotedCode "t".toList none = .ok r ∧
      ¬(ofSettings { language := .jinja }).KeepsBlocks "t".toList (by decide)
        (Template.parts false Language.jinja.dialect quotedCode) r.output := by
  have hblade : (ofSettings .standard).MarksAt .plain quotedCode 0 := by decide +kernel
  have hjinja : (ofSettings { language := .jinja }).MarksAt .plain quotedCode 0 := by decide +kernel
  exact ⟨exists_split false (by decide) none hblade (by decide +kernel),
    exists_split false (by decide) none hjinja (by decide +kernel)⟩

end Annotator

end SourceMark
