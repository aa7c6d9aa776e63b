/-
The scan by positions. It searches for the next stretch that is never markup, directive call or tag name, jumps behind
what it has found, and goes on from there as long as it is in the text. With a sound dialect no search comes back to the
place where it began, no walk asks for what is not there, and the tags are those of the scan over characters.

Results:
- `searchFrom?_spec`: what a search finds is what the scan over characters reads first.
- `scan_eq`: the tags of a scan.
- `sound_dialect`: the built-in languages are sound.
-/
import SourceMark.Proofs.Checked.Walk
import SourceMark.Proofs.Scan.Rescan

namespace SourceMark.Checked

/-! ## Searches -/

/-- what a search finds: a stretch that yields nothing, the head of a directive call, or the start of a tag with its
name -/
inductive Hit where
  | stretch (stop : Nat)
  | call (stop : Nat)
  | name (start stop : Nat)

def nameAt? (s : Scanner) (position : Nat) : Text → Option Hit
  | '<' :: rest => (s.nameLength? rest).map fun n => .name position (position + (n + 1))
  | _ => none

/-- what stands at the head of the text, which starts at `position` behind `before` -/
def hitAt? (s : Scanner) (before : Option Char) (position : Nat) (text : Text) : Option Hit :=
  match Scanner.behindOpaque? s.dialect before text with
  | some rest => some (.stretch (position + (text.length - rest.length)))
  | none =>
    match Scanner.callHead? s.dialect before text with
    | some n => some (.call (position + n))
    | none => nameAt? s position text

/-- what stands first in the text -/
def searchFrom? (s : Scanner) : (before : Option Char) → (position : Nat) → Text → Option Hit
  | before, position, [] => hitAt? s before position []
  | before, position, c :: rest =>
    (hitAt? s before position (c :: rest)).or (searchFrom? s (some c) (position + 1) rest)

def search? (s : Scanner) (text : Text) (position : Nat) : Option Hit :=
  searchFrom? s (text.take position).getLast? position (text.drop position)

/-! ## Scans -/

/-- goes on behind what is found first; the tags so far are kept -/
def scanRound (s : Scanner) (text : Text) (tags : List Tag) (position : Nat) :
    Except Fault (Round (List Tag) (List Tag)) :=
  if text.length < position then .ok (.done tags)
  else
    match search? s text position with
    | none => .ok (.done tags)
    | some (.stretch stop) => .ok (.next tags stop)
    | some (.call stop) => do
      let behind? ← regionEnd s.dialect.nestedRegions text [[')']] stop
      .ok (.next tags (behind?.getD stop))
    | some (.name start stop) => do
      match ← tagEnd s.dialect.nestedRegions text stop with
      | none => .ok (.next tags stop)
      | some (bracket, nestedGt) =>
        .ok (.next (tags ++ [⟨slice text (start + 1) stop, slice text stop bracket, start, nestedGt⟩]) (bracket + 1))

def scan (s : Scanner) (text : Text) : Except Fault (List Tag) :=
  iterate text.length (scanRound s text) [] 0

/-! ## Stretches -/

/-- a dialect whose delimiters have characters in them and whose regions are well formed -/
structure Sound (d : Dialect) : Prop where
  regions : WellFormed d.nestedRegions
  blocks : ∀ block ∈ d.codeBlocks, block.opener ≠ []
  directives : ∀ block ∈ d.blockDirectives, block.opener ≠ []

theorem length_of_dropHeadBy? {same : Char → Char → Bool} {pattern text rest : Text}
    (h : Text.dropHeadBy? same pattern text = some rest) : rest.length + pattern.length = text.length := by
  obtain ⟨rfl, hle⟩ := Text.dropHeadBy?_eq_drop h
  rw [List.length_drop]
  omega

theorem behindCloser?_le {closer text rest : Text} (h : Scanner.behindCloser? closer text = some rest) :
    rest.length ≤ text.length := by
  induction text with
  | nil =>
    have := length_of_dropHeadBy? h
    omega
  | cons c text ih =>
    rcases Option.or_eq_some_iff.1 h with h | ⟨-, h⟩
    · have := length_of_dropHeadBy? h
      omega
    · exact Nat.le_succ_of_le (ih h)

theorem behindStartTag?_le {quote : Option Char} {text rest : Text}
    (h : Scanner.behindStartTag? quote text = some rest) : rest.length ≤ text.length := by
  induction text generalizing quote with
  | nil => cases quote <;> simp [Scanner.behindStartTag?] at h
  | cons c text ih =>
    cases quote with
    | some quote => exact Nat.le_succ_of_le (ih h)
    | none =>
      rw [Scanner.behindStartTag?] at h
      split_ifs at h with hgt hlt
      · rw [Option.some.inj h]
        exact Nat.le_succ _
      · exact Nat.le_succ_of_le (ih h)
      · exact Nat.le_succ_of_le (ih h)

theorem behindEndTagAt?_le {name text rest : Text} (h : Scanner.behindEndTagAt? name text = some rest) :
    rest.length ≤ text.length := by
  obtain ⟨opened, hopened, h⟩ := Option.bind_eq_some_iff.1 h
  obtain ⟨named, hnamed, h⟩ := Option.bind_eq_some_iff.1 h
  have hopenedlen := length_of_dropHeadBy? hopened
  have hnamedlen := length_of_dropHeadBy? hnamed
  have hblank := (List.dropWhile_sublist Text.isBlank (l := named)).length_le
  split at h
  · next behind hbehind =>
    rw [hbehind, List.length_cons] at hblank
    rw [← Option.some.inj h]
    omega
  · simp at h

theorem behindEndTag?_le {name text rest : Text} (h : Scanner.behindEndTag? name text = some rest) :
    rest.length ≤ text.length := by
  induction text with
  | nil => simp [Scanner.behindEndTag?] at h
  | cons c text ih =>
    rcases Option.or_eq_some_iff.1 h with h | ⟨-, h⟩
    · exact behindEndTagAt?_le h
    · exact Nat.le_succ_of_le (ih h)

theorem behindRawText?_lt {text rest : Text} (h : Scanner.behindRawText? text = some rest) :
    rest.length < text.length := by
  unfold Scanner.behindRawText? at h
  split at h
  · next text =>
    obtain ⟨name, -, h⟩ := List.exists_of_findSome?_eq_some h
    obtain ⟨named, hnamed, h⟩ := Option.bind_eq_some_iff.1 h
    split_ifs at h
    obtain ⟨body, hbody, h⟩ := Option.bind_eq_some_iff.1 h
    have := length_of_dropHeadBy? hnamed
    have := behindStartTag?_le hbody
    have := behindEndTag?_le h
    rw [List.length_cons]
    omega
  · simp at h

theorem behindWord?_length {word text rest : Text} {before : Option Char}
    (h : Scanner.behindWord? word before text = some rest) : rest.length + word.length = text.length := by
  unfold Scanner.behindWord? at h
  split_ifs at h
  exact length_of_dropHeadBy? (Option.eq_some_of_filter_eq_some h)

theorem behindLaterWord?_le {word text rest : Text} {before : Option Char}
    (h : Scanner.behindLaterWord? word before text = some rest) : rest.length ≤ text.length := by
  induction text generalizing before with
  | nil =>
    have := behindWord?_length h
    omega
  | cons c text ih =>
    rcases Option.or_eq_some_iff.1 h with h | ⟨-, h⟩
    · have := behindWord?_length h
      omega
    · exact Nat.le_succ_of_le (ih h)

/-- **A stretch that is never markup has characters in it.** -/
theorem behindOpaque?_lt {d : Dialect} (hd : Sound d) {before : Option Char} {text rest : Text}
    (h : Scanner.behindOpaque? d before text = some rest) : rest.length < text.length := by
  rcases Option.or_eq_some_iff.1 h with h | ⟨-, h⟩
  · exact behindRawText?_lt h
  rcases Option.or_eq_some_iff.1 h with h | ⟨-, h⟩
  · obtain ⟨block, hblock, h⟩ := List.exists_of_findSome?_eq_some h
    obtain ⟨opened, hopened, h⟩ := Option.bind_eq_some_iff.1 h
    have := length_of_dropHeadBy? hopened
    have := behindCloser?_le h
    have := List.length_pos_of_ne_nil (hd.blocks block hblock)
    omega
  · obtain ⟨block, hblock, h⟩ := List.exists_of_findSome?_eq_some h
    obtain ⟨opened, hopened, h⟩ := Option.bind_eq_some_iff.1 h
    split_ifs at h
    have := behindWord?_length hopened
    have := behindLaterWord?_le h
    have := List.length_pos_of_ne_nil (hd.directives block hblock)
    omega

/-! ## What a search finds -/

section Search

variable (s : Scanner)

/-- the tags of a scan that goes on behind the first `n` characters of a text -/
def behind (before : Option Char) (position : Nat) (text : Text) (n : Nat) : List Tag :=
  s.scanFrom 0 ((text.take n).getLast?.or before) (position + n) (text.drop n)

theorem scanFrom_eq_behind (before : Option Char) (position n : Nat) (c : Char) (rest : Text) :
    s.scanFrom n (some c) (position + 1) rest = behind s before position (c :: rest) (n + 1) := by
  rw [Scanner.scanFrom_skip, behind, List.take_succ_cons, List.drop_succ_cons, List.getLast?_cons, Option.or_some,
    Nat.add_assoc, Nat.add_comm 1 n]
  rfl

theorem behind_cons (before : Option Char) (position n : Nat) (c : Char) (rest : Text) :
    behind s (some c) (position + 1) rest n = behind s before position (c :: rest) (n + 1) := by
  rw [← scanFrom_eq_behind, Scanner.scanFrom_skip, behind]

/-- what the scan over characters makes of what a search has found -/
def Reads (before : Option Char) (position : Nat) (text : Text) : Option Hit → Prop
  | none => s.scanFrom 0 before position text = []
  | some (.stretch stop) => ∃ n, 0 < n ∧ stop = position + n ∧
    s.scanFrom 0 before position text = behind s before position text n
  | some (.call stop) => ∃ n, 0 < n ∧ stop = position + n ∧ s.scanFrom 0 before position text =
    behind s before position text (n + (Nesting.length? s.dialect.nestedRegions 0 [[')']] (text.drop n)).getD 0)
  | some (.name start stop) => ∃ i n, start = position + i ∧ stop = position + n ∧ i < n ∧
    s.scanFrom 0 before position text =
      match Nesting.body? s.dialect.nestedRegions (text.drop n) with
      | none => behind s before position text n
      | some body => ⟨(text.drop (i + 1)).take (n - (i + 1)), body.attributes, start, body.nestedGt⟩ ::
          behind s before position text (n + body.attributes.length + 1)

variable {s}

/-- what is read behind an ordinary character is read from that character on -/
theorem Reads.cons {before : Option Char} {position : Nat} {c : Char} {rest : Text} {hit : Option Hit}
    (hordinary : s.scanFrom 0 before position (c :: rest) = s.scanFrom 0 (some c) (position + 1) rest)
    (h : Reads s (some c) (position + 1) rest hit) : Reads s before position (c :: rest) hit := by
  match hit, h with
  | none, h => exact hordinary.trans h
  | some (.stretch _), ⟨n, hn, hstop, h⟩ =>
    refine ⟨n + 1, Nat.succ_pos n, by omega, ?_⟩
    rw [hordinary, h, behind_cons]
  | some (.call _), ⟨n, hn, hstop, h⟩ =>
    refine ⟨n + 1, Nat.succ_pos n, by omega, ?_⟩
    rw [hordinary, h, behind_cons s before, List.drop_succ_cons, Nat.add_right_comm]
  | some (.name _ _), ⟨i, n, hstart, hstop, hlt, h⟩ =>
    refine ⟨i + 1, n + 1, by omega, by omega, by omega, ?_⟩
    rw [hordinary, h, List.drop_succ_cons, List.drop_succ_cons, Nat.add_sub_add_right]
    cases Nesting.body? s.dialect.nestedRegions (rest.drop n) with
    | none => exact behind_cons s before position n c rest
    | some body =>
      refine congrArg (_ :: ·) ((behind_cons s before position _ c rest).trans ?_)
      rw [Nat.add_right_comm n 1]

theorem callHead?_pos {d : Dialect} {before : Option Char} {text : Text} {n : Nat}
    (h : Scanner.callHead? d before text = some n) : 0 < n := by
  obtain ⟨word, -, rfl⟩ := Option.map_eq_some_iff.1 h
  exact Nat.succ_pos _

theorem callHead?_nil (d : Dialect) (before : Option Char) : Scanner.callHead? d before [] = none := by
  have hnone : d.directiveAt? Text.sameLetter (fun rest => Dialect.wordEnds rest && Scanner.callFollows rest) before
      [] = none := by
    unfold Dialect.directiveAt? Dialect.directiveHead?
    split
    · rfl
    · next head hhead =>
      split at hhead
      · split_ifs at hhead
        obtain rfl := Option.some.inj hhead
        simp [Text.dropHeadBy?]
      · simp at hhead
  rw [Scanner.callHead?, hnone]
  rfl

theorem hitAt?_nil (hd : Sound s.dialect) (before : Option Char) (position : Nat) :
    hitAt? s before position [] = none := by
  have hstretch : Scanner.behindOpaque? s.dialect before [] = none := by
    cases h : Scanner.behindOpaque? s.dialect before [] with
    | none => rfl
    | some rest => exact absurd (behindOpaque?_lt hd h) (Nat.not_lt_zero _)
  simp only [hitAt?, hstretch, callHead?_nil, nameAt?]

theorem nameAt?_of_ne {position : Nat} {c : Char} (h : c ≠ '<') (rest : Text) :
    nameAt? s position (c :: rest) = none := by
  unfold nameAt?
  split
  · next heq => exact absurd (List.head_eq_of_cons_eq heq) h
  · rfl

theorem tagAt?_of_nameAt?_eq_none {position : Nat} {text : Text} (h : nameAt? s position text = none) :
    s.tagAt? position text = none := by
  cases text with
  | nil => rfl
  | cons c rest =>
    by_cases hc : c = '<'
    · subst hc
      have hname : s.nameLength? rest = none := by simpa [nameAt?] using h
      rw [Scanner.tagAt?, hname, Option.map_none]
    · exact s.tagAt?_of_ne position hc rest

theorem exists_name {position : Nat} {c : Char} {rest : Text} {hit : Hit}
    (h : nameAt? s position (c :: rest) = some hit) :
    c = '<' ∧ ∃ n, s.nameLength? rest = some n ∧ hit = .name position (position + (n + 1)) := by
  by_cases hc : c = '<'
  · subst hc
    obtain ⟨n, hn, hhit⟩ := Option.map_eq_some_iff.1 h
    exact ⟨rfl, n, hn, hhit.symm⟩
  · rw [nameAt?_of_ne hc] at h
    exact absurd h (by simp)

theorem read_eq_tagAt? {before : Option Char} {position : Nat} {text : Text}
    (hstretch : Scanner.behindOpaque? s.dialect before text = none)
    (hcall : Scanner.callHead? s.dialect before text = none) :
    s.read before position text = (s.tagAt? position text).getD .ordinary := by
  simp only [Scanner.read, hstretch, Scanner.call?, hcall, Option.map_none]

theorem read_of_hitAt?_eq_none {before : Option Char} {position : Nat} {text : Text}
    (h : hitAt? s before position text = none) : s.read before position text = .ordinary := by
  unfold hitAt? at h
  split at h
  · simp at h
  · next hstretch =>
    split at h
    · simp at h
    · next hcall => rw [read_eq_tagAt? hstretch hcall, tagAt?_of_nameAt?_eq_none h, Option.getD_none]

theorem scanFrom_of_stretch {before : Option Char} {position n : Nat} {c : Char} {rest : Text} (hn : 0 < n)
    (h : s.read before position (c :: rest) = .stretch n) :
    s.scanFrom 0 before position (c :: rest) = behind s before position (c :: rest) n := by
  rw [← Nat.sub_add_cancel hn, ← scanFrom_eq_behind]
  simp only [Scanner.scanFrom, h]

theorem scanFrom_of_tag {before : Option Char} {position : Nat} {c : Char} {rest : Text} {t : Tag}
    (h : s.read before position (c :: rest) = .tag t) :
    s.scanFrom 0 before position (c :: rest) = t :: behind s before position (c :: rest) t.text.length := by
  have hlength : 0 < t.text.length := by simp [Tag.text]
  rw [← Nat.sub_add_cancel hlength, ← scanFrom_eq_behind]
  simp only [Scanner.scanFrom, h]

/-- **What is found at the head of a text is what is read there.** -/
theorem reads_of_hitAt? (hd : Sound s.dialect) {before : Option Char} {position : Nat} {c : Char} {rest : Text}
    {hit : Hit} (h : hitAt? s before position (c :: rest) = some hit) :
    Reads s before position (c :: rest) (some hit) := by
  unfold hitAt? at h
  split at h
  · next after hstretch =>
    obtain rfl := Option.some.inj h
    have hlt := behindOpaque?_lt hd hstretch
    refine ⟨(c :: rest).length - after.length, by omega, rfl, ?_⟩
    have hread : s.read before position (c :: rest) = .stretch ((c :: rest).length - after.length) := by
      simp only [Scanner.read, hstretch]
    exact scanFrom_of_stretch (by omega) hread
  next hstretch =>
  split at h
  · next n hcall =>
    obtain rfl := Option.some.inj h
    have hn := callHead?_pos hcall
    refine ⟨n, hn, rfl, ?_⟩
    have hread : s.read before position (c :: rest) =
        .stretch (n + (Nesting.length? s.dialect.nestedRegions 0 [[')']] ((c :: rest).drop n)).getD 0) := by
      simp only [Scanner.read, hstretch, Scanner.call?, hcall, Option.map_some]
    exact scanFrom_of_stretch (by omega) hread
  next hcall =>
  obtain ⟨rfl, n, hn, rfl⟩ := exists_name h
  have hforeign : Scanner.Foreign s [] := ⟨by simp, by simp, by simp⟩
  have hlength := (Scanner.nameLength?_chars hforeign hn).2.1
  refine ⟨0, n + 1, rfl, rfl, Nat.succ_pos n, ?_⟩
  rw [List.drop_succ_cons]
  cases hbody : Nesting.body? s.dialect.nestedRegions (rest.drop n) with
  | none =>
    have htag : s.tagAt? position ('<' :: rest) = some (.stretch (n + 1)) := by simp [Scanner.tagAt?, hn, hbody]
    exact scanFrom_of_stretch (Nat.succ_pos n) (by rw [read_eq_tagAt? hstretch hcall, htag, Option.getD_some])
  | some body =>
    have htag : s.tagAt? position ('<' :: rest) =
        some (.tag ⟨rest.take n, body.attributes, position, body.nestedGt⟩) := by simp [Scanner.tagAt?, hn, hbody]
    have htext : (Tag.mk (rest.take n) body.attributes position body.nestedGt).text.length =
        n + 1 + body.attributes.length + 1 := by
      simp only [Tag.text, List.length_append, List.length_cons, List.length_nil, List.length_take,
        Nat.min_eq_left hlength]
    rw [scanFrom_of_tag (by rw [read_eq_tagAt? hstretch hcall, htag, Option.getD_some]), htext]
    rfl

/-- **What a search finds** is what the scan over characters reads first. -/
theorem searchFrom?_spec (hd : Sound s.dialect) (before : Option Char) (position : Nat) (text : Text) :
    Reads s before position text (searchFrom? s before position text) := by
  induction text generalizing before position with
  | nil =>
    rw [searchFrom?, hitAt?_nil hd]
    rfl
  | cons c rest ih =>
    rw [searchFrom?]
    cases hhit : hitAt? s before position (c :: rest) with
    | some hit => exact reads_of_hitAt? hd hhit
    | none =>
      refine Reads.cons ?_ (ih (some c) (position + 1))
      rw [Scanner.scanFrom, read_of_hitAt?_eq_none hhit]

/-- the tags from a position on -/
def tagsFrom (s : Scanner) (text : Text) (position : Nat) : List Tag :=
  s.scanFrom 0 (text.take position).getLast? position (text.drop position)

theorem behind_eq_tagsFrom (text : Text) (position n : Nat) :
    behind s (text.take position).getLast? position (text.drop position) n = tagsFrom s text (position + n) := by
  rw [behind, tagsFrom, List.drop_drop, List.take_add, List.getLast?_append]

end Search

/-- the tags so far with those from a position on -/
def expectedTags (s : Scanner) (text : Text) (tags : List Tag) (position : Nat) : List Tag :=
  tags ++ tagsFrom s text position

theorem scanRound_keeps {s : Scanner} (hd : Sound s.dialect) (text : Text) (tags : List Tag) (position : Nat) :
    Keeps text.length (scanRound s text) (fun _ _ => True) (expectedTags s text) tags position := by
  unfold Keeps
  rw [scanRound, expectedTags]
  split_ifs with hend
  · left
    have hnil : tagsFrom s text position = [] := by
      rw [tagsFrom, List.drop_eq_nil_of_le (Nat.le_of_lt hend)]
      rfl
    rw [hnil, List.append_nil]
  have hreads := searchFrom?_spec hd (text.take position).getLast? position (text.drop position)
  rw [search?]
  match searchFrom? s (text.take position).getLast? position (text.drop position), hreads with
  | none, hreads =>
    left
    rw [tagsFrom, hreads, List.append_nil]
  | some (.stretch _), ⟨n, hn, rfl, hreads⟩ =>
    refine .inr ⟨_, _, rfl, by omega, by omega, trivial, ?_⟩
    rw [expectedTags, ← behind_eq_tagsFrom, ← hreads, tagsFrom]
  | some (.call _), ⟨n, hn, rfl, hreads⟩ =>
    have hclosable : Nesting.Closable [[')']] := by simp [Nesting.Closable]
    have hstop (length? : Option Nat) :
        (length?.map (position + n + ·)).getD (position + n) = position + (n + length?.getD 0) := by
      cases length? with
      | none => rfl
      | some m => exact Nat.add_assoc position n m
    simp only [regionEnd_eq hd.regions text hclosable, ok_bind, hstop, ← List.drop_drop]
    refine .inr ⟨_, _, rfl, by omega, by omega, trivial, ?_⟩
    rw [expectedTags, ← behind_eq_tagsFrom, ← hreads, tagsFrom]
  | some (.name _ _), ⟨i, n, rfl, rfl, hlt, hreads⟩ =>
    simp only [tagEnd_eq hd.regions, ok_bind, ← List.drop_drop]
    cases hbody : Nesting.body? s.dialect.nestedRegions ((text.drop position).drop n) with
    | none =>
      refine .inr ⟨_, _, rfl, by omega, by omega, trivial, ?_⟩
      rw [hbody] at hreads
      rw [expectedTags, ← behind_eq_tagsFrom]
      exact congrArg (tags ++ ·) hreads.symm
    | some body =>
      refine .inr ⟨_, _, rfl, by omega, by omega, trivial, ?_⟩
      rw [hbody] at hreads
      have hattributes : slice text (position + n) (position + n + body.attributes.length) = body.attributes := by
        rw [List.drop_drop] at hbody
        exact slice_of_drop (Nesting.body?_eq_some hbody)
      have hname : slice text (position + i + 1) (position + n) =
          ((text.drop position).drop (i + 1)).take (n - (i + 1)) := by
        rw [slice, List.drop_drop, Nat.add_assoc, show position + n - (position + (i + 1)) = n - (i + 1) by omega]
      rw [expectedTags, hattributes, hname, List.append_assoc, List.singleton_append, Nat.add_assoc (position + n),
        Nat.add_assoc position, ← behind_eq_tagsFrom, tagsFrom, hreads]
      rfl

/-- **The tags of a scan** are those of the scan over characters. -/
theorem scan_eq {s : Scanner} (hd : Sound s.dialect) (text : Text) : scan s text = .ok (s.scan text) := by
  rw [scan, iterate_eq (fun tags position _ => scanRound_keeps hd text tags position) trivial]
  rfl

/-- **The built-in languages are sound.** -/
theorem sound_dialect (language : Language) : Sound language.dialect := by
  have hclosers : Nesting.Closes language.dialect.nestedRegions := by
    unfold Nesting.Closes
    cases language <;> decide +kernel
  cases language with
  | blade => exact ⟨⟨by decide +kernel, hclosers, by decide +kernel⟩, by decide +kernel, by decide +kernel⟩
  | jinja => exact ⟨⟨by decide +kernel, hclosers, by decide +kernel⟩, by decide +kernel, by decide +kernel⟩

end SourceMark.Checked
