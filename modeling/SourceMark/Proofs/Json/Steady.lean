/-
A value that was read is read again when more text follows it. For a string, an array and an object that is so without
exception; a number or a word may go on with what follows, so there one more character has to stand behind the value.

Results:
- `readString?_append`: strings.
- `steady_readMagnitude?`, `steady_readPlain?`: numbers and words.
- `steadySteps`: all values, arrays and objects, also with more steps to use.
- `isSpace_of_read?_append`: when a text that starts an object is a value, nothing but blanks may follow it.
-/
import SourceMark.Proofs.Token

namespace SourceMark

theorem Text.dropHead?_append {word text : Text} (h : text <+: word → text = word) (more : Text) :
    dropHead? word (text ++ more) = (dropHead? word text).map (· ++ more) := by
  unfold dropHead?
  induction word generalizing text with
  | nil => rfl
  | cons p word ih =>
    cases text with
    | nil => exact absurd (h List.nil_prefix) (by simp)
    | cons c text =>
      rw [List.cons_append, dropHeadBy?, dropHeadBy?]
      split_ifs with hc
      · refine ih fun hhead => ?_
        rw [beq_iff_eq] at hc
        exact (List.cons.inj (h (List.cons_prefix_cons.2 ⟨hc.symm, hhead⟩))).2
      · rfl

namespace Json

theorem skipSpaces_append {text rest : Text} {c : Char} (h : skipSpaces text = c :: rest) (more : Text) :
    skipSpaces (text ++ more) = c :: (rest ++ more) := by
  unfold skipSpaces at h ⊢
  rw [List.dropWhile_append, h]
  simp

/-! ## Strings -/

theorem readString?_plain {c : Char} (hslash : c ≠ '\\') (hquote : c ≠ '"') (hcontrol : ¬c.toNat < 32) (rest : Text) :
    readString? (c :: rest) = (readString? rest).map (consRead c) := by
  rw [readString?.eq_def]
  simp [hslash, hcontrol]

/-- **A string that is read is read so when more follows.** -/
theorem readString?_append {text value rest : Text} (h : readString? text = some (value, rest)) (more : Text) :
    readString? (text ++ more) = some (value, rest ++ more) := by
  have step {c : Char} {behind value rest : Text}
      (ih : ∀ {value rest : Text}, readString? behind = some (value, rest) →
        readString? (behind ++ more) = some (value, rest ++ more))
      (h : (readString? behind).map (consRead c) = some (value, rest)) :
      (readString? (behind ++ more)).map (consRead c) = some (value, rest ++ more) := by
    obtain ⟨read, hread, hcons⟩ := Option.map_eq_some_iff.1 h
    obtain ⟨rfl, rfl⟩ := Prod.mk.inj hcons
    rw [ih hread]
    rfl
  fun_induction readString? text generalizing value rest
  case case2 behind =>
    obtain ⟨rfl, rfl⟩ := Prod.mk.inj (Option.some.inj h)
    exact readString?.eq_2 _
  case case4 a b c d behind unit hunit hplain ih =>
    simp only [List.cons_append, readString?, hunit, if_pos hplain]
    exact step ih h
  case case7 a b c d high hhigh hplain hlow e f g i behind low hunit hpair ih =>
    simp only [List.cons_append, readString?, hhigh, hunit, if_neg hplain, if_neg hlow, if_pos hpair]
    exact step ih h
  case case11 letter behind hnot c hletter ih =>
    have hu : letter ≠ 'u' := by
      rintro rfl
      rw [show unescape? 'u' = none by decide] at hletter
      cases hletter
    exact (readString?_letter hu hletter _).trans (step ih h)
  case case13 c behind hquote hunit hletter hplain ih =>
    simp only [Bool.or_eq_true, decide_eq_true_eq, not_or] at hplain
    exact (readString?_plain hplain.2 hquote hplain.1 _).trans (step ih h)
  all_goals cases h

/-! ## Numbers and words -/

theorem readDigits?_eq_some_iff {text digits rest : Text} {c : Char} : readDigits? text = some (digits, c :: rest) ↔
    text = digits ++ c :: rest ∧ digits ≠ [] ∧ (∀ d ∈ digits, d.isDigit = true) ∧ c.isDigit = false := by
  unfold readDigits?
  constructor
  · intro h
    split at h
    · cases h
    · next hne =>
      obtain ⟨rfl, hrest⟩ := Prod.mk.inj (Option.some.inj h)
      have hc := List.head?_dropWhile_not Char.isDigit text
      rw [hrest] at hc
      refine ⟨?_, hne, fun d hd => List.mem_takeWhile_imp hd, by simpa using hc⟩
      rw [← hrest, List.takeWhile_append_dropWhile]
  · rintro ⟨rfl, hne, hdigits, hc⟩
    rw [List.takeWhile_append_of_pos hdigits, List.dropWhile_append_of_pos hdigits,
      List.takeWhile_cons_of_neg (by simp [hc]), List.dropWhile_cons_of_neg (by simp [hc]), List.append_nil]
    split
    · next hnil => exact absurd rfl hne
    · rfl

/-- a reader that reads the same when more text follows, as long as it does not read up to the end -/
def Steady {α : Type} (read : Text → Option (α × Text)) : Prop :=
  ∀ {text : Text} {value : α} {c : Char} {rest : Text}, read text = some (value, c :: rest) →
    ∀ more, read (text ++ more) = some (value, c :: (rest ++ more))

theorem Steady.map {α β : Type} {read : Text → Option (α × Text)} (h : Steady read) (f : α → β) :
    Steady fun text => (read text).map fun found => (f found.1, found.2) := by
  intro text value c rest hread more
  obtain ⟨⟨found, behind⟩, hfound, hvalue⟩ := Option.map_eq_some_iff.1 hread
  obtain ⟨rfl, rfl⟩ := Prod.mk.inj hvalue
  simp only [h hfound, Option.map_some]

theorem steady_readDigits? : Steady readDigits? := by
  intro text digits c rest h more
  obtain ⟨rfl, hne, hdigits, hc⟩ := readDigits?_eq_some_iff.1 h
  exact readDigits?_eq_some_iff.2 ⟨by simp, hne, hdigits, hc⟩

theorem steady_readExponent? : Steady readExponent? := by
  intro text exponent c rest h more
  cases text with
  | nil => cases h
  | cons d behind =>
    rw [List.cons_append, readExponent?.eq_def]
    rw [readExponent?.eq_def] at h
    dsimp only at h ⊢
    split_ifs at h ⊢ with he
    · cases behind with
      | nil => cases h
      | cons sign digits =>
        by_cases hminus : sign = '-'
        · subst hminus
          exact (steady_readDigits?.map fun digits => some (-(Nat.ofDigitChars 10 digits 0 : Int))) h more
        by_cases hplus : sign = '+'
        · subst hplus
          exact (steady_readDigits?.map fun digits => some (Nat.ofDigitChars 10 digits 0 : Int)) h more
        · simp only [List.cons_append]
          split at h
          · simp_all
          · simp_all
          · split
            · simp_all
            · simp_all
            · exact (steady_readDigits?.map fun digits => some (Nat.ofDigitChars 10 digits 0 : Int)) h more
    · obtain ⟨rfl, hcons⟩ := Prod.mk.inj (Option.some.inj h)
      obtain ⟨rfl, rfl⟩ := List.cons.inj hcons
      rfl

theorem steady_readMagnitude? (negative : Bool) : Steady (readMagnitude? negative) := by
  intro text value c rest h more
  unfold readMagnitude? at h ⊢
  cases hwhole : readDigits? text with
  | none => simp [hwhole] at h
  | some found =>
    obtain ⟨whole, behind⟩ := found
    cases behind with
    | nil => simp [hwhole, readExponent?] at h
    | cons d behind =>
      simp only [hwhole, steady_readDigits? hwhole, Option.bind_eq_bind, Option.bind_some] at h ⊢
      generalize (if negative = true then -1 else 1 : Int) = sign at h ⊢
      split_ifs at h ⊢ with hzero
      · cases h
      by_cases hd : d = '.'
      · subst hd
        simp only at h ⊢
        obtain ⟨⟨fraction, behindFraction⟩, hfraction, h⟩ := Option.bind_eq_some_iff.1 h
        cases behindFraction with
        | nil => simp [readExponent?] at h
        | cons e behindFraction =>
          simp only [steady_readDigits? hfraction, Option.bind_some]
          obtain ⟨⟨exponent, behindExponent⟩, hexponent, h⟩ := Option.bind_eq_some_iff.1 h
          obtain ⟨rfl, rfl⟩ := Prod.mk.inj (Option.some.inj h)
          rw [← List.cons_append, steady_readExponent? hexponent]
          rfl
      · split at h
        · simp_all
        obtain ⟨⟨exponent, behindExponent⟩, hexponent, h⟩ := Option.bind_eq_some_iff.1 h
        split
        · simp_all
        rw [← List.cons_append]
        cases exponent with
        | none =>
          obtain ⟨rfl, rfl⟩ := Prod.mk.inj (Option.some.inj h)
          rw [steady_readExponent? hexponent]
          rfl
        | some exponent =>
          obtain ⟨rfl, rfl⟩ := Prod.mk.inj (Option.some.inj h)
          rw [steady_readExponent? hexponent]
          rfl

def words : List Text :=
  ["null", "true", "false", "NaN", "Infinity", "-Infinity"].map String.toList

theorem readPlain?_cut : ∀ word ∈ words, ∀ n < word.length, (readPlain? (word.take n)).isNone = true := by
  decide

theorem or_append {α : Type} {first behind first' behind' : Option (α × Text)} {value : α} {rest more : Text}
    (hfirst : first' = first.map fun read => (read.1, read.2 ++ more))
    (hbehind : behind = some (value, rest) → behind' = some (value, rest ++ more))
    (h : first.or behind = some (value, rest)) : first'.or behind' = some (value, rest ++ more) := by
  cases first with
  | none =>
    rw [hfirst]
    exact hbehind h
  | some read =>
    obtain rfl : read = (value, rest) := Option.some.inj h
    rw [hfirst]
    rfl

theorem steady_readPlain? : Steady readPlain? := by
  intro text value c rest h more
  have hcut (word : Text) (hword : word ∈ words) (hhead : text <+: word) : text = word := by
    by_contra hne
    have hlength : text.length < word.length :=
      Nat.lt_of_le_of_ne hhead.length_le fun hlength => hne (hhead.eq_of_length hlength)
    have hnone := readPlain?_cut word hword text.length hlength
    rw [← List.prefix_iff_eq_take.1 hhead, h] at hnone
    cases hnone
  have hword (name : String) (hname : name.toList ∈ words) (value : Json) :
      (Text.dropHead? name.toList (text ++ more)).map (fun rest => (value, rest)) =
        ((Text.dropHead? name.toList text).map fun rest => (value, rest)).map fun read => (read.1, read.2 ++ more) := by
    rw [Text.dropHead?_append (hcut _ hname), Option.map_map, Option.map_map]
    rfl
  unfold readPlain? at h ⊢
  simp only [Option.orElse_eq_orElse, Option.orElse_eq_or] at h ⊢
  -- the words are tried in this order, the number comes last
  refine or_append (hword "null" (by decide) _) (or_append (hword "true" (by decide) _)
    (or_append (hword "false" (by decide) _) (or_append (hword "NaN" (by decide) _)
      (or_append (hword "Infinity" (by decide) _) (or_append (hword "-Infinity" (by decide) _) fun h => ?_))))) h
  cases text with
  | nil => cases h
  | cons d text =>
    by_cases hd : d = '-'
    · subst hd
      exact steady_readMagnitude? true h more
    · rw [List.cons_append]
      split at h
      · simp_all
      · split
        · simp_all
        · exact steady_readMagnitude? false h more

/-! ## Arrays and objects -/

/-- readers of `fuel` steps that read the same when more text follows and more steps are left; an array and an object
need no character behind them -/
structure SteadySteps (fuel : Nat) : Prop where
  value : ∀ {depth : Nat} {text : Text} {value : Json} {c : Char} {rest : Text},
    readValue? fuel depth text = some (value, c :: rest) → ∀ {fuel' : Nat}, fuel ≤ fuel' → ∀ more,
      readValue? fuel' depth (text ++ more) = some (value, c :: (rest ++ more))
  items : ∀ {depth : Nat} {text : Text} {items : List Json} {rest : Text},
    readItems? fuel depth text = some (items, rest) → ∀ {fuel' : Nat}, fuel ≤ fuel' → ∀ more,
      readItems? fuel' depth (text ++ more) = some (items, rest ++ more)
  members : ∀ {depth : Nat} {text : Text} {members : List (Text × Json)} {rest : Text},
    readMembers? fuel depth text = some (members, rest) → ∀ {fuel' : Nat}, fuel ≤ fuel' → ∀ more,
      readMembers? fuel' depth (text ++ more) = some (members, rest ++ more)

theorem readValue?_nil (fuel depth : Nat) : readValue? fuel depth [] = none := by
  cases fuel <;> rfl

theorem readItems?_nil (fuel depth : Nat) : readItems? fuel depth [] = none := by
  cases fuel with
  | zero => rfl
  | succ fuel => rw [readItems?, readValue?_nil]

theorem readMembers?_nil (fuel depth : Nat) : readMembers? fuel depth [] = none := by
  cases fuel <;> rfl

namespace SteadySteps

variable {fuel : Nat} (ih : SteadySteps fuel) {fuel' : Nat} (hfuel : fuel ≤ fuel') {depth : Nat} {text rest : Text}

include ih hfuel

theorem array {value : Json} (h : readValue? (fuel + 1) depth ('[' :: text) = some (value, rest)) (more : Text) :
    readValue? (fuel' + 1) depth ('[' :: text ++ more) = some (value, rest ++ more) := by
  rw [List.cons_append]
  simp only [readValue?] at h ⊢
  cases htext : skipSpaces text with
  | nil => simp [htext, readItems?_nil] at h
  | cons c behind =>
    rw [htext] at h
    rw [skipSpaces_append htext]
    by_cases hc : c = ']'
    · subst hc
      obtain ⟨rfl, rfl⟩ := Prod.mk.inj (Option.some.inj h)
      rfl
    · split at h
      · simp_all
      · split
        · simp_all
        · split_ifs at h ⊢ with hdepth
          obtain ⟨⟨items, behind'⟩, hread, hvalue⟩ := Option.map_eq_some_iff.1 h
          obtain ⟨rfl, rfl⟩ := Prod.mk.inj hvalue
          rw [← List.cons_append, ih.items hread hfuel]
          rfl

theorem object {value : Json} (h : readValue? (fuel + 1) depth ('\x7b' :: text) = some (value, rest)) (more : Text) :
    readValue? (fuel' + 1) depth ('\x7b' :: text ++ more) = some (value, rest ++ more) := by
  rw [List.cons_append]
  simp only [readValue?] at h ⊢
  cases htext : skipSpaces text with
  | nil => simp [htext, readMembers?_nil] at h
  | cons c behind =>
    rw [htext] at h
    rw [skipSpaces_append htext]
    by_cases hc : c = '\x7d'
    · subst hc
      obtain ⟨rfl, rfl⟩ := Prod.mk.inj (Option.some.inj h)
      rfl
    · split at h
      · simp_all
      · split
        · simp_all
        · split_ifs at h ⊢ with hdepth
          obtain ⟨⟨members, behind'⟩, hread, hvalue⟩ := Option.map_eq_some_iff.1 h
          obtain ⟨rfl, rfl⟩ := Prod.mk.inj hvalue
          rw [← List.cons_append, ih.members hread hfuel]
          rfl

theorem value_succ {value : Json} {c : Char} (h : readValue? (fuel + 1) depth text = some (value, c :: rest))
    (more : Text) : readValue? (fuel' + 1) depth (text ++ more) = some (value, c :: (rest ++ more)) := by
  cases text with
  | nil => cases h
  | cons d text =>
    by_cases hbracket : d = '['
    · subst hbracket
      exact ih.array hfuel h more
    by_cases hbrace : d = '\x7b'
    · subst hbrace
      exact ih.object hfuel h more
    by_cases hquote : d = '"'
    · subst hquote
      simp only [List.cons_append, readValue?] at h ⊢
      obtain ⟨⟨value, behind⟩, hread, hvalue⟩ := Option.map_eq_some_iff.1 h
      obtain ⟨rfl, rfl⟩ := Prod.mk.inj hvalue
      rw [readString?_append hread]
      rfl
    · have hplain (fuel : Nat) (text : Text) : readValue? (fuel + 1) depth (d :: text) = readPlain? (d :: text) := by
        rw [readValue?.eq_def]
        simp_all
      rw [hplain] at h
      rw [List.cons_append, hplain]
      exact steady_readPlain? h more

theorem items_succ {items : List Json} (h : readItems? (fuel + 1) depth text = some (items, rest)) (more : Text) :
    readItems? (fuel' + 1) depth (text ++ more) = some (items, rest ++ more) := by
  rw [readItems?] at h ⊢
  cases hitem : readValue? fuel depth text with
  | none =>
    rw [hitem] at h
    cases h
  | some found =>
    obtain ⟨item, behind⟩ := found
    rw [hitem] at h
    cases behind with
    | nil => cases h
    | cons c behind =>
      rw [ih.value hitem hfuel]
      simp only at h ⊢
      cases hspaces : skipSpaces (c :: behind) with
      | nil =>
        rw [hspaces] at h
        cases h
      | cons d behind =>
        rw [← List.cons_append, skipSpaces_append hspaces]
        rw [hspaces] at h
        by_cases hbracket : d = ']'
        · subst hbracket
          obtain ⟨rfl, rfl⟩ := Prod.mk.inj (Option.some.inj h)
          rfl
        by_cases hcomma : d = ','
        · subst hcomma
          obtain ⟨⟨later, behindLater⟩, hread, hvalue⟩ := Option.map_eq_some_iff.1 h
          obtain ⟨rfl, rfl⟩ := Prod.mk.inj hvalue
          cases hnext : skipSpaces behind with
          | nil =>
            rw [hnext, readItems?_nil] at hread
            cases hread
          | cons e behind =>
            rw [hnext] at hread
            simp only [skipSpaces_append hnext]
            rw [← List.cons_append, ih.items hread hfuel]
            rfl
        · split at h
          · simp_all
          · simp_all
          · cases h

theorem later_members {name : Text} {value : Json} {members : List (Text × Json)}
    (h : (match skipSpaces text with
      | '\x7d' :: rest => some ([(name, value)], rest)
      | ',' :: rest => (readMembers? fuel depth (skipSpaces rest)).map fun read => ((name, value) :: read.1, read.2)
      | _ => none) = some (members, rest)) (more : Text) :
    (match skipSpaces (text ++ more) with
      | '\x7d' :: rest => some ([(name, value)], rest)
      | ',' :: rest => (readMembers? fuel' depth (skipSpaces rest)).map fun read => ((name, value) :: read.1, read.2)
      | _ => none) = some (members, rest ++ more) := by
  cases hspaces : skipSpaces text with
  | nil =>
    rw [hspaces] at h
    cases h
  | cons d behind =>
    rw [skipSpaces_append hspaces]
    rw [hspaces] at h
    by_cases hbrace : d = '\x7d'
    · subst hbrace
      obtain ⟨rfl, rfl⟩ := Prod.mk.inj (Option.some.inj h)
      rfl
    by_cases hcomma : d = ','
    · subst hcomma
      obtain ⟨⟨later, behindLater⟩, hread, hvalue⟩ := Option.map_eq_some_iff.1 h
      obtain ⟨rfl, rfl⟩ := Prod.mk.inj hvalue
      cases hnext : skipSpaces behind with
      | nil =>
        rw [hnext, readMembers?_nil] at hread
        cases hread
      | cons e behind =>
        rw [hnext] at hread
        simp only [skipSpaces_append hnext]
        rw [← List.cons_append, ih.members hread hfuel]
        rfl
    · split at h
      · simp_all
      · simp_all
      · cases h

theorem members_succ {members : List (Text × Json)} (h : readMembers? (fuel + 1) depth text = some (members, rest))
    (more : Text) : readMembers? (fuel' + 1) depth (text ++ more) = some (members, rest ++ more) := by
  obtain ⟨text, rfl⟩ : ∃ behind, text = '"' :: behind := by
    cases text with
    | nil => cases h
    | cons c text =>
      by_cases hc : c = '"'
      · exact ⟨text, hc ▸ rfl⟩
      · rw [readMembers?.eq_def] at h
        split at h <;> simp_all
  simp only [List.cons_append, readMembers?] at h ⊢
  cases hname : readString? text with
  | none =>
    rw [hname] at h
    cases h
  | some found =>
    obtain ⟨name, behind⟩ := found
    rw [hname] at h
    rw [readString?_append hname]
    simp only at h ⊢
    cases hspaces : skipSpaces behind with
    | nil =>
      rw [hspaces] at h
      cases h
    | cons d behind =>
      rw [hspaces] at h
      rw [skipSpaces_append hspaces]
      by_cases hcolon : d = ':'
      · subst hcolon
        simp only at h ⊢
        cases hwritten : skipSpaces behind with
        | nil =>
          rw [hwritten, readValue?_nil] at h
          cases h
        | cons e written =>
          rw [hwritten] at h
          rw [skipSpaces_append hwritten, ← List.cons_append]
          cases hvalue : readValue? fuel depth (e :: written) with
          | none =>
            rw [hvalue] at h
            cases h
          | some found =>
            obtain ⟨value, behind⟩ := found
            rw [hvalue] at h
            cases behind with
            | nil => cases h
            | cons c behind =>
              rw [ih.value hvalue hfuel, ← List.cons_append]
              exact ih.later_members hfuel h more
      · split at h
        · simp_all
        · cases h

end SteadySteps

/-- **Every reader is steady**, and more steps change nothing. -/
theorem steadySteps (fuel : Nat) : SteadySteps fuel := by
  induction fuel with
  | zero =>
    constructor
    case value => exact fun h => nomatch h
    case items => exact fun h => nomatch h
    case members => exact fun h => nomatch h
  | succ fuel ih =>
    have hsucc {fuel' : Nat} (hfuel : fuel + 1 ≤ fuel') : ∃ less, fuel' = less + 1 ∧ fuel ≤ less :=
      ⟨fuel' - 1, by omega, by omega⟩
    constructor
    case value =>
      intro _ _ _ _ _ h _ hfuel more
      obtain ⟨less, rfl, hless⟩ := hsucc hfuel
      exact ih.value_succ hless h more
    case items =>
      intro _ _ _ _ h _ hfuel more
      obtain ⟨less, rfl, hless⟩ := hsucc hfuel
      exact ih.items_succ hless h more
    case members =>
      intro _ _ _ _ h _ hfuel more
      obtain ⟨less, rfl, hless⟩ := hsucc hfuel
      exact ih.members_succ hless h more

/-- **An object ends with its closing brace.** When its text up to there is a value, only blanks may follow. -/
theorem isSpace_of_read?_append {text more : Text} {value value' : Json} (h : read? ('\x7b' :: text) = some value)
    (happend : read? ('\x7b' :: text ++ more) = some value') : ∀ c ∈ more, isSpace c = true := by
  have hskip (text : Text) : skipSpaces ('\x7b' :: text) = '\x7b' :: text := skipSpaces_of_head? (by simp [isSpace])
  rw [read?, hskip] at h
  rw [read?, List.cons_append, hskip] at happend
  cases hread : readValue? (2 * ('\x7b' :: text).length + 2) maxNesting ('\x7b' :: text) with
  | none =>
    rw [hread] at h
    cases h
  | some found =>
    obtain ⟨found, rest⟩ := found
    have hfuel : 2 * ('\x7b' :: text).length + 1 ≤ 2 * ('\x7b' :: (text ++ more)).length + 1 := by
      simp only [List.length_cons, List.length_append]
      omega
    have hlonger := (steadySteps _).object hfuel hread more
    rw [List.cons_append] at hlonger
    rw [hlonger] at happend
    by_cases hempty : (skipSpaces (rest ++ more)).isEmpty = true
    · have hall : ∀ c ∈ rest ++ more, isSpace c = true := List.dropWhile_eq_nil_iff.1 (List.isEmpty_iff.1 hempty)
      exact fun c hc => hall c (List.mem_append_right _ hc)
    · simp only [hempty] at happend
      cases happend

end Json

end SourceMark
