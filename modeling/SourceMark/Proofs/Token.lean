/-
Tokens are read back. Each layer of a token is undone by its reader: characters as bytes, characters in a written string,
digits of a number, and the members of a reference.

Results:
- `Utf8.decode_encode`: bytes of a text give it back.
- `Json.readString?_written`: a written string gives its text back, with whatever follows it.
- `Token.read?_token`: a token gives its reference back.
- `Token.read?_padded`: so it does with blanks around it, and an id and a line that are accepted always have a token.
-/
import SourceMark.Proofs.Marker.Shape
import SourceMark.Token

namespace SourceMark

/-! ## Bytes -/

namespace Utf8

theorem decodeFrom_skip (skipped rest : Bytes) (position : Nat) :
    decodeFrom skipped.length position (skipped ++ rest) = decodeFrom 0 (position + skipped.length) rest := by
  induction skipped generalizing position with
  | nil => rfl
  | cons byte skipped ih =>
    rw [List.length_cons, List.cons_append, decodeFrom, ih]
    congr 1
    omega

/-- a first byte whose following bytes are in range gives its character -/
theorem decodeFrom_of_tail {first : UInt8} {bits : Nat} {expected : List (Nat × Nat)} {rest : Bytes} {c : Char}
    (position : Nat) (following : Bytes) (hlead : lead? first.toNat = some (bits, expected))
    (htail : tail bits 1 expected (following ++ rest) = .ok c.toNat) (hlength : expected.length = following.length) :
    decodeFrom 0 position (first :: following ++ rest) =
      (decodeFrom 0 (position + 1 + following.length) rest).map (c :: ·) := by
  rw [List.cons_append, decodeFrom, hlead]
  simp only [htail, hlength, decodeFrom_skip, Char.ofNat_toNat]

theorem tail_cons {bits good low high n : Nat} {expected : List (Nat × Nat)} {rest : Bytes} (hbyte : n < 0x100)
    (hlow : low ≤ n) (hhigh : n ≤ high) :
    tail bits good ((low, high) :: expected) (.ofNat n :: rest) =
      tail (bits * 0x40 + n % 0x40) (good + 1) expected rest := by
  have hn : (UInt8.ofNat n).toNat = n := UInt8.toNat_ofNat_of_lt hbyte
  rw [tail, hn, if_pos (by simp [hlow, hhigh])]

theorem lead?_three {n : Nat} (h : 0x800 ≤ n) (hlt : n < 0x10000) (hvalid : n < 0xD800 ∨ 0xDFFF < n) :
    ∃ low high, lead? (0xE0 + n / 0x1000) = some (n / 0x1000, [(low, high), (0x80, 0xBF)]) ∧
      low ≤ 0x80 + n / 0x40 % 0x40 ∧ 0x80 + n / 0x40 % 0x40 ≤ high := by
  rcases Nat.lt_or_ge n 0x1000 with h₁ | h₁
  · have hzero : n / 0x1000 = 0 := Nat.div_eq_of_lt h₁
    refine ⟨0xA0, 0xBF, by rw [hzero]; rfl, by omega, by omega⟩
  · by_cases hsurrogate : n / 0x1000 = 0xD
    · exact ⟨0x80, 0x9F, by rw [hsurrogate]; rfl, by omega, by omega⟩
    · refine ⟨0x80, 0xBF, ?_, by omega, by omega⟩
      rw [lead?, if_neg (by omega), if_neg (by omega), if_neg (by omega), if_neg (by omega), if_neg (by omega),
        if_pos (by omega), Nat.add_sub_cancel_left]

theorem lead?_four {n : Nat} (h : 0x10000 ≤ n) (hlt : n < 0x110000) :
    ∃ low high, lead? (0xF0 + n / 0x40000) = some (n / 0x40000, [(low, high), (0x80, 0xBF), (0x80, 0xBF)]) ∧
      low ≤ 0x80 + n / 0x1000 % 0x40 ∧ 0x80 + n / 0x1000 % 0x40 ≤ high := by
  rcases Nat.lt_or_ge n 0x40000 with h₁ | h₁
  · have hzero : n / 0x40000 = 0 := Nat.div_eq_of_lt h₁
    refine ⟨0x90, 0xBF, by rw [hzero]; rfl, by omega, by omega⟩
  · by_cases hlast : n / 0x40000 = 4
    · exact ⟨0x80, 0x8F, by rw [hlast]; rfl, by omega, by omega⟩
    · refine ⟨0x80, 0xBF, ?_, by omega, by omega⟩
      rw [lead?, if_neg (by omega), if_neg (by omega), if_neg (by omega), if_neg (by omega), if_neg (by omega),
        if_neg (by omega), if_neg (by omega), if_pos (by omega), Nat.add_sub_cancel_left]

/-- **One character is read back.** -/
theorem decodeFrom_encodeChar (c : Char) (position : Nat) (rest : Bytes) :
    ∃ position', decodeFrom 0 position (encodeChar c ++ rest) = (decodeFrom 0 position' rest).map (c :: ·) := by
  have hvalid : c.toNat < 0xD800 ∨ 0xDFFF < c.toNat ∧ c.toNat < 0x110000 := c.valid
  unfold encodeChar
  extract_lets n
  have hlead {k : Nat} (hk : k < 0x100) : (UInt8.ofNat k).toNat = k := UInt8.toNat_ofNat_of_lt hk
  split_ifs with h₁ h₂ h₃
  · have hfirst : lead? (UInt8.ofNat n).toNat = some (n, []) := by
      rw [hlead (by omega), lead?, if_pos h₁]
    exact ⟨_, decodeFrom_of_tail position [] hfirst rfl rfl⟩
  · have hfirst : lead? (UInt8.ofNat (0xC0 + n / 0x40)).toNat = some (n / 0x40, [(0x80, 0xBF)]) := by
      rw [hlead (by omega), lead?, if_neg (by omega), if_neg (by omega), if_pos (by omega), Nat.add_sub_cancel_left]
    refine ⟨_, decodeFrom_of_tail position [.ofNat (0x80 + n % 0x40)] hfirst ?_ rfl⟩
    rw [List.cons_append, tail_cons (by omega) (by omega) (by omega), tail]
    congr 1
    omega
  · obtain ⟨low, high, hlead₃, hlow, hhigh⟩ := lead?_three (n := n) (by omega) h₃ (by omega)
    rw [← hlead (show 0xE0 + n / 0x1000 < 0x100 by omega)] at hlead₃
    refine ⟨_, decodeFrom_of_tail position [.ofNat (0x80 + n / 0x40 % 0x40), .ofNat (0x80 + n % 0x40)] hlead₃ ?_ rfl⟩
    rw [List.cons_append, tail_cons (by omega) hlow hhigh, List.cons_append,
      tail_cons (by omega) (by omega) (by omega), tail]
    congr 1
    omega
  · obtain ⟨low, high, hlead₄, hlow, hhigh⟩ := lead?_four (n := n) (by omega) (by omega)
    rw [← hlead (show 0xF0 + n / 0x40000 < 0x100 by omega)] at hlead₄
    refine ⟨_, decodeFrom_of_tail position [.ofNat (0x80 + n / 0x1000 % 0x40), .ofNat (0x80 + n / 0x40 % 0x40),
      .ofNat (0x80 + n % 0x40)] hlead₄ ?_ rfl⟩
    rw [List.cons_append, tail_cons (by omega) hlow hhigh, List.cons_append,
      tail_cons (by omega) (by omega) (by omega), List.cons_append, tail_cons (by omega) (by omega) (by omega), tail]
    congr 1
    omega

/-- **The bytes of a text give it back.** -/
theorem decode_encode (text : Text) : decode (encode text) = .ok text := by
  have hfrom : ∀ position, decodeFrom 0 position (encode text) = .ok text := by
    induction text with
    | nil => exact fun _ => rfl
    | cons c text ih =>
      intro position
      obtain ⟨position', hchar⟩ := decodeFrom_encodeChar c position (encode text)
      rw [encode, List.flatMap_cons]
      exact hchar.trans (by rw [ih]; rfl)
  exact hfrom 0

end Utf8

/-! ## Written values -/

namespace Json

/-- the escape of a control character stands for it -/
theorem unit?_hex : ∀ n < 32, ∃ a b, Text.hex 4 n = ['0', '0', a, b] ∧ unit? '0' '0' a b = some n := by
  intro n hn
  refine ⟨Nat.digitChar (n / 16 % 16), Nat.digitChar (n % 16), ?_, ?_⟩
  · revert n
    decide +kernel
  · revert n
    decide +kernel

theorem readString?_letter {letter c : Char} (hne : letter ≠ 'u') (h : unescape? letter = some c) (rest : Text) :
    readString? ('\\' :: letter :: rest) = (readString? rest).map (consRead c) := by
  simp [readString?, h, hne]

/-- **One character of a written string is read back.** -/
theorem readString?_escape (c : Char) (rest : Text) :
    readString? (escape c ++ rest) = (readString? rest).map (consRead c) := by
  unfold escape
  split_ifs with hquote hn hr ht hb hf hcontrol
  · simp only [Bool.or_eq_true, decide_eq_true_eq] at hquote
    rcases hquote with rfl | rfl
    · exact readString?_letter (by decide) rfl rest
    · exact readString?_letter (by decide) rfl rest
  · subst hn
    exact readString?_letter (by decide) rfl rest
  · subst hr
    exact readString?_letter (by decide) rfl rest
  · subst ht
    exact readString?_letter (by decide) rfl rest
  · obtain rfl : c = Char.ofNat 8 := by rw [← hb, Char.ofNat_toNat]
    exact readString?_letter (by decide) rfl rest
  · obtain rfl : c = Char.ofNat 12 := by rw [← hf, Char.ofNat_toNat]
    exact readString?_letter (by decide) rfl rest
  · obtain ⟨a, b, hhex, hunit⟩ := unit?_hex c.toNat hcontrol
    rw [hhex]
    simp only [List.cons_append, List.nil_append, readString?, hunit]
    rw [if_pos (by simp; omega), Char.ofNat_toNat]
  · simp only [Bool.or_eq_true, decide_eq_true_eq, not_or] at hquote
    rw [List.singleton_append, readString?.eq_def]
    simp [hquote.1, hquote.2, hcontrol]

/-- **A written string is read back**, with whatever follows it. -/
theorem readString?_written (value rest : Text) :
    readString? (value.flatMap escape ++ '"' :: rest) = some (value, rest) := by
  induction value with
  | nil => simp [readString?]
  | cons c value ih =>
    rw [List.flatMap_cons, List.append_assoc, readString?_escape, ih]
    rfl

theorem head?_decimal {n : Nat} (h : 0 < n) : (Text.decimal n).head? ≠ some '0' := by
  unfold Text.decimal
  induction n using Nat.strong_induction_on with
  | _ n ih =>
    rcases Nat.lt_or_ge n 10 with hn | hn
    · have hdigit : ∀ n < 10, 0 < n → Nat.digitChar n ≠ '0' := by decide +kernel
      rw [Nat.toDigits_of_lt_base hn, List.head?_cons]
      exact fun hzero => hdigit n hn h (Option.some.inj hzero)
    · rw [Nat.toDigits_of_base_le (by decide) hn, List.head?_append_of_ne_nil _ Nat.toDigits_ne_nil]
      exact ih (n / 10) (Nat.div_lt_self h (by decide)) (by omega)

theorem isDigit_of_mem_decimal {n : Nat} : ∀ c ∈ Text.decimal n, c.isDigit = true :=
  fun _ hc => Nat.isDigit_of_mem_toDigits (by decide) (by decide) hc

theorem exists_digit (n : Nat) : ∃ d digits, Text.decimal n = d :: digits ∧ d.isDigit = true := by
  obtain ⟨d, digits, hd⟩ := List.exists_cons_of_ne_nil (show Text.decimal n ≠ [] from Nat.toDigits_ne_nil)
  exact ⟨d, digits, hd, isDigit_of_mem_decimal d (hd ▸ List.mem_cons_self)⟩

theorem isSpace_of_isDigit {c : Char} (h : c.isDigit = true) : isSpace c = false := by
  rw [Bool.eq_false_iff]
  intro hspace
  simp only [isSpace, Bool.or_eq_true, beq_iff_eq] at hspace
  rcases hspace with ((rfl | rfl) | rfl) | rfl <;> exact absurd h (by decide)

/-- **A written number is read back** when no digit, no fraction and no exponent follows it. -/
theorem readMagnitude?_decimal {n : Nat} (h : 0 < n) {c : Char} (rest : Text) (hdigit : c.isDigit = false)
    (hc : c ≠ '.' ∧ c ≠ 'e' ∧ c ≠ 'E') :
    readMagnitude? false (Text.decimal n ++ c :: rest) = some (.int n, c :: rest) := by
  have htake : (Text.decimal n ++ c :: rest).takeWhile Char.isDigit = Text.decimal n := by
    rw [List.takeWhile_append_of_pos isDigit_of_mem_decimal, List.takeWhile_cons_of_neg (by simp [hdigit]),
      List.append_nil]
  have hdrop : (Text.decimal n ++ c :: rest).dropWhile Char.isDigit = c :: rest := by
    rw [List.dropWhile_append_of_pos isDigit_of_mem_decimal, List.dropWhile_cons_of_neg (by simp [hdigit])]
  have hdigits : readDigits? (Text.decimal n ++ c :: rest) = some (Text.decimal n, c :: rest) := by
    unfold readDigits?
    rw [htake, hdrop]
    split
    · next hnil => exact absurd hnil Nat.toDigits_ne_nil
    · rfl
  have hexponent : readExponent? (c :: rest) = some (none, c :: rest) := by
    rw [readExponent?.eq_def]
    simp [hc]
  have hvalue : Nat.ofDigitChars 10 (Text.decimal n) 0 = n := Nat.ofDigitChars_toDigits (by decide) (by decide)
  simp only [readMagnitude?, hdigits, Option.bind_eq_bind, Option.bind_some, head?_decimal h, decide_false,
    Bool.false_and, Bool.false_eq_true, if_false]
  split
  · next hdot => exact absurd (List.head_eq_of_cons_eq hdot) hc.1
  · simp [hexponent, hvalue]

theorem readPlain?_decimal {n : Nat} (h : 0 < n) {c : Char} (rest : Text) (hdigit : c.isDigit = false)
    (hc : c ≠ '.' ∧ c ≠ 'e' ∧ c ≠ 'E') :
    readPlain? (Text.decimal n ++ c :: rest) = some (.int n, c :: rest) := by
  have hread := readMagnitude?_decimal h rest hdigit hc
  obtain ⟨d, digits, hd, hfirst⟩ := exists_digit n
  -- no word of the language starts with a digit
  have hword (word : Text) (hhead : ∃ p, word.head? = some p ∧ p.isDigit = false) :
      Text.dropHead? word (d :: (digits ++ c :: rest)) = none := by
    obtain ⟨p, hp, hpdigit⟩ := hhead
    obtain ⟨word, rfl⟩ := List.head?_eq_some_iff.1 hp
    have hne : (p == d) = false := by
      rw [beq_eq_false_iff_ne]
      rintro rfl
      rw [hfirst] at hpdigit
      exact absurd hpdigit (by decide)
    rw [Text.dropHead?, Text.dropHeadBy?, hne]
    rfl
  have hsign : d ≠ '-' := by
    rintro rfl
    exact absurd hfirst (by decide)
  rw [hd, List.cons_append] at hread ⊢
  unfold readPlain?
  extract_lets word
  have hnone (name : String) (value : Json) (hhead : ∃ p, name.toList.head? = some p ∧ p.isDigit = false) :
      word name value = none := by
    simp only [word]
    rw [hword _ hhead]
    rfl
  rw [hnone "null" .null ⟨'n', by decide, by decide⟩, hnone "true" (.bool true) ⟨'t', by decide, by decide⟩,
    hnone "false" (.bool false) ⟨'f', by decide, by decide⟩, hnone "NaN" .notFinite ⟨'N', by decide, by decide⟩,
    hnone "Infinity" .notFinite ⟨'I', by decide, by decide⟩,
    hnone "-Infinity" .notFinite ⟨'-', by decide, by decide⟩]
  simp only [Option.orElse_eq_orElse, Option.orElse]
  split
  · next hd' => exact absurd (List.head_eq_of_cons_eq hd') hsign
  · exact hread

theorem readValue?_decimal {n : Nat} (h : 0 < n) {c : Char} {rest : Text} (hdigit : c.isDigit = false)
    (hc : c ≠ '.' ∧ c ≠ 'e' ∧ c ≠ 'E') (fuel depth : Nat) :
    readValue? (fuel + 1) depth (Text.decimal n ++ c :: rest) = some (.int n, c :: rest) := by
  have hread := readPlain?_decimal h rest hdigit hc
  obtain ⟨d, digits, hd, hfirst⟩ := exists_digit n
  have hne : d ≠ '"' ∧ d ≠ '[' ∧ d ≠ '\x7b' := by
    refine ⟨?_, ?_, ?_⟩ <;> rintro rfl <;> exact absurd hfirst (by decide)
  rw [hd, List.cons_append] at hread ⊢
  rw [readValue?.eq_def]
  simp only
  split
  · next hd' => exact absurd (List.head_eq_of_cons_eq hd') hne.1
  · next hd' => exact absurd (List.head_eq_of_cons_eq hd') hne.2.1
  · next hd' => exact absurd (List.head_eq_of_cons_eq hd') hne.2.2
  · exact hread

end Json

/-! ## Tokens -/

theorem Reference.render_toJson (r : Reference) : r.toJson.render = '\x7b' :: '"' :: (templateIdField.flatMap Json.escape ++
    '"' :: ':' :: '"' :: (r.templateId.flatMap Json.escape ++ '"' :: ',' :: '"' :: (lineField.flatMap Json.escape ++
      '"' :: ':' :: (Text.decimal r.line ++ ['\x7d'])))) := by
  have hline : Text.signedDecimal (r.line : Int) = Text.decimal r.line := by
    simp [Text.signedDecimal]
  simp [toJson, Json.render, Json.renderMembers, Json.renderText, hline]

namespace Json

theorem skipSpaces_of_head? {text : Text} (h : ∀ c, text.head? = some c → isSpace c = false) : skipSpaces text = text := by
  cases text with
  | nil => rfl
  | cons c rest => exact List.dropWhile_cons_of_neg (by simp [h c rfl])

section Members

variable (name : Text) {written rest : Text} {value : Json} {fuel depth : Nat} (hspace : skipSpaces written = written)

include hspace

/-- **The last member of a written object is read back.** -/
theorem readMembers?_last (hvalue : readValue? fuel depth written = some (value, '\x7d' :: rest)) :
    readMembers? (fuel + 1) depth ('"' :: (name.flatMap escape ++ '"' :: ':' :: written)) =
      some ([(name, value)], rest) := by
  have hcolon : skipSpaces (':' :: written) = ':' :: written := skipSpaces_of_head? (by simp [isSpace])
  have hend : skipSpaces ('\x7d' :: rest) = '\x7d' :: rest := skipSpaces_of_head? (by simp [isSpace])
  simp only [readMembers?, readString?_written, hcolon, hspace, hvalue, hend]

/-- **A member of a written object is read back** before another one. -/
theorem readMembers?_next (hvalue : readValue? fuel depth written = some (value, ',' :: '"' :: rest)) :
    readMembers? (fuel + 1) depth ('"' :: (name.flatMap escape ++ '"' :: ':' :: written)) =
      (readMembers? fuel depth ('"' :: rest)).map fun read => ((name, value) :: read.1, read.2) := by
  have hcolon : skipSpaces (':' :: written) = ':' :: written := skipSpaces_of_head? (by simp [isSpace])
  have hcomma : skipSpaces (',' :: '"' :: rest) = ',' :: '"' :: rest := skipSpaces_of_head? (by simp [isSpace])
  have hquote : skipSpaces ('"' :: rest) = '"' :: rest := skipSpaces_of_head? (by simp [isSpace])
  rw [readMembers?.eq_def]
  simp only [readString?_written, hcolon, hspace, hvalue, hcomma, hquote]

end Members

/-- a written object with members is read back when its members are -/
theorem readValue?_members (fuel depth : Nat) (rest : Text) : readValue? (fuel + 1) (depth + 1) ('\x7b' :: '"' :: rest) =
    (readMembers? fuel depth ('"' :: rest)).map fun read => (.object read.1, read.2) := by
  have hquote : skipSpaces ('"' :: rest) = '"' :: rest := skipSpaces_of_head? (by simp [isSpace])
  simp [readValue?, hquote]

/-- **A written reference is read back.** -/
theorem read?_toJson (r : Reference) : read? r.toJson.render = some r.toJson := by
  have hquote (rest : Text) : skipSpaces ('"' :: rest) = '"' :: rest := skipSpaces_of_head? (by simp [isSpace])
  have hdigits : skipSpaces (Text.decimal r.line ++ ['\x7d']) = Text.decimal r.line ++ ['\x7d'] := by
    obtain ⟨d, digits, hd, hdigit⟩ := exists_digit r.line
    rw [hd]
    apply skipSpaces_of_head?
    rintro c ⟨⟩
    exact isSpace_of_isDigit hdigit
  have hline (fuel : Nat) : readMembers? (fuel + 2) 199 ('"' :: (Reference.lineField.flatMap escape ++
      '"' :: ':' :: (Text.decimal r.line ++ ['\x7d']))) = some ([(Reference.lineField, .int r.line)], []) :=
    readMembers?_last Reference.lineField hdigits (readValue?_decimal r.line_pos (by decide) (by decide) fuel 199)
  have hid (fuel : Nat) (rest : Text) : readValue? (fuel + 1) 199 ('"' :: (r.templateId.flatMap escape ++ '"' :: rest)) =
      some (.text r.templateId, rest) := by
    simp only [readValue?, readString?_written, Option.map_some]
  have hobject (fuel : Nat) : readValue? (fuel + 4) maxNesting r.toJson.render = some (r.toJson, []) := by
    rw [r.render_toJson, show maxNesting = 199 + 1 from rfl, readValue?_members,
      readMembers?_next Reference.templateIdField (hquote _) (hid _ _), hline]
    rfl
  have hfuel : 2 * r.toJson.render.length + 2 = (2 * r.toJson.render.length - 2) + 4 := by
    have : 0 < r.toJson.render.length := by
      rw [r.render_toJson]
      exact Nat.zero_lt_succ _
    omega
  have hhead : skipSpaces r.toJson.render = r.toJson.render := by
    rw [r.render_toJson]
    exact skipSpaces_of_head? (by simp [isSpace])
  rw [read?, hhead, hfuel, hobject]
  rfl

end Json

theorem Text.strip_of_not_isBlank {text : Text} (h : ∀ c ∈ text, isBlank c = false) : strip text = text := by
  have hfront : text.dropWhile isBlank = text :=
    List.dropWhile_eq_self_iff.2 fun hl => by simp [h]
  rw [strip, trim, hfront]
  exact dropEnd_of_getLast? fun c hc => h c (List.mem_of_getLast? hc)

theorem Text.strip_padded {left right : Text} (hleft : ∀ c ∈ left, isBlank c = true)
    (hright : ∀ c ∈ right, isBlank c = true) {c : Char} (hc : isBlank c = false) (rest : Text) :
    strip (left ++ c :: rest ++ right) = strip (c :: rest) := by
  have hfront (behind : Text) : (c :: behind).dropWhile isBlank = c :: behind :=
    List.dropWhile_cons_of_neg (by simp [hc])
  rw [strip, trim, List.append_assoc, List.dropWhile_append_of_pos hleft, List.cons_append, hfront,
    ← List.cons_append, dropEnd_append_of_all hright, strip, trim, hfront]

theorem Reference.isBlank_of_mem_token (r : Reference) : ∀ c ∈ r.token, Text.isBlank c = false :=
  fun c hc => Marker.isBlank_of_mem_alphabet c (Base64.mem_encode _ c hc)

/-- **A token gives its reference back.** -/
theorem Token.read?_token (r : Reference) : Token.read? r.token = some r := by
  have hstrip : Text.strip r.token = r.token := Text.strip_of_not_isBlank r.isBlank_of_mem_token
  rw [read?, hstrip, Reference.token, Base64.decode?_encode]
  simp only [Utf8.decode_encode, Json.read?_toJson, Reference.ofJson_toJson]
  rfl

/-- a text that is not empty and a line of at least one are the fields of a reference -/
theorem Reference.exists_ofFields {id : Text} (hid : id ≠ []) {line : Int} (hline : 1 ≤ line) :
    ∃ r : Reference,
      ofFields (some (.text id)) (some (.int line)) = .ok r ∧ r.templateId = id ∧ (r.line : Int) = line := by
  obtain ⟨c, rest, rfl⟩ := List.exists_cons_of_ne_nil hid
  refine ⟨⟨c :: rest, line.toNat, hid, by omega⟩, ?_, rfl, Int.toNat_of_nonneg (by omega)⟩
  simp [ofFields, checkTemplateId, checkLine, show 0 < line by omega]

/-- **Round trip of tokens.** An id that is not empty and a line of at least one have a token. It is made of signs of
the base64 alphabet and padding, and blanks around it or not, it reads as that id and that line. -/
theorem Token.read?_padded {id : Text} (hid : id ≠ []) {line : Int} (hline : 1 ≤ line) {left right : Text}
    (hleft : ∀ c ∈ left, Text.isBlank c = true) (hright : ∀ c ∈ right, Text.isBlank c = true) :
    ∃ r : Reference, Reference.ofFields (some (.text id)) (some (.int line)) = .ok r ∧
      r.templateId = id ∧ (r.line : Int) = line ∧
      (∀ c ∈ r.token, c ∈ Base64.alphabet ∨ c = '=') ∧
      Token.read? (left ++ r.token ++ right) = some r := by
  obtain ⟨r, hr, hid, hline⟩ := Reference.exists_ofFields hid hline
  have hsigns : ∀ c ∈ r.token, c ∈ Base64.alphabet ∨ c = '=' := fun c hc =>
    (List.mem_cons.1 (Base64.mem_encode _ c hc)).symm
  refine ⟨r, hr, hid, hline, hsigns, ?_⟩
  have hread := Token.read?_token r
  cases htoken : r.token with
  | nil =>
    rw [htoken, show Token.read? [] = none by rfl] at hread
    exact absurd hread (by simp)
  | cons c rest =>
    have hc : Text.isBlank c = false := r.isBlank_of_mem_token c (htoken ▸ List.mem_cons_self)
    rw [read?, Text.strip_padded hleft hright hc rest, ← htoken]
    exact hread

/-- an id with quotes, a backslash, control characters and a character beyond the basic plane -/
def oddId : Text :=
  ['"', '\\', '\'', '\x00', '\x1f', '\x7f', 'é', '😀']

/-- the token of an odd id and a line beyond 64 bits, with blanks of other scripts around it -/
theorem Token.read?_padded_oddId : ∃ r : Reference,
    Reference.ofFields (some (.text oddId)) (some (.int 18446744073709551616)) = .ok r ∧
      r.templateId = oddId ∧ (r.line : Int) = 18446744073709551616 ∧
      (∀ c ∈ r.token, c ∈ Base64.alphabet ∨ c = '=') ∧
      Token.read? (['\u2003', '\n', '\x1c'] ++ r.token ++ ['\u3000', ' ']) = some r :=
  Token.read?_padded (by decide) (by decide) (by decide) (by decide)

end SourceMark
