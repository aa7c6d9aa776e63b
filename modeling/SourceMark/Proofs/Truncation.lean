/-
A cut token holds nothing. Its symbols are no base64, or they are the bytes of a cut text; the bytes are no characters, or
those of fewer characters; and the front of a written reference is no value, because it has no closing brace.

Results:
- `Base64.decodeGroups?_cut`: a cut encoding is refused, or it holds fewer bytes.
- `Utf8.decode_cut`: cut bytes are refused, or they are those of a shorter text.
- `Json.read?_cut`: the front of a written reference is no value.
- `Token.read?_truncated`: no proper front of a token is read as a reference.
-/
import SourceMark.Proofs.Json.Steady

namespace SourceMark

/-! ## Symbols -/

namespace Base64

theorem decodeGroups?_of_length {a : Char} (ha : a ≠ '=') {rest : Text} (h : rest.length < 3) :
    decodeGroups? (a :: rest) = none := by
  rw [decodeGroups?.eq_def]
  simp only [if_neg ha]
  split
  · simp at h
  · simp at h
  · simp only [List.length_cons] at h
    omega
  · rfl

theorem decodeGroups?_group {a b c d : Char} {va vb vc vd : Nat} (ha : value? a = some va) (hb : value? b = some vb)
    (hc : value? c = some vc) (hd : value? d = some vd) (hna : a ≠ '=') (hnd : d ≠ '=') (rest : Text) :
    decodeGroups? (a :: b :: c :: d :: rest) =
      (decodeGroups? rest).map ([firstByte va vb, secondByte vb vc, thirdByte vc vd] ++ ·) := by
  rw [decodeGroups?.eq_def]
  simp only [if_neg hna]
  split
  · next heq => simp_all
  · next heq => simp_all
  · next heq =>
    simp only [List.cons.injEq] at heq
    obtain ⟨rfl, rfl, rfl, rfl⟩ := heq
    simp only [ha, hb, hc, hd]
    cases decodeGroups? rest <;> rfl
  · next h => exact absurd rfl (h b c d rest)

theorem head?_encode (bytes : Bytes) : (encode bytes).head? ≠ some '=' := by
  have hfirst (a : UInt8) : symbol (a.toNat / 4) ≠ '=' := symbol_ne_pad (by have := a.toNat_lt; omega)
  fun_cases encode bytes <;> simp [hfirst]

/-- up to three symbols are refused, or they are none and hold no bytes -/
theorem decodeGroups?_short {bytes : Bytes} {cut : Text} (h : cut <+: encode bytes) (hne : cut ≠ encode bytes)
    (hlength : cut.length < 4) :
    decodeGroups? cut = none ∨ ∃ front rest, bytes = front ++ rest ∧ rest ≠ [] ∧ decodeGroups? cut = some front := by
  cases cut with
  | nil =>
    refine Or.inr ⟨[], bytes, rfl, ?_, by simp [decodeGroups?]⟩
    rintro rfl
    exact hne rfl
  | cons d cut =>
    refine Or.inl (decodeGroups?_of_length ?_ (Nat.lt_of_succ_lt_succ hlength))
    rintro rfl
    obtain ⟨rest, hrest⟩ := h
    exact head?_encode bytes (by rw [← hrest]; rfl)

/-- **A cut encoding** is refused, or it holds fewer bytes. -/
theorem decodeGroups?_cut {bytes : Bytes} {cut : Text} (h : cut <+: encode bytes) (hne : cut ≠ encode bytes) :
    decodeGroups? cut = none ∨ ∃ front rest, bytes = front ++ rest ∧ rest ≠ [] ∧ decodeGroups? cut = some front := by
  have hcut : cut.length < (encode bytes).length :=
    Nat.lt_of_le_of_ne h.length_le fun hlength => hne (h.eq_of_length hlength)
  induction bytes using encode.induct generalizing cut with
  | case1 => exact absurd (List.prefix_nil.1 h) hne
  | case2 a => exact decodeGroups?_short h hne hcut
  | case3 a b => exact decodeGroups?_short h hne hcut
  | case4 a b c rest ih =>
    have ha := a.toNat_lt
    have hb := b.toNat_lt
    have hc := c.toNat_lt
    rcases Nat.lt_or_ge cut.length 4 with hlength | hlength
    · exact decodeGroups?_short h hne hlength
    · match cut, hlength with
      | s₁ :: s₂ :: s₃ :: s₄ :: cut, _ =>
        simp only [encode, List.cons_prefix_cons] at h
        obtain ⟨rfl, rfl, rfl, rfl, h⟩ := h
        simp only [encode, ne_eq, List.cons.injEq, true_and] at hne
        simp only [encode, List.length_cons, Nat.add_lt_add_iff_right] at hcut
        rw [decodeGroups?_group (value?_symbol (by omega)) (value?_symbol (by omega)) (value?_symbol (by omega))
          (value?_symbol (by omega)) (symbol_ne_pad (by omega)) (symbol_ne_pad (by omega)), firstByte_of a _ (by omega),
          secondByte_of b _ _ (by omega), thirdByte_of]
        rcases ih h hne hcut with hnone | ⟨front, behind, rfl, hbehind, hread⟩
        · exact Or.inl (by rw [hnone]; rfl)
        · exact Or.inr ⟨[a, b, c] ++ front, behind, by simp, hbehind, by rw [hread]; rfl⟩

end Base64

/-! ## Bytes -/

namespace Utf8

/-- bytes that are read as a character are read so when more bytes follow -/
theorem tail_append {expected : List (Nat × Nat)} {bits good code : Nat} {bytes : Bytes}
    (h : tail bits good expected bytes = .ok code) (more : Bytes) :
    tail bits good expected (bytes ++ more) = .ok code ∧ expected.length ≤ bytes.length := by
  induction expected generalizing bits good bytes with
  | nil => exact ⟨by cases bytes <;> simpa [tail] using h, Nat.zero_le _⟩
  | cons range expected ih =>
    obtain ⟨low, high⟩ := range
    cases bytes with
    | nil => simp [tail] at h
    | cons byte rest =>
      rw [List.cons_append, tail]
      rw [tail] at h
      split_ifs at h ⊢
      obtain ⟨htail, hlength⟩ := ih h
      exact ⟨htail, Nat.succ_le_succ hlength⟩

/-- **Bytes that are read are read so when more bytes follow.** -/
theorem decodeFrom_append {skip position : Nat} {bytes : Bytes} {text : Text}
    (h : decodeFrom skip position bytes = .ok text) (hskip : skip ≤ bytes.length) (more : Bytes) :
    decodeFrom skip position (bytes ++ more) =
      (decodeFrom 0 (position + bytes.length) more).map (text ++ ·) := by
  induction bytes generalizing skip position text with
  | nil =>
    obtain rfl := Nat.le_zero.1 hskip
    obtain rfl : [] = text := by simpa [decodeFrom] using h
    rw [List.nil_append, List.length_nil, Nat.add_zero]
    cases decodeFrom 0 position more <;> rfl
  | cons byte rest ih =>
    rw [List.length_cons, Nat.add_comm rest.length, ← Nat.add_assoc]
    cases skip with
    | succ skip => exact ih h (Nat.le_of_succ_le_succ hskip)
    | zero =>
      rw [List.cons_append, decodeFrom]
      rw [decodeFrom] at h
      cases hlead : lead? byte.toNat with
      | none =>
        simp only [hlead] at h
        cases h
      | some lead =>
        obtain ⟨bits, expected⟩ := lead
        simp only [hlead] at h ⊢
        cases htail : tail bits 1 expected rest with
        | error fault => simp [htail] at h
        | ok code =>
          obtain ⟨htail', hlength⟩ := tail_append htail more
          simp only [htail] at h
          simp only [htail']
          cases hrest : decodeFrom expected.length (position + 1) rest with
          | error fault => simp [hrest, Except.map] at h
          | ok behind =>
            rw [ih hrest hlength]
            rw [hrest] at h
            obtain rfl : _ = text := Except.ok.inj h
            cases decodeFrom 0 (position + 1 + rest.length) more <;> rfl

theorem eq_nil_of_decodeFrom {position : Nat} {bytes : Bytes} (h : decodeFrom 0 position bytes = .ok []) :
    bytes = [] := by
  cases bytes with
  | nil => rfl
  | cons byte rest =>
    rw [decodeFrom] at h
    split at h
    · cases h
    · split at h
      · cases h
      · cases hrest : decodeFrom _ (position + 1) rest <;> rw [hrest] at h <;> cases h

/-- **Cut bytes** that are read are those of a shorter text. -/
theorem decode_cut {text : Text} {front rest : Bytes} (h : encode text = front ++ rest) (hrest : rest ≠ []) {cut : Text}
    (hcut : decode front = .ok cut) : ∃ behind, behind ≠ [] ∧ text = cut ++ behind := by
  have happend := decodeFrom_append hcut (Nat.zero_le _) rest
  have hwhole := decode_encode text
  rw [h, decode, happend] at hwhole
  cases hbehind : decodeFrom 0 (0 + front.length) rest with
  | error fault =>
    rw [hbehind] at hwhole
    cases hwhole
  | ok behind =>
    rw [hbehind] at hwhole
    refine ⟨behind, ?_, (Except.ok.inj hwhole).symm⟩
    rintro rfl
    exact hrest (eq_nil_of_decodeFrom hbehind)

end Utf8

/-! ## References -/

/-- **The front of a written reference is no value.** -/
theorem Json.read?_cut (r : Reference) {cut behind : Text} (h : r.toJson.render = cut ++ behind) (hbehind : behind ≠ []) :
    Json.read? cut = none := by
  cases cut with
  | nil => rfl
  | cons c cut =>
    have hwhole := read?_toJson r
    have hlast : r.toJson.render.getLast? = some '\x7d' := by
      rw [r.render_toJson]
      simp [List.getLast?_append, List.getLast?_cons]
    obtain rfl : c = '\x7b' := by
      rw [r.render_toJson] at h
      exact (List.cons.inj h).1.symm
    by_contra hread
    obtain ⟨value, hvalue⟩ := Option.ne_none_iff_exists'.1 hread
    rw [h] at hwhole
    have hspace := isSpace_of_read?_append hvalue hwhole '\x7d' (List.mem_of_getLast? (by
      rwa [h, List.getLast?_append_of_ne_nil _ hbehind] at hlast))
    exact absurd hspace (by decide)

/-- **Cut tokens are refused.** An id that is not empty and a line of at least one have a token, and no proper front of
it, the empty one included, is read as a reference. -/
theorem Token.read?_truncated {id : Text} (hid : id ≠ []) {line : Int} (hline : 1 ≤ line) :
    ∃ r : Reference, Reference.ofFields (some (.text id)) (some (.int line)) = .ok r ∧
      r.templateId = id ∧ (r.line : Int) = line ∧ ∀ cut, cut <+: r.token → cut ≠ r.token → Token.read? cut = none := by
  obtain ⟨r, hr, hid, hline⟩ := Reference.exists_ofFields hid hline
  refine ⟨r, hr, hid, hline, fun cut hcut hne => ?_⟩
  have hstrip : Text.strip cut = cut := Text.strip_of_not_isBlank fun c hc =>
    r.isBlank_of_mem_token c (hcut.subset hc)
  have hhead : cut.head? ≠ some '=' := by
    intro hhead
    obtain ⟨rest, rfl⟩ := List.head?_eq_some_iff.1 hhead
    obtain ⟨behind, hbehind⟩ := hcut
    exact Base64.head?_encode (Utf8.encode r.toJson.render) (by
      rw [← Reference.token, ← hbehind]
      rfl)
  rw [read?, hstrip, Base64.decode?, if_neg hhead]
  rcases Base64.decodeGroups?_cut hcut hne with hnone | ⟨front, rest, hbytes, hrest, hfront⟩
  · rw [hnone]
  · rw [hfront]
    cases hpayload : Utf8.decode front with
    | error fault => simp only [hpayload]
    | ok payload =>
      obtain ⟨behind, hbehind, hrender⟩ := Utf8.decode_cut hbytes hrest hpayload
      simp only [hpayload, Json.read?_cut r hrender hbehind]

/-- the token of an odd id: cut behind nothing, inside a group, between groups, and before its last sign -/
theorem Token.read?_truncated_oddId : ∃ r : Reference,
    Reference.ofFields (some (.text oddId)) (some (.int 12)) = .ok r ∧ r.templateId = oddId ∧ (r.line : Int) = 12 ∧
      ∀ cut, cut <+: r.token → cut ≠ r.token → Token.read? cut = none :=
  Token.read?_truncated (by decide) (by decide)

end SourceMark
