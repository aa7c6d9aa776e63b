/-
Signs: the characters at which a reader of templates stops, because a quote, a bracket, a region, a block or a
directive may start or end there. Case is about letters, so a sign is matched by itself only.

Results:
- `sameLetter_of_ascii`: ASCII characters match when their small forms agree.
- `sameLetter_sign`: no other character stands for a pattern character that is an ASCII sign.
- `isInert_of_isBlank`, `isInert_of_isQuiet`: blanks and the quiet characters of markers are no signs.
- `exists_quotes`: a marker is a quoted span behind inert characters.
-/
import Mathlib.Data.List.Basic
import SourceMark.Proofs.Marker.Shape
import SourceMark.Text.Caseless

namespace SourceMark.Text

/-! ## Case -/

/-- where the small forms of a run of capitals are: it is one ASCII letter, or they are all beyond ASCII -/
def CaseRun.staysOff (run : CaseRun) : Bool :=
  (run.first == run.last && (Char.ofNat ((run.first : Int) + run.shift).toNat).isAlpha) ||
    (128 ≤ (run.first : Int) + run.shift &&
      ((run.last : Int) + run.shift < 0xD800 ||
        (0xDFFF < (run.first : Int) + run.shift && (run.last : Int) + run.shift < 0x110000)))

theorem staysOff_of_mem : ∀ run ∈ capitalRuns, run.staysOff = true := by
  decide +kernel

theorem toNat_ofNat {n : Nat} (h : n.isValidChar) : (Char.ofNat n).toNat = n := by
  rw [Char.ofNat, dif_pos h]
  rfl

/-- what holds of the first 128 characters holds of every ASCII character -/
theorem forall_ascii {P : Char → Prop} (h : ∀ n < 128, P (Char.ofNat n)) {c : Char} (hc : c.toNat < 128) : P c := by
  have := h c.toNat hc
  rwa [Char.ofNat_toNat] at this

/-- the letters and digits that a name may hold are ASCII characters -/
theorem ascii_of_isAlphanum {c : Char} (h : c.isAlphanum = true) : c.toNat < 128 := by
  have upTo (last : Char) (hlast : last.toNat < 128) (hc : c.val ≤ last.val) : c.toNat < 128 :=
    Nat.lt_of_le_of_lt (UInt32.le_iff_toNat_le.1 hc) hlast
  rcases Bool.or_eq_true_iff.1 h with h | hdigit
  · rcases Bool.or_eq_true_iff.1 h with hupper | hlower
    · exact upTo 'Z' (by decide) (of_decide_eq_true hupper).2
    · exact upTo 'z' (by decide) (of_decide_eq_true (Bool.and_eq_true_iff.1 hlower).2)
  · exact upTo '9' (by decide) (of_decide_eq_true (Bool.and_eq_true_iff.1 hdigit).2)

theorem ascii_of_isTail {c : Char} (h : AttributeName.isTail c = true) : c.toNat < 128 := by
  simp only [AttributeName.isTail, Bool.or_eq_true, beq_iff_eq] at h
  rcases h with (((h | rfl) | rfl) | rfl) | rfl
  · exact ascii_of_isAlphanum h
  all_goals decide

theorem toLower_eq_of_ascii {c : Char} (hc : c.toNat < 128) : toLower c = c.toLower := by
  rw [toLower, if_pos hc]

theorem isAlpha_of_isUpper {c : Char} (h : c.isUpper = true) : c.isAlpha = true :=
  Bool.or_eq_true_iff.2 (Or.inl h)

theorem isAlpha_of_isLower {c : Char} (h : c.isLower = true) : c.isAlpha = true :=
  Bool.or_eq_true_iff.2 (Or.inr h)

theorem isAlphanum_of_isAlpha {c : Char} (h : c.isAlpha = true) : c.isAlphanum = true :=
  Bool.or_eq_true_iff.2 (Or.inl h)

/-- the small form of an ASCII capital is the small letter 32 characters behind it -/
theorem toLower_of_isUpper {c : Char} (h : c.isUpper = true) :
    c.toLower.isLower = true ∧ c.toLower.toNat = c.toNat + 32 := by
  have hrange : c.val ≥ 'A'.val ∧ c.val ≤ 'Z'.val := of_decide_eq_true h
  have hlow : 65 ≤ c.toNat := UInt32.le_iff_toNat_le.1 hrange.1
  have hhigh : c.toNat ≤ 90 := UInt32.le_iff_toNat_le.1 hrange.2
  have hnat : c.toLower.toNat = c.toNat + 32 := by
    have hvalue : c.toLower.val = c.val + ('a'.val - 'A'.val) := congrArg Char.val (dif_pos hrange)
    rw [Char.toNat, hvalue, UInt32.toNat_add]
    exact Nat.mod_eq_of_lt (Nat.lt_of_le_of_lt (Nat.add_le_add_right hhigh _) (by decide))
  have hfirst : 'a'.val ≤ c.toLower.val := UInt32.le_iff_toNat_le.2 (show 97 ≤ c.toLower.toNat by omega)
  have hlast : c.toLower.val ≤ 'z'.val := UInt32.le_iff_toNat_le.2 (show c.toLower.toNat ≤ 122 by omega)
  exact ⟨Bool.and_eq_true_iff.2 ⟨decide_eq_true hfirst, decide_eq_true hlast⟩, hnat⟩

theorem toLower_of_not_isUpper {c : Char} (h : c.isUpper = false) : c.toLower = c :=
  dif_neg (of_decide_eq_false h)

theorem toNat_toLower_lt {c : Char} (hc : c.toNat < 128) : c.toLower.toNat < 128 := by
  cases h : c.isUpper with
  | true =>
    have hhigh : c.toNat ≤ 90 := UInt32.le_iff_toNat_le.1 (of_decide_eq_true h).2
    rw [(toLower_of_isUpper h).2]
    omega
  | false => rwa [toLower_of_not_isUpper h]

/-- small forms of letters and digits are letters and digits, and no other characters have such small forms -/
theorem isAlphanum_toLower (c : Char) : c.toLower.isAlphanum = c.isAlphanum := by
  cases h : c.isUpper with
  | true =>
    rw [isAlphanum_of_isAlpha (isAlpha_of_isLower (toLower_of_isUpper h).1),
      isAlphanum_of_isAlpha (isAlpha_of_isUpper h)]
  | false => rw [toLower_of_not_isUpper h]

theorem furtherForms_beyond : ∀ entry ∈ furtherForms, 128 ≤ entry.1.toNat ∨ ∀ d ∈ entry.2, 128 ≤ d.toNat := by
  decide +kernel

theorem isTail_toLower (c : Char) : AttributeName.isTail c.toLower = AttributeName.isTail c := by
  cases h : c.isUpper with
  | true =>
    have halphanum : c.isAlphanum = true := isAlphanum_of_isAlpha (isAlpha_of_isUpper h)
    simp [AttributeName.isTail, isAlphanum_toLower, halphanum]
  | false => rw [toLower_of_not_isUpper h]

theorem le_of_mem_furtherForms {p d : Char} (hp : p.toNat < 128) (h : d ∈ (furtherForms.lookup p).getD []) :
    128 ≤ d.toNat := by
  cases hforms : furtherForms.lookup p with
  | none => simp [hforms] at h
  | some forms =>
    obtain ⟨front, back, hentries, -⟩ := List.lookup_eq_some_iff.1 hforms
    have hentry : (p, forms) ∈ furtherForms := hentries ▸ List.mem_append_right front List.mem_cons_self
    rw [hforms, Option.getD_some] at h
    exact (furtherForms_beyond _ hentry).resolve_left (Nat.not_le.2 hp) d h

/-- **ASCII characters match** when their small forms agree. -/
theorem sameLetter_of_ascii {p c : Char} (hp : p.toNat < 128) (hc : c.toNat < 128) :
    sameLetter p c = (c.toLower == p.toLower) := by
  have hforms : ((furtherForms.lookup p.toLower).getD []).contains c.toLower = false := by
    rw [List.contains_eq_mem, decide_eq_false_iff_not]
    intro hmem
    exact Nat.not_lt.2 (le_of_mem_furtherForms (toNat_toLower_lt hp) hmem) (toNat_toLower_lt hc)
  rw [sameLetter, toLower_eq_of_ascii hp, toLower_eq_of_ascii hc, hforms, Bool.and_false, Bool.or_false]

theorem isTail_of_sameLetter {p c : Char} (hp : AttributeName.isTail p = true) (hc : c.toNat < 128)
    (h : sameLetter p c = true) : AttributeName.isTail c = true := by
  rw [sameLetter_of_ascii (ascii_of_isTail hp) hc, beq_iff_eq] at h
  rw [← isTail_toLower, h, isTail_toLower, hp]

theorem toLower_ascii {c : Char} (h : c.toLower.isAlpha = false) : c.toLower = c := by
  refine toLower_of_not_isUpper ?_
  by_contra hupper
  rw [Bool.not_eq_false] at hupper
  rw [isAlpha_of_isLower (toLower_of_isUpper hupper).1] at h
  exact absurd h (by decide)

/-- a small form that is an ASCII character but no letter is the form of that character only -/
theorem eq_of_toLower_eq {c p : Char} (hp : p.toNat < 128) (ha : p.isAlpha = false) (h : toLower c = p) : c = p := by
  unfold toLower at h
  split_ifs at h with hc
  · rw [← h] at ha
    exact (toLower_ascii ha).symm.trans h
  · split at h
    · next run hrun =>
      have hholds := List.find?_some hrun
      have hoff := staysOff_of_mem run (List.mem_of_find?_eq_some hrun)
      simp only [CaseRun.holds, Bool.and_eq_true, decide_eq_true_eq] at hholds
      simp only [CaseRun.staysOff, Bool.or_eq_true, Bool.and_eq_true, beq_iff_eq, decide_eq_true_eq] at hoff
      rcases hoff with ⟨hsame, halpha⟩ | ⟨hlow, hvalid⟩
      · rw [show run.first = c.toNat by omega, h, ha] at halpha
        exact absurd halpha (by decide)
      · have hnat : (Char.ofNat ((c.toNat : Int) + run.shift).toNat).toNat = ((c.toNat : Int) + run.shift).toNat :=
          toNat_ofNat (by unfold Nat.isValidChar; omega)
        rw [h] at hnat
        omega
    · exact h

theorem toLower_of_ascii {p : Char} (hp : p.toNat < 128) (ha : p.isAlpha = false) : toLower p = p := by
  rw [toLower_eq_of_ascii hp]
  exact toLower_of_not_isUpper (Bool.or_eq_false_iff.1 ha).1

/-- **Signs match themselves only.** -/
theorem sameLetter_sign {p c : Char} (hp : p.toNat < 128) (ha : p.isAlpha = false) (h : sameLetter p c = true) :
    c = p := by
  unfold sameLetter at h
  rw [toLower_of_ascii hp ha] at h
  simp only [ha, Bool.false_or, Bool.or_eq_true, beq_iff_eq, Bool.and_eq_true, decide_eq_true_eq] at h
  rcases h with h | ⟨h, -⟩
  · exact eq_of_toLower_eq hp ha h
  · omega

/-! ## Signs -/

def signs : List Char := ['<', '>', '"', '\'', '(', ')', '\x7b', '\x7d', '!', '?', '%', '#', '@', '\\']

/-- a character at which no reader of templates stops -/
def isInert (c : Char) : Bool :=
  !signs.contains c

theorem isInert_iff {c : Char} : isInert c = true ↔ c ∉ signs := by
  simp [isInert]

theorem isInert_of {p : Char → Bool} (h : ∀ c ∈ signs, p c = false) {c : Char} (hc : p c = true) :
    isInert c = true := by
  rw [isInert_iff]
  intro hm
  rw [h c hm] at hc
  exact absurd hc (by decide)

theorem isInert_of_isBlank {c : Char} (h : isBlank c = true) : isInert c = true :=
  isInert_of (by decide) h

theorem isInert_of_isQuiet {c : Char} (h : Marker.isQuiet c = true) : isInert c = true :=
  isInert_of (by decide) h

theorem isBlank_of_isTail {c : Char} (h : AttributeName.isTail c = true) : isBlank c = false :=
  forall_ascii (P := fun c => AttributeName.isTail c = true → isBlank c = false) (by decide +kernel) (ascii_of_isTail h) h

theorem isAlpha_of_isBlank {c : Char} (h : isBlank c = true) : c.isAlpha = false := by
  by_contra halpha
  rw [Bool.not_eq_false] at halpha
  have htail : AttributeName.isTail c = true := by simp [AttributeName.isTail, isAlphanum_of_isAlpha halpha]
  rw [isBlank_of_isTail htail] at h
  exact absurd h (by decide)

theorem ne_of_isInert {c p : Char} (hc : isInert c = true) (hp : p ∈ signs) : c ≠ p :=
  fun e => isInert_iff.1 hc (e ▸ hp)

/-- a marker is a quoted span behind inert characters, and all characters of the span are inert -/
theorem exists_quotes {marker : Text} (h : Marker.Shape marker) :
    ∃ front value, marker = front ++ ('"' :: value ++ ['"']) ∧ (∀ c ∈ front, isInert c = true) ∧
      ∀ c ∈ value, isInert c = true := by
  obtain ⟨first, name, value, rfl, hfirst, hname, hvalue⟩ := h
  refine ⟨first :: name ++ ['='], value, by simp, fun c hc => isInert_of_isQuiet ?_,
    fun c hc => isInert_of_isQuiet (hvalue c hc)⟩
  simp only [List.mem_append, List.mem_cons, List.not_mem_nil, or_false] at hc
  rcases hc with (rfl | hc) | rfl
  · exact Marker.isQuiet_of_isHead hfirst
  · exact hname c hc
  · decide

end SourceMark.Text
