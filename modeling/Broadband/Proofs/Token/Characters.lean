import Broadband.Token.Lexer

/-!
# Characters

Which characters a text is made of, as far as the lexer tells them apart: blanks, digits, letters
and the characters of words. They are told apart by their numbers, so that no two classes share more
than they should is arithmetic. The letters are those of ASCII, and the same holds for their two
cases: a capital and its small letter are 32 apart (`toNat_toLower`, `toNat_toUpper`).
-/

namespace Broadband

open Text (isBlank isDigit)

variable {c : Char}

/-! ## Classes -/

/-- Blanks lie outside the printable characters of ASCII. -/
theorem toNat_of_isBlank (h : isBlank c = true) : c.toNat ≤ 32 ∨ 133 ≤ c.toNat := by
  simp only [isBlank, Text.inRanges, Text.blankRanges, List.any_cons, List.any_nil, Bool.or_eq_true,
    Bool.and_eq_true, decide_eq_true_eq, Bool.or_false] at h
  omega

theorem isAlpha_iff_toNat :
    c.isAlpha = true ↔ (65 ≤ c.toNat ∧ c.toNat ≤ 90) ∨ (97 ≤ c.toNat ∧ c.toNat ≤ 122) := by
  change (decide (c.val ≥ 'A'.val ∧ c.val ≤ 'Z'.val) ||
    (decide (c.val ≥ 'a'.val) && decide (c.val ≤ 'z'.val))) = true ↔ _
  simp only [UInt32.le_iff_toNat_le, ge_iff_le, Bool.or_eq_true, Bool.and_eq_true,
    decide_eq_true_eq]
  exact Iff.rfl

theorem toNat_of_isDigit (h : isDigit c = true) : 48 ≤ c.toNat ∧ c.toNat ≤ 57 := by
  simp only [isDigit, Char.le_def, UInt32.le_iff_toNat_le, Bool.and_eq_true, decide_eq_true_eq] at h
  exact h

/-- The characters of words are printable characters of ASCII. -/
theorem toNat_of_isWordChar (h : isWordChar c = true) : 48 ≤ c.toNat ∧ c.toNat ≤ 122 := by
  simp only [isWordChar, Bool.or_eq_true, beq_iff_eq] at h
  rcases h with (h | h) | rfl
  · have hletter := isAlpha_iff_toNat.1 h
    omega
  · have hdigit := toNat_of_isDigit h
    omega
  · decide

/-- No character of a word is blank. -/
theorem isWordChar_of_isBlank (h : isBlank c = true) : isWordChar c = false := by
  rw [Bool.eq_false_iff]
  intro hw
  have hlow := toNat_of_isBlank h
  have hhigh := toNat_of_isWordChar hw
  omega

/-- No digit is blank. -/
theorem isDigit_of_isBlank (h : isBlank c = true) : isDigit c = false := by
  have hw := isWordChar_of_isBlank h
  simp only [isWordChar, Bool.or_eq_false_iff] at hw
  exact hw.1.2

/-- No digit is a letter. -/
theorem isDigit_of_isAlpha (h : c.isAlpha = true) : isDigit c = false := by
  rw [Bool.eq_false_iff]
  intro hd
  have hletter := isAlpha_iff_toNat.1 h
  have hdigit := toNat_of_isDigit hd
  omega

theorem isWordChar_of_isAlpha (h : c.isAlpha = true) : isWordChar c = true := by
  simp [isWordChar, h]

/-! ## Cases -/

/-- The small letter of a capital comes 32 characters after it; any other character stays. -/
theorem toNat_toLower (c : Char) :
    c.toLower.toNat = if 65 ≤ c.toNat ∧ c.toNat ≤ 90 then c.toNat + 32 else c.toNat := by
  by_cases h : 65 ≤ c.toNat ∧ c.toNat ≤ 90
  · have hval : c.toLower.val = c.val + 32 := congrArg Char.val (dif_pos h)
    have hsum : c.toLower.toNat = (c.toNat + 32) % 4294967296 :=
      (congrArg UInt32.toNat hval).trans (UInt32.toNat_add _ _)
    rw [if_pos h, hsum]
    omega
  · have hsame : c.toLower = c := dif_neg h
    rw [if_neg h, hsame]

/-- The capital of a small letter comes 32 characters before it; any other character stays. -/
theorem toNat_toUpper (c : Char) :
    c.toUpper.toNat = if 97 ≤ c.toNat ∧ c.toNat ≤ 122 then c.toNat - 32 else c.toNat := by
  by_cases h : 97 ≤ c.toNat ∧ c.toNat ≤ 122
  · have hval : c.toUpper.val = c.val + ('A'.val - 'a'.val) := by
      have hlower : 'a'.val ≤ c.val ∧ c.val ≤ 'z'.val := h
      delta Char.toUpper
      rw [dif_pos hlower]
    -- the difference is a number of 32 bits, and so is the sum
    have hdifference : ('A'.val - 'a'.val).toNat = 4294967264 := by decide
    have hsum : c.toUpper.toNat = (c.toNat + ('A'.val - 'a'.val).toNat) % 4294967296 :=
      (congrArg UInt32.toNat hval).trans (UInt32.toNat_add _ _)
    rw [if_pos h, hsum, hdifference]
    omega
  · have hsame : c.toUpper = c := dif_neg h
    rw [if_neg h, hsame]

end Broadband
