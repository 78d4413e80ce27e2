import Broadband.Text.Numeral

/-!
# Numerals of natural numbers

A writer spells a number in decimal and without a sign, and a reader of any width takes that
spelling back as long as the number fits. In the other direction, a numeral that is digits and
nothing else never stands for a negative number; that is all that keeps negative numbers out of
queries that are read from text.
-/

namespace Broadband.Text

/-- The decimal spelling of a number is one or more digits. -/
theorem isDigit_of_mem_toString {n : Nat} {c : Char} (h : c ∈ (toString n).toList) :
    isDigit c = true := by
  rw [Nat.toString_eq_ofList_toDigits, String.toList_ofList] at h
  have hc := Nat.isDigit_of_mem_toDigits (by decide) (by decide) h
  simp only [Char.isDigit, Bool.and_eq_true, decide_eq_true_eq, ge_iff_le] at hc
  simp only [isDigit, Char.le_def, Bool.and_eq_true, decide_eq_true_eq]
  exact hc

/-- The decimal spelling of an integer is digits and perhaps a sign. -/
theorem isDigit_of_mem_toString_int {n : Int} {c : Char} (h : c ∈ (toString n).toList) :
    c = '-' ∨ isDigit c = true := by
  cases n with
  | ofNat m => exact .inr (isDigit_of_mem_toString h)
  | negSucc m =>
    have hneg : toString (Int.negSucc m) = "-" ++ toString (m + 1) := rfl
    rw [hneg, String.toList_append, List.mem_append] at h
    rcases h with h | h
    · exact .inl (by simpa using h)
    · exact .inr (isDigit_of_mem_toString h)

/-- The decimal spelling of a number is not empty. -/
theorem toList_toString_ne_nil (n : Nat) : (toString n).toList ≠ [] := by
  rw [Nat.toString_eq_ofList_toDigits, String.toList_ofList]
  exact Nat.toDigits_ne_nil

/-! ## Reading what was written -/

/-- The digits of a number have its value. -/
theorem digitsValue_toString (n : Nat) : digitsValue (toString n).toList = n := by
  rw [Nat.toString_eq_ofList_toDigits, String.toList_ofList]
  have h := Nat.ofDigitChars_ten_toDigits (n := n)
  rw [Nat.ofDigitChars_eq_foldl] at h
  simpa [digitsValue, Nat.mul_comm] using h

/-- The spelling of a number is a run of digits with its value. -/
theorem digits?_toString (n : Nat) : digits? (toString n).toList = some n := by
  have hall : (toString n).toList.all isDigit = true :=
    List.all_eq_true.2 fun c hc => isDigit_of_mem_toString hc
  have hne : (toString n).toList.isEmpty = false := by simp
  simp only [digits?, hall, hne, digitsValue_toString]
  rfl

/-- A run of digits carries no sign. -/
theorem integer?_of_isDigit {s : String} (h : ∀ c ∈ s.toList, isDigit c = true) :
    integer? s = (digits? s.toList).map Int.ofNat := by
  unfold integer?
  split
  · simp_all [isDigit]
  · simp_all [isDigit]
  · rfl

/-- An integer is read back from its spelling. -/
theorem integer?_toString (n : Int) : integer? (toString n) = some n := by
  cases n with
  | ofNat m =>
    have hspelled : toString (Int.ofNat m) = toString m := rfl
    rw [hspelled, integer?_of_isDigit fun c => isDigit_of_mem_toString, digits?_toString]
    rfl
  | negSucc m =>
    have hspelled : (toString (Int.negSucc m)).toList = '-' :: (toString (m + 1)).toList := by
      rw [show toString (Int.negSucc m) = "-" ++ toString (m + 1) from rfl, String.toList_append]
      rfl
    rw [integer?, hspelled]
    simp only [digits?_toString, Option.map_some]
    rfl

/-- A run of digits carries no sign. -/
theorem natural?_of_isDigit {s : String} (h : ∀ c ∈ s.toList, isDigit c = true) :
    natural? s = digits? s.toList := by
  unfold natural?
  split
  · simp_all [isDigit]
  · rfl

/-- A number that fits 64 bits with a sign is read back. -/
theorem int64?_toString {n : Int} (h₀ : 0 ≤ n) (h : n ≤ 9223372036854775807) :
    int64? (toString n.toNat) = some n := by
  have hfits : fitsInt64 n = true := by
    simp only [fitsInt64, Bool.and_eq_true, decide_eq_true_eq]
    omega
  rw [int64?, integer?_of_isDigit fun c => isDigit_of_mem_toString, digits?_toString]
  simp [Int.toNat_of_nonneg h₀, hfits]

/-- A number that fits 32 bits with a sign is read back. -/
theorem int32?_toString {n : Int} (h₀ : 0 ≤ n) (h : n ≤ 2147483647) :
    int32? (toString n.toNat) = some n := by
  have hfits : fitsInt32 n = true := by
    simp only [fitsInt32, Bool.and_eq_true, decide_eq_true_eq]
    omega
  rw [int32?, integer?_of_isDigit fun c => isDigit_of_mem_toString, digits?_toString]
  simp [Int.toNat_of_nonneg h₀, hfits]

/-- A number that fits 64 bits without a sign is read back. -/
theorem nat64?_toString {n : Nat} (h : n ≤ 18446744073709551615) :
    nat64? (toString n) = some n := by
  have hfits : fitsNat64 n = true := by simpa only [fitsNat64, decide_eq_true_eq] using h
  rw [nat64?, natural?_of_isDigit fun c => isDigit_of_mem_toString, digits?_toString]
  simp [hfits]

/-! ## What runs of digits stand for -/

/-- A run of digits is never read as a negative number. -/
theorem integer?_nonneg {s : String} {n : Int} (h : ∀ c ∈ s.toList, isDigit c = true)
    (hn : integer? s = some n) : 0 ≤ n := by
  rw [integer?_of_isDigit h, Option.map_eq_some_iff] at hn
  obtain ⟨m, -, rfl⟩ := hn
  exact Int.natCast_nonneg m

/-- A run of digits that is read with 64 bits lies between zero and their greatest number. -/
theorem int64?_bounds {s : String} {n : Int} (h : ∀ c ∈ s.toList, isDigit c = true)
    (hn : int64? s = some n) : 0 ≤ n ∧ n ≤ 9223372036854775807 := by
  obtain ⟨hread, hfits⟩ := Option.filter_eq_some_iff.1 hn
  simp only [fitsInt64, Bool.and_eq_true, decide_eq_true_eq] at hfits
  exact ⟨integer?_nonneg h hread, hfits.2⟩

/-- A run of digits that is read with 32 bits lies between zero and their greatest number. -/
theorem int32?_bounds {s : String} {n : Int} (h : ∀ c ∈ s.toList, isDigit c = true)
    (hn : int32? s = some n) : 0 ≤ n ∧ n ≤ 2147483647 := by
  obtain ⟨hread, hfits⟩ := Option.filter_eq_some_iff.1 hn
  simp only [fitsInt32, Bool.and_eq_true, decide_eq_true_eq] at hfits
  exact ⟨integer?_nonneg h hread, hfits.2⟩

/-- Whatever is read as an unsigned number of 64 bits fits them. -/
theorem nat64?_le {s : String} {n : Nat} (hn : nat64? s = some n) : n ≤ 18446744073709551615 := by
  obtain ⟨-, hfits⟩ := Option.filter_eq_some_iff.1 hn
  simpa only [fitsNat64, decide_eq_true_eq] using hfits

end Broadband.Text
