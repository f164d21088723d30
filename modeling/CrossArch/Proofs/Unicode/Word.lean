import CrossArch.Unicode.Blank
import CrossArch.Unicode.Word
import Mathlib.Tactic.Common

/-!
# ASCII word characters and blanks

The letters, digits and the underscore of ASCII are word characters and no blanks; no blank at all
is a word character. Lower case moves the capitals of ASCII and nothing else.
-/

namespace CrossArch.Unicode

/-- The ASCII word characters lie between `0` and `z`. -/
theorem bounds_of_isAsciiWord {c : Char} (ascii : isAsciiWord c = true) :
    48 ≤ c.toNat ∧ c.toNat ≤ 122 := by
  delta isAsciiWord Char.isAlphanum Char.isAlpha Char.isUpper Char.isLower Char.isDigit at ascii
  simp only [Bool.or_eq_true, Bool.and_eq_true, decide_eq_true_eq, beq_iff_eq, ge_iff_le,
    UInt32.le_iff_toNat_le] at ascii
  rcases ascii with ((⟨low, high⟩ | ⟨low, high⟩) | ⟨low, high⟩) | rfl
  · exact ⟨Nat.le_trans (by decide) low, Nat.le_trans high (by decide)⟩
  · exact ⟨Nat.le_trans (by decide) low, Nat.le_trans high (by decide)⟩
  · exact ⟨Nat.le_trans (by decide) low, Nat.le_trans high (by decide)⟩
  · decide

theorem isWord_of_isAsciiWord {c : Char} (ascii : isAsciiWord c = true) : isWord c = true := by
  have bounds := bounds_of_isAsciiWord ascii
  rw [isWord, if_pos (by omega)]
  exact ascii

theorem not_isBlank_of_isAsciiWord {c : Char} (ascii : isAsciiWord c = true) :
    isBlank c = false := by
  have bounds := bounds_of_isAsciiWord ascii
  rw [isBlank, if_pos (by omega), ← Bool.not_eq_true, Bool.or_eq_true, Bool.and_eq_true, beq_iff_eq,
    decide_eq_true_eq, decide_eq_true_eq]
  omega

/-- The blanks beyond ASCII are few, and none of them is a word character. -/
theorem blanksBeyondAscii_not_isWord : ∀ interval ∈ blanksBeyondAscii.intervals,
    ∀ code ∈ List.range' interval.1 (interval.2 + 1 - interval.1),
      isWord (Char.ofNat code) = false := by
  decide +kernel

theorem not_isWord_of_isBlank {c : Char} (blank : isBlank c = true) : isWord c = false := by
  by_cases ascii : c.toNat < 128
  · rw [← Bool.not_eq_true]
    intro word
    rw [isWord, if_pos ascii] at word
    rw [not_isBlank_of_isAsciiWord word] at blank
    contradiction
  · rw [isBlank, if_neg ascii, CodeRanges.contains, List.any_eq_true] at blank
    rcases blank with ⟨interval, mem, within⟩
    rw [Bool.and_eq_true, decide_eq_true_eq, decide_eq_true_eq] at within
    have covered : c.toNat ∈ List.range' interval.1 (interval.2 + 1 - interval.1) := by
      rw [List.mem_range'_1]
      omega
    have notWord := blanksBeyondAscii_not_isWord interval mem c.toNat covered
    rwa [Char.ofNat_toNat] at notWord

theorem toNat_toLower (c : Char) :
    c.toLower.toNat = if 65 ≤ c.toNat ∧ c.toNat ≤ 90 then c.toNat + 32 else c.toNat := by
  have capital : (c.val ≥ 'A'.val ∧ c.val ≤ 'Z'.val) ↔ 65 ≤ c.toNat ∧ c.toNat ≤ 90 := by
    rw [ge_iff_le, UInt32.le_iff_toNat_le, UInt32.le_iff_toNat_le]
    rfl
  delta Char.toLower
  split <;> rename_i isCapital
  · have bounds := capital.1 isCapital
    have sum : (c.val + ('a'.val - 'A'.val)).toNat = (c.toNat + 32) % 2 ^ 32 := UInt32.toNat_add _ _
    rw [Nat.mod_eq_of_lt (by omega)] at sum
    rw [if_pos bounds]
    exact sum
  · rw [if_neg (mt capital.2 isCapital)]

end CrossArch.Unicode
