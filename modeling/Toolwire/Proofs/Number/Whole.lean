import Mathlib
import Toolwire.Number.Binary64
/-!
# Whole numbers as binary64 numbers

Rounding keeps what needs no more than 53 bits. So the integer part of a number, clamped to 64 bits,
is read again as itself: `toNatSaturating_ofDecimal`.
-/
namespace Toolwire.Number

/-! ## Rounding a quotient -/

theorem roundDiv_mul (n : Nat) {d : Nat} (hd : 0 < d) : roundDiv (n * d) d = n := by
  simp [roundDiv, Nat.mul_mod_left, Nat.mul_div_cancel n hd, hd.ne]

/-- What is at most an integer rounds to at most that. -/
theorem roundDiv_le {num den bound : Nat} (hd : 0 < den) (h : num ≤ bound * den) :
    roundDiv num den ≤ bound := by
  have hq : num / den ≤ bound := Nat.div_le_of_le_mul (by rwa [Nat.mul_comm] at h)
  unfold roundDiv
  dsimp only
  split
  · rename_i hup
    -- It is rounded up only where something is left over, and then the quotient is below the bound.
    have hleft : 0 < num % den := by
      simp only [Bool.or_eq_true, decide_eq_true_eq, Bool.and_eq_true, beq_iff_eq] at hup
      omega
    have hlt : num / den < bound := by
      apply lt_of_le_of_ne hq
      rintro rfl
      have := Nat.div_add_mod num den
      rw [Nat.mul_comm] at h
      omega
    omega
  · exact hq

namespace Binary64

/-! ## Mantissas -/

theorem cast_pow_toNat {k : ℤ} (hk : 0 ≤ k) : ((Nat.pow 2 k.toNat : ℕ) : ℚ) = 2 ^ k := by
  rw [Nat.pow_eq, Nat.cast_pow, Nat.cast_ofNat, ← zpow_natCast, Int.toNat_of_nonneg hk]

/-- A quotient is below the power of two behind the floor of its logarithm. -/
theorem lt_floorLog (num : Nat) {den : Nat} (hd : 0 < den) :
    (num : ℚ) < den * 2 ^ (floorLog num den + 1) := by
  have hnum : (num : ℚ) < 2 ^ ((num.log2 : ℤ) + 1) := by
    have h := Nat.lt_log2_self (n := num)
    exact_mod_cast h
  have hden : (2 : ℚ) ^ (den.log2 : ℤ) ≤ den := by
    have h := Nat.log2_self_le hd.ne'
    exact_mod_cast h
  unfold floorLog
  dsimp only
  generalize hk : (num.log2 : ℤ) - (den.log2 : ℤ) = k
  have hreached : (num : ℚ) < den * 2 ^ (k + 1) := by
    calc (num : ℚ) < 2 ^ ((num.log2 : ℤ) + 1) := hnum
      _ = 2 ^ (den.log2 : ℤ) * 2 ^ (k + 1) := by
        rw [← zpow_add₀ two_ne_zero]
        congr 1
        omega
      _ ≤ den * 2 ^ (k + 1) := by gcongr
  split
  · rename_i hpos
    split
    · exact hreached
    · rename_i hless
      rw [sub_add_cancel, ← cast_pow_toNat hpos]
      exact_mod_cast not_le.1 hless
  · rename_i hneg
    split
    · exact hreached
    · rename_i hless
      have hlt : (num : ℚ) * 2 ^ (-k) < den := by
        rw [← cast_pow_toNat (by omega : 0 ≤ -k)]
        exact_mod_cast not_le.1 hless
      rwa [zpow_neg, ← div_eq_mul_inv, div_lt_iff₀ (by positivity), ← sub_add_cancel k 1] at hlt

/-- The mantissa of a finite number has at most 53 bits. -/
def Narrow (x : Binary64) : Prop := ∀ s m e, x = .finite s m e → m < 2 ^ 53

theorem narrow_zero (s : Bool) : Narrow (zero s) := by
  intro _ m _ h
  cases h
  decide

/-- The quotient that is rounded has at most 53 bits in front of the point. -/
theorem roundDiv_scaled_le (num : Nat) {den : Nat} (hd : 0 < den) {e : ℤ}
    (he : floorLog num den - 52 ≤ e) :
    (if 0 ≤ e then roundDiv num (den * Nat.pow 2 e.toNat)
      else roundDiv (num * Nat.pow 2 (-e).toNat) den) ≤ 2 ^ 53 := by
  have hlt : (num : ℚ) < 2 ^ 53 * (den * 2 ^ e) := by
    calc (num : ℚ) < den * 2 ^ (floorLog num den + 1) := lt_floorLog num hd
      _ ≤ den * 2 ^ (e + 53) :=
        mul_le_mul_of_nonneg_left (zpow_le_zpow_right₀ one_le_two (by omega)) (Nat.cast_nonneg den)
      _ = 2 ^ 53 * (den * 2 ^ e) := by rw [zpow_add₀ two_ne_zero]; norm_num; ring
  split
  · rename_i hpos
    apply roundDiv_le (Nat.mul_pos hd (Nat.pow_pos two_pos))
    rw [← cast_pow_toNat hpos] at hlt
    exact_mod_cast hlt.le
  · rename_i hneg
    apply roundDiv_le hd
    have hscaled : (num : ℚ) * 2 ^ (-e) ≤ 2 ^ 53 * den := by
      rw [zpow_neg, ← div_eq_mul_inv, div_le_iff₀ (by positivity), mul_assoc]
      exact hlt.le
    rw [← cast_pow_toNat (by omega : 0 ≤ -e)] at hscaled
    exact_mod_cast hscaled

theorem narrow_ofRatio (s : Bool) (num : Nat) {den : Nat} (hd : 0 < den) :
    Narrow (ofRatio s num den) := by
  unfold ofRatio
  split
  · exact narrow_zero s
  · dsimp only
    have hm := roundDiv_scaled_le num hd
      (le_max_left (floorLog num den - 52) (-1074))
    generalize max (floorLog num den - 52) (-1074) = e at hm ⊢
    generalize (if 0 ≤ e then roundDiv num (den * Nat.pow 2 e.toNat)
      else roundDiv (num * Nat.pow 2 (-e).toNat) den) = m at hm ⊢
    intro _ m' _ h
    split at h <;> split at h <;> cases h
    · exact (by decide : 0x10000000000000 < 2 ^ 53)
    · rename_i hne _
      exact lt_of_le_of_ne hm hne

theorem narrow_ofDecimal (s : Bool) (digits : Nat) (exponent : ℤ) :
    Narrow (ofDecimal s digits exponent) := by
  unfold ofDecimal
  dsimp only
  split
  · exact narrow_zero s
  split
  · nofun
  split
  · exact narrow_zero s
  split
  · exact narrow_ofRatio s _ one_pos
  · exact narrow_ofRatio s _ (Nat.pow_pos (by decide))

/-! ## Numbers of at most 53 bits -/

/-- A natural number below `2 ^ 64` that needs at most 53 bits in front of a power of two is a
binary64 number. -/
theorem magnitude_ofNat {n a k : Nat} (hn : n < 2 ^ 64) (ha : a < 2 ^ 53) (h : n = a * 2 ^ k) :
    ∃ m e, ofNat n = .finite false m e ∧ magnitude m e = n := by
  rcases Nat.eq_zero_or_pos n with rfl | hpos
  · exact ⟨0, -1074, rfl, Nat.zero_div _⟩
  have hlow := Nat.log2_self_le hpos.ne'
  have hhigh := Nat.lt_log2_self (n := n)
  have h64 : n.log2 < 64 := (Nat.log2_lt hpos.ne').2 hn
  have hlog : floorLog n 1 = n.log2 := by
    simp [floorLog, show Nat.log2 1 = 0 from rfl, hlow]
  have hmax : max (floorLog n 1 - 52) (-1074) = (n.log2 : ℤ) - 52 := by omega
  unfold ofNat ofRatio
  simp only [hpos.ne', if_false, hmax]
  by_cases hwide : 52 ≤ n.log2
  · obtain ⟨j, hj⟩ := Nat.exists_eq_add_of_le hwide
    -- The last `j` bits of the number are zero.
    have hjk : j ≤ k := by
      have hlt : 2 ^ n.log2 < 2 ^ (53 + k) := by
        calc 2 ^ n.log2 ≤ a * 2 ^ k := h ▸ hlow
          _ < 2 ^ 53 * 2 ^ k := by gcongr
          _ = 2 ^ (53 + k) := (pow_add _ _ _).symm
      have := (Nat.pow_lt_pow_iff_right (by decide)).1 hlt
      omega
    obtain ⟨q, hq⟩ : 2 ^ j ∣ n := h ▸ Dvd.dvd.mul_left (pow_dvd_pow 2 hjk) a
    have hq53 : q < 2 ^ 53 := by
      rw [hj, show 52 + j + 1 = 53 + j by omega, pow_add] at hhigh
      rw [hq, Nat.mul_comm] at hhigh
      exact Nat.lt_of_mul_lt_mul_right hhigh
    have he : (n.log2 : ℤ) - 52 = j := by omega
    have hround : roundDiv n (1 * Nat.pow 2 j) = q := by
      rw [hq, Nat.one_mul, Nat.pow_eq, Nat.mul_comm, roundDiv_mul q (Nat.pow_pos two_pos)]
    have hsmall : ¬ (971 : ℤ) < j := by omega
    have hne : q ≠ 0x20000000000000 := hq53.ne
    refine ⟨q, j, ?_, ?_⟩
    · simp only [he, Int.natCast_nonneg, if_true, Int.toNat_natCast, hround, if_neg hne,
        if_neg hsmall]
    · simp [magnitude, hq, Nat.mul_comm]
  · obtain ⟨j, hj⟩ := Nat.exists_eq_add_of_le (Nat.le_of_not_le hwide)
    have hjpos : 0 < j := by omega
    have hm : n * 2 ^ j < 2 ^ 53 := by
      calc n * 2 ^ j < 2 ^ (n.log2 + 1) * 2 ^ j := by gcongr
        _ = 2 ^ 53 := by rw [← pow_add]; congr 1; omega
    have he : (n.log2 : ℤ) - 52 = -j := by omega
    have hneg : ¬ (0 : ℤ) ≤ -j := by omega
    have hsmall : ¬ (971 : ℤ) < -j := by omega
    have hne : n * 2 ^ j ≠ 0x20000000000000 := hm.ne
    refine ⟨n * 2 ^ j, -j, ?_, ?_⟩
    · simp only [he, if_neg hneg, neg_neg, Int.toNat_natCast, roundDiv_one, Nat.pow_eq,
        if_neg hne, if_neg hsmall]
    · simp only [magnitude, if_neg hneg, neg_neg, Int.toNat_natCast, Nat.pow_eq]
      exact Nat.mul_div_cancel n (Nat.pow_pos two_pos)

theorem ofDecimal_whole {n : Nat} (hn : n < 2 ^ 64) : ofDecimal false n 0 = ofNat n := by
  unfold ofDecimal
  split
  · rename_i h
    rw [h]
    rfl
  · rename_i h
    have h64 : n.log2 < 64 := (Nat.log2_lt h).2 hn
    have hhigh : ¬ (400 : ℤ) < 0 + (n.log2 : ℤ) * 3 / 10 := by omega
    have hlow : ¬ 0 + (n.log2 : ℤ) * 3 / 10 < -400 := by omega
    simp only [if_neg hhigh, if_neg hlow, le_refl, if_true, Int.toNat_zero, Nat.pow_eq, pow_zero,
      Nat.mul_one, ofNat]

/-- The greatest number of 64 bits. -/
def maxWord : Nat := 0xFFFFFFFFFFFFFFFF

/-- The integer part of a number, clamped to 64 bits, is the greatest number of 64 bits or needs at
most 53 bits in front of a power of two. -/
theorem toNatSaturating_cases {x : Binary64} (hx : Narrow x) :
    x.toNatSaturating maxWord = maxWord
      ∨ x.toNatSaturating maxWord < maxWord
        ∧ ∃ a k, a < 2 ^ 53 ∧ x.toNatSaturating maxWord = a * 2 ^ k := by
  by_cases hle : maxWord ≤ x.toNatSaturating maxWord
  · refine .inl (le_antisymm ?_ hle)
    cases x with
    | nan => decide
    | infinite s => cases s <;> decide
    | finite s m e => cases s <;> simp [toNatSaturating]
  · refine .inr ⟨by omega, ?_⟩
    cases x with
    | nan => exact ⟨0, 0, by decide, rfl⟩
    | infinite s =>
      cases s with
      | true => exact ⟨0, 0, by decide, rfl⟩
      | false => exact absurd (le_refl _) hle
    | finite s m e =>
      cases s with
      | true => exact ⟨0, 0, by decide, rfl⟩
      | false =>
        have hm := hx false m e rfl
        have hmin : toNatSaturating maxWord (.finite false m e) = magnitude m e := by
          have hdef : toNatSaturating maxWord (.finite false m e) = min maxWord (magnitude m e) :=
            rfl
          omega
        rw [hmin, magnitude]
        split
        · exact ⟨m, e.toNat, hm, rfl⟩
        · exact ⟨_, 0, lt_of_le_of_lt (Nat.div_le_self _ _) hm, (Nat.mul_one _).symm⟩

/-- What 64 bits hold of a number is read again as itself. The greatest number of 64 bits is rounded
up, and clamping undoes that. -/
theorem toNatSaturating_ofDecimal {x : Binary64} (hx : Narrow x) :
    (ofDecimal false (x.toNatSaturating maxWord) 0).isFinite = true
    ∧ (ofDecimal false (x.toNatSaturating maxWord) 0).toNatSaturating maxWord =
      x.toNatSaturating maxWord := by
  rcases toNatSaturating_cases hx with h | ⟨hlt, a, k, ha, h⟩
  · rw [h]
    exact ⟨by decide, by decide⟩
  · have hlt64 : x.toNatSaturating maxWord < 2 ^ 64 := hlt.trans (by decide)
    obtain ⟨m, e, hfinite, hm⟩ := magnitude_ofNat hlt64 ha h
    rw [ofDecimal_whole hlt64, hfinite]
    refine ⟨rfl, ?_⟩
    calc toNatSaturating maxWord (.finite false m e) = min maxWord (magnitude m e) := rfl
      _ = x.toNatSaturating maxWord := by rw [hm, Nat.min_eq_right hlt.le]

end Binary64
end Toolwire.Number
