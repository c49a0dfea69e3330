/-
**Rounding keeps the order.**

A greater fraction is never rounded to a lesser number.  Inside a block of numbers this is so
because fractions are rounded to whole multiples of one unit; from one block to the next, because
the numbers of a block end where those of the next one begin.  Sums and quotients of numbers that
are not below zero are therefore monotone, and whatever holds at the ends of a range holds inside.

Main definitions:

* `Binary64.value`: the fraction that a finite rank stands for;
* `Binary64.Ascends`: two numbers in order, none of them below zero.

Main results:

* `lt_roundHalfEven_iff`: when a fraction is rounded above a whole number;
* `Binary64.floorLog2_eq_log`: the exponent that rounding starts from is the logarithm;
* `Binary64.rankOfFraction_mono`: **rounding keeps the order**;
* `Binary64.value_mono`: and so does the value of a rank;
* `Binary64.Ascends.add`, `Binary64.Ascends.div`: sums grow with their terms, and a quotient with
  the dividend and against the divisor.
-/
import Mathlib.Algebra.Order.Field.Power
import Mathlib.Data.Int.Log
import Mathlib.Data.Rat.Floor
import Mathlib.Tactic.FieldSimp
import Mathlib.Tactic.Linarith
import Mathlib.Tactic.NormNum
import Mathlib.Tactic.Positivity
import Mathlib.Tactic.Ring
import TracePlayer.Binary64.Arithmetic

set_option autoImplicit false

namespace TracePlayer

/-! ### Whole numbers -/

/-- A fraction is rounded above a whole number if it is past the middle to the next one, or in the
middle and the number is odd. -/
theorem lt_roundHalfEven_iff {num den n : Nat} (hden : 0 < den) :
    n < roundHalfEven num den ↔
      (2 * n + 1) * den < 2 * num ∨ (2 * n + 1) * den = 2 * num ∧ n % 2 = 1 := by
  have hnum : den * (num / den) + num % den = num := Nat.div_add_mod num den
  have hrest : num % den < den := Nat.mod_lt num hden
  simp only [roundHalfEven]
  generalize num / den = quotient at *
  generalize num % den = rest at *
  rcases Nat.lt_trichotomy n quotient with hlt | rfl | hgt
  · have hle : (n + 1) * den ≤ den * quotient := by
      rw [Nat.mul_comm den]
      exact Nat.mul_le_mul_right den hlt
    have hpast : (2 * n + 1) * den < 2 * num := by linarith
    refine iff_of_true ?_ (.inl hpast)
    split
    · exact hlt
    · split <;> omega
  · have hsplit : (2 * n + 1) * den = 2 * (den * n) + den := by ring
    split
    · omega
    · split <;> omega
  · have hle : den * (quotient + 1) ≤ n * den := by
      rw [Nat.mul_comm n]
      exact Nat.mul_le_mul_left den hgt
    have hbefore : 2 * num < (2 * n + 1) * den := by linarith
    refine iff_of_false ?_ (by omega)
    split
    · omega
    · split <;> omega

/-- The same in terms of the fraction. -/
theorem lt_roundHalfEven_iff_ratio {num den n : Nat} (hden : 0 < den) :
    n < roundHalfEven num den ↔
      (n : ℚ) + 1 / 2 < num / den ∨ (n : ℚ) + 1 / 2 = num / den ∧ n % 2 = 1 := by
  have hpos : (0 : ℚ) < den := Nat.cast_pos.2 hden
  rw [lt_roundHalfEven_iff hden, lt_div_iff₀ hpos, eq_div_iff hpos.ne']
  rw [← @Nat.cast_lt ℚ, ← @Nat.cast_inj ℚ]
  push_cast
  constructor
  · rintro (h | ⟨h, hodd⟩)
    · exact .inl (by linarith)
    · exact .inr ⟨by linarith, hodd⟩
  · rintro (h | ⟨h, hodd⟩)
    · exact .inl (by linarith)
    · exact .inr ⟨by linarith, hodd⟩

/-- Rounding to whole numbers keeps the order. -/
theorem roundHalfEven_mono {num den num' den' : Nat} (hden : 0 < den) (hden' : 0 < den')
    (h : (num : ℚ) / den ≤ num' / den') : roundHalfEven num den ≤ roundHalfEven num' den' := by
  by_contra hgt
  refine lt_irrefl (roundHalfEven num' den') ((lt_roundHalfEven_iff_ratio hden').2 ?_)
  rcases (lt_roundHalfEven_iff_ratio hden).1 (not_le.1 hgt) with hlt | ⟨heq, hodd⟩
  · exact .inl (hlt.trans_le h)
  · rw [heq]
    exact h.lt_or_eq.imp_right fun hsame => ⟨hsame, hodd⟩

theorem roundHalfEven_one (n : Nat) : roundHalfEven n 1 = n := by
  simp [roundHalfEven, Nat.mod_one]

/-- A fraction that is at most a whole number is not rounded above it. -/
theorem roundHalfEven_le {num den n : Nat} (hden : 0 < den) (h : (num : ℚ) / den ≤ n) :
    roundHalfEven num den ≤ n := by
  have hwhole : (num : ℚ) / den ≤ n / (1 : Nat) := by simpa using h
  simpa only [roundHalfEven_one] using roundHalfEven_mono hden Nat.one_pos hwhole

/-- A fraction that is at least a whole number is not rounded below it. -/
theorem le_roundHalfEven {num den n : Nat} (hden : 0 < den) (h : (n : ℚ) ≤ num / den) :
    n ≤ roundHalfEven num den := by
  have hwhole : (n : ℚ) / (1 : Nat) ≤ num / den := by simpa using h
  simpa only [roundHalfEven_one] using roundHalfEven_mono Nat.one_pos hden hwhole

/-! ### Powers of two -/

theorem shiftFraction_snd_pos (num : Nat) {den : Nat} (hden : 0 < den) (exponent : Int) :
    0 < (shiftFraction num den exponent).2 := by
  cases exponent with
  | ofNat k => exact hden
  | negSucc k =>
      rw [shiftFraction, Nat.shiftLeft_eq]
      positivity

theorem shiftFraction_ratio (num den : Nat) (exponent : Int) :
    ((shiftFraction num den exponent).1 : ℚ) / (shiftFraction num den exponent).2 =
      num / den * 2 ^ exponent := by
  cases exponent with
  | ofNat k =>
      simp only [shiftFraction, Nat.shiftLeft_eq, Int.ofNat_eq_natCast, zpow_natCast]
      push_cast
      ring
  | negSucc k =>
      simp only [shiftFraction, Nat.shiftLeft_eq, zpow_negSucc]
      push_cast
      rw [← div_eq_mul_inv, div_div]

namespace Binary64

/-! ### From fractions to ranks -/

section

variable {num den num' den' : Nat}

/-- The logarithm of a whole number bounds it on both sides. -/
theorem zpow_log2_le_and_lt {n : Nat} (hn : 0 < n) :
    (2 : ℚ) ^ (Nat.log2 n : Int) ≤ n ∧ (n : ℚ) < 2 ^ ((Nat.log2 n : Int) + 1) := by
  constructor
  · exact_mod_cast Nat.log2_self_le hn.ne'
  · exact_mod_cast Nat.lt_log2_self

/-- The exponent that rounding starts from is the logarithm of the fraction. -/
theorem floorLog2_eq_log (hnum : 0 < num) (hden : 0 < den) :
    floorLog2 num den = Int.log 2 ((num : ℚ) / den) := by
  have hratio : (0 : ℚ) < num / den := by positivity
  obtain ⟨hnumLow, hnumHigh⟩ := zpow_log2_le_and_lt hnum
  obtain ⟨hdenLow, hdenHigh⟩ := zpow_log2_le_and_lt hden
  -- The guess is one too high at most, and never too low.
  have hbelow : (num : ℚ) / den < ((2 : Nat) : ℚ) ^ ((Nat.log2 num : Int) + 1 - Nat.log2 den) := by
    rw [Nat.cast_ofNat, zpow_sub₀ two_ne_zero]
    exact div_lt_div₀ hnumHigh hdenLow (by positivity) (by positivity)
  have habove : ((2 : Nat) : ℚ) ^ ((Nat.log2 num : Int) - (Nat.log2 den + 1)) ≤ num / den := by
    rw [Nat.cast_ofNat, zpow_sub₀ two_ne_zero]
    exact div_le_div₀ (by positivity) hnumLow (by positivity) hdenHigh.le
  have hhigh := (Int.lt_zpow_iff_log_lt one_lt_two hratio).1 hbelow
  have hlow := (Int.zpow_le_iff_le_log one_lt_two hratio).1 habove
  have hguess : (shiftFraction num den (-((Nat.log2 num : Int) - Nat.log2 den))).1 <
      (shiftFraction num den (-((Nat.log2 num : Int) - Nat.log2 den))).2 ↔
        Int.log 2 ((num : ℚ) / den) < (Nat.log2 num : Int) - Nat.log2 den := by
    rw [← Int.lt_zpow_iff_log_lt one_lt_two hratio, ← @Nat.cast_lt ℚ,
      ← div_lt_one (Nat.cast_pos.2 (shiftFraction_snd_pos num hden _)), shiftFraction_ratio,
      zpow_neg, ← div_eq_mul_inv, div_lt_one (by positivity), Nat.cast_ofNat]
  simp only [floorLog2, hguess]
  split <;> omega

/-- The exponent of the unit that a fraction is rounded to. -/
def unitExponent (num den : Nat) : Int := Max.max (floorLog2 num den - 52) (-1074)

theorem rankOfFraction_of_pos (hnum : 0 < num) :
    rankOfFraction num den = (unitExponent num den + 1074).toNat * blockSize +
      roundHalfEven (shiftFraction num den (-unitExponent num den)).1
        (shiftFraction num den (-unitExponent num den)).2 := by
  simp only [rankOfFraction, if_neg hnum.ne', unitExponent]

/-- A greater fraction is rounded to a greater unit, if not to the same one. -/
theorem unitExponent_mono (hnum : 0 < num) (hden : 0 < den) (hnum' : 0 < num') (hden' : 0 < den')
    (h : (num : ℚ) / den ≤ num' / den') : unitExponent num den ≤ unitExponent num' den' := by
  have hratio : (0 : ℚ) < num / den := by positivity
  have hlog : Int.log 2 _ ≤ Int.log 2 _ := Int.log_mono_right hratio h
  unfold unitExponent
  rw [floorLog2_eq_log hnum hden, floorLog2_eq_log hnum' hden']
  omega

/-- The whole numbers of a block are `2 ^ 52` steps. -/
theorem cast_blockSize : (blockSize : ℚ) = 2 ^ (52 : Int) := by
  norm_num [blockSize, Nat.shiftLeft_eq]

/-- A fraction has fewer units than two blocks. -/
theorem ratio_mul_zpow_lt (hnum : 0 < num) (hden : 0 < den) :
    (num : ℚ) / den * 2 ^ (-unitExponent num den) < (2 * blockSize : Nat) := by
  have hratio : (0 : ℚ) < num / den := by positivity
  have hlog := Int.lt_zpow_succ_log_self one_lt_two ((num : ℚ) / den)
  rw [← floorLog2_eq_log hnum hden, Nat.cast_ofNat] at hlog
  have hunit : floorLog2 num den + 1 ≤ unitExponent num den + 53 := by
    unfold unitExponent
    omega
  calc (num : ℚ) / den * 2 ^ (-unitExponent num den)
      < 2 ^ (unitExponent num den + 53) * 2 ^ (-unitExponent num den) := by
        gcongr
        exact hlog.trans_le (zpow_le_zpow_right₀ one_le_two hunit)
    _ = (2 * blockSize : Nat) := by
        rw [← zpow_add₀ two_ne_zero, add_right_comm, add_neg_cancel, Nat.cast_mul, cast_blockSize]
        norm_num

/-- Above the least unit, it has as many units as a block at least. -/
theorem blockSize_le_ratio_mul_zpow (hnum : 0 < num) (hden : 0 < den)
    (hunit : -1074 < unitExponent num den) :
    (blockSize : ℚ) ≤ num / den * 2 ^ (-unitExponent num den) := by
  have hratio : (0 : ℚ) < num / den := by positivity
  have hlog := Int.zpow_log_le_self one_lt_two hratio
  rw [← floorLog2_eq_log hnum hden, Nat.cast_ofNat] at hlog
  have hexponent : floorLog2 num den = unitExponent num den + 52 := by
    unfold unitExponent at *
    omega
  calc (blockSize : ℚ) = 2 ^ (unitExponent num den + 52) * 2 ^ (-unitExponent num den) := by
        rw [← zpow_add₀ two_ne_zero, add_right_comm, add_neg_cancel, zero_add, cast_blockSize]
    _ ≤ num / den * 2 ^ (-unitExponent num den) := by
        rw [← hexponent]
        gcongr

/-- **Rounding keeps the order.** -/
theorem rankOfFraction_mono (hden : 0 < den) (hden' : 0 < den')
    (h : (num : ℚ) / den ≤ num' / den') :
    rankOfFraction num den ≤ rankOfFraction num' den' := by
  rcases Nat.eq_zero_or_pos num with rfl | hnum
  · exact Nat.zero_le _
  have hnum' : 0 < num' := by
    have hratio : (0 : ℚ) < num / den := by positivity
    exact Nat.cast_pos.1 ((div_pos_iff_of_pos_right (Nat.cast_pos.2 hden')).1 (hratio.trans_le h))
  have hpos := shiftFraction_snd_pos num hden (-unitExponent num den)
  have hpos' := shiftFraction_snd_pos num' hden' (-unitExponent num' den')
  rw [rankOfFraction_of_pos hnum, rankOfFraction_of_pos hnum']
  rcases (unitExponent_mono hnum hden hnum' hden' h).eq_or_lt with hsame | hlt
  · rw [← hsame] at hpos' ⊢
    refine Nat.add_le_add_left (roundHalfEven_mono hpos hpos' ?_) _
    rw [shiftFraction_ratio, shiftFraction_ratio]
    gcongr
  · -- The numbers of a block end where those of the next one begin.
    have hupper : roundHalfEven _ _ ≤ 2 * blockSize :=
      roundHalfEven_le hpos (by rw [shiftFraction_ratio]; exact (ratio_mul_zpow_lt hnum hden).le)
    have hleast : -1074 ≤ unitExponent num den := le_max_right _ _
    have hlower : blockSize ≤ roundHalfEven _ _ :=
      le_roundHalfEven hpos' (by
        rw [shiftFraction_ratio]
        exact blockSize_le_ratio_mul_zpow hnum' hden' (hleast.trans_lt hlt))
    have hblocks :
        (unitExponent num den + 1074).toNat + 1 ≤ (unitExponent num' den' + 1074).toNat := by
      omega
    have := Nat.mul_le_mul_right blockSize hblocks
    rw [Nat.add_mul] at this
    omega

end

/-! ### From ranks to fractions -/

/-- The fraction that a finite rank stands for. -/
def value (rank : Nat) : ℚ := (scale rank).1 * 2 ^ (scale rank).2

theorem fraction_snd_pos (rank : Nat) : 0 < (fraction rank).2 :=
  shiftFraction_snd_pos _ Nat.one_pos _

theorem fraction_ratio (rank : Nat) :
    ((fraction rank).1 : ℚ) / (fraction rank).2 = value rank := by
  rw [fraction, shiftFraction_ratio, value, Nat.cast_one, div_one]

/-- The first block of numbers has the least unit. -/
theorem value_of_lt {rank : Nat} (h : rank < blockSize) :
    value rank = rank * 2 ^ (-1074 : Int) := by
  rw [value, scale, if_pos h]

/-- Every other one begins at a power of two, and has a unit of its own. -/
theorem value_of_le {rank : Nat} (h : blockSize ≤ rank) :
    value rank = (blockSize + rank % blockSize : Nat) *
      2 ^ (((rank / blockSize : Nat) : Int) - 1075) := by
  rw [value, scale, if_neg (not_lt.2 h)]

theorem value_pos {rank : Nat} (h : 0 < rank) : 0 < value rank := by
  rcases Nat.lt_or_ge rank blockSize with hlt | hle
  · rw [value_of_lt hlt]
    positivity
  · have hmantissa : 0 < blockSize + rank % blockSize := Nat.add_pos_left (by decide) _
    rw [value_of_le hle]
    positivity

/-- A greater rank stands for a greater fraction. -/
theorem value_mono : Monotone value := by
  refine monotone_nat_of_le_succ fun rank => ?_
  have hsize : blockSize = 4503599627370496 := rfl
  rcases Nat.lt_or_ge (rank + 1) blockSize with hinside | hnext
  · rw [value_of_lt (Nat.lt_of_succ_lt hinside), value_of_lt hinside]
    gcongr
    exact Nat.le_succ rank
  rw [value_of_le hnext]
  rcases Nat.lt_or_ge rank blockSize with hlast | hlater
  · -- The first block ends where the second one begins, with the same unit.
    obtain rfl : rank = blockSize - 1 := by omega
    rw [value_of_lt hlast, hsize]
    norm_num
  rw [value_of_le hlater]
  rcases Nat.lt_or_ge (rank % blockSize + 1) blockSize with hoffset | hend
  · have hblock : (rank + 1) / blockSize = rank / blockSize := by
      rw [hsize] at hoffset ⊢
      omega
    have hstep : rank % blockSize ≤ (rank + 1) % blockSize := by
      rw [hsize] at hoffset ⊢
      omega
    rw [hblock]
    gcongr
  · have hblock : (rank + 1) / blockSize = rank / blockSize + 1 := by
      rw [hsize] at hend ⊢
      omega
    have hmantissa : blockSize + rank % blockSize ≤ (blockSize + (rank + 1) % blockSize) * 2 := by
      have := Nat.mod_lt rank (show 0 < blockSize by decide)
      omega
    have hunit : (((rank / blockSize + 1 : Nat) : Int) - 1075) =
        ((rank / blockSize : Nat) : Int) - 1075 + 1 := by
      rw [Nat.cast_succ, add_sub_right_comm]
    rw [hblock, hunit, zpow_add_one₀ two_ne_zero, mul_comm (2 ^ _) 2, ← mul_assoc]
    gcongr
    exact_mod_cast hmantissa

/-! ### Sums and quotients -/

/-- Two numbers in order, none of them below zero. -/
def Ascends : Binary64 → Binary64 → Prop
  | number false rankX, number false rankY => rankX.val ≤ rankY.val
  | _, _ => False

instance : (x y : Binary64) → Decidable (Ascends x y)
  | number false rankX, number false rankY => inferInstanceAs (Decidable (rankX.val ≤ rankY.val))
  | nan, _ | number true _, _ | number false _, nan | number false _, number true _ =>
      inferInstanceAs (Decidable False)

variable {x x' y y' z : Binary64}

theorem Ascends.exists_ranks (h : Ascends x y) :
    ∃ rankX rankY, x = number false rankX ∧ y = number false rankY ∧ rankX.val ≤ rankY.val := by
  unfold Ascends at h
  split at h
  · exact ⟨_, _, rfl, rfl, h⟩
  · exact h.elim

theorem Ascends.trans (hxy : Ascends x y) (hyz : Ascends y z) : Ascends x z := by
  obtain ⟨_, _, rfl, rfl, hle⟩ := hxy.exists_ranks
  obtain ⟨_, _, heq, rfl, hle'⟩ := hyz.exists_ranks
  obtain rfl := (number.inj heq).2
  exact hle.trans hle'

theorem ascends_ofRank {m n : Nat} (h : m ≤ n) : Ascends (ofRank false m) (ofRank false n) := by
  unfold ofRank infinity
  split
  · split
    · exact h
    · exact Nat.lt_succ_iff.1 ‹_›
  · rw [dif_neg (by omega)]
    exact Nat.le_refl infinityRank

/-- Numbers keep the order of the fractions they are nearest to. -/
theorem ascends_ofFraction {num den num' den' : Nat} (hden : 0 < den) (hden' : 0 < den')
    (h : (num : ℚ) / den ≤ num' / den') :
    Ascends (ofFraction false num den) (ofFraction false num' den') :=
  ascends_ofRank (rankOfFraction_mono hden hden' h)

theorem ascends_ofNat {m n : Nat} (h : m ≤ n) : Ascends (ofNat m) (ofNat n) :=
  ascends_ofFraction Nat.one_pos Nat.one_pos (by gcongr)

/-- A sum is nearest to the sum of the fractions. -/
theorem exists_add_eq {rankX rankY : Fin (infinityRank + 1)} (hx : rankX.val < infinityRank)
    (hy : rankY.val < infinityRank) :
    ∃ num den : Nat, 0 < den ∧ (num : ℚ) / den = value rankX + value rankY ∧
      (number false rankX).add (number false rankY) = ofFraction false num den := by
  have hdenX := fraction_snd_pos rankX
  have hdenY := fraction_snd_pos rankY
  refine ⟨(fraction rankX).1 * (fraction rankY).2 + (fraction rankY).1 * (fraction rankX).2, _,
    Nat.mul_pos hdenX hdenY, ?_, ?_⟩
  · rw [← fraction_ratio, ← fraction_ratio]
    push_cast
    field_simp
  · simp only [add, if_neg hx.ne, if_neg hy.ne, if_true]

/-- A quotient is nearest to the quotient of the fractions. -/
theorem exists_div_eq {rankX rankY : Fin (infinityRank + 1)} (hx : rankX.val < infinityRank)
    (hy : rankY.val < infinityRank) (positive : 0 < rankY.val) :
    ∃ num den : Nat, 0 < den ∧ (num : ℚ) / den = value rankX / value rankY ∧
      (number false rankX).div (number false rankY) = ofFraction false num den := by
  have hvalue := value_pos positive
  rw [← fraction_ratio] at hvalue
  have hnum := Nat.cast_pos.1
    ((div_pos_iff_of_pos_right (Nat.cast_pos.2 (fraction_snd_pos rankY))).1 hvalue)
  refine ⟨(fraction rankX).1 * (fraction rankY).2, _,
    Nat.mul_pos (fraction_snd_pos rankX) hnum, ?_, ?_⟩
  · rw [← fraction_ratio, ← fraction_ratio, div_div_div_eq]
    push_cast
    rfl
  · simp only [div, if_neg hx.ne, if_neg hy.ne, if_neg positive.ne']
    rfl

namespace Ascends

/-- A sum of finite numbers grows with its terms. -/
theorem add (hx : Ascends x x') (hy : Ascends y y') (finiteX : x'.isFinite = true)
    (finiteY : y'.isFinite = true) : Ascends (x.add y) (x'.add y') := by
  obtain ⟨rankX, rankX', rfl, rfl, hleX⟩ := hx.exists_ranks
  obtain ⟨rankY, rankY', rfl, rfl, hleY⟩ := hy.exists_ranks
  have hltX : rankX'.val < infinityRank := of_decide_eq_true finiteX
  have hltY : rankY'.val < infinityRank := of_decide_eq_true finiteY
  obtain ⟨_, _, hden, hratio, hadd⟩ := exists_add_eq (hleX.trans_lt hltX) (hleY.trans_lt hltY)
  obtain ⟨_, _, hden', hratio', hadd'⟩ := exists_add_eq hltX hltY
  rw [hadd, hadd']
  refine ascends_ofFraction hden hden' ?_
  rw [hratio, hratio']
  exact add_le_add (value_mono hleX) (value_mono hleY)

/-- A quotient of finite numbers grows with the dividend, and against the divisor. -/
theorem div (hx : Ascends x x') (hy : Ascends y' y) (finiteX : x'.isFinite = true)
    (finiteY : y.isFinite = true) (positive : y'.isPositive = true) :
    Ascends (x.div y) (x'.div y') := by
  obtain ⟨rankX, rankX', rfl, rfl, hleX⟩ := hx.exists_ranks
  obtain ⟨rankY', rankY, rfl, rfl, hleY⟩ := hy.exists_ranks
  have hltX : rankX'.val < infinityRank := of_decide_eq_true finiteX
  have hltY : rankY.val < infinityRank := of_decide_eq_true finiteY
  have hpos : 0 < rankY'.val := Int.ofNat_lt.1 (of_decide_eq_true positive)
  obtain ⟨_, _, hden, hratio, hdiv⟩ :=
    exists_div_eq (hleX.trans_lt hltX) hltY (hpos.trans_le hleY)
  obtain ⟨_, _, hden', hratio', hdiv'⟩ := exists_div_eq hltX (hleY.trans_lt hltY) hpos
  rw [hdiv, hdiv']
  refine ascends_ofFraction hden hden' ?_
  rw [hratio, hratio']
  have hvalue := value_pos hpos
  have hdividend : 0 ≤ value rankX' := by
    unfold value
    positivity
  gcongr
  · exact value_mono hleX
  · exact value_mono hleY

end Ascends

end Binary64

end TracePlayer
