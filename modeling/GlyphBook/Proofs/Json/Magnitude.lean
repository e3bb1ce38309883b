import GlyphBook.Proofs.Json.Numeral
import Mathlib.Algebra.Order.Field.Power
import Mathlib.Data.Rat.Cast.Order
import Mathlib.Tactic.GCongr
import Mathlib.Tactic.NormNum
import Mathlib.Tactic.Ring

/-!
# Numbers that are seen

A number is seen as an integer or as a double, and a number too large for a double is not seen at
all. Its digits are gathered in a significand that holds as many of them as fit, so what is gathered
is never more than the number: it is the number, or digits were given up that would have taken it
past what fits (`Gathers`). Scaling the significand rounds three times, and each time goes up by one
part in `2 ^ 53` at most (`roundUnits_le`). Hence every number that stays four steps below the first
one that no double reaches is seen (`exists_seen`). Closer to it rounding can lose a number, even
one that is no larger than the largest double.
-/

namespace GlyphBook

/-! ## How far rounding goes up -/

namespace Binary64

theorem roundQuotient_le (n d : Nat) : 2 * (d * roundQuotient n d) ≤ 2 * n + d := by
  unfold roundQuotient
  have hdiv : d * (n / d) + n % d = n := Nat.div_add_mod n d
  simp only
  split
  · omega
  · split
    · rw [Nat.mul_add]
      omega
    · rcases Nat.mod_two_eq_zero_or_one (n / d) with h | h
      · rw [h, Nat.add_zero]
        omega
      · rw [h, Nat.mul_add]
        omega

theorem roundUnits_le {n d : Nat} (hn : 2 ^ 53 ≤ n / d) :
    2 ^ 53 * (d * roundUnits n d) ≤ (2 ^ 53 + 1) * n := by
  unfold roundUnits
  simp only
  have hstep : step (n / d) * 2 ^ 52 ≤ n / d := by
    have hlog : 52 ≤ (n / d).log2 := (Nat.le_log2 (by omega)).mpr (by omega)
    rw [step, if_neg (by simpa using hn)]
    calc 2 ^ ((n / d).log2 - 52) * 2 ^ 52 = 2 ^ (n / d).log2 := by
          rw [← Nat.pow_add, Nat.sub_add_cancel hlog]
      _ ≤ n / d := Nat.log2_self_le (by omega)
  generalize step (n / d) = s at hstep ⊢
  calc 2 ^ 53 * (d * (roundQuotient n (d * s) * s))
      = 2 ^ 52 * (2 * (d * s * roundQuotient n (d * s))) := by ring
    _ ≤ 2 ^ 52 * (2 * n + d * s) := Nat.mul_le_mul_left _ (roundQuotient_le n (d * s))
    _ = 2 ^ 53 * n + d * (s * 2 ^ 52) := by ring
    _ ≤ 2 ^ 53 * n + d * (n / d) := by gcongr
    _ ≤ (2 ^ 53 + 1) * n := by
        rw [Nat.add_mul, Nat.one_mul]
        exact Nat.add_le_add_left (Nat.mul_div_le n d) _

theorem roundUnits_le_of_small {n d : Nat} (hn : n / d < 2 ^ 53) : roundUnits n d ≤ 2 ^ 53 := by
  have hstep : step (n / d) = 1 := by rw [step, if_pos (by simpa using hn)]
  unfold roundUnits roundQuotient
  simp only [hstep, Nat.mul_one]
  split
  · omega
  · split <;> omega

theorem two_pow_le_one : 2 ^ 53 ≤ one := by decide +kernel

theorem two_pow_lt_limit : 2 ^ 53 < limit := by decide +kernel

theorem natUnits_le {n : Nat} (hn : 0 < n) : 2 ^ 53 * natUnits n ≤ (2 ^ 53 + 1) * (n * one) := by
  have hlarge : 2 ^ 53 ≤ n * one / 1 := by
    rw [Nat.div_one]
    exact Nat.le_trans two_pow_le_one (Nat.le_mul_of_pos_left one hn)
  have hround := roundUnits_le hlarge
  rwa [Nat.one_mul] at hround

theorem natUnits_zero : natUnits 0 = 0 := by
  simp [natUnits, roundUnits, roundQuotient, step]

/-- A number that is four steps below the first one that no double reaches. -/
def safe : Nat := 2 ^ 1024 - 2 ^ 973

/-- The largest double as a number, one step below the first one that no double reaches. -/
def largest : Nat := 2 ^ 1024 - 2 ^ 971

/-- A safe product is finite even when both factors are rounded before it is. -/
theorem mulUnits_lt_limit {a b : Nat} (ha : 0 < a) (hb : 0 < b)
    (hab : a * b ≤ safe) : mulUnits (natUnits a) (natUnits b) < limit := by
  have hone : 0 < one := Nat.lt_of_lt_of_le (by omega) two_pow_le_one
  by_cases hsmall : natUnits a * natUnits b / one < 2 ^ 53
  · have hround : mulUnits (natUnits a) (natUnits b) ≤ 2 ^ 53 := roundUnits_le_of_small hsmall
    exact Nat.lt_of_le_of_lt hround two_pow_lt_limit
  have hround : 2 ^ 53 * (one * mulUnits (natUnits a) (natUnits b))
      ≤ (2 ^ 53 + 1) * (natUnits a * natUnits b) := roundUnits_le (Nat.le_of_not_lt hsmall)
  -- Three roundings, of the factors and of the product, cost one part in `2 ^ 53` each.
  have hproduct : (2 ^ 53) ^ 3 * mulUnits (natUnits a) (natUnits b)
      ≤ (2 ^ 53 + 1) ^ 3 * safe * one := by
    refine Nat.le_of_mul_le_mul_left ?_ hone
    calc one * ((2 ^ 53) ^ 3 * mulUnits (natUnits a) (natUnits b))
        = (2 ^ 53) ^ 2 * (2 ^ 53 * (one * mulUnits (natUnits a) (natUnits b))) := by ring
      _ ≤ (2 ^ 53) ^ 2 * ((2 ^ 53 + 1) * (natUnits a * natUnits b)) :=
          Nat.mul_le_mul_left _ hround
      _ = (2 ^ 53 + 1) * ((2 ^ 53 * natUnits a) * (2 ^ 53 * natUnits b)) := by ring
      _ ≤ (2 ^ 53 + 1) * (((2 ^ 53 + 1) * (a * one)) * ((2 ^ 53 + 1) * (b * one))) :=
          Nat.mul_le_mul_left _ (Nat.mul_le_mul (natUnits_le ha) (natUnits_le hb))
      _ = one * ((2 ^ 53 + 1) ^ 3 * (a * b) * one) := by ring
      _ ≤ one * ((2 ^ 53 + 1) ^ 3 * safe * one) := by gcongr
  have hlimit : (2 ^ 53 + 1) ^ 3 * safe * one < (2 ^ 53) ^ 3 * limit := by
    decide +kernel
  exact Nat.lt_of_mul_lt_mul_left (Nat.lt_of_le_of_lt hproduct hlimit)

end Binary64

namespace Json

/-! ## Gathering digits -/

/-- A significand with `j` more places stands for the number `m`: it is that number, or digits were
given up because the significand with the first of them would not have fitted. -/
structure Gathers (value j m : Nat) : Prop where
  fits : value < significandLimit
  gathered : (j = 0 ∧ value = m)
    ∨ ∃ i, j = i + 1 ∧ value * 10 ^ j ≤ m ∧ significandLimit * 10 ^ i ≤ m

section

variable {value j m : Nat}

theorem Gathers.le (h : Gathers value j m) : value * 10 ^ j ≤ m := by
  rcases h.gathered with ⟨rfl, rfl⟩ | ⟨i, -, hle, -⟩
  · rw [Nat.pow_zero, Nat.mul_one]
  · exact hle

theorem Gathers.eq_zero (h : Gathers value j m) (hm : m < significandLimit) : j = 0 := by
  rcases h.gathered with ⟨hj, -⟩ | ⟨i, -, -, hlost⟩
  · exact hj
  · have : significandLimit ≤ significandLimit * 10 ^ i := Nat.le_mul_of_pos_right _ (by positivity)
    omega

theorem Gathers.take (h : Gathers value j m) {d : Nat} (hfits : value * 10 + d < significandLimit) :
    Gathers (value * 10 + d) j (m * 10 + d) := by
  refine ⟨hfits, ?_⟩
  rcases h.gathered with ⟨hj, rfl⟩ | ⟨i, rfl, -, hlost⟩
  · exact Or.inl ⟨hj, rfl⟩
  · refine Or.inr ⟨i, rfl, ?_, by omega⟩
    -- What fits now is less than what did not fit when digits were given up.
    calc (value * 10 + d) * 10 ^ (i + 1) ≤ significandLimit * 10 ^ (i + 1) :=
          Nat.mul_le_mul_right _ hfits.le
      _ = significandLimit * 10 ^ i * 10 := by ring
      _ ≤ m * 10 + d := by omega

theorem Gathers.drop (h : Gathers value j m) {d : Nat}
    (hfull : 0 < j ∨ significandLimit ≤ value * 10 + d) : Gathers value (j + 1) (m * 10 + d) := by
  refine ⟨h.fits, Or.inr ⟨j, rfl, ?_, ?_⟩⟩
  · calc value * 10 ^ (j + 1) = value * 10 ^ j * 10 := by ring
      _ ≤ m * 10 + d := by
          have := h.le
          omega
  · rcases h.gathered with ⟨rfl, rfl⟩ | ⟨i, rfl, -, hlost⟩
    · rcases hfull with hj | hlarge
      · exact absurd hj (Nat.lt_irrefl 0)
      · rwa [Nat.pow_zero, Nat.mul_one]
    · calc significandLimit * 10 ^ (i + 1) = significandLimit * 10 ^ i * 10 := by ring
        _ ≤ m * 10 + d := by omega

end

/-- The significand stands for the digits `m`, the last `k` of them behind the point. -/
structure Significand.Stands (s : Significand) (k m : Nat) : Prop where
  gathers : ∃ j : Nat, s.exponent = j - k ∧ Gathers s.value j m ∧ (s.full = true → 0 < j)

theorem Significand.Stands.addWhole {s : Significand} {m : Nat} (h : s.Stands 0 m) (c : Char) :
    (s.addWhole c).Stands 0 (m * 10 + digitValue c) := by
  obtain ⟨j, hj, hgathers, hfull⟩ := h.gathers
  unfold Significand.addWhole
  simp only
  split
  · next hdrop =>
      exact ⟨j + 1, by simp [hj], hgathers.drop (hdrop.imp_left hfull), fun _ => Nat.succ_pos j⟩
  · next htake =>
      obtain ⟨-, hfits⟩ := not_or.mp htake
      exact ⟨j, hj, hgathers.take (Nat.lt_of_not_le hfits), hfull⟩

theorem Significand.Stands.addFraction {s : Significand} {k m : Nat} (h : s.Stands k m) (c : Char) :
    (s.addFraction c).Stands (k + 1) (m * 10 + digitValue c) := by
  obtain ⟨j, hj, hgathers, hfull⟩ := h.gathers
  unfold Significand.addFraction
  simp only
  split
  · next hdrop =>
      refine ⟨j + 1, ?_, hgathers.drop (hdrop.imp_left hfull), fun _ => Nat.succ_pos j⟩
      simp only [hj]
      omega
  · next htake =>
      obtain ⟨-, hfits⟩ := not_or.mp htake
      refine ⟨j, ?_, hgathers.take (Nat.lt_of_not_le hfits), hfull⟩
      simp only [hj]
      omega

/-- Digits that are read on from a number. -/
def onward (m : Nat) (ds : List Char) : Nat := ds.foldl (fun n c => n * 10 + digitValue c) m

theorem stands_foldl_addWhole (ds : List Char) {s : Significand} {m : Nat} (h : s.Stands 0 m) :
    (ds.foldl Significand.addWhole s).Stands 0 (onward m ds) := by
  induction ds generalizing s m with
  | nil => exact h
  | cons c ds ih => exact ih (h.addWhole c)

theorem stands_foldl_addFraction (ds : List Char) {s : Significand} {k m : Nat} (h : s.Stands k m) :
    (ds.foldl Significand.addFraction s).Stands (k + ds.length) (onward m ds) := by
  induction ds generalizing s k m with
  | nil => exact h
  | cons c ds ih =>
      rw [List.length_cons, ← Nat.add_assoc, Nat.add_right_comm]
      exact ih (h.addFraction c)

/-- Before the point places are only counted when digits are given up. -/
theorem exponent_foldl_addWhole (ds : List Char) {s : Significand}
    (h : s.full = false → s.exponent = 0) :
    (ds.foldl Significand.addWhole s).full = false →
      (ds.foldl Significand.addWhole s).exponent = 0 := by
  induction ds generalizing s with
  | nil => exact h
  | cons c ds ih =>
      refine ih ?_
      unfold Significand.addWhole
      simp only
      split
      · intro hfull
        cases hfull
      · exact h

/-! ## A number and its significand -/

namespace Numeral

variable (n : Numeral)

/-- The digits of a number, without its point. -/
def digits : Nat := natOfDigits (n.whole ++ n.fraction.getD [])

/-- How much a number is, without its sign. -/
def magnitude : ℚ := n.digits * 10 ^ (n.exponent.getD 0 - (n.fraction.getD []).length : Int)

theorem stands_whole : (n.whole.foldl Significand.addWhole ⟨0, 0, false⟩).Stands 0
    (natOfDigits n.whole) :=
  stands_foldl_addWhole n.whole ⟨0, rfl, ⟨by decide, Or.inl ⟨rfl, rfl⟩⟩, by simp⟩

theorem stands_significand : n.significand.Stands (n.fraction.getD []).length n.digits := by
  unfold significand digits
  cases n.fraction with
  | none => simpa using n.stands_whole
  | some ds =>
      obtain ⟨j, hj, hgathers, -⟩ := n.stands_whole.gathers
      have hstart : ({ n.whole.foldl Significand.addWhole ⟨0, 0, false⟩ with full := false }
          : Significand).Stands 0 (natOfDigits n.whole) := ⟨j, hj, hgathers, by simp⟩
      have hstands := stands_foldl_addFraction ds hstart
      rw [Nat.zero_add] at hstands
      rw [Option.getD_some, natOfDigits, List.foldl_append]
      exact hstands

/-- The number is whole and a 64-bit integer with or without a sign has its value. No integer is
minus zero. -/
def IsInteger : Prop :=
  n.fraction = none ∧ n.exponent = none ∧
    if n.negative then 0 < n.digits ∧ n.digits ≤ 2 ^ 63 else n.digits < 2 ^ 64

/-- What a number is seen as. -/
inductive Sees : Seen → Prop where
  | integer : n.IsInteger → Sees (.integer (if n.negative then -(n.digits : Int) else n.digits))
  | double (units : Nat) : ¬ n.IsInteger → Sees (.double (.finite n.negative units))

theorem digits_eq_of_whole (h : n.fraction = none) : n.digits = natOfDigits n.whole := by
  rw [digits, h, Option.getD_none, List.append_nil]

theorem significand_of_whole (h : n.fraction = none) :
    n.significand = n.whole.foldl Significand.addWhole ⟨0, 0, false⟩ := by
  rw [significand, h]

/-- A whole number fits the significand if it is below the limit, and only then. -/
theorem full_eq_false_iff (h : n.fraction = none) :
    n.significand.full = false ↔ n.digits < significandLimit := by
  obtain ⟨j, hj, hgathers, hfull⟩ := n.stands_whole.gathers
  have hexponent := exponent_foldl_addWhole n.whole (s := ⟨0, 0, false⟩) fun _ => rfl
  rw [n.digits_eq_of_whole h, n.significand_of_whole h]
  constructor
  · intro hnot
    rw [hexponent hnot] at hj
    rcases hgathers.gathered with ⟨-, hvalue⟩ | ⟨i, rfl, -, -⟩
    · rw [← hvalue]
      exact hgathers.fits
    · omega
  · intro hlt
    have hzero := hgathers.eq_zero hlt
    exact Bool.eq_false_iff.mpr fun h => absurd (hfull h) (by omega)

theorem value_of_lt (hlt : n.digits < significandLimit) :
    n.significand.value = n.digits := by
  obtain ⟨j, -, hgathers, -⟩ := n.stands_significand.gathers
  rcases hgathers.gathered with ⟨-, hvalue⟩ | ⟨i, rfl, -, -⟩
  · exact hvalue
  · exact absurd (hgathers.eq_zero hlt) (Nat.succ_ne_zero i)

/-- The double that a number is read as, if there is one. -/
def units? : Option Nat := scaled? n.significand.value (n.significand.exponent + n.exponent.getD 0)

theorem seen?_of_isInteger (h : n.IsInteger) :
    n.seen? = some (.integer (if n.negative then -(n.digits : Int) else n.digits)) := by
  obtain ⟨hfraction, hexponent, hrange⟩ := h
  have hlt : n.digits < significandLimit := by
    unfold significandLimit
    cases hnegative : n.negative with
    | false => simpa [hnegative] using hrange
    | true =>
        rw [if_pos hnegative] at hrange
        calc n.digits ≤ 2 ^ 63 := hrange.2
          _ < 2 ^ 64 := by decide
  have hfull := (n.full_eq_false_iff hfraction).mpr hlt
  unfold seen?
  simp only [hfraction, hexponent, hfull, n.value_of_lt hlt]
  cases hnegative : n.negative with
  | false => rfl
  | true =>
      rw [if_pos hnegative] at hrange
      have hfits : ¬ (n.digits = 0 ∨ Nat.pow 2 63 < n.digits) := by
        rw [Nat.pow_eq]
        omega
      simp [hfits]

theorem seen?_of_not_isInteger (h : ¬ n.IsInteger) :
    n.seen? = n.units?.map fun units => .double (.finite n.negative units) := by
  unfold seen?
  split
  · next hfraction hexponent =>
      cases hfull : n.significand.full with
      | true =>
          simp only [hfull, if_true]
          rfl
      | false =>
          have hlt := (n.full_eq_false_iff hfraction).mp hfull
          have hlarge : ¬ if n.negative then 0 < n.digits ∧ n.digits ≤ 2 ^ 63
              else n.digits < 2 ^ 64 := fun hrange => h ⟨hfraction, hexponent, hrange⟩
          cases hnegative : n.negative with
          | false =>
              rw [hnegative] at hlarge
              exact absurd hlt hlarge
          | true =>
              rw [if_pos hnegative] at hlarge
              have hsplit : n.digits = 0 ∨ Nat.pow 2 63 < n.digits := by
                rw [Nat.pow_eq]
                omega
              simp only [hfull, units?, n.value_of_lt hlt, hsplit, if_true, Bool.false_eq_true,
                if_false]
  · rfl

/-- A number is seen as what it is. -/
theorem sees_of_seen? {seen : Seen} (h : n.seen? = some seen) : n.Sees seen := by
  by_cases hinteger : n.IsInteger
  · rw [n.seen?_of_isInteger hinteger] at h
    obtain rfl := Option.some.inj h
    exact .integer hinteger
  · rw [n.seen?_of_not_isInteger hinteger] at h
    obtain ⟨units, -, rfl⟩ := Option.map_eq_some_iff.mp h
    exact .double units hinteger

/-! ## Numbers that are not too large -/

/-- A significand that stands for a number is no more than the number. -/
theorem value_mul_le :
    (n.significand.value : ℚ) * 10 ^ (n.significand.exponent + n.exponent.getD 0)
      ≤ n.magnitude := by
  obtain ⟨j, hj, hgathers, -⟩ := n.stands_significand.gathers
  have hle : (n.significand.value : ℚ) * 10 ^ j ≤ n.digits := by exact_mod_cast hgathers.le
  have hexponent : n.significand.exponent + n.exponent.getD 0
      = j + (n.exponent.getD 0 - (n.fraction.getD []).length) := by omega
  rw [hexponent, zpow_add₀ (by norm_num), zpow_natCast, ← mul_assoc, magnitude]
  gcongr

theorem exists_scaled {value : Nat} {exponent : Int}
    (h : (value : ℚ) * 10 ^ exponent ≤ Binary64.safe) :
    ∃ units, scaled? value exponent = some units := by
  unfold scaled?
  simp only
  split
  · exact ⟨0, rfl⟩
  · next hunits =>
      have hvalue : 0 < value := by
        refine Nat.pos_of_ne_zero fun hzero => hunits ?_
        rw [hzero, Binary64.natUnits_zero]
      split
      · exact ⟨_, rfl⟩
      · next hexponent =>
          obtain ⟨k, rfl⟩ := Int.eq_ofNat_of_zero_le (Int.not_lt.mp hexponent)
          rw [zpow_natCast] at h
          have hproduct : value * 10 ^ k ≤ Binary64.safe := by exact_mod_cast h
          have hsmall : k ≤ 308 := by
            have hpow : 10 ^ k < 10 ^ 309 :=
              calc 10 ^ k ≤ value * 10 ^ k := Nat.le_mul_of_pos_left _ hvalue
                _ ≤ Binary64.safe := hproduct
                _ < 10 ^ 309 := by decide +kernel
            have hlt : k < 309 := (pow_lt_pow_iff_right₀ (by norm_num)).mp hpow
            omega
          have hfinite := Binary64.mulUnits_lt_limit hvalue (Nat.pow_pos (by omega)) hproduct
          rw [if_neg (by simpa using hsmall)]
          exact ⟨_, if_pos hfinite⟩

/-- **A safe number is seen.** -/
theorem exists_seen (h : n.magnitude ≤ Binary64.safe) : ∃ seen, n.seen? = some seen := by
  by_cases hinteger : n.IsInteger
  · exact ⟨_, n.seen?_of_isInteger hinteger⟩
  · obtain ⟨units, hunits⟩ := exists_scaled (n.value_mul_le.trans h)
    rw [n.seen?_of_not_isInteger hinteger, units?, hunits]
    exact ⟨_, rfl⟩

end Numeral

end Json

end GlyphBook
