import Mathlib.Data.Nat.Log

/-! How many bits numbers have, by the place of the leading one. -/
namespace SalesDesk.Number

theorem log2_mono {m n : Nat} (h : m ≤ n) : m.log2 ≤ n.log2 := by
  rw [Nat.log2_eq_log_two, Nat.log2_eq_log_two]
  exact Nat.log_mono_right h

theorem log2_shiftRight (n k : Nat) : (n >>> k).log2 = n.log2 - k := by
  rw [Nat.log2_eq_log_two, Nat.log2_eq_log_two, Nat.shiftRight_eq_div_pow, Nat.log_div_base_pow]

theorem log2_shiftLeft {n : Nat} (hn : 0 < n) (k : Nat) : (n <<< k).log2 = n.log2 + k := by
  induction k with
  | zero => rfl
  | succ k ih =>
    have hne : n <<< k ≠ 0 := by simpa using Nat.ne_of_gt hn
    rw [Nat.shiftLeft_succ, Nat.log2_two_mul hne, ih, Nat.add_assoc]

theorem shiftRight_pos {n k : Nat} (hn : 0 < n) (hk : k ≤ n.log2) : 0 < n >>> k := by
  rw [Nat.shiftRight_eq_div_pow]
  apply Nat.div_pos _ (Nat.two_pow_pos k)
  exact (Nat.le_log2 (Nat.ne_of_gt hn)).mp hk

theorem log2_succ_le (n : Nat) : (n + 1).log2 ≤ n.log2 + 1 := by
  have hlt : n + 1 ≤ 2 ^ (n.log2 + 1) := Nat.lt_log2_self
  have hlog := log2_mono hlt
  rwa [Nat.log2_two_pow] at hlog

theorem log2_add_le (a b : Nat) : (a + b).log2 ≤ max a.log2 b.log2 + 1 := by
  have htwice {n : Nat} : (2 * n).log2 ≤ n.log2 + 1 := by
    rcases Nat.eq_zero_or_pos n with rfl | hn
    · exact Nat.zero_le _
    · exact Nat.le_of_eq (Nat.log2_two_mul (Nat.ne_of_gt hn))
  rcases Nat.le_total a b with hab | hab
  · have hsum : (a + b).log2 ≤ (2 * b).log2 := log2_mono (by omega)
    have hb := htwice (n := b)
    omega
  · have hsum : (a + b).log2 ≤ (2 * a).log2 := log2_mono (by omega)
    have ha := htwice (n := a)
    omega

theorem le_log2_mul {a b : Nat} (ha : 0 < a) (hb : 0 < b) : a.log2 + b.log2 ≤ (a * b).log2 := by
  apply (Nat.le_log2 (Nat.ne_of_gt (Nat.mul_pos ha hb))).mpr
  rw [Nat.pow_add]
  exact Nat.mul_le_mul (Nat.log2_self_le (Nat.ne_of_gt ha)) (Nat.log2_self_le (Nat.ne_of_gt hb))

theorem log2_le_div {a m : Nat} (hm : 0 < m) : a.log2 ≤ (a / m).log2 + m.log2 + 1 := by
  by_cases hzero : a = 0
  · rw [hzero, Nat.log2_zero]
    exact Nat.zero_le _
  have hlt : a < m * (a / m + 1) := Nat.lt_mul_div_succ a hm
  have hprod : m * (a / m + 1) ≤ 2 ^ (m.log2 + 1) * 2 ^ ((a / m).log2 + 1) :=
    Nat.mul_le_mul (Nat.le_of_lt Nat.lt_log2_self) Nat.lt_log2_self
  rw [← Nat.pow_add] at hprod
  have hlog := (Nat.log2_lt hzero).mpr (Nat.lt_of_lt_of_le hlt hprod)
  omega

end SalesDesk.Number
