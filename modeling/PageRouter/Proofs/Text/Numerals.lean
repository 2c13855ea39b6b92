import Mathlib.Data.List.Basic
import PageRouter.Url.Ipv4

namespace PageRouter.Url

private theorem hexValue?_digitChar {d : Nat} (hd : d < 16) : Text.hexValue? d.digitChar = some d := by
  have hall : ∀ d < 16, Text.hexValue? (Nat.digitChar d) = some d := by decide
  exact hall d hd

/-- A numeral is made of digits of its base. -/
theorem exists_digitChar_of_mem_toDigits {base : Nat} (hbase : 1 < base) {n : Nat} {c : Char}
    (hc : c ∈ Nat.toDigits base n) : ∃ d < base, c = d.digitChar := by
  induction n using Nat.strongRecOn with
  | ind n ih =>
    rw [Nat.toDigits_eq_if hbase] at hc
    split at hc
    · next hlt => exact ⟨n, hlt, List.mem_singleton.1 hc⟩
    · next hle =>
      rcases List.mem_append.1 hc with hc | hc
      · exact ih _ (Nat.div_lt_self (by omega) hbase) hc
      · exact ⟨n % base, Nat.mod_lt _ (by omega), List.mem_singleton.1 hc⟩

/-- A value with one more digit. -/
def addDigit? (base value : Nat) (c : Char) : Option Nat :=
  (Text.hexValue? c).bind fun d => if d < base then some (value * base + d) else none

/-- The value of digits is found from the left, digit by digit. -/
theorem digitsValue?_eq_foldlM (base : Nat) (digits : List Char) :
    digitsValue? base digits = digits.foldlM (addDigit? base) 0 := by
  rw [digitsValue?]
  congr 1
  funext value c
  rw [addDigit?]
  cases Text.hexValue? c <;> rfl

/-- The digits that a number is written with are read back as that number, in every base that hosts use. -/
theorem digitsValue?_toDigits {base : Nat} (hbase : 1 < base) (hsmall : base ≤ 16) (n : Nat) :
    digitsValue? base (Nat.toDigits base n) = some n := by
  have hdigit {value d : Nat} (hd : d < base) : [d.digitChar].foldlM (addDigit? base) value = some (value * base + d) := by
    rw [List.foldlM_cons, addDigit?, hexValue?_digitChar (by omega), Option.bind_some, if_pos hd]
    rfl
  rw [digitsValue?_eq_foldlM]
  induction n using Nat.strongRecOn with
  | ind n ih =>
    rw [Nat.toDigits_eq_if hbase]
    split
    · next hlt => rw [hdigit hlt, Nat.zero_mul, Nat.zero_add]
    · rw [List.foldlM_append, ih _ (Nat.div_lt_self (by omega) hbase), Option.bind_eq_bind, Option.bind_some,
        hdigit (Nat.mod_lt _ (by omega)), Nat.div_add_mod']

/-- Only zero is written with a zero in front. -/
theorem exists_toDigits_eq_cons {base : Nat} (hbase : 1 < base) {n : Nat} (hn : 0 < n) :
    ∃ d rest, 0 < d ∧ d < base ∧ Nat.toDigits base n = d.digitChar :: rest := by
  induction n using Nat.strongRecOn with
  | ind n ih =>
    rw [Nat.toDigits_eq_if hbase]
    split
    · next hlt => exact ⟨n, [], hn, hlt, rfl⟩
    · next hle =>
      obtain ⟨d, rest, hpos, hlt, hdigits⟩ := ih _ (Nat.div_lt_self hn hbase) (Nat.div_pos (by omega) (by omega))
      exact ⟨d, rest ++ [(n % base).digitChar], hpos, hlt, by rw [hdigits, List.cons_append]⟩

end PageRouter.Url
