import OperatorShell.Text.Numeral

/-!
# Numerals read back

A decimal numeral is read one digit after another, each onto ten times the value so far. The digits
of a number are those of its tenth and one more, so what is read is the number, as long as that is
within the bound: every value on the way is smaller.

* `exists_digit_of_mem_digits`: a numeral is made of digits of its base.
* `readBounded_decimal`: the numeral of a number within the bound reads as that number.
* `decimal_inj`: different numbers have different numerals.
-/

namespace OperatorShell.Text

variable {limit n : Nat} {t : Text}

theorem decimalValue?_digit (h : n < 10) : decimalValue? (digit n) = some n := by
  have hall : ∀ x : Fin 10, decimalValue? (digit x) = some x.val := by decide
  exact hall ⟨n, h⟩

theorem readDigits_append (value : Nat) (t u : Text) :
    readDigits limit value (t ++ u) =
      (readDigits limit value t).bind fun value => readDigits limit value u := by
  fun_induction readDigits limit value t with
  | case1 value => rfl
  | case2 value c t hnone => simp [readDigits, hnone, Except.bind]
  | case3 value c t d hsome hle ih => simpa [readDigits, hsome, hle] using ih
  | case4 value c t d hsome hlt => simp [readDigits, hsome, hlt, Except.bind]

theorem readDigits_digit {value : Nat} (hn : n < 10) (hle : 10 * value + n ≤ limit) :
    readDigits limit value [digit n] = .ok (10 * value + n) := by
  simp [readDigits, decimalValue?_digit hn, hle]

theorem digits_ne_nil (base n : Nat) : digits base n ≠ [] := by
  rw [digits]
  split <;> simp

theorem exists_digit_of_mem_digits {base : Nat} (hbase : 2 ≤ base) {c : Char}
    (h : c ∈ digits base n) : ∃ d < base, c = digit d := by
  induction n using Nat.strongRecOn with
  | ind n ih =>
    rw [digits] at h
    split at h
    · next hle =>
      rcases List.mem_append.1 h with hfront | hlast
      · exact ih (n / base) (Nat.div_lt_self (by omega) (by omega)) hfront
      · exact ⟨n % base, Nat.mod_lt n (by omega), List.mem_singleton.1 hlast⟩
    · next hlt => exact ⟨n, by omega, List.mem_singleton.1 h⟩

theorem readDigits_decimal (h : n ≤ limit) : readDigits limit 0 (decimal n) = .ok n := by
  rw [decimal]
  induction n using Nat.strongRecOn with
  | ind n ih =>
    rw [digits]
    split
    · -- the last digit is read onto the tenth, which is smaller
      have htenth := ih (n / 10) (by omega) (by omega)
      rw [readDigits_append, htenth]
      refine (readDigits_digit (Nat.mod_lt n (by decide)) (by omega)).trans ?_
      rw [Nat.div_add_mod]
    · have hread : readDigits limit 0 [digit n] = .ok (10 * 0 + n) :=
        readDigits_digit (by omega) (by omega)
      rwa [Nat.mul_zero, Nat.zero_add] at hread

theorem readBounded_of_readDigits {c : Char} (h : readDigits limit 0 (c :: t) = .ok n) :
    readBounded limit (c :: t) = .ok n := by
  have hc : c ≠ '+' := by
    rintro rfl
    simp [readDigits, decimalValue?] at h
  rw [readBounded]
  · exact h
  · exact List.cons_ne_nil c t
  · exact fun heq => hc (List.cons.inj heq).1
  · exact fun u heq => hc (List.cons.inj heq).1

theorem readBounded_decimal (h : n ≤ limit) : readBounded limit (decimal n) = .ok n := by
  have hread := readDigits_decimal h
  obtain ⟨c, t, hdecimal⟩ := List.exists_cons_of_ne_nil (digits_ne_nil 10 n)
  rw [decimal, hdecimal] at hread ⊢
  exact readBounded_of_readDigits hread

theorem decimal_inj {m n : Nat} : decimal m = decimal n ↔ m = n := by
  refine ⟨fun h => ?_, congrArg decimal⟩
  have hm : readDigits (max m n) 0 (decimal m) = .ok m := readDigits_decimal (Nat.le_max_left m n)
  have hn : readDigits (max m n) 0 (decimal n) = .ok n := readDigits_decimal (Nat.le_max_right m n)
  exact Except.ok.inj (hm.symm.trans (h ▸ hn))

end OperatorShell.Text
