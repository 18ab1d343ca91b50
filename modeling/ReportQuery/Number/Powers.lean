/-!
# Powers

The scale of a decimal counts powers of ten, that of a double powers of two.
-/

namespace ReportQuery

def power (base n : Nat) : Nat := Nat.pow base n

section Powers

variable (base : Nat) {m n : Nat}

@[simp] theorem power_zero : power base 0 = 1 := rfl

theorem power_succ (n : Nat) : power base (n + 1) = power base n * base := rfl

theorem power_add (m n : Nat) : power base (m + n) = power base m * power base n :=
  Nat.pow_add base m n

theorem power_dvd (h : m ≤ n) : power base m ∣ power base n := Nat.pow_dvd_pow base h

theorem power_pos (n : Nat) (hbase : 0 < base) : 0 < power base n := Nat.pow_pos hbase

theorem power_le (h : m ≤ n) (hbase : 0 < base) : power base m ≤ power base n :=
  Nat.pow_le_pow_right hbase h

end Powers

end ReportQuery
