import Mathlib.Data.Nat.ModEq
import Mathlib.Tactic.Ring

/-! # Big-endian numbers

`beNat` reads a list of bytes as a big-endian number and `beBytes k` writes a number into `k` bytes.
Reading back what was written gives the number modulo `256 ^ k`. -/

namespace CpaGateway.Lib.BigEndian

/-- The number that the bytes spell, most significant byte first. -/
def beNat (bytes : List UInt8) : ℕ := bytes.foldl (fun n b => 256 * n + b.toNat) 0

/-- The `k` low bytes of `n`, most significant byte first. -/
def beBytes : ℕ → ℕ → List UInt8
  | 0, _ => []
  | k + 1, n => beBytes k (n / 256) ++ [UInt8.ofNat n]

@[simp] theorem length_beBytes : ∀ k n, (beBytes k n).length = k
  | 0, _ => rfl
  | k + 1, n => by rw [beBytes, List.length_append, length_beBytes k]; rfl

theorem beNat_snoc (bytes : List UInt8) (b : UInt8) :
    beNat (bytes ++ [b]) = 256 * beNat bytes + b.toNat := by
  simp [beNat]

/-- **Reading back**: the number modulo what the bytes can hold. -/
theorem beNat_beBytes : ∀ k n, beNat (beBytes k n) = n % 256 ^ k
  | 0, n => by simp [beBytes, beNat, Nat.mod_one]
  | k + 1, n => by
    rw [beBytes, beNat_snoc, beNat_beBytes k (n / 256), pow_succ', Nat.mod_mul, UInt8.toNat_ofNat']
    ring

theorem beNat_beBytes_of_lt {k n : ℕ} (h : n < 256 ^ k) : beNat (beBytes k n) = n := by
  rw [beNat_beBytes, Nat.mod_eq_of_lt h]

end CpaGateway.Lib.BigEndian
