/-!
# Words of thirty-two bits

Lines, columns and offsets are words of thirty-two bits.  Where a computed number would leave that
range it stays at the greatest word.
-/

namespace LanguageBridge.Word32

/-- The greatest word. -/
def greatest : Nat := 4294967295

/-- The word nearest to a natural number. -/
def clamp (n : Nat) : UInt32 := UInt32.ofNat (min n greatest)

theorem toNat_clamp (n : Nat) : (clamp n).toNat = min n greatest := by
  have h : min n greatest < UInt32.size := by
    simp only [greatest, UInt32.size]
    omega
  simp only [clamp, UInt32.toNat_ofNat']
  exact Nat.mod_eq_of_lt h

theorem clamp_toNat (w : UInt32) : clamp w.toNat = w := by
  apply UInt32.toNat_inj.1
  rw [toNat_clamp]
  have := w.toNat_lt
  simp only [greatest]
  omega

end LanguageBridge.Word32
