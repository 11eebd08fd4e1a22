/-!
# Decimal digits

Natural numbers as decimal digits, the most significant first and without leading zeros.
`value_digits` says that the digits of a number read back as that number.
-/

namespace LanguageBridge.Digits

/-- The character of a digit below ten. -/
def ofDigit (d : Nat) : Char := Char.ofNat (48 + d)

/-- Whether a character is a decimal digit. -/
def isDigit (c : Char) : Bool := decide (48 ≤ c.toNat) && decide (c.toNat ≤ 57)

/-- The number that a digit stands for. -/
def toDigit (c : Char) : Nat := c.toNat - 48

/-- The digits of a number. -/
def digits (n : Nat) : List Char :=
  if n < 10 then [ofDigit n] else digits (n / 10) ++ [ofDigit (n % 10)]
termination_by n
decreasing_by omega

/-- The number that a list of digits stands for. -/
def value (cs : List Char) : Nat := cs.foldl (fun n c => 10 * n + toDigit c) 0

theorem toDigit_ofDigit {d : Nat} (h : d < 10) : toDigit (ofDigit d) = d := by
  have : ∀ d, d < 10 → toDigit (ofDigit d) = d := by decide
  exact this d h

theorem isDigit_ofDigit {d : Nat} (h : d < 10) : isDigit (ofDigit d) = true := by
  have : ∀ d, d < 10 → isDigit (ofDigit d) = true := by decide
  exact this d h

theorem value_append (cs : List Char) (c : Char) :
    value (cs ++ [c]) = 10 * value cs + toDigit c := by
  simp [value]

theorem value_digits (n : Nat) : value (digits n) = n := by
  induction n using Nat.strongRecOn with
  | _ n ih =>
    rw [digits]
    split
    · simp [value, toDigit_ofDigit (by assumption)]
    · rw [value_append, ih (n / 10) (by omega), toDigit_ofDigit (by omega)]
      omega

theorem isDigit_of_mem_digits (n : Nat) : ∀ c ∈ digits n, isDigit c = true := by
  induction n using Nat.strongRecOn with
  | _ n ih =>
    rw [digits]
    split
    · rename_i h
      simpa using isDigit_ofDigit h
    · intro c hc
      rcases List.mem_append.1 hc with hc | hc
      · exact ih (n / 10) (by omega) c hc
      · rw [List.mem_singleton.1 hc]
        exact isDigit_ofDigit (by omega)

/-- A number written in decimal. -/
def render (n : Nat) : String := String.ofList (digits n)

end LanguageBridge.Digits
