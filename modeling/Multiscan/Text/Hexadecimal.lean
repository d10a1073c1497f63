/-!
# Text — hexadecimal digits

Reading takes digits in both cases; writing is in capitals where a byte has
two digits, and in small letters where a number has as many as it needs.
-/

namespace Multiscan.Text

/-- The value of a hexadecimal digit. -/
def hexDigit? (c : Char) : Option Nat :=
  if '0' ≤ c && c ≤ '9' then some (c.toNat - 48)
  else if 'A' ≤ c && c ≤ 'F' then some (c.toNat - 55)
  else if 'a' ≤ c && c ≤ 'f' then some (c.toNat - 87)
  else none

/-- Hexadecimal digits. -/
def isHexDigit (c : Char) : Bool := (hexDigit? c).isSome

/-- The number that hexadecimal digits stand for. -/
def hexNumber (digits : List Char) : Nat :=
  digits.foldl (fun n c => 16 * n + (hexDigit? c).getD 0) 0

/-- One of the sixteen capital hexadecimal digits. -/
def capitalDigit (n : Nat) : Char :=
  if n < 10 then Char.ofNat (48 + n) else Char.ofNat (55 + n)

/-- The two capital digits of a byte. -/
def byteDigits (b : UInt8) : List Char :=
  [capitalDigit (b.toNat / 16), capitalDigit (b.toNat % 16)]

/-- A number in small hexadecimal digits. -/
def smallHex (n : Nat) : String := String.ofList (Nat.toDigits 16 n)

/-- A capital digit reads back as its value. -/
theorem hexDigit?_capitalDigit {n : Nat} (h : n < 16) : hexDigit? (capitalDigit n) = some n := by
  have all_digits : ∀ m : Fin 16, hexDigit? (capitalDigit m.val) = some m.val := by decide
  exact all_digits ⟨n, h⟩

end Multiscan.Text
