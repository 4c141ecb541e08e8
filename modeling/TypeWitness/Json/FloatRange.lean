/-! # The range of floats
Which decimal numbers a double-precision float can hold. Only the first digits of a number count, as
many as fit into 64 bits; the float comes from one multiplication with a power of ten, in which each
factor and the product are rounded. -/

namespace TypeWitness.Json

/-- The value of decimal digits. -/
def digitsValue (digits : List Char) : Nat :=
  digits.foldl (fun value c => value * 10 + (c.toNat - '0'.toNat)) 0

/-- Read decimal digits after some with the given value, as long as the value fits into 64 bits: the
value, and the digits that are left. -/
def leadingDigits (value : Nat) : List Char → Nat × List Char
  | [] => (value, [])
  | c :: rest =>
    let next := value * 10 + (c.toNat - '0'.toNat)
    if next < UInt64.size then leadingDigits next rest else (value, c :: rest)

/-- The natural number nearest to the given one that needs at most 53 binary digits before its final
zeros. Of two that are equally near it is the one with an even last digit. -/
def roundToFloat (n : Nat) : Nat :=
  let unit := Nat.pow 2 (Nat.log2 n + 1 - 53)
  let below := n / unit
  let past := 2 * (n % unit)
  if past > unit ∨ past = unit ∧ below % 2 = 1 then (below + 1) * unit else below * unit

/-- Whether `significand · 10^exponent` is too large for a float. A negative exponent makes a number
smaller, and beyond the largest power of ten that is a float, only zero is small enough. -/
def exceedsFloat (significand : Nat) : Int → Bool
  | .ofNat exponent =>
    significand != 0 && (exponent > 308 ||
      roundToFloat (roundToFloat significand * roundToFloat (Nat.pow 10 exponent)) ≥
        Nat.pow 2 1024)
  | .negSucc _ => false

/-- What is read fits into 64 bits. -/
theorem leadingDigits_lt {value : Nat} (digits : List Char) (h : value < UInt64.size) :
    (leadingDigits value digits).1 < UInt64.size := by
  fun_induction leadingDigits value digits <;> simp_all

end TypeWitness.Json
