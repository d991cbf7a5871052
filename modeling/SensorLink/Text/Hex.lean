/-
Upper-case hexadecimal text, padded with zeros to a least width.
-/
namespace SensorLink

/-- The hexadecimal digits of `n`, at least `width` of them. -/
def hexText (width n : Nat) : String :=
  let digits := (Nat.toDigits 16 n).map Char.toUpper
  String.ofList (List.replicate (width - digits.length) '0' ++ digits)

end SensorLink
