import DirectoryAuth.Text.Numeral

/-! Whole numbers of 64 bits in settings. -/
namespace DirectoryAuth.Settings

/-- Decimal digits, perhaps after a plus sign, for a number below 2 to the power of 64. -/
def readNumber? (s : String) : Option UInt64 :=
  let digits := match s.toList with
    | '+' :: rest => rest
    | cs => cs
  if digits ≠ [] ∧ digits.all Char.isDigit ∧ Text.numeral 10 digits < UInt64.size then
    some (Text.numeral 10 digits).toUInt64
  else none

end DirectoryAuth.Settings
