import Toolsmith.Text.Utf8

/-!
# Base64

Bytes as a text: three bytes are four digits of six bits each. An equals sign stands for each digit
that is missing at the end.
-/

namespace Toolsmith.Text

/-- The digit of a number below 64. -/
def base64Digit (n : Nat) : CodePoint :=
  let digits := "ABCDEFGHIJKLMNOPQRSTUVWXYZabcdefghijklmnopqrstuvwxyz0123456789+/".toList
  .char (digits.getD n '=')

/-- The text of bytes. -/
def base64 : Bytes → Text
  | [] => []
  | [a] => [base64Digit (a.toNat / 4), base64Digit (a.toNat % 4 * 16), .char '=', .char '=']
  | [a, b] =>
    [base64Digit (a.toNat / 4), base64Digit (a.toNat % 4 * 16 + b.toNat / 16),
      base64Digit (b.toNat % 16 * 4), .char '=']
  | a :: b :: c :: rest =>
    [base64Digit (a.toNat / 4), base64Digit (a.toNat % 4 * 16 + b.toNat / 16),
      base64Digit (b.toNat % 16 * 4 + c.toNat / 64), base64Digit (c.toNat % 64)] ++ base64 rest

end Toolsmith.Text
