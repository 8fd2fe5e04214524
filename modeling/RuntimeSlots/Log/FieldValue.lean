import RuntimeSlots.Pattern

/-!
# Values of fields

A directive of a filter may name a value that a field must have.  It is a number or a pattern.

* `FieldValue.check` checks the text of a value.
-/

namespace RuntimeSlots.Log.FieldValue

/-- What stands behind the digits at the start of a text. -/
def behindDigits (text : List Char) : List Char := text.dropWhile Char.isDigit

/-- The text is the exponent of a number: a letter, perhaps a sign, and digits. -/
def isExponent : List Char → Bool
  | letter :: text =>
    let digits := if text.head? = some '+' ∨ text.head? = some '-' then text.tail else text
    (letter == 'e' || letter == 'E') && !digits.isEmpty && digits.all Char.isDigit
  | [] => false

/-- The text is a number without a sign: digits, perhaps with a point and an exponent, or a word for
what no digits can write. -/
def isUnsigned (text : List Char) : Bool :=
  let word := (String.ofList text).map Char.toLower
  let exponent := match behindDigits text with
    | '.' :: fraction => behindDigits fraction
    | behind => behind
  let hasDigits := (text.take (text.length - exponent.length)).any Char.isDigit
  ["inf", "infinity", "nan"].contains word ||
    (hasDigits && (exponent.isEmpty || isExponent exponent))

/-- The text is a number behind a plus sign.  Of all numbers only these are no patterns. -/
def isPlusNumber (text : String) : Bool :=
  match text.toList with
  | '+' :: number => isUnsigned number
  | _ => false

/-- Checks that the text is a number or a pattern. -/
def check (text : String) : Except Pattern.Failure Unit :=
  if isPlusNumber text then return () else Pattern.check text

end RuntimeSlots.Log.FieldValue
