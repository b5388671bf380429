import WidgetLocator.Binary64

namespace WidgetLocator
namespace Binary64

/-- Reads a power of ten: nothing, or a letter `e` and an integer. -/
def exponentOf? : List Char → Option Int
  | [] => some 0
  | e :: rest =>
    let (negative, digits) := match rest with
      | '-' :: digits => (true, digits)
      | '+' :: digits => (false, digits)
      | digits => (false, digits)
    if (e == 'e' || e == 'E') && !digits.isEmpty && digits.all isAsciiDigit then
      let n := decimalValue digits
      some (if negative then -(n : Int) else n)
    else none

/-- The number nearest to a literal without a sign: digits before or after a point, and perhaps a
power of ten. -/
def ofUnsignedLiteral? (negative : Bool) (text : List Char) : Option Binary64 := do
  let (whole, rest) := text.span isAsciiDigit
  let (fraction, rest) := match rest with
    | '.' :: rest => rest.span isAsciiDigit
    | _ => ([], rest)
  guard (!(whole ++ fraction).isEmpty)
  let exponent ← exponentOf? rest
  return ofDecimal negative (decimalValue (whole ++ fraction)) (exponent - fraction.length)

/-- The number nearest to a literal, which may have a sign. -/
def ofLiteral? : List Char → Option Binary64
  | '-' :: rest => ofUnsignedLiteral? true rest
  | '+' :: rest => ofUnsignedLiteral? false rest
  | rest => ofUnsignedLiteral? false rest

end Binary64
end WidgetLocator
