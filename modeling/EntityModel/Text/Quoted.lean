import EntityModel.Text.Printable

/-!
# EntityModel.Text.Quoted

Text between quotation marks, on one line and with nothing hidden. Quotation marks and backslashes
are escaped, the usual controls have letters of their own, and any other character that is not
printable is written by its code point.
-/

namespace EntityModel
namespace Text

def escaped (c : Char) : List Char :=
  if c = '\x22' then ['\\', '\x22']
  else if c = '\\' then ['\\', '\\']
  else if c = '\n' then ['\\', 'n']
  else if c = '\r' then ['\\', 'r']
  else if c = '\t' then ['\\', 't']
  else if c = '\x00' then ['\\', '0']
  else if isPrintable c then [c]
  else ['\\', 'u', '\x7b'] ++ Nat.toDigits 16 c.toNat ++ ['\x7d']

def quoted (text : String) : String :=
  String.ofList (['\x22'] ++ text.toList.flatMap escaped ++ ['\x22'])

end Text
end EntityModel
