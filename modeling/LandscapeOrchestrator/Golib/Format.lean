import Mathlib.Init

namespace Golib

def hexDigit (n : Nat) : Char := if n < 10 then Char.ofNat (48 + n) else Char.ofNat (87 + n)

/-- The escapes of `strconv.Quote` within ASCII. -/
def quoteChar (c : Char) : List Char :=
  if c = '"' then ['\\', '"']
  else if c = '\\' then ['\\', '\\']
  else match c.toNat with
    | 7 => ['\\', 'a']
    | 8 => ['\\', 'b']
    | 9 => ['\\', 't']
    | 10 => ['\\', 'n']
    | 11 => ['\\', 'v']
    | 12 => ['\\', 'f']
    | 13 => ['\\', 'r']
    | n => if n < 32 || n = 127 then ['\\', 'x', hexDigit (n / 16), hexDigit (n % 16)] else [c]

/-- The `%q` form of a string. -/
def quote (s : String) : String := "\"" ++ String.ofList (s.toList.flatMap quoteChar) ++ "\""

example : quote "a\"b\n" = "\"a\\\"b\\n\"" := by decide

end Golib
