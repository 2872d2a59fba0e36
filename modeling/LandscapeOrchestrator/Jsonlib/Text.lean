import Mathlib.Data.List.Basic

/-!
# JSON texts

The grammar of JSON as a parser of character lists and a compact printer. The
tree keeps every number and every string body as it was written, escapes
included, so printing what was parsed only removes insignificant white space.

## Main definitions

- `StrLit`, `NumLit` — string bodies and numbers that are legal JSON
- `Json` — JSON documents over these literals
- `Json.print` — the compact text of a document
- `parse` — the document a text denotes, if the text is legal JSON
-/

namespace Jsonlib

def isWs (c : Char) : Bool := c = ' ' || c = '\t' || c = '\n' || c = '\r'

def skipWs (cs : List Char) : List Char := cs.dropWhile isWs

def isHex (c : Char) : Bool :=
  ('0' ≤ c && c ≤ '9') || ('a' ≤ c && c ≤ 'f') || ('A' ≤ c && c ≤ 'F')

/-- The characters that may follow a backslash, apart from `u`. -/
def isEscape (c : Char) : Bool :=
  c = '"' || c = '\\' || c = '/' || c = 'b' || c = 'f' || c = 'n' || c = 'r' || c = 't'

/-- One element of a string body: an escape with four hexadecimal digits, a
short escape, or a plain character. -/
inductive Piece where
  | hex (a b c d : Char)
  | escape (c : Char)
  | plain (c : Char)
  deriving DecidableEq, Repr

namespace Piece

def text : Piece → List Char
  | hex a b c d => ['\\', 'u', a, b, c, d]
  | escape c => ['\\', c]
  | plain c => [c]

/-- Control characters, quotes and backslashes are never plain. -/
def Legal : Piece → Bool
  | hex a b c d => isHex a && isHex b && isHex c && isHex d
  | escape c => isEscape c
  | plain c => ' ' ≤ c && c ≠ '"' && c ≠ '\\'

end Piece

abbrev LegalPiece := {p : Piece // p.Legal = true}

/-- A string body, piece by piece. -/
abbrev StrLit := List LegalPiece

namespace StrLit

def text (s : StrLit) : List Char := s.flatMap (fun p => p.val.text)

end StrLit

/-- Read one legal piece. -/
def scanPiece : List Char → Option (LegalPiece × List Char)
  | [] => none
  | c :: cs =>
    if c = '\\' then
      match cs with
      | [] => none
      | e :: cs =>
        if e = 'u' then
          match cs with
          | a :: b :: c :: d :: rest =>
            if h : (Piece.hex a b c d).Legal = true then some (⟨.hex a b c d, h⟩, rest) else none
          | _ => none
        else if h : (Piece.escape e).Legal = true then some (⟨.escape e, h⟩, cs) else none
    else if h : (Piece.plain c).Legal = true then some (⟨.plain c, h⟩, cs) else none

/-- Read a string body up to its closing quote. -/
def scanString : ℕ → List Char → Option (StrLit × List Char)
  | 0, _ => none
  | _ + 1, [] => none
  | n + 1, c :: cs =>
    if c = '"' then some ([], cs)
    else match scanPiece (c :: cs) with
      | none => none
      | some (p, rest) => (scanString n rest).map fun x => (p :: x.1, x.2)

def isNumChar (c : Char) : Bool :=
  c.isDigit || c = '-' || c = '+' || c = '.' || c = 'e' || c = 'E'

/-- One or more digits and nothing else. -/
def isDigits (cs : List Char) : Bool := !cs.isEmpty && cs.all Char.isDigit

/-- The optional exponent: `e` or `E`, an optional sign, one or more digits. -/
def isExponent : List Char → Bool
  | [] => true
  | c :: '+' :: cs => (c = 'e' || c = 'E') && isDigits cs
  | c :: '-' :: cs => (c = 'e' || c = 'E') && isDigits cs
  | c :: cs => (c = 'e' || c = 'E') && isDigits cs

/-- The optional fraction and what follows it. -/
def isFraction : List Char → Bool
  | '.' :: cs => isDigits (cs.takeWhile Char.isDigit) && isExponent (cs.dropWhile Char.isDigit)
  | cs => isExponent cs

/-- An integer part without a leading zero, then fraction and exponent. -/
def isUnsigned : List Char → Bool
  | [] => false
  | '0' :: cs => isFraction cs
  | c :: cs => c.isDigit && isFraction (cs.dropWhile Char.isDigit)

def isNumber : List Char → Bool
  | '-' :: cs => isUnsigned cs
  | cs => isUnsigned cs

/-- A number as it is written. -/
structure NumLit where
  text : List Char
  chars : text.all isNumChar = true
  legal : isNumber text = true
  deriving DecidableEq

inductive Json where
  | null
  | bool (b : Bool)
  | num (n : NumLit)
  | str (s : StrLit)
  | arr (xs : List Json)
  | obj (ms : List (StrLit × Json))

def quoted (s : StrLit) : List Char := '"' :: (s.text ++ ['"'])

namespace Json

mutual
/-- The compact text of a document. -/
def print : Json → List Char
  | null => ['n', 'u', 'l', 'l']
  | bool true => ['t', 'r', 'u', 'e']
  | bool false => ['f', 'a', 'l', 's', 'e']
  | num n => n.text
  | str s => quoted s
  | arr [] => ['[', ']']
  | arr (x :: xs) => '[' :: (print x ++ printElems xs)
  | obj [] => ['{', '}']
  | obj ((k, v) :: ms) => '{' :: (quoted k ++ ':' :: (print v ++ printMembers ms))
def printElems : List Json → List Char
  | [] => [']']
  | x :: xs => ',' :: (print x ++ printElems xs)
def printMembers : List (StrLit × Json) → List Char
  | [] => ['}']
  | (k, v) :: ms => ',' :: (quoted k ++ ':' :: (print v ++ printMembers ms))
end

end Json

/-- Remove a literal prefix. -/
def expect : List Char → List Char → Option (List Char)
  | [], cs => some cs
  | _ :: _, [] => none
  | p :: ps, c :: cs => if p = c then expect ps cs else none

def scanNumber (cs : List Char) : Option (NumLit × List Char) :=
  if h : isNumber (cs.takeWhile isNumChar) = true
  then some (⟨cs.takeWhile isNumChar, List.all_takeWhile, h⟩, cs.dropWhile isNumChar) else none

/-- Read a member name with the colon after it. -/
def scanKey (n : ℕ) (cs : List Char) : Option (StrLit × List Char) :=
  match skipWs cs with
  | '"' :: cs => match scanString n cs with
    | none => none
    | some (k, cs) => match skipWs cs with
      | ':' :: cs => some (k, cs)
      | _ => none
  | _ => none

mutual
/-- Read one value. The fuel is spent on every nested value, element and member. -/
def parseValue : ℕ → List Char → Option (Json × List Char)
  | 0, _ => none
  | n + 1, cs =>
    match skipWs cs with
    | [] => none
    | c :: cs =>
      if c = 'n' then (expect ['u', 'l', 'l'] cs).map fun r => (.null, r)
      else if c = 't' then (expect ['r', 'u', 'e'] cs).map fun r => (.bool true, r)
      else if c = 'f' then (expect ['a', 'l', 's', 'e'] cs).map fun r => (.bool false, r)
      else if c = '"' then (scanString n cs).map fun x => (.str x.1, x.2)
      else if c = '[' then
        match skipWs cs with
        | ']' :: cs => some (.arr [], cs)
        | cs => match parseValue n cs with
          | none => none
          | some (x, cs) => (parseElems n cs).map fun y => (.arr (x :: y.1), y.2)
      else if c = '{' then
        match skipWs cs with
        | '}' :: cs => some (.obj [], cs)
        | cs => match scanKey n cs with
          | none => none
          | some (k, cs) => match parseValue n cs with
            | none => none
            | some (v, cs) => (parseMembers n cs).map fun y => (.obj ((k, v) :: y.1), y.2)
      else (scanNumber (c :: cs)).map fun x => (.num x.1, x.2)
def parseElems : ℕ → List Char → Option (List Json × List Char)
  | 0, _ => none
  | n + 1, cs =>
    match skipWs cs with
    | ']' :: cs => some ([], cs)
    | ',' :: cs => match parseValue n cs with
      | none => none
      | some (x, cs) => (parseElems n cs).map fun y => (x :: y.1, y.2)
    | _ => none
def parseMembers : ℕ → List Char → Option (List (StrLit × Json) × List Char)
  | 0, _ => none
  | n + 1, cs =>
    match skipWs cs with
    | '}' :: cs => some ([], cs)
    | ',' :: cs => match scanKey n cs with
      | none => none
      | some (k, cs) => match parseValue n cs with
        | none => none
        | some (v, cs) => (parseMembers n cs).map fun y => ((k, v) :: y.1, y.2)
    | _ => none
end

/-- One value with white space around it. No text needs more fuel than it has
characters, plus one. -/
def parse (cs : List Char) : Option Json :=
  match parseValue (cs.length + 1) cs with
  | none => none
  | some (v, rest) => if skipWs rest = [] then some v else none

end Jsonlib
