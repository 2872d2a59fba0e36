import LandscapeOrchestrator.Golib.Maps
import LandscapeOrchestrator.Jsonlib.Unmarshal

/-!
# Decoding from a stream

A stream decoder reads the next value and leaves what follows it. Decoded into a
map, an object keeps the last of two members of one name. Decoded into an
interface, a number becomes a float, or stays as it is written when the decoder is
told so.

## Main definitions

- `decodeNext` — the next value of a stream
- `Value.fits` — every number of a value can be decoded to a float
- `unmarshalMap` — decoding into a map that may have entries already
- `parseInt64` — a number as a signed integer of 64 bits
-/

namespace Jsonlib
open Golib

/-- The next value of a stream. -/
def decodeNext (text : String) : Option Value :=
  (parseValue (text.toList.length + 1) text.toList).map fun x => x.1.value

theorem decodeNext_of_decode {text : String} {v : Value} (h : decode text = some v) :
    decodeNext text = some v := by
  obtain ⟨doc, hparse, rfl⟩ := Option.map_eq_some_iff.mp h
  unfold parse at hparse
  unfold decodeNext
  cases hvalue : parseValue (text.toList.length + 1) text.toList with
  | none => simp [hvalue] at hparse
  | some x =>
    simp only [hvalue] at hparse
    split at hparse
    · rw [← Option.some.inj hparse]
      rfl
    · cases hparse

section

variable (float : NumLit → Bool)

mutual
/-- `float` holds of every number. -/
def Value.fits : Value → Bool
  | .num n => float n
  | .arr xs => fitsElems xs
  | .obj ms => fitsMembers ms
  | _ => true
def fitsElems : List Value → Bool
  | [] => true
  | x :: xs => x.fits && fitsElems xs
def fitsMembers : List (String × Value) → Bool
  | [] => true
  | (_, v) :: ms => v.fits && fitsMembers ms
end

end

/-- Decoding into the map `m`: `null` empties it, an object adds its members. -/
def unmarshalMap (m : List (String × Value)) : Value → Option (List (String × Value))
  | .null => some []
  | .obj ms => some (ms.foldl (fun m e => mapSet m e.1 e.2) m)
  | _ => none

def natOfDigits (cs : List Char) : ℕ := cs.foldl (fun n c => 10 * n + (c.toNat - '0'.toNat)) 0

/-- How many integers of 64 bits are not negative. -/
def int64Bound : ℕ := 9223372036854775808

/-- Digits with an optional minus, in the range of 64 bits. -/
def parseInt64 : List Char → Option Int
  | '-' :: cs =>
    if isDigits cs ∧ natOfDigits cs ≤ int64Bound then some (Int.negOfNat (natOfDigits cs)) else none
  | cs => if isDigits cs ∧ natOfDigits cs < int64Bound then some (Int.ofNat (natOfDigits cs)) else none

end Jsonlib
