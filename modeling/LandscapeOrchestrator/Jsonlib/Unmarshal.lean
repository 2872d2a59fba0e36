import LandscapeOrchestrator.Jsonlib.Value
import Mathlib.Logic.Function.Basic

/-!
# Decoding into a record of strings

The decoder's rules for a record all of whose fields are strings: a member
addresses the field of its name, or else the first field that agrees with it
under case folding; unknown members and `null` are skipped; of two members for
one field the later wins; a member of another type is an error.
-/

namespace Jsonlib

/-- Two non-ASCII characters fold to an ASCII letter: the long s and the Kelvin sign. -/
def foldChar (c : Char) : Char :=
  if c = Char.ofNat 0x17F then 's' else if c = Char.ofNat 0x212A then 'k' else c.toLower

def foldEq (s t : String) : Bool := s.toList.map foldChar = t.toList.map foldChar

def fieldFor (fields : List String) (k : String) : Option String :=
  if k ∈ fields then some k else fields.find? fun f => foldEq f k

def setField (fields : List String) (acc : Option (String → String)) (m : String × Value) :
    Option (String → String) :=
  match fieldFor fields m.1, m.2 with
  | none, _ => acc
  | some _, .null => acc
  | some f, .str s => acc.map fun g => Function.update g f s
  | some _, _ => none

/-- The fields of the record after decoding, or `none` on an error. -/
def unmarshalStrings (fields : List String) (text : String) : Option (String → String) :=
  match decode text with
  | some .null => some fun _ => ""
  | some (.obj ms) => ms.foldl (setField fields) (some fun _ => "")
  | _ => none

/-- The decoder that tells cases apart: only a member of exactly its name addresses a field. -/
def unmarshalStringsExact (fields : List String) (text : String) : Option (String → String) :=
  match decode text with
  | some .null => some fun _ => ""
  | some (.obj ms) => (ms.filter fun m => m.1 ∈ fields).foldl (setField fields) (some fun _ => "")
  | _ => none

end Jsonlib
