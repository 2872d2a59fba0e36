import LandscapeOrchestrator.Jsonlib.RoundTrip

/-!
# The value of a JSON document

`Json.value` forgets how strings are escaped. The encoder's own escaping of
strings (`quote`) and the escaping that compaction applies to texts it did not
write (`Json.escapeHTML`) both leave the value unchanged.
-/

namespace Jsonlib

def hexDigit (c : Char) : ℕ :=
  if c.toNat ≤ '9'.toNat then c.toNat - '0'.toNat
  else if c.toNat ≤ 'F'.toNat then c.toNat - 'A'.toNat + 10
  else c.toNat - 'a'.toNat + 10

def hex4 (a b c d : Char) : ℕ :=
  ((hexDigit a * 16 + hexDigit b) * 16 + hexDigit c) * 16 + hexDigit d

def unescape (c : Char) : Char :=
  if c = 'b' then '\x08' else if c = 'f' then '\x0c' else if c = 'n' then '\n'
  else if c = 'r' then '\r' else if c = 't' then '\t' else c

/-- What one piece denotes: a character, or half of a surrogate pair. -/
inductive CodeUnit where
  | char (c : Char)
  | surrogate (n : ℕ)
  deriving DecidableEq

def Piece.unit : Piece → CodeUnit
  | hex a b c d =>
    if 0xD800 ≤ hex4 a b c d ∧ hex4 a b c d < 0xE000 then .surrogate (hex4 a b c d)
    else .char (Char.ofNat (hex4 a b c d))
  | escape c => .char (unescape c)
  | plain c => .char c

/-- Join surrogate pairs; a lone half becomes the replacement character. The
first argument is a half that waits for its partner. -/
def joinUnits : Option ℕ → List CodeUnit → List Char
  | none, [] => []
  | some _, [] => [Char.ofNat 0xFFFD]
  | none, .char c :: us => c :: joinUnits none us
  | some _, .char c :: us => Char.ofNat 0xFFFD :: c :: joinUnits none us
  | none, .surrogate n :: us => joinUnits (some n) us
  | some hi, .surrogate lo :: us =>
    if hi < 0xDC00 ∧ 0xDC00 ≤ lo
    then Char.ofNat (0x10000 + (hi - 0xD800) * 0x400 + (lo - 0xDC00)) :: joinUnits none us
    else Char.ofNat 0xFFFD :: joinUnits (some lo) us

namespace StrLit

def value (s : StrLit) : String := String.ofList (joinUnits none (s.map fun p => p.val.unit))

end StrLit

def hexChar (n : ℕ) : Char := if n < 10 then Char.ofNat (48 + n) else Char.ofNat (87 + n)

/-- The characters that are written as escapes although a string may hold them. -/
def isHTML (c : Char) : Bool :=
  c = '<' || c = '>' || c = '&' || c = Char.ofNat 0x2028 || c = Char.ofNat 0x2029

/-- The piece that the encoder writes for one character. -/
def quotePiece (c : Char) : Piece :=
  if c = '"' || c = '\\' then .escape c
  else if c = '\x08' then .escape 'b'
  else if c = '\x0c' then .escape 'f'
  else if c = '\n' then .escape 'n'
  else if c = '\r' then .escape 'r'
  else if c = '\t' then .escape 't'
  else if c.toNat < 32 || isHTML c then
    .hex (hexChar (c.toNat / 4096)) (hexChar (c.toNat / 256 % 16))
      (hexChar (c.toNat / 16 % 16)) (hexChar (c.toNat % 16))
  else .plain c

theorem isHTML_cases {c : Char} (h : isHTML c = true) :
    c = '<' ∨ c = '>' ∨ c = '&' ∨ c = Char.ofNat 0x2028 ∨ c = Char.ofNat 0x2029 := by
  simpa [isHTML, or_assoc] using h

/-- Below the space there are 32 characters, each checked by evaluation. -/
theorem quotePiece_control : ∀ n < 32, (quotePiece (Char.ofNat n)).Legal = true ∧
    (quotePiece (Char.ofNat n)).unit = .char (Char.ofNat n) := by
  decide

theorem quotePiece_spec (c : Char) :
    (quotePiece c).Legal = true ∧ (quotePiece c).unit = .char c := by
  by_cases hlt : c.toNat < 32
  · have h := quotePiece_control c.toNat hlt
    rwa [Char.ofNat_toNat] at h
  by_cases hh : isHTML c = true
  · rcases isHTML_cases hh with rfl | rfl | rfl | rfl | rfl <;> decide
  by_cases hq : c = '"'
  · subst hq; decide
  by_cases hb : c = '\\'
  · subst hb; decide
  have hctl : ∀ d : Char, d.toNat < 32 → c ≠ d := by
    rintro d hd rfl
    exact hlt hd
  have hp : quotePiece c = .plain c := by
    simp [quotePiece, hq, hb, hlt, hh, hctl '\x08' (by decide), hctl '\x0c' (by decide),
      hctl '\n' (by decide), hctl '\r' (by decide), hctl '\t' (by decide)]
  refine ⟨?_, by rw [hp]; rfl⟩
  have hsp : ' ' ≤ c := by
    rw [Char.le_def, UInt32.le_iff_toNat_le]
    exact Nat.le_of_not_lt hlt
  simp [hp, Piece.Legal, hq, hb, hsp]

/-- The string body that the encoder writes. -/
def quote (s : String) : StrLit :=
  s.toList.map fun c => ⟨quotePiece c, (quotePiece_spec c).1⟩

theorem joinUnits_chars (cs : List Char) : joinUnits none (cs.map .char) = cs := by
  induction cs with
  | nil => rfl
  | cons c cs ih => simp [joinUnits, ih]

@[simp] theorem value_quote (s : String) : (quote s).value = s := by
  have hu : (quote s).map (fun p => p.val.unit) = s.toList.map .char := by
    simp only [quote, List.map_map]
    exact List.map_congr_left fun c _ => (quotePiece_spec c).2
  rw [StrLit.value, hu, joinUnits_chars, String.ofList_toList]

/-- What compaction writes for a piece of a text it did not produce itself. -/
def Piece.escapeHTML (p : Piece) : Piece :=
  match p with
  | .plain c => if isHTML c then quotePiece c else .plain c
  | p => p

theorem Piece.escapeHTML_spec (p : Piece) :
    (p.Legal = true → p.escapeHTML.Legal = true) ∧ p.escapeHTML.unit = p.unit := by
  cases p with
  | hex a b c d => exact ⟨id, rfl⟩
  | escape c => exact ⟨id, rfl⟩
  | plain c =>
    simp only [escapeHTML]
    split
    · exact ⟨fun _ => (quotePiece_spec c).1, (quotePiece_spec c).2⟩
    · exact ⟨id, rfl⟩

def StrLit.escapeHTML (s : StrLit) : StrLit :=
  s.map fun p => ⟨p.val.escapeHTML, p.val.escapeHTML_spec.1 p.property⟩

@[simp] theorem StrLit.value_escapeHTML (s : StrLit) : s.escapeHTML.value = s.value := by
  have hu : s.escapeHTML.map (fun p => p.val.unit) = s.map (fun p => p.val.unit) := by
    simp only [escapeHTML, List.map_map]
    exact List.map_congr_left fun p _ => p.val.escapeHTML_spec.2
  rw [value, value, hu]

/-- JSON values. Members stay in their order and numbers as they are written. -/
inductive Value where
  | null
  | bool (b : Bool)
  | num (n : NumLit)
  | str (s : String)
  | arr (xs : List Value)
  | obj (ms : List (String × Value))

namespace Json

mutual
def value : Json → Value
  | null => .null
  | bool b => .bool b
  | num n => .num n
  | str s => .str s.value
  | arr xs => .arr (valueElems xs)
  | obj ms => .obj (valueMembers ms)
def valueElems : List Json → List Value
  | [] => []
  | x :: xs => value x :: valueElems xs
def valueMembers : List (StrLit × Json) → List (String × Value)
  | [] => []
  | (k, v) :: ms => (k.value, value v) :: valueMembers ms
end

mutual
def escapeHTML : Json → Json
  | null => null
  | bool b => bool b
  | num n => num n
  | str s => str s.escapeHTML
  | arr xs => arr (escapeElems xs)
  | obj ms => obj (escapeMembers ms)
def escapeElems : List Json → List Json
  | [] => []
  | x :: xs => escapeHTML x :: escapeElems xs
def escapeMembers : List (StrLit × Json) → List (StrLit × Json)
  | [] => []
  | (k, v) :: ms => (k.escapeHTML, escapeHTML v) :: escapeMembers ms
end

mutual
theorem value_escapeHTML : ∀ v : Json, v.escapeHTML.value = v.value
  | null => rfl
  | bool b => rfl
  | num n => rfl
  | str s => by simp [escapeHTML, value]
  | arr xs => by rw [escapeHTML, value, value, valueElems_escapeHTML xs]
  | obj ms => by rw [escapeHTML, value, value, valueMembers_escapeHTML ms]
theorem valueElems_escapeHTML : ∀ xs : List Json, valueElems (escapeElems xs) = valueElems xs
  | [] => rfl
  | x :: xs => by rw [escapeElems, valueElems, valueElems, value_escapeHTML x,
      valueElems_escapeHTML xs]
theorem valueMembers_escapeHTML :
    ∀ ms : List (StrLit × Json), valueMembers (escapeMembers ms) = valueMembers ms
  | [] => rfl
  | (k, v) :: ms => by rw [escapeMembers, valueMembers, valueMembers, value_escapeHTML v,
      valueMembers_escapeHTML ms, StrLit.value_escapeHTML]
end

end Json

/-- The value a text denotes. -/
def decode (text : String) : Option Value := (parse text.toList).map Json.value

/-- Compaction of a text that is embedded in an encoded document: white space is
removed and the characters of `isHTML` are escaped. -/
def compact (text : String) : Option Json := (parse text.toList).map Json.escapeHTML

def encode (v : Json) : String := String.ofList v.print

@[simp] theorem decode_encode (v : Json) : decode (encode v) = some v.value := by
  simp [decode, encode, parse_print]

theorem compact_value (text : String) : (compact text).map Json.value = decode text := by
  cases h : parse text.toList <;> simp [compact, decode, h, Json.value_escapeHTML]

end Jsonlib
