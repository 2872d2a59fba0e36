import Mathlib.Data.String.Basic

/-!
# String functions

The functions of the `strings` package that cut a string, over its characters.
-/

namespace Golib

/-- The position of the last `c`. -/
def lastIndex (c : Char) : List Char → Option ℕ
  | [] => none
  | x :: xs => match lastIndex c xs with
    | some i => some (i + 1)
    | none => if x = c then some 0 else none

/-- What follows `p` in `s`, when `s` begins with it. -/
def cutPrefix (s p : String) : Option String := (p.toList.isPrefixOf? s.toList).map String.ofList

@[simp] theorem cutPrefix_append (p s : String) : cutPrefix (p ++ s) p = some s := by
  have h : p.toList.isPrefixOf? (p ++ s).toList = some s.toList := by
    rw [List.isPrefixOf?_eq_some_iff_append_eq, String.toList_append]
  rw [cutPrefix, h, Option.map_some, String.ofList_toList]

/-- What stands before the first `c`, and what follows it. -/
def cut (c : Char) : List Char → List Char × Option (List Char)
  | [] => ([], none)
  | x :: xs => if x = c then ([], some xs) else ((x :: (cut c xs).1), (cut c xs).2)

theorem cut_eq_none {c : Char} {cs : List Char} (h : (cut c cs).2 = none) : (cut c cs).1 = cs := by
  induction cs with
  | nil => rfl
  | cons x xs ih =>
    by_cases hx : x = c
    · simp [cut, hx] at h
    · simp only [cut, hx, if_false] at h ⊢
      rw [ih h]

theorem cut_eq_some {c : Char} {cs rest : List Char} (h : (cut c cs).2 = some rest) :
    (cut c cs).1 ++ c :: rest = cs := by
  induction cs with
  | nil => simp [cut] at h
  | cons x xs ih =>
    by_cases hx : x = c
    · simpa [cut, hx] using h.symm
    · simp only [cut, hx, if_false] at h ⊢
      rw [List.cons_append, ih h]

def trimPrefix (s p : String) : String := (cutPrefix s p).getD s

@[simp] theorem trimPrefix_append (p s : String) : trimPrefix (p ++ s) p = s := by
  simp [trimPrefix]

/-- White space in the sense of Unicode. -/
def isSpace (c : Char) : Bool :=
  c = '\t' || c = '\n' || c = '\x0b' || c = '\x0c' || c = '\r' || c = ' ' ||
    c.toNat ∈ [0x85, 0xA0, 0x1680, 0x2028, 0x2029, 0x202F, 0x205F, 0x3000] ||
    (0x2000 ≤ c.toNat && c.toNat ≤ 0x200A)

def trimSpace (s : String) : String :=
  String.ofList ((s.toList.dropWhile isSpace).reverse.dropWhile isSpace).reverse

theorem dropWhile_of_none {p : Char → Bool} {cs : List Char} (h : ∀ c ∈ cs, p c = false) :
    cs.dropWhile p = cs := by
  cases cs with
  | nil => rfl
  | cons c cs => simp [h c]

theorem trimSpace_of_none {s : String} (h : ∀ c ∈ s.toList, isSpace c = false) :
    trimSpace s = s := by
  rw [trimSpace, dropWhile_of_none h, dropWhile_of_none (by simpa using h), List.reverse_reverse,
    String.ofList_toList]

/-- A string has at least as many bytes as characters. -/
theorem length_le_utf8ByteSize (s : String) : s.length ≤ s.utf8ByteSize := by
  have hlist : ∀ cs : List Char, cs.length ≤ String.utf8Len cs := by
    intro cs
    induction cs with
    | nil => simp
    | cons c cs ih =>
      have := c.utf8Size_pos
      rw [String.utf8Len_cons, List.length_cons]
      omega
  rw [← String.ofList_toList (s := s), String.utf8ByteSize_ofList, String.length_ofList]
  exact hlist _

end Golib
