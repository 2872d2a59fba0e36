import LandscapeOrchestrator.Jsonlib.Text

/-!
# Printing and parsing JSON

`parse_print` is the round trip: the parser reads the compact text of a document
back to that document. Every lemma below is the same statement for one level of
the grammar, with arbitrary text behind.
-/

namespace Jsonlib

theorem skipWs_cons {c : Char} (cs : List Char) (h : isWs c = false) :
    skipWs (c :: cs) = c :: cs := by
  simp [skipWs, List.dropWhile, h]

theorem scanPiece_text (p : LegalPiece) (rest : List Char) :
    scanPiece (p.val.text ++ rest) = some (p, rest) := by
  obtain ⟨p, hp⟩ := p
  cases p with
  | hex a b c d => simp [Piece.text, scanPiece, hp]
  | escape c =>
    have hu : c ≠ 'u' := by rintro rfl; exact absurd hp (by decide)
    simp [Piece.text, scanPiece, hu, hp]
  | plain c =>
    have hb : c ≠ '\\' := by rintro rfl; exact absurd hp (by decide)
    simp [Piece.text, scanPiece, hb, hp]

/-- A piece never starts with the quote that closes the string. -/
theorem LegalPiece.text_head (p : LegalPiece) :
    ∃ c cs, p.val.text = c :: cs ∧ c ≠ '"' := by
  obtain ⟨p, hp⟩ := p
  cases p with
  | hex a b c d => exact ⟨_, _, rfl, by decide⟩
  | escape c => exact ⟨_, _, rfl, by decide⟩
  | plain c => exact ⟨c, [], rfl, by rintro rfl; exact absurd hp (by decide)⟩

theorem scanString_text (s : StrLit) (n : ℕ) (rest : List Char) (hn : s.text.length < n) :
    scanString n (s.text ++ '"' :: rest) = some (s, rest) := by
  induction s generalizing n with
  | nil =>
    obtain ⟨m, rfl⟩ := Nat.exists_eq_succ_of_ne_zero (by omega : n ≠ 0)
    simp [StrLit.text, scanString]
  | cons p s ih =>
    obtain ⟨c, cs, hc, hq⟩ := LegalPiece.text_head p
    have hlen : (StrLit.text (p :: s)).length = (c :: cs).length + (StrLit.text s).length := by
      simp only [StrLit.text, List.flatMap_cons, List.length_append, hc]
    obtain ⟨m, rfl⟩ := Nat.exists_eq_succ_of_ne_zero (by omega : n ≠ 0)
    have hsplit : StrLit.text (p :: s) ++ '"' :: rest =
        p.val.text ++ (StrLit.text s ++ '"' :: rest) := by simp [StrLit.text]
    have hp := scanPiece_text p (StrLit.text s ++ '"' :: rest)
    rw [hsplit]
    rw [hc] at hp ⊢
    simp only [List.cons_append] at hp ⊢
    simp only [scanString, if_neg hq, hp]
    rw [ih m (by simp only [List.length_cons] at hlen; omega)]
    rfl

/-- The text behind a number does not continue it. -/
def NoNumHead (rest : List Char) : Prop := ∀ c cs, rest = c :: cs → isNumChar c = false

theorem noNumHead_nil : NoNumHead [] := by intro c cs h; cases h

theorem noNumHead_cons {c : Char} {cs : List Char} (h : isNumChar c = false) :
    NoNumHead (c :: cs) := by
  intro c' cs' h'
  cases h'
  exact h

theorem takeWhile_number {ds rest : List Char} (hd : ds.all isNumChar = true)
    (hr : NoNumHead rest) : (ds ++ rest).takeWhile isNumChar = ds ∧
      (ds ++ rest).dropWhile isNumChar = rest := by
  induction ds with
  | nil =>
    cases rest with
    | nil => exact ⟨rfl, rfl⟩
    | cons c cs => simp [hr c cs rfl]
  | cons d ds ih =>
    simp only [List.all_cons, Bool.and_eq_true] at hd
    simp [hd.1, ih hd.2]

theorem scanNumber_text (n : NumLit) (rest : List Char) (hr : NoNumHead rest) :
    scanNumber (n.text ++ rest) = some (n, rest) := by
  obtain ⟨ht, hd⟩ := takeWhile_number n.chars hr
  have hl : isNumber ((n.text ++ rest).takeWhile isNumChar) = true := by rw [ht]; exact n.legal
  simp only [scanNumber, dif_pos hl, hd, Option.some.injEq, Prod.mk.injEq, and_true]
  cases n
  simp only [NumLit.mk.injEq]
  exact ht

/-- A number starts with a character that starts nothing else. -/
theorem NumLit.text_head (n : NumLit) : ∃ c cs, n.text = c :: cs ∧ isNumChar c = true := by
  obtain ⟨text, chars, legal⟩ := n
  cases text with
  | nil => exact absurd legal (by decide)
  | cons c cs => exact ⟨c, cs, rfl, by simpa using (List.all_eq_true.mp chars) c (by simp)⟩

theorem isNumChar_ne {c : Char} (h : isNumChar c = true) :
    isWs c = false ∧ c ≠ ']' ∧ c ≠ '}' ∧ c ≠ 'n' ∧ c ≠ 't' ∧ c ≠ 'f' ∧ c ≠ '"' ∧ c ≠ '[' ∧
      c ≠ '{' := by
  refine ⟨?_, ?_, ?_, ?_, ?_, ?_, ?_, ?_, ?_⟩
  · by_contra hw
    simp only [isWs, Bool.or_eq_true, decide_eq_true_eq, Bool.not_eq_false] at hw
    rcases hw with ((rfl | rfl) | rfl) | rfl <;> revert h <;> decide
  all_goals rintro rfl; revert h; decide

theorem quoted_append (s : StrLit) (rest : List Char) :
    quoted s ++ rest = '"' :: (s.text ++ '"' :: rest) := by
  simp [quoted]

theorem scanKey_text (k : StrLit) (n : ℕ) (rest : List Char) (hn : k.text.length < n) :
    scanKey n (quoted k ++ ':' :: rest) = some (k, rest) := by
  rw [quoted_append]
  simp only [scanKey, skipWs_cons _ (show isWs '"' = false by decide),
    scanString_text k n _ hn, skipWs_cons _ (show isWs ':' = false by decide)]

/-- No document starts with white space or with a closing bracket. -/
theorem Json.print_head (v : Json) :
    ∃ c cs, v.print = c :: cs ∧ isWs c = false ∧ c ≠ ']' ∧ c ≠ '}' := by
  cases v with
  | null => exact ⟨_, _, by rw [print], by decide⟩
  | bool b =>
    cases b with
    | true => exact ⟨_, _, by rw [print], by decide⟩
    | false => exact ⟨_, _, by rw [print], by decide⟩
  | num n =>
    obtain ⟨c, cs, hc, hn⟩ := n.text_head
    exact ⟨c, cs, by rw [print, hc], (isNumChar_ne hn).1, (isNumChar_ne hn).2.1,
      (isNumChar_ne hn).2.2.1⟩
  | str s => exact ⟨_, _, by rw [print, quoted], by decide⟩
  | arr xs =>
    cases xs with
    | nil => exact ⟨_, _, by rw [print], by decide⟩
    | cons x xs => exact ⟨_, _, by rw [print], by decide⟩
  | obj ms =>
    cases ms with
    | nil => exact ⟨_, _, by rw [print], by decide⟩
    | cons m ms =>
      obtain ⟨k, w⟩ := m
      exact ⟨_, _, by rw [print], by decide⟩

theorem Json.print_length_pos (v : Json) : 0 < v.print.length := by
  obtain ⟨c, cs, hc, -⟩ := v.print_head
  simp [hc]

theorem noNumHead_elems (xs : List Json) (rest : List Char) :
    NoNumHead (Json.printElems xs ++ rest) := by
  cases xs <;> rw [Json.printElems] <;> exact noNumHead_cons (by decide)

theorem noNumHead_members (ms : List (StrLit × Json)) (rest : List Char) :
    NoNumHead (Json.printMembers ms ++ rest) := by
  cases ms with
  | nil =>
    rw [Json.printMembers]
    exact noNumHead_cons (by decide)
  | cons m ms =>
    obtain ⟨k, v⟩ := m
    rw [Json.printMembers]
    exact noNumHead_cons (by decide)

-- The inductions follow the printer's own recursion; the fuel bound is the
-- length of the text that is still to be read.
mutual
theorem parseValue_print : ∀ (v : Json) (n : ℕ) (rest : List Char),
    v.print.length ≤ n → NoNumHead rest → parseValue n (v.print ++ rest) = some (v, rest)
  | v, 0, rest, hn, _ => by have := v.print_length_pos; omega
  | .null, n + 1, rest, _, _ => by
    simp [Json.print, parseValue, skipWs_cons _ (show isWs 'n' = false by decide), expect]
  | .bool true, n + 1, rest, _, _ => by
    simp [Json.print, parseValue, skipWs_cons _ (show isWs 't' = false by decide), expect]
  | .bool false, n + 1, rest, _, _ => by
    simp [Json.print, parseValue, skipWs_cons _ (show isWs 'f' = false by decide), expect]
  | .num x, n + 1, rest, _, hr => by
    obtain ⟨c, cs, hc, hx⟩ := x.text_head
    obtain ⟨hw, -, -, hn, ht, hf, hq, hb, hm⟩ := isNumChar_ne hx
    have hs := scanNumber_text x rest hr
    rw [hc, List.cons_append] at hs
    simp only [Json.print, hc, List.cons_append, parseValue, skipWs_cons _ hw, hn, ht, hf, hq, hb,
      hm, if_false, hs, Option.map_some]
  | .str s, n + 1, rest, hn, _ => by
    have hlen : s.text.length < n := by simp [Json.print, quoted] at hn; omega
    rw [Json.print, quoted_append]
    simp [parseValue, skipWs_cons _ (show isWs '"' = false by decide), scanString_text s n _ hlen]
  | .arr [], n + 1, rest, _, _ => by
    simp [Json.print, parseValue, skipWs_cons _ (show isWs '[' = false by decide),
      skipWs_cons _ (show isWs ']' = false by decide)]
  | .arr (x :: xs), n + 1, rest, hn, _ => by
    simp only [Json.print, List.length_cons, List.length_append] at hn
    have hx := parseValue_print x n (Json.printElems xs ++ rest) (by omega)
      (noNumHead_elems xs rest)
    have hxs := parseElems_print xs n rest (by omega)
    obtain ⟨c, cs, hc, hw, hb, -⟩ := x.print_head
    rw [hc] at hx
    simp only [List.cons_append] at hx
    simp only [Json.print, hc, List.cons_append, List.append_assoc, parseValue,
      skipWs_cons _ (show isWs '[' = false by decide), Char.reduceEq, if_false, if_true,
      skipWs_cons _ hw]
    split
    · next heq => exact absurd (List.cons.inj heq).1 hb
    · simp only [hx, hxs, Option.map_some]
  | .obj [], n + 1, rest, _, _ => by
    simp [Json.print, parseValue, skipWs_cons _ (show isWs '{' = false by decide),
      skipWs_cons _ (show isWs '}' = false by decide)]
  | .obj ((k, v) :: ms), n + 1, rest, hn, _ => by
    simp only [Json.print, quoted, List.length_cons, List.length_append] at hn
    have hv := parseValue_print v n (Json.printMembers ms ++ rest) (by omega)
      (noNumHead_members ms rest)
    have hms := parseMembers_print ms n rest (by omega)
    have hk := scanKey_text k n (v.print ++ (Json.printMembers ms ++ rest)) (by omega)
    rw [quoted_append] at hk
    simp only [Json.print, quoted, List.cons_append, List.append_assoc, List.nil_append, parseValue,
      skipWs_cons _ (show isWs '{' = false by decide), Char.reduceEq, if_false, if_true,
      skipWs_cons _ (show isWs '"' = false by decide)]
    split
    · next heq => exact absurd (List.cons.inj heq).1 (by decide)
    · simp only [hk, hv, hms, Option.map_some]
theorem parseElems_print : ∀ (xs : List Json) (n : ℕ) (rest : List Char),
    (Json.printElems xs).length ≤ n →
      parseElems n (Json.printElems xs ++ rest) = some (xs, rest)
  | [], 0, rest, hn => by simp [Json.printElems] at hn
  | x :: xs, 0, rest, hn => by simp [Json.printElems] at hn
  | [], n + 1, rest, _ => by
    simp [Json.printElems, parseElems, skipWs_cons _ (show isWs ']' = false by decide)]
  | x :: xs, n + 1, rest, hn => by
    simp only [Json.printElems, List.length_cons, List.length_append] at hn
    have hx := parseValue_print x n (Json.printElems xs ++ rest) (by omega)
      (noNumHead_elems xs rest)
    have hxs := parseElems_print xs n rest (by omega)
    simp only [Json.printElems, List.cons_append, List.append_assoc, parseElems,
      skipWs_cons _ (show isWs ',' = false by decide), hx, hxs, Option.map_some]
theorem parseMembers_print : ∀ (ms : List (StrLit × Json)) (n : ℕ) (rest : List Char),
    (Json.printMembers ms).length ≤ n →
      parseMembers n (Json.printMembers ms ++ rest) = some (ms, rest)
  | [], 0, rest, hn => by simp [Json.printMembers] at hn
  | (k, v) :: ms, 0, rest, hn => by simp [Json.printMembers] at hn
  | [], n + 1, rest, _ => by
    simp [Json.printMembers, parseMembers, skipWs_cons _ (show isWs '}' = false by decide)]
  | (k, v) :: ms, n + 1, rest, hn => by
    simp only [Json.printMembers, quoted, List.length_cons, List.length_append] at hn
    have hv := parseValue_print v n (Json.printMembers ms ++ rest) (by omega)
      (noNumHead_members ms rest)
    have hms := parseMembers_print ms n rest (by omega)
    have hk := scanKey_text k n (v.print ++ (Json.printMembers ms ++ rest)) (by omega)
    simp only [Json.printMembers, List.cons_append, List.append_assoc, parseMembers,
      skipWs_cons _ (show isWs ',' = false by decide), hk, hv, hms, Option.map_some]
end

theorem parse_print (v : Json) : parse v.print = some v := by
  have h := parseValue_print v (v.print.length + 1) [] (by omega) noNumHead_nil
  rw [List.append_nil] at h
  simp [parse, h, skipWs]

end Jsonlib
