import LandscapeOrchestrator.Jsonlib.Decoder
import LandscapeOrchestrator.Jsonlib.Unmarshal
import Mathlib.Data.Int.Notation
import Mathlib.Data.List.Forall2
import Mathlib.Data.List.Nodup
import Mathlib.Data.List.TakeWhile

/-!
# Decoding into records

A record has fields of different types, each with its own decoder, which is also given
what the field holds already. Members are taken in the order of the text. As long as no
two of them address one field, the order has no influence; this is how a text survives a
decoder and an encoder that know nothing of the record.

## Main definitions

- `Schema` — the fields of a record
- `Schema.decodeMembers`, `Schema.decode` — the decoder
- `Slice`, `decodeSlice` — the decoder of lists, which writes over the elements there are
- `Value.Reordered` — the same value with the members of its objects in another order
- `intLit` — the text of an integer

## Main results

- `Schema.decodeMembers_eq_some` — the decoder, by what each member holds
- `parseInt64_intLit` — integers are read back
-/

namespace Jsonlib

/-- `T f` is the type of the field `f`. -/
structure Schema (F : Type) (T : F → Type) where
  fields : List F
  name : F → String
  zero : (f : F) → T f
  dec : (f : F) → Value → T f → Option (T f)

namespace Schema

variable {F : Type} {T : F → Type} [DecidableEq F] (S : Schema F T)

/-- The field that a member addresses: the one of its name, or else the first that agrees
with it under case folding. -/
def fieldOf (k : String) : Option F :=
  (S.fields.find? fun f => S.name f = k).or (S.fields.find? fun f => foldEq (S.name f) k)

def decodeMembers : List (String × Value) → ((f : F) → T f) → Option ((f : F) → T f)
  | [], r => some r
  | m :: ms, r => match S.fieldOf m.1 with
    | none => decodeMembers ms r
    | some f => (S.dec f m.2 (r f)).bind fun x => decodeMembers ms (Function.update r f x)

def decode : Value → ((f : F) → T f) → Option ((f : F) → T f)
  | .null, r => some r
  | .obj ms, r => S.decodeMembers ms r
  | _, _ => none

/-- The members that address a field. -/
def addressed (ms : List (String × Value)) : List (F × Value) :=
  ms.filterMap fun m => (S.fieldOf m.1).map fun f => (f, m.2)

variable {S}

/-- No two members address one field. Then each field has what its member decodes to, or
what it had. -/
theorem decodeMembers_eq_some {ms : List (String × Value)} {r r' : (f : F) → T f}
    (hnodup : ((S.addressed ms).map Prod.fst).Nodup)
    (hmem : ∀ f v, (f, v) ∈ S.addressed ms → S.dec f v (r f) = some (r' f))
    (hrest : ∀ f, f ∉ (S.addressed ms).map Prod.fst → r' f = r f) :
    S.decodeMembers ms r = some r' := by
  induction ms generalizing r with
  | nil => exact congrArg some (funext fun f => (hrest f List.not_mem_nil).symm)
  | cons m ms ih =>
    cases hf : S.fieldOf m.1 with
    | none =>
      have haddr : S.addressed (m :: ms) = S.addressed ms :=
        List.filterMap_cons_none (by rw [hf]; rfl)
      rw [haddr] at hnodup hmem hrest
      rw [decodeMembers, hf]
      exact ih hnodup hmem hrest
    | some f =>
      have haddr : S.addressed (m :: ms) = (f, m.2) :: S.addressed ms :=
        List.filterMap_cons_some (by rw [hf]; rfl)
      rw [haddr, List.map_cons, List.nodup_cons] at hnodup
      rw [haddr] at hmem hrest
      obtain ⟨hnew, hnodup⟩ := hnodup
      rw [decodeMembers, hf]
      dsimp only
      rw [hmem f m.2 List.mem_cons_self, Option.bind_some]
      refine ih hnodup (fun g v hg => ?_) fun g hg => ?_
      · have hne : g ≠ f := by
          rintro rfl
          exact hnew (List.mem_map.mpr ⟨_, hg, rfl⟩)
        rw [Function.update_of_ne hne]
        exact hmem g v (List.mem_cons_of_mem _ hg)
      · by_cases hgf : g = f
        · subst hgf
          rw [Function.update_self]
        · rw [Function.update_of_ne hgf]
          refine hrest g fun hin => ?_
          obtain hin | hin := List.mem_cons.mp hin
          · exact hgf hin
          · exact hg hin

end Schema

section Scalars

def decodeString : Value → String → Option String
  | .null, old => some old
  | .str s, _ => some s
  | _, _ => none

def Int32Range (i : ℤ) : Prop := -2147483648 ≤ i ∧ i ≤ 2147483647

instance (i : ℤ) : Decidable (Int32Range i) := inferInstanceAs (Decidable (_ ∧ _))

def decodeInt32 : Value → ℤ → Option ℤ
  | .null, old => some old
  | .num n, _ => (parseInt64 n.text).bind fun i => if Int32Range i then some i else none
  | _, _ => none

end Scalars

/-- `spare` is what the memory behind the elements holds. -/
structure Slice (α : Type) where
  elems : List α
  spare : List α
  deriving DecidableEq

section Slices

variable {α : Type} (zero : α) (dec : Value → α → Option α)

def decodeElems : List Value → List α → Option (List α)
  | [], _ => some []
  | v :: vs, old => (dec v (old.head?.getD zero)).bind fun x =>
    (decodeElems vs old.tail).map fun xs => x :: xs

def decodeSlice : Value → Slice α → Option (Slice α)
  | .null, _ => some ⟨[], []⟩
  | .arr [], _ => some ⟨[], []⟩
  | .arr vs, old => (decodeElems zero dec vs (old.elems ++ old.spare)).map fun xs =>
    ⟨xs, (old.elems ++ old.spare).drop xs.length⟩
  | _, _ => none

variable {zero dec}

theorem decodeElems_nil {vs : List Value} {xs : List α}
    (h : List.Forall₂ (fun v x => dec v zero = some x) vs xs) :
    decodeElems zero dec vs [] = some xs := by
  induction h with
  | nil => rfl
  | cons hv _ ih =>
    rw [decodeElems, List.head?_nil, Option.getD_none, hv, Option.bind_some, List.tail_nil, ih]
    rfl

/-- An array decodes into an empty slice element by element. -/
theorem decodeSlice_nil {vs : List Value} {xs : List α}
    (h : List.Forall₂ (fun v x => dec v zero = some x) vs xs) :
    decodeSlice zero dec (.arr vs) ⟨[], []⟩ = some ⟨xs, []⟩ := by
  cases h with
  | nil => rfl
  | cons hv h => simp [decodeSlice, decodeElems_nil (.cons hv h)]

end Slices

/-- The members of objects may change places, at any depth. -/
inductive Value.Reordered : Value → Value → Prop
  | refl (v : Value) : Reordered v v
  | arr {xs ys : List Value} (h : List.Forall₂ Reordered xs ys) : Reordered (.arr xs) (.arr ys)
  | obj {ms ms' ms'' : List (String × Value)}
      (hkeys : ms.map Prod.fst = ms'.map Prod.fst)
      (h : List.Forall₂ Reordered (ms.map Prod.snd) (ms'.map Prod.snd)) (hp : ms'.Perm ms'') :
      Reordered (.obj ms) (.obj ms'')

namespace Value.Reordered

theorem members {ms ms' : List (String × Value)} (hkeys : ms.map Prod.fst = ms'.map Prod.fst)
    (h : List.Forall₂ Reordered (ms.map Prod.snd) (ms'.map Prod.snd)) :
    ∀ m ∈ ms', ∃ u, (m.1, u) ∈ ms ∧ Reordered u m.2 := by
  induction ms generalizing ms' with
  | nil =>
    obtain rfl : ms' = [] := by simpa using hkeys.symm
    simp
  | cons a ms ih =>
    cases ms' with
    | nil => cases hkeys
    | cons b ms' =>
      obtain ⟨hab, hkeys⟩ := List.cons.inj hkeys
      obtain ⟨hval, h⟩ := List.forall₂_cons.mp h
      intro m hm
      obtain rfl | hm := List.mem_cons.mp hm
      · exact ⟨a.2, hab ▸ List.mem_cons_self, hval⟩
      · obtain ⟨u, hu, hval⟩ := ih hkeys h m hm
        exact ⟨u, List.mem_cons_of_mem _ hu, hval⟩

/-- The members of a reordered object are those of the object, with their values reordered. -/
theorem of_obj {ms : List (String × Value)} {v : Value} (h : Reordered (.obj ms) v) :
    ∃ ms', v = .obj ms' ∧ (ms'.map Prod.fst).Perm (ms.map Prod.fst) ∧
      ∀ m ∈ ms', ∃ u, (m.1, u) ∈ ms ∧ Reordered u m.2 := by
  cases h with
  | refl => exact ⟨ms, rfl, .refl _, fun m hm => ⟨m.2, hm, .refl _⟩⟩
  | @obj _ ms' ms'' hkeys h hp =>
    refine ⟨ms'', rfl, hkeys ▸ (hp.map Prod.fst).symm, fun m hm => ?_⟩
    exact members hkeys h m (hp.mem_iff.mpr hm)

theorem of_arr {xs : List Value} {v : Value} (h : Reordered (.arr xs) v) :
    ∃ ys, v = .arr ys ∧ List.Forall₂ Reordered xs ys := by
  cases h with
  | refl => exact ⟨xs, rfl, List.forall₂_same.mpr fun x _ => .refl x⟩
  | arr h => exact ⟨_, rfl, h⟩

end Value.Reordered

namespace Schema

variable {F : Type} {T : F → Type} [DecidableEq F] {S : Schema F T}

/-- The members that a record is written with. -/
def object (S : Schema F T) (es : List (F × Value)) : Value :=
  .obj (es.map fun e => (S.name e.1, e.2))

/-- A record that was written field by field is read back in any order of the members. -/
theorem decode_reordered {es : List (F × Value)} {v : Value} {r r' : (f : F) → T f}
    (hname : ∀ f, S.fieldOf (S.name f) = some f) (hnodup : (es.map Prod.fst).Nodup)
    (h : Value.Reordered (S.object es) v)
    (hmem : ∀ f u w, (f, u) ∈ es → Value.Reordered u w → S.dec f w (r f) = some (r' f))
    (hrest : ∀ f, f ∉ es.map Prod.fst → r' f = r f) : S.decode v r = some r' := by
  obtain ⟨ms, rfl, hkeys, hms⟩ := h.of_obj
  have hfields : ((S.addressed ms).map Prod.fst).Perm (es.map Prod.fst) := by
    have haddr : (S.addressed ms).map Prod.fst = (ms.map Prod.fst).filterMap S.fieldOf := by
      rw [addressed, List.map_filterMap, List.filterMap_map]
      refine List.filterMap_congr fun m _ => ?_
      rw [Option.map_map]
      exact Option.map_id'
    have hes : ((es.map fun e => (S.name e.1, e.2)).map Prod.fst).filterMap S.fieldOf =
        es.map Prod.fst := by
      rw [List.map_map, List.filterMap_map, ← List.filterMap_eq_map]
      exact List.filterMap_congr fun e _ => hname e.1
    rw [haddr, ← hes]
    exact hkeys.filterMap _
  refine decodeMembers_eq_some (hfields.nodup_iff.mpr hnodup) (fun f w hf => ?_) fun f hf => ?_
  · obtain ⟨m, hm, hmf⟩ := List.mem_filterMap.mp hf
    obtain ⟨g, hg, hgf⟩ := Option.map_eq_some_iff.mp hmf
    obtain ⟨rfl, rfl⟩ := Prod.mk.inj hgf
    obtain ⟨u, hu, hval⟩ := hms m hm
    obtain ⟨e, he, hem⟩ := List.mem_map.mp hu
    obtain ⟨hkey, rfl⟩ := Prod.mk.inj hem
    rw [← hkey, hname] at hg
    obtain rfl := Option.some.inj hg
    exact hmem _ _ _ he hval
  · exact hrest f (mt hfields.mem_iff.mpr hf)

end Schema

section Integers

/-- The decimal digits, most significant first. -/
def natText (n : ℕ) : List Char := Nat.toDigits 10 n

def intText (i : ℤ) : List Char :=
  match i with
  | .ofNat n => natText n
  | .negSucc n => '-' :: natText (n + 1)

theorem natText_digits (n : ℕ) : (natText n).all Char.isDigit = true := by
  rw [List.all_eq_true]
  exact fun c hc => Nat.isDigit_of_mem_toDigits (by decide) (by decide) hc

theorem natText_isDigits (n : ℕ) : isDigits (natText n) = true := by
  have hne : natText n ≠ [] := Nat.toDigits_ne_nil
  simp [isDigits, natText_digits, hne]

theorem natOfDigits_natText (n : ℕ) : natOfDigits (natText n) = n :=
  Nat.ofDigitChars_toDigits (by decide) (by decide)

/-- There is no leading zero. -/
theorem natText_head {n : ℕ} (h : 0 < n) : ∃ c cs, natText n = c :: cs ∧ c ≠ '0' := by
  induction n using Nat.strongRecOn with
  | ind n ih =>
    by_cases hlt : n < 10
    · have hdigit : ∀ d < 10, 0 < d → d.digitChar ≠ '0' := by decide
      exact ⟨n.digitChar, [], Nat.toDigits_of_lt_base hlt, hdigit n hlt h⟩
    · have hge : 10 ≤ n := Nat.le_of_not_lt hlt
      obtain ⟨c, cs, hcs, hc⟩ := ih (n / 10) (by omega) (by omega)
      refine ⟨c, cs ++ [(n % 10).digitChar], ?_, hc⟩
      rw [natText, Nat.toDigits_of_base_le (by decide) hge]
      rw [natText] at hcs
      rw [hcs]
      rfl

theorem isUnsigned_natText (n : ℕ) : isUnsigned (natText n) = true := by
  obtain rfl | h := Nat.eq_zero_or_pos n
  · decide
  · obtain ⟨c, cs, hcs, hc⟩ := natText_head h
    have hall := natText_digits n
    rw [hcs, List.all_cons, Bool.and_eq_true] at hall
    have hdrop : cs.dropWhile Char.isDigit = [] := by
      rw [List.dropWhile_eq_nil_iff]
      exact fun d hd => List.all_eq_true.mp hall.2 d hd
    rw [hcs]
    unfold isUnsigned
    split
    · next heq => cases heq
    · next heq => exact absurd (List.cons.inj heq).1 hc
    · next c' cs' _ heq =>
      obtain ⟨rfl, rfl⟩ := List.cons.inj heq
      rw [hall.1, hdrop]
      rfl

theorem natText_ne_minus (n : ℕ) (cs : List Char) : natText n ≠ '-' :: cs := by
  intro h
  have hall := natText_digits n
  rw [h, List.all_cons] at hall
  cases hall

theorem isNumber_natText (n : ℕ) : isNumber (natText n) = true := by
  unfold isNumber
  split
  · next cs h => exact absurd h (natText_ne_minus n cs)
  · exact isUnsigned_natText n

theorem parseInt64_natText {n : ℕ} (h : n < int64Bound) :
    parseInt64 (natText n) = some (Int.ofNat n) := by
  unfold parseInt64
  split
  · next cs heq => exact absurd heq (natText_ne_minus n cs)
  · rw [natOfDigits_natText, if_pos ⟨natText_isDigits n, h⟩]

theorem natText_numChars (n : ℕ) : (natText n).all isNumChar = true := by
  rw [List.all_eq_true]
  intro c hc
  have hdigit := List.all_eq_true.mp (natText_digits n) c hc
  simp [isNumChar, hdigit]

/-- An integer as the encoder writes it. -/
def intLit (i : ℤ) : NumLit where
  text := intText i
  chars := by
    cases i with
    | ofNat n => exact natText_numChars n
    | negSucc n =>
      rw [intText, List.all_cons, natText_numChars]
      rfl
  legal := by
    cases i with
    | ofNat n => exact isNumber_natText n
    | negSucc n => exact isUnsigned_natText (n + 1)

theorem parseInt64_intLit {i : ℤ} (h : Int32Range i) : parseInt64 (intLit i).text = some i := by
  obtain ⟨hlo, hhi⟩ := h
  cases i with
  | ofNat n =>
    refine parseInt64_natText ?_
    have hn : (n : Int) ≤ 2147483647 := hhi
    unfold int64Bound
    omega
  | negSucc n =>
    show parseInt64 ('-' :: natText (n + 1)) = _
    have hn : n + 1 ≤ int64Bound := by
      unfold int64Bound
      omega
    rw [parseInt64, natOfDigits_natText, if_pos ⟨natText_isDigits _, hn⟩]
    rfl

theorem decodeInt32_intLit {i : ℤ} (h : Int32Range i) (old : ℤ) :
    decodeInt32 (.num (intLit i)) old = some i := by
  rw [decodeInt32, parseInt64_intLit h, Option.bind_some, if_pos h]

end Integers

end Jsonlib
