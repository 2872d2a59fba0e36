import Mathlib.Data.List.DropRight

/-!
# Object names and label values

The two name formats of the API server: a DNS-1123 subdomain, which is one or more
labels of `[a-z0-9-]` that begin and end with a letter or digit, separated by dots;
and a label value.

## Main definitions

- `isDNS1123Subdomain` — names of objects
- `isDNS1123Label` — names with a single label
- `isLabelValue` — values of labels, and of label selectors
- `NamePos.scan` — how far a part of a name has come
-/

namespace Apilib

structure NamespacedName where
  ns : String
  name : String
  deriving DecidableEq, Repr

/-- `[a-z0-9]` -/
def isAlnum (c : Char) : Bool := ('a' ≤ c && c ≤ 'z') || ('0' ≤ c && c ≤ '9')

theorem isAlnum_iff {c : Char} : isAlnum c = true ↔
    97 ≤ c.toNat ∧ c.toNat ≤ 122 ∨ 48 ≤ c.toNat ∧ c.toNat ≤ 57 := by
  simp only [isAlnum, Bool.or_eq_true, Bool.and_eq_true, decide_eq_true_eq, Char.le_def,
    UInt32.le_iff_toNat_le]
  exact Iff.rfl

/-- The last character read: none of this label yet, a letter or digit, a dash. -/
inductive NamePos where
  | start
  | alnum
  | dash
  deriving DecidableEq, Repr

def scanSubdomain : NamePos → List Char → Bool
  | pos, [] => pos = .alnum
  | pos, c :: cs =>
    if isAlnum c then scanSubdomain .alnum cs
    else if c = '-' && pos ≠ .start then scanSubdomain .dash cs
    else if c = '.' && pos = .alnum then scanSubdomain .start cs
    else false

def isDNS1123Subdomain (name : String) : Bool :=
  name.toList.length ≤ 253 && scanSubdomain .start name.toList

def isDNS1123Label (name : String) : Bool :=
  name.toList.length ≤ 63 && name.toList.all (fun c => isAlnum c || c = '-') &&
    name.toList.head?.any isAlnum && name.toList.getLast?.any isAlnum

/-- `[A-Za-z0-9]` -/
def isAnyAlnum (c : Char) : Bool := isAlnum c || ('A' ≤ c && c ≤ 'Z')

def isLabelValue (value : String) : Bool :=
  value.toList.length ≤ 63 &&
    value.toList.all (fun c => isAnyAlnum c || c = '-' || c = '_' || c = '.') &&
    value.toList.head?.all isAnyAlnum && value.toList.getLast?.all isAnyAlnum

theorem isLabelValue_iff {value : String} : isLabelValue value = true ↔
    value.toList.length ≤ 63 ∧
      (∀ c ∈ value.toList, isAnyAlnum c = true ∨ c = '-' ∨ c = '_' ∨ c = '.') ∧
      (∀ c, value.toList.head? = some c → isAnyAlnum c = true) ∧
      ∀ c, value.toList.getLast? = some c → isAnyAlnum c = true := by
  simp [isLabelValue, Option.all_eq_true, and_assoc, or_assoc]

/-- In a list of at most `n + 1` elements, the element at `n` is the last one. -/
theorem getLast?_of_getElem? {l : List Char} {n : ℕ} {c : Char} (hlen : l.length ≤ n + 1)
    (h : l[n]? = some c) : l.getLast? = some c := by
  have hlt : n < l.length := (List.getElem?_eq_some_iff.mp h).1
  rw [List.getLast?_eq_getElem?, show l.length - 1 = n by omega, h]

theorem scanSubdomain_chars {pos : NamePos} {cs : List Char} (h : scanSubdomain pos cs = true) :
    ∀ c ∈ cs, isAlnum c = true ∨ c = '-' ∨ c = '.' := by
  induction cs generalizing pos with
  | nil => simp
  | cons c cs ih =>
    unfold scanSubdomain at h
    simp only [List.forall_mem_cons]
    split at h
    · next hc => exact ⟨.inl hc, ih h⟩
    · split at h
      · next hc => exact ⟨.inr (.inl (by simpa using (Bool.and_eq_true_iff.mp hc).1)), ih h⟩
      · split at h
        · next hc => exact ⟨.inr (.inr (by simpa using (Bool.and_eq_true_iff.mp hc).1)), ih h⟩
        · cases h

theorem scanSubdomain_head {cs : List Char} (h : scanSubdomain .start cs = true) :
    ∃ c rest, cs = c :: rest ∧ isAlnum c = true := by
  cases cs with
  | nil => simp [scanSubdomain] at h
  | cons c cs =>
    by_cases hc : isAlnum c = true
    · exact ⟨c, cs, rfl, hc⟩
    · simp [scanSubdomain, hc] at h

theorem scanSubdomain_last {pos : NamePos} {cs : List Char} (h : scanSubdomain pos cs = true)
    {c : Char} (hc : cs.getLast? = some c) : isAlnum c = true := by
  induction cs generalizing pos with
  | nil => simp at hc
  | cons d cs ih =>
    cases cs with
    | nil =>
      obtain rfl : d = c := by simpa using hc
      by_contra hd
      simp [scanSubdomain, hd] at h
    | cons e es =>
      rw [List.getLast?_cons_cons] at hc
      unfold scanSubdomain at h
      split at h
      · exact ih h hc
      · split at h
        · exact ih h hc
        · split at h
          · exact ih h hc
          · cases h

section Parts

variable {pos pos' : NamePos} {c : Char} {cs ds : List Char}

/-- The position after one more character, if a name can go on with it. -/
def NamePos.next (pos : NamePos) (c : Char) : Option NamePos :=
  if isAlnum c then some .alnum
  else if c = '-' && pos ≠ .start then some .dash
  else if c = '.' && pos = .alnum then some .start
  else none

/-- The position after a part of a name. -/
def NamePos.scan : NamePos → List Char → Option NamePos
  | pos, [] => some pos
  | pos, c :: cs => (pos.next c).bind fun pos' => pos'.scan cs

theorem scanSubdomain_eq_scan : scanSubdomain pos cs = true ↔ pos.scan cs = some .alnum := by
  induction cs generalizing pos with
  | nil => simp [scanSubdomain, NamePos.scan]
  | cons c cs ih =>
    simp only [scanSubdomain, NamePos.scan, NamePos.next]
    split
    · simpa using ih
    · split
      · simpa using ih
      · split
        · simpa using ih
        · simp

theorem NamePos.scan_append : pos.scan (cs ++ ds) = (pos.scan cs).bind (·.scan ds) := by
  induction cs generalizing pos with
  | nil => rfl
  | cons c cs ih =>
    simp only [List.cons_append, NamePos.scan, Option.bind_assoc]
    exact congrArg _ (funext fun _ => ih)

theorem NamePos.next_cases (h : pos.next c = some pos') :
    isAlnum c = true ∧ pos' = .alnum ∨ c = '-' ∧ pos ≠ .start ∧ pos' = .dash ∨
      c = '.' ∧ pos = .alnum ∧ pos' = .start := by
  unfold NamePos.next at h
  split at h
  · exact .inl ⟨‹_›, (Option.some.inj h).symm⟩
  · split at h
    · next hdash =>
      simp only [Bool.and_eq_true, decide_eq_true_eq] at hdash
      exact .inr (.inl ⟨hdash.1, hdash.2, (Option.some.inj h).symm⟩)
    · split at h
      · next hdot =>
        simp only [Bool.and_eq_true, decide_eq_true_eq] at hdot
        exact .inr (.inr ⟨hdot.1, hdot.2, (Option.some.inj h).symm⟩)
      · cases h

/-- A part that ends with `c` has come where `c` leads. -/
theorem NamePos.scan_concat (h : pos.scan (cs ++ [c]) = some pos') :
    ∃ mid, pos.scan cs = some mid ∧ mid.next c = some pos' := by
  rw [NamePos.scan_append] at h
  obtain ⟨mid, hmid, hnext⟩ := Option.bind_eq_some_iff.mp h
  refine ⟨mid, hmid, ?_⟩
  simpa [NamePos.scan] using hnext

theorem NamePos.scan_alnums (h : ∀ c ∈ cs, isAlnum c = true) (hne : cs ≠ []) :
    pos.scan cs = some .alnum := by
  induction cs generalizing pos with
  | nil => exact absurd rfl hne
  | cons c cs ih =>
    obtain ⟨hc, hcs⟩ := List.forall_mem_cons.mp h
    have hnext : pos.next c = some .alnum := by simp [NamePos.next, hc]
    rw [NamePos.scan, hnext, Option.bind_some]
    by_cases hnil : cs = []
    · subst hnil
      rfl
    · exact ih hcs hnil

/-- Only a dot leads back to the start of a label. -/
theorem NamePos.scan_start_iff (h : NamePos.start.scan cs = some pos) (hne : cs ≠ []) :
    pos = .start ↔ cs.getLast? = some '.' := by
  obtain ⟨cs, c, rfl⟩ := (List.eq_nil_or_concat' cs).resolve_left hne
  obtain ⟨mid, -, hnext⟩ := NamePos.scan_concat h
  rw [List.getLast?_concat, Option.some_inj]
  obtain ⟨hc, rfl⟩ | ⟨rfl, -, rfl⟩ | ⟨rfl, -, rfl⟩ := NamePos.next_cases hnext
  · have hdot : c ≠ '.' := by
      rintro rfl
      exact absurd hc (by decide)
    simp [hdot]
  · decide
  · decide

/-- A part that does not end with a dot ends with a letter or digit once its trailing
dashes are gone. -/
theorem NamePos.scan_trimDashes (h : NamePos.start.scan cs = some pos) (hpos : pos ≠ .start) :
    NamePos.start.scan (cs.rdropWhile (· = '-')) = some .alnum := by
  induction cs using List.reverseRecOn generalizing pos with
  | nil => exact absurd (Option.some.inj h).symm hpos
  | append_singleton cs c ih =>
    obtain ⟨mid, hmid, hnext⟩ := NamePos.scan_concat h
    obtain ⟨hc, rfl⟩ | ⟨rfl, hstart, rfl⟩ | ⟨rfl, -, rfl⟩ := NamePos.next_cases hnext
    · have hdash : c ≠ '-' := by
        rintro rfl
        exact absurd hc (by decide)
      rwa [List.rdropWhile_concat_neg _ _ _ (by simpa using hdash)]
    · rw [List.rdropWhile_concat_pos _ _ _ (by decide)]
      exact ih hmid hstart
    · exact absurd rfl hpos

end Parts

end Apilib
