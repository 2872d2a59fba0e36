import LandscapeOrchestrator.Apilib.Names
import Mathlib.Data.List.DropRight

namespace LandscapeOrchestrator.FluxDeployer
open Apilib

/-- `unicode.ToLower`, as far as the letters `a` to `z` are concerned: beside the
capitals, two characters outside ASCII have one of them as their lower case. -/
def toLower (c : Char) : Char :=
  if 'A' ≤ c && c ≤ 'Z' then Char.ofNat (c.toNat + 32)
  else if c = Char.ofNat 0x212a then 'k'
  else if c = Char.ofNat 0x130 then 'i'
  else c

/-- Everything but `[a-z0-9-]` becomes a dash. -/
def replaceIllegal (c : Char) : Char := if isAlnum c || c = '-' then c else '-'

/-- What is left of a name before it is cut. -/
def trimmedChars (name : List Char) : List Char :=
  (((name.map toLower).map replaceIllegal).dropWhile (!isAlnum ·)).rdropWhile (!isAlnum ·)

def sanitizeChars (name : List Char) : List Char := (trimmedChars name).take 63

@[irreducible] def sanitizeK8sResourceName (name : String) : String :=
  String.ofList (sanitizeChars name.toList)

theorem toLower_of_legal {c : Char} (h : isAlnum c = true ∨ c = '-' ∨ c = '.') : toLower c = c := by
  obtain h | rfl | rfl := h
  · rw [isAlnum_iff] at h
    have hupper : ¬ ('A' ≤ c ∧ c ≤ 'Z') := by
      rintro ⟨ha, hz⟩
      have ha' : 65 ≤ c.toNat := ha
      have hz' : c.toNat ≤ 90 := hz
      omega
    have hne (n : ℕ) (hn : 122 < (Char.ofNat n).toNat) : c ≠ Char.ofNat n := by
      rintro rfl
      omega
    simp [toLower, hupper, hne 0x212a (by decide), hne 0x130 (by decide)]
  · decide
  · decide

theorem map_toLower_of_legal {cs : List Char}
    (h : ∀ c ∈ cs, isAlnum c = true ∨ c = '-' ∨ c = '.') : cs.map toLower = cs :=
  (List.map_congr_left fun c hc => toLower_of_legal (h c hc)).trans (List.map_id cs)

theorem map_replaceIllegal_of_legal {cs : List Char} (h : ∀ c ∈ cs, isAlnum c = true ∨ c = '-') :
    cs.map replaceIllegal = cs := by
  refine (List.map_congr_left fun c hc => ?_).trans (List.map_id cs)
  obtain ha | rfl := h c hc
  · simp [replaceIllegal, ha]
  · decide

/-- A list that begins and ends with a letter or digit is not trimmed. -/
theorem trim_eq_self {cs : List Char} (hhead : ∀ c, cs.head? = some c → isAlnum c = true)
    (hlast : ∀ c, cs.getLast? = some c → isAlnum c = true) :
    (cs.dropWhile (!isAlnum ·)).rdropWhile (!isAlnum ·) = cs := by
  have hdrop : cs.dropWhile (!isAlnum ·) = cs := by
    cases cs with
    | nil => rfl
    | cons c cs => simp [hhead c rfl]
  rw [hdrop]
  refine List.rdropWhile_eq_self_iff.mpr fun hne => ?_
  simp [hlast _ (List.getLast?_eq_some_getLast hne)]

def dashed (c : Char) : Char := if c = '.' then '-' else c

theorem dashed_of_alnum {c : Char} (h : isAlnum c = true) : dashed c = c := by
  have hdot : c ≠ '.' := by
    rintro rfl
    exact absurd h (by decide)
  simp [dashed, hdot]

/-- A legal name only has its dots replaced. -/
theorem sanitizeChars_of_legal {cs : List Char} (h : scanSubdomain .start cs = true)
    (hlen : cs.length ≤ 63) : sanitizeChars cs = cs.map dashed := by
  have hlower : cs.map toLower = cs := map_toLower_of_legal (scanSubdomain_chars h)
  have hreplace : cs.map replaceIllegal = cs.map dashed := by
    refine List.map_congr_left fun c hc => ?_
    obtain ha | rfl | rfl := scanSubdomain_chars h c hc
    · simp [replaceIllegal, ha, dashed_of_alnum ha]
    · decide
    · decide
  unfold sanitizeChars trimmedChars
  rw [hlower, hreplace, trim_eq_self, List.take_of_length_le (by simpa using hlen)]
  · intro c hc
    obtain ⟨d, rest, rfl, hd⟩ := scanSubdomain_head h
    obtain rfl : dashed d = c := by simpa using hc
    rwa [dashed_of_alnum hd]
  · intro c hc
    rw [List.getLast?_map, Option.map_eq_some_iff] at hc
    obtain ⟨d, hd, rfl⟩ := hc
    have := scanSubdomain_last h hd
    rwa [dashed_of_alnum this]

/-- Sanitizing changes a legal name exactly when the name has a dot. -/
theorem sanitize_eq_self_iff {name : String} (h : isDNS1123Subdomain name = true)
    (hlen : name.toList.length ≤ 63) :
    sanitizeK8sResourceName name = name ↔ '.' ∉ name.toList := by
  have hscan := (Bool.and_eq_true_iff.mp h).2
  rw [sanitizeK8sResourceName, sanitizeChars_of_legal hscan hlen]
  constructor
  · intro heq hdot
    -- the image of a name under `dashed` has no dot
    rw [← heq, String.toList_ofList] at hdot
    obtain ⟨c, -, hc⟩ := List.mem_map.mp hdot
    unfold dashed at hc
    split at hc
    · cases hc
    · exact absurd hc ‹_›
  · intro hdot
    have hmap : name.toList.map dashed = name.toList := by
      refine (List.map_congr_left fun c hc => ?_).trans (List.map_id _)
      have hne : c ≠ '.' := fun heq => hdot (heq ▸ hc)
      simp [dashed, hne]
    rw [hmap, String.ofList_toList]

/-- The sanitized form of a legal name can be the value of a label. -/
theorem sanitize_isLabelValue {name : String} (h : isDNS1123Subdomain name = true)
    (hlen : name.toList.length ≤ 63) : isLabelValue (sanitizeK8sResourceName name) = true := by
  have hscan := (Bool.and_eq_true_iff.mp h).2
  have hany {c : Char} (hc : isAlnum c = true) : isAnyAlnum (dashed c) = true := by
    rw [dashed_of_alnum hc]
    simp [isAnyAlnum, hc]
  rw [sanitizeK8sResourceName, sanitizeChars_of_legal hscan hlen, isLabelValue_iff]
  simp only [String.toList_ofList, List.length_map, List.head?_map, List.getLast?_map]
  refine ⟨hlen, fun d hd => ?_, fun d hd => ?_, fun d hd => ?_⟩
  · obtain ⟨c, hc, rfl⟩ := List.mem_map.mp hd
    obtain ha | rfl | rfl := scanSubdomain_chars hscan c hc
    · exact .inl (hany ha)
    · decide
    · decide
  · obtain ⟨c, rest, hcs, hc⟩ := scanSubdomain_head hscan
    obtain rfl : dashed c = d := by simpa [hcs] using hd
    exact hany hc
  · obtain ⟨c, hc, rfl⟩ := Option.map_eq_some_iff.mp hd
    exact hany (scanSubdomain_last hscan hc)

section AnyName

variable {cs : List Char}

theorem replaceIllegal_legal (c : Char) : isAlnum (replaceIllegal c) = true ∨ replaceIllegal c = '-' := by
  unfold replaceIllegal
  split
  · next h => simpa using h
  · exact .inr rfl

theorem trimmedChars_legal : ∀ c ∈ trimmedChars cs, isAlnum c = true ∨ c = '-' := by
  intro c hc
  have hmem := (List.dropWhile_sublist _).subset ((List.rdropWhile_prefix _ _).subset hc)
  obtain ⟨d, -, rfl⟩ := List.mem_map.mp hmem
  exact replaceIllegal_legal d

theorem trimmedChars_length (cs : List Char) : (trimmedChars cs).length ≤ cs.length := by
  calc (trimmedChars cs).length
      ≤ _ := (List.rdropWhile_prefix _ _).length_le
    _ ≤ _ := (List.dropWhile_sublist _).length_le
    _ = cs.length := by simp

theorem trimmedChars_head {c : Char} (h : (trimmedChars cs).head? = some c) : isAlnum c = true := by
  obtain ⟨rest, hrest⟩ := List.head?_eq_some_iff.mp h
  obtain ⟨tail, htail⟩ : trimmedChars cs <+: _ := List.rdropWhile_prefix _ _
  rw [hrest, List.cons_append] at htail
  have := List.head?_dropWhile_not (!isAlnum ·) ((cs.map toLower).map replaceIllegal)
  rw [← htail] at this
  simpa using this

theorem trimmedChars_last {c : Char} (h : (trimmedChars cs).getLast? = some c) :
    isAlnum c = true := by
  have hne : trimmedChars cs ≠ [] := by
    intro hnil
    simp [hnil] at h
  have hlast : ¬ (!isAlnum ((trimmedChars cs).getLast hne)) = true := List.rdropWhile_last_not _ _ hne
  rw [List.getLast?_eq_some_getLast hne, Option.some_inj] at h
  simpa [h] using hlast

theorem sanitizeChars_legal : ∀ c ∈ sanitizeChars cs, isAlnum c = true ∨ c = '-' :=
  fun c hc => trimmedChars_legal c (List.mem_of_mem_take hc)

theorem sanitizeChars_head {c : Char} (h : (sanitizeChars cs).head? = some c) : isAlnum c = true := by
  obtain ⟨rest, hrest⟩ := List.head?_eq_some_iff.mp h
  obtain ⟨tail, htail⟩ := List.take_prefix 63 (trimmedChars cs)
  have hhead : (trimmedChars cs).head? = some c := by
    rw [← htail, ← sanitizeChars, hrest]
    rfl
  exact trimmedChars_head hhead

/-- A name that is cut behind a dash ends with it; no other does. -/
theorem sanitizeChars_last_iff :
    (∀ c, (sanitizeChars cs).getLast? = some c → isAlnum c = true) ↔
      (trimmedChars cs)[62]? ≠ some '-' := by
  rw [sanitizeChars]
  by_cases hlen : (trimmedChars cs).length ≤ 63
  · rw [List.take_of_length_le hlen]
    refine iff_of_true (fun c => trimmedChars_last) fun hdash => ?_
    exact absurd (trimmedChars_last (getLast?_of_getElem? hlen hdash)) (by decide)
  · have hlast : ((trimmedChars cs).take 63).getLast? = (trimmedChars cs)[62]? := by
      have hlt : 62 < (trimmedChars cs).length := by omega
      simp [List.getLast?_take, hlt]
    rw [hlast]
    constructor
    · intro h hdash
      exact absurd (h '-' hdash) (by decide)
    · intro h c hc
      refine (trimmedChars_legal c (List.mem_of_getElem? hc)).resolve_right fun hdash => ?_
      exact h (hdash ▸ hc)

/-- What is a label already stays as it is. -/
theorem sanitizeChars_of_label (hlegal : ∀ c ∈ cs, isAlnum c = true ∨ c = '-')
    (hhead : ∀ c, cs.head? = some c → isAlnum c = true)
    (hlast : ∀ c, cs.getLast? = some c → isAlnum c = true) (hlen : cs.length ≤ 63) :
    sanitizeChars cs = cs := by
  have hlower : cs.map toLower = cs :=
    map_toLower_of_legal fun c hc => (hlegal c hc).imp_right .inl
  have hreplace : cs.map replaceIllegal = cs := map_replaceIllegal_of_legal hlegal
  rw [sanitizeChars, trimmedChars, hlower, hreplace, trim_eq_self hhead hlast,
    List.take_of_length_le hlen]

theorem sanitizeChars_idempotent_iff :
    sanitizeChars (sanitizeChars cs) = sanitizeChars cs ↔
      ∀ c, (sanitizeChars cs).getLast? = some c → isAlnum c = true := by
  have hlen : (sanitizeChars cs).length ≤ 63 := List.length_take_le _ _
  constructor
  · -- nothing is cut the second time, so what comes out was trimmed
    intro h c hc
    have htrim := Nat.le_trans (trimmedChars_length (sanitizeChars cs)) hlen
    rw [sanitizeChars, List.take_of_length_le htrim] at h
    exact trimmedChars_last (h ▸ hc)
  · intro h
    exact sanitizeChars_of_label sanitizeChars_legal (fun c => sanitizeChars_head) h hlen

/-- A letter or a digit, once the case is ignored. -/
def isLetterOrDigit (c : Char) : Bool := isAlnum (toLower c)

/-- Counted from the first letter or digit of the name, the 63rd character is neither, and
a letter or digit follows it. -/
def CutBehindDash (name : List Char) : Prop :=
  ∃ c, (name.dropWhile (!isLetterOrDigit ·))[62]? = some c ∧ isLetterOrDigit c = false ∧
    ∃ later ∈ (name.dropWhile (!isLetterOrDigit ·)).drop 63, isLetterOrDigit later = true

theorem isAlnum_replaceIllegal (c : Char) : isAlnum (replaceIllegal c) = isAlnum c := by
  unfold replaceIllegal
  split
  · rfl
  · next h =>
    have hc : isAlnum c = false := by
      rw [Bool.eq_false_iff]
      exact fun hc => h (by simp [hc])
    rw [hc]
    decide

theorem replaceIllegal_eq_dash_iff (c : Char) : replaceIllegal c = '-' ↔ isAlnum c = false := by
  rw [← isAlnum_replaceIllegal]
  constructor
  · intro h
    rw [h]
    decide
  · intro h
    exact (replaceIllegal_legal c).resolve_left (by simp [h])

/-- The name from its first letter or digit on, with its characters replaced. -/
theorem dropWhile_replaced (cs : List Char) :
    ((cs.map toLower).map replaceIllegal).dropWhile (!isAlnum ·) =
      (cs.dropWhile (!isLetterOrDigit ·)).map fun c => replaceIllegal (toLower c) := by
  have hsame : ((fun c => !isAlnum c) ∘ fun c => replaceIllegal (toLower c)) =
      fun c => !isLetterOrDigit c := by
    funext c
    simp [isAlnum_replaceIllegal, isLetterOrDigit]
  rw [List.map_map, List.dropWhile_map]
  exact congrArg _ (congrArg (List.dropWhile · cs) hsame)

/-- Trimming on the right keeps a character that it would take off when one follows that
it would keep. -/
theorem rdropWhile_getElem?_iff {q : Char → Bool} {ys : List Char} {n : ℕ} {y : Char}
    (hy : q y = true) :
    (ys.rdropWhile q)[n]? = some y ↔ ys[n]? = some y ∧ ∃ later ∈ ys.drop (n + 1), q later = false := by
  have hsplit : ys = ys.rdropWhile q ++ ys.rtakeWhile q := by
    rw [List.rdropWhile, List.rtakeWhile, ← List.reverse_append, List.takeWhile_append_dropWhile,
      List.reverse_reverse]
  constructor
  · intro h
    obtain ⟨hn, hget⟩ := List.getElem?_eq_some_iff.mp h
    have hne : ys.rdropWhile q ≠ [] := List.ne_nil_of_length_pos (by omega)
    have hlast : q ((ys.rdropWhile q).getLast hne) = false := by
      simpa using List.rdropWhile_last_not q ys hne
    -- the last character is kept, so it is not this one
    have hlt : n + 1 < (ys.rdropWhile q).length := by
      by_contra hge
      have hend : n = (ys.rdropWhile q).length - 1 := by omega
      rw [List.getLast_eq_getElem] at hlast
      simp only [← hend, hget, hy] at hlast
      cases hlast
    refine ⟨?_, (ys.rdropWhile q).getLast hne, ?_, hlast⟩
    · rw [hsplit, List.getElem?_append_left hn, h]
    · have hmem : (ys.rdropWhile q).getLast hne ∈ (ys.rdropWhile q).drop (n + 1) := by
        rw [← List.getLast_drop (by simpa using hlt)]
        exact List.getLast_mem _
      have hmem' := List.mem_append_left (ys.rtakeWhile q) hmem
      rwa [← List.drop_append_of_le_length (by omega), ← hsplit] at hmem'
  · rintro ⟨h, later, hlater, hkeep⟩
    have hn : n < (ys.rdropWhile q).length := by
      by_contra hge
      rw [hsplit, List.drop_append, List.drop_eq_nil_of_le (by omega), List.nil_append] at hlater
      have hmem := List.mem_reverse.mp (List.mem_of_mem_drop hlater)
      rw [List.mem_takeWhile_imp hmem] at hkeep
      cases hkeep
    rw [hsplit, List.getElem?_append_left hn] at h
    exact h

/-- The name is cut behind a dash. -/
theorem trimmedChars_dash_iff : (trimmedChars cs)[62]? = some '-' ↔ CutBehindDash cs := by
  have hdash : (!isAlnum '-') = true := by decide
  rw [trimmedChars, dropWhile_replaced, rdropWhile_getElem?_iff hdash]
  simp only [List.getElem?_map, Option.map_eq_some_iff, replaceIllegal_eq_dash_iff, ← List.map_drop,
    List.mem_map, Bool.not_eq_false', CutBehindDash]
  constructor
  · rintro ⟨⟨c, hc, hnot⟩, _, ⟨later, hlater, rfl⟩, hkeep⟩
    exact ⟨c, hc, hnot, later, hlater, by rwa [isAlnum_replaceIllegal] at hkeep⟩
  · rintro ⟨c, hc, hnot, later, hlater, hkeep⟩
    exact ⟨⟨c, hc, hnot⟩, _, ⟨later, hlater, rfl⟩, by rwa [isAlnum_replaceIllegal]⟩

/-- Only what stands before a text of letters and digits is trimmed, up to its dash. -/
theorem trimmedChars_append_alnums {hash : List Char} (hhash : ∀ c ∈ hash, isAlnum c = true)
    (hne : hash ≠ []) :
    trimmedChars (cs ++ '-' :: hash) = hash ∨
      ∃ front, trimmedChars (cs ++ '-' :: hash) = front ++ '-' :: hash := by
  have hlower : hash.map toLower = hash := map_toLower_of_legal fun c hc => .inl (hhash c hc)
  have hreplace : hash.map replaceIllegal = hash :=
    map_replaceIllegal_of_legal fun c hc => .inl (hhash c hc)
  have hnormal : ((cs ++ '-' :: hash).map toLower).map replaceIllegal =
      (cs.map toLower).map replaceIllegal ++ '-' :: hash := by
    have hdash : replaceIllegal (toLower '-') = '-' := by decide
    simp only [List.map_append, List.map_cons, hlower, hreplace, hdash]
  have hdrop : ('-' :: hash).dropWhile (!isAlnum ·) = hash := by
    obtain ⟨c, rest, rfl⟩ := List.exists_cons_of_ne_nil hne
    have hdash : isAlnum '-' = false := by decide
    simp [hdash, hhash c List.mem_cons_self]
  have hkeep : ∀ front : List Char,
      (front ++ hash).rdropWhile (!isAlnum ·) = front ++ hash := by
    refine fun front => List.rdropWhile_eq_self_iff.mpr fun hne' => ?_
    rw [List.getLast_append_of_ne_nil _ hne]
    simp [hhash _ (List.getLast_mem hne)]
  rw [trimmedChars, hnormal, List.dropWhile_append]
  split
  · rw [hdrop]
    exact .inl (hkeep [])
  · refine .inr ⟨((cs.map toLower).map replaceIllegal).dropWhile (!isAlnum ·), ?_⟩
    rw [List.append_cons]
    exact hkeep _

/-- A text of letters and digits behind a dash survives whatever stands before it. -/
theorem sanitizeChars_append_alnums {hash : List Char} (hhash : ∀ c ∈ hash, isAlnum c = true)
    (hne : hash ≠ []) (hlen : cs.length + 1 + hash.length ≤ 63) :
    ∃ front, '-' :: sanitizeChars (cs ++ '-' :: hash) = front ++ '-' :: hash := by
  have hcut : sanitizeChars (cs ++ '-' :: hash) = trimmedChars (cs ++ '-' :: hash) := by
    refine List.take_of_length_le (Nat.le_trans (trimmedChars_length _) ?_)
    rw [List.length_append, List.length_cons]
    omega
  rw [hcut]
  obtain htrim | ⟨front, htrim⟩ := @trimmedChars_append_alnums cs _ hhash hne
  · exact ⟨[], by rw [htrim]; rfl⟩
  · exact ⟨'-' :: front, by rw [htrim]; rfl⟩

end AnyName

/-- The result is empty or a label exactly when the name is not cut behind a dash, and
then it is sanitized already. -/
theorem sanitizeK8sResourceName_label_iff (name : String) :
    (sanitizeK8sResourceName name = "" ∨ isDNS1123Label (sanitizeK8sResourceName name) = true ↔
        ¬ CutBehindDash name.toList) ∧
      (sanitizeK8sResourceName (sanitizeK8sResourceName name) = sanitizeK8sResourceName name ↔
        ¬ CutBehindDash name.toList) := by
  have hlen : (sanitizeChars name.toList).length ≤ 63 := List.length_take_le _ _
  rw [← trimmedChars_dash_iff, ← ne_eq, ← sanitizeChars_last_iff]
  simp only [sanitizeK8sResourceName, String.toList_ofList]
  constructor
  · by_cases hnil : sanitizeChars name.toList = []
    · simp [hnil]
    obtain ⟨c, rest, hcons⟩ := List.exists_cons_of_ne_nil hnil
    have hhead : (sanitizeChars name.toList).head?.any isAlnum = true := by
      rw [hcons]
      exact sanitizeChars_head (by rw [hcons]; rfl)
    have hall : (sanitizeChars name.toList).all (fun c => isAlnum c || c = '-') = true := by
      simpa using @sanitizeChars_legal name.toList
    have hne : String.ofList (sanitizeChars name.toList) ≠ "" := fun h =>
      hnil (by simpa using congrArg String.toList h)
    simp only [isDNS1123Label, String.toList_ofList, hlen, hall, hhead, hne, decide_true,
      Bool.true_and, false_or]
    rw [List.getLast?_eq_some_getLast hnil]
    simp
  · rw [← sanitizeChars_idempotent_iff]
    exact ⟨fun h => by simpa using congrArg String.toList h, fun h => by rw [h]⟩

theorem sanitized_label : isDNS1123Label (sanitizeK8sResourceName "_My_Resource@example.com") = true ∧
    sanitizeK8sResourceName (sanitizeK8sResourceName "_My_Resource@example.com") =
      sanitizeK8sResourceName "_My_Resource@example.com" := by
  have h := sanitizeK8sResourceName_label_iff "_My_Resource@example.com"
  have hcut : ¬ CutBehindDash "_My_Resource@example.com".toList := by
    rw [← trimmedChars_dash_iff]
    decide +kernel
  refine ⟨(h.1.mpr hcut).resolve_left ?_, h.2.mpr hcut⟩
  rw [sanitizeK8sResourceName]
  decide +kernel

/-- A name with a dash in the 63rd place. -/
def dashedName : String := "this-is-a-very-long-name-that-exceeds-sixty-three-characters-l-imit"

theorem sanitized_ends_with_dash : sanitizeK8sResourceName dashedName ≠ "" ∧
    isDNS1123Label (sanitizeK8sResourceName dashedName) = false ∧
    sanitizeK8sResourceName (sanitizeK8sResourceName dashedName) ≠
      sanitizeK8sResourceName dashedName := by
  simp only [sanitizeK8sResourceName]
  decide +kernel

end LandscapeOrchestrator.FluxDeployer
