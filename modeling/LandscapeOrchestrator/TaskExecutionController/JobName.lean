import LandscapeOrchestrator.TaskExecutionController.Reconcile

/-!
# Job names

A Job is named after its TaskExecution, cut to leave room for the suffix. The cut
trims dashes only, so a name whose cut falls right behind a dot gives a name in which
a label begins with a dash.

## Main results

- `boundedJobName_legal_iff` — the names for which the Job name is legal
-/

namespace LandscapeOrchestrator.TaskExecutionController
open Apilib

/-- The part of the name that is kept before a suffix of `n` characters. -/
def boundedBase (base : List Char) (n : ℕ) : List Char :=
  if base.length > maxJobNameLen - (n + 1) then
    (base.take (maxJobNameLen - (n + 1))).rdropWhile (· = '-')
  else base

theorem boundedJobName_toList (base suffix : String) :
    (boundedJobName base suffix).toList =
      boundedBase base.toList suffix.length ++ '-' :: suffix.toList := by
  have hfull : ("-" ++ suffix).length = suffix.length + 1 := by
    rw [String.length_append]
    exact Nat.add_comm 1 _
  simp only [boundedJobName, boundedBase, hfull, String.length_toList]
  split
  · simp [List.rdropWhile]
  · simp

variable {base suffix : List Char}

theorem boundedBase_front (base : List Char) (n : ℕ) : boundedBase base n <+: base := by
  unfold boundedBase
  split
  · exact (List.rdropWhile_prefix _ _).trans (List.take_prefix _ _)
  · exact List.prefix_rfl

theorem boundedBase_length (base : List Char) (n : ℕ) :
    (boundedBase base n).length ≤ maxJobNameLen - (n + 1) := by
  unfold boundedBase
  split
  · calc ((base.take (maxJobNameLen - (n + 1))).rdropWhile (· = '-')).length
        ≤ (base.take (maxJobNameLen - (n + 1))).length := (List.rdropWhile_prefix _ _).length_le
      _ ≤ maxJobNameLen - (n + 1) := List.length_take_le ..
  · omega

/-- A legal name is kept up to a letter or digit, unless it is cut behind a dot. -/
theorem boundedBase_scan (h : scanSubdomain .start base = true) :
    NamePos.start.scan (boundedBase base 8) = some .alnum ∧ base[53]? ≠ some '.' ∨
      NamePos.start.scan (boundedBase base 8) = some .start ∧ base[53]? = some '.' := by
  have hscan := scanSubdomain_eq_scan.mp h
  have hroom : maxJobNameLen - (8 + 1) = 54 := rfl
  rw [boundedBase, hroom]
  split
  · next hlong =>
    have hne : base.take 54 ≠ [] := by
      intro hnil
      have := congrArg List.length hnil
      rw [List.length_take, List.length_nil] at this
      omega
    have hlast : (base.take 54).getLast? = base[53]? := by
      have hlt : 53 < base.length := by omega
      simp [List.getLast?_take, hlt]
    rw [← List.take_append_drop 54 base, NamePos.scan_append] at hscan
    obtain ⟨pos, hpos, -⟩ := Option.bind_eq_some_iff.mp hscan
    have hdot := NamePos.scan_start_iff hpos hne
    rw [hlast] at hdot
    by_cases hstart : pos = .start
    · subst hstart
      -- the cut ends with a dot, which is not trimmed
      refine .inr ⟨?_, hdot.mp rfl⟩
      rwa [List.rdropWhile_eq_self_iff.mpr]
      intro hne'
      have := (List.getLast?_eq_some_getLast hne').symm.trans (hlast.trans (hdot.mp rfl))
      rw [Option.some.inj this]
      decide
    · exact .inl ⟨NamePos.scan_trimDashes hpos hstart, fun heq => hstart (hdot.mpr heq)⟩
  · next hshort =>
    refine .inl ⟨hscan, fun hdot => ?_⟩
    -- only the last character of the name can be the 54th
    exact absurd (scanSubdomain_last h (getLast?_of_getElem? (by omega) hdot)) (by decide)

/-- The kept part begins as the name does. -/
theorem boundedBase_head (h : scanSubdomain .start base = true) (n : ℕ) (hn : n ≤ 61) :
    ∃ c rest, boundedBase base n = c :: rest ∧ isAlnum c = true := by
  obtain ⟨c, rest, rfl, hc⟩ := scanSubdomain_head h
  have hne : boundedBase (c :: rest) n ≠ [] := by
    unfold boundedBase
    split
    · -- the first character is not a dash
      have hmem : c ∈ (c :: rest).take (maxJobNameLen - (n + 1)) := by
        rw [show maxJobNameLen - (n + 1) = 61 - n + 1 by simp only [maxJobNameLen]; omega]
        exact List.mem_cons_self
      intro hnil
      have hdash : c = '-' := by simpa using List.rdropWhile_eq_nil_iff.mp hnil c hmem
      exact absurd (hdash ▸ hc) (by decide)
    · exact List.cons_ne_nil _ _
  obtain ⟨d, ds, hd⟩ := List.exists_cons_of_ne_nil hne
  refine ⟨d, ds, hd, ?_⟩
  obtain ⟨tail, htail⟩ := boundedBase_front (c :: rest) n
  rw [hd, List.cons_append] at htail
  obtain rfl := (List.cons.inj htail).1
  exact hc

/-- With the suffix, a part is a legal name exactly when it ends with a letter or digit. -/
theorem scan_append_suffix {pos : NamePos} (h : NamePos.start.scan base = some pos)
    (hpos : pos = .alnum ∨ pos = .start) (hsuffix : ∀ c ∈ suffix, isAlnum c = true)
    (hne : suffix ≠ []) :
    scanSubdomain .start (base ++ '-' :: suffix) = true ↔ pos = .alnum := by
  rw [scanSubdomain_eq_scan, NamePos.scan_append, h, Option.bind_some, NamePos.scan]
  obtain rfl | rfl := hpos
  · have hdash : NamePos.alnum.next '-' = some .dash := by decide
    simp [hdash, NamePos.scan_alnums hsuffix hne]
  · have hdash : NamePos.start.next '-' = none := by decide
    simp [hdash]

theorem boundedJobName_isLabelValue {name suffix : String} (hname : isDNS1123Subdomain name = true)
    (hlen : (boundedJobName name suffix).length ≤ 63) (hsmall : suffix.length ≤ 61)
    (hsuffix : ∀ c ∈ suffix.toList, isAlnum c = true) (hne : suffix.toList ≠ []) :
    isLabelValue (boundedJobName name suffix) = true := by
  have hscan := (Bool.and_eq_true_iff.mp hname).2
  have hany : ∀ {c}, isAlnum c = true → isAnyAlnum c = true := fun hc => by simp [isAnyAlnum, hc]
  have htext := boundedJobName_toList name suffix
  refine isLabelValue_iff.mpr ⟨by rwa [String.length_toList], fun c hc => ?_, fun c hc => ?_,
    fun c hc => ?_⟩
  · rw [htext, List.mem_append, List.mem_cons] at hc
    obtain hc | rfl | hc := hc
    · obtain ha | rfl | rfl :=
        scanSubdomain_chars hscan c ((boundedBase_front _ _).subset hc)
      · exact .inl (hany ha)
      · decide
      · decide
    · decide
    · exact .inl (hany (hsuffix c hc))
  · obtain ⟨d, rest, hd, halnum⟩ := boundedBase_head hscan suffix.length hsmall
    rw [htext, hd] at hc
    obtain rfl : d = c := by simpa using hc
    exact hany halnum
  · rw [htext, List.getLast?_append_of_ne_nil _ (List.cons_ne_nil _ _),
      List.getLast?_cons_of_ne_nil hne] at hc
    exact hany (hsuffix c (List.mem_of_getLast? hc))

/-- The Job name is bounded, ends with the suffix, and is a legal label value. It is a
legal object name exactly when the name of the TaskExecution has no dot in its 54th
place. -/
theorem boundedJobName_legal_iff {name suffix : String} (hname : isDNS1123Subdomain name = true)
    (hlen : suffix.length = 8) (hsuffix : ∀ c ∈ suffix.toList, isAlnum c = true) :
    (boundedJobName name suffix).length ≤ 63 ∧
      (∃ base, boundedJobName name suffix = base ++ "-" ++ suffix) ∧
      isLabelValue (boundedJobName name suffix) = true ∧
      (isDNS1123Subdomain (boundedJobName name suffix) = true ↔ name.toList[53]? ≠ some '.') := by
  have htext := boundedJobName_toList name suffix
  rw [hlen] at htext
  have hbound : (boundedJobName name suffix).toList.length ≤ 63 := by
    have := boundedBase_length name.toList 8
    rw [htext, List.length_append, List.length_cons, String.length_toList, hlen]
    simp only [maxJobNameLen] at this
    omega
  have hne : suffix.toList ≠ [] := by
    intro hnil
    rw [← String.length_toList, hnil] at hlen
    cases hlen
  have hscan := (Bool.and_eq_true_iff.mp hname).2
  have hbound' : (boundedJobName name suffix).length ≤ 63 := by rwa [← String.length_toList]
  refine ⟨hbound', ⟨String.ofList (boundedBase name.toList 8), ?_⟩,
    boundedJobName_isLabelValue hname hbound' (by omega) hsuffix hne, ?_⟩
  · refine String.toList_injective ?_
    simp [htext]
  · have hlegal : isDNS1123Subdomain (boundedJobName name suffix) = true ↔
        scanSubdomain .start (boundedBase name.toList 8 ++ '-' :: suffix.toList) = true := by
      rw [isDNS1123Subdomain, Bool.and_eq_true, decide_eq_true_eq, htext, ← htext]
      exact and_iff_right (Nat.le_trans hbound (by decide))
    rw [hlegal]
    obtain ⟨hend, hdot⟩ | ⟨hend, hdot⟩ := boundedBase_scan hscan
    · simp [scan_append_suffix hend (.inl rfl) hsuffix hne, hdot]
    · simp [scan_append_suffix hend (.inr rfl) hsuffix hne, hdot]

/-- A name of 63 characters with dots, cut inside a label. -/
def longTaskName : String := "verify.candidates.db-ready.c4b2f59d-baad-4a19-aea2-49afe5ca0ff9"

theorem longTaskName_bounded :
    isDNS1123Subdomain (boundedJobName longTaskName "abcd1234") = true ∧
      (boundedJobName longTaskName "abcd1234").length ≤ 63 := by
  have h := @boundedJobName_legal_iff longTaskName "abcd1234" (by decide +kernel) (by decide)
    (List.all_eq_true.mp (by decide +kernel))
  exact ⟨h.2.2.2.mpr (by decide +kernel), h.1⟩

/-- The same with a dot in the 54th place: the API server rejects the Job. -/
theorem dottedTaskName_rejected :
    isDNS1123Subdomain "candidates-verify-db-ready-c4b2f59d-baad-4a19-aea2-49.release" = true ∧
      isDNS1123Subdomain (boundedJobName
        "candidates-verify-db-ready-c4b2f59d-baad-4a19-aea2-49.release" "abcd1234") = false := by
  decide +kernel

end LandscapeOrchestrator.TaskExecutionController
