import Mathlib.Data.List.Induction
import Mathlib.Data.List.Nodup

/-!
# Maps

A map is its list of entries, no key twice. What the program cannot observe, the
order of the entries, is abstracted by `RangeOrder` where a program ranges over it.
-/

namespace Golib

variable {K V : Type} [DecidableEq K]

/-- `m[k] = v` -/
def mapSet (m : List (K × V)) (k : K) (v : V) : List (K × V) :=
  match m with
  | [] => [(k, v)]
  | e :: m => if e.1 = k then (k, v) :: m else e :: mapSet m k v

theorem mapSet_of_new {m : List (K × V)} {k : K} (h : k ∉ m.map Prod.fst) (v : V) :
    mapSet m k v = m ++ [(k, v)] := by
  induction m with
  | nil => rfl
  | cons e m ih =>
    simp only [List.map_cons, List.mem_cons, not_or] at h
    simp [mapSet, Ne.symm h.1, ih h.2]

theorem lookup_entry (e : K × V) (m : List (K × V)) (k : K) :
    (e :: m).lookup k = if k = e.1 then some e.2 else m.lookup k := by
  obtain ⟨k', v⟩ := e
  rw [List.lookup_cons]
  by_cases hk : k = k'
  · simp [hk]
  · simp [hk, beq_false_of_ne hk]

theorem lookup_mapSet (m : List (K × V)) (k k' : K) (v : V) :
    (mapSet m k v).lookup k' = if k' = k then some v else m.lookup k' := by
  induction m with
  | nil => rw [mapSet, lookup_entry]
  | cons e m ih =>
    rw [mapSet]
    split
    · next he =>
      rw [lookup_entry, lookup_entry, he]
      by_cases hk : k' = k <;> simp [hk]
    · next he =>
      rw [lookup_entry, lookup_entry, ih]
      by_cases hk : k' = k
      · have hne : k' ≠ e.1 := fun h => he (h.symm.trans hk)
        simp [hk ▸ hne, hk]
      · simp [hk]

theorem mapSet_keys (m : List (K × V)) (k : K) (v : V) :
    (mapSet m k v).map Prod.fst =
      if k ∈ m.map Prod.fst then m.map Prod.fst else m.map Prod.fst ++ [k] := by
  induction m with
  | nil => simp [mapSet]
  | cons e m ih =>
    unfold mapSet
    split
    · next he => simp [he]
    · next he =>
      have hne : k ≠ e.1 := Ne.symm he
      simp only [List.map_cons, ih, List.mem_cons, hne, false_or]
      split <;> simp

/-- Entries that are set one after the other: of two with one key the later counts. -/
def mapOf (es : List (K × V)) : List (K × V) := es.foldl (fun m e => mapSet m e.1 e.2) []

theorem mapOf_concat (es : List (K × V)) (e : K × V) :
    mapOf (es ++ [e]) = mapSet (mapOf es) e.1 e.2 := by
  simp [mapOf]

theorem mapOf_keys_nodup (es : List (K × V)) : ((mapOf es).map Prod.fst).Nodup := by
  induction es using List.reverseRecOn with
  | nil => exact List.nodup_nil
  | append_singleton es e ih =>
    rw [mapOf_concat, mapSet_keys]
    split
    · exact ih
    · next hnew =>
      refine List.nodup_append.mpr ⟨ih, List.nodup_singleton _, ?_⟩
      intro a ha b hb hab
      rw [List.mem_singleton] at hb
      exact hnew (hb ▸ hab ▸ ha)

theorem lookup_mapOf (es : List (K × V)) (k : K) : (mapOf es).lookup k = es.reverse.lookup k := by
  induction es using List.reverseRecOn with
  | nil => rfl
  | append_singleton es e ih =>
    rw [mapOf_concat, lookup_mapSet, ih, List.reverse_append, List.reverse_singleton,
      List.singleton_append, lookup_entry]

theorem mem_mapOf_keys (es : List (K × V)) (k : K) :
    k ∈ (mapOf es).map Prod.fst ↔ k ∈ es.map Prod.fst := by
  induction es using List.reverseRecOn with
  | nil => rfl
  | append_singleton es e ih =>
    rw [mapOf_concat, mapSet_keys]
    split
    · next hold =>
      rw [ih, List.map_append, List.mem_append, List.map_singleton, List.mem_singleton]
      refine ⟨.inl, fun h => h.elim id fun hk => ?_⟩
      exact hk ▸ ih.mp (hk ▸ hold)
    · simp only [List.mem_append, List.map_append, List.map_singleton, ih]

theorem lookup_eq_none_of_new {m : List (K × V)} {k : K} (h : k ∉ m.map Prod.fst) :
    m.lookup k = none := by
  rw [List.lookup_eq_none_iff]
  intro e he
  exact bne_iff_ne.mpr fun hk => h (hk ▸ List.mem_map_of_mem he)

theorem exists_lookup_of_mem {m : List (K × V)} {k : K} (h : k ∈ m.map Prod.fst) :
    ∃ v, m.lookup k = some v := by
  refine Option.ne_none_iff_exists'.mp fun hnone => ?_
  obtain ⟨e, he, rfl⟩ := List.mem_map.mp h
  exact absurd rfl (bne_iff_ne.mp (List.lookup_eq_none_iff.mp hnone e he))

/-- An entry is found under its key, wherever it stands. -/
theorem lookup_of_mem {m : List (K × V)} (hm : (m.map Prod.fst).Nodup) {k : K} {v : V}
    (h : (k, v) ∈ m) : m.lookup k = some v := by
  induction m with
  | nil => cases h
  | cons e m ih =>
    obtain ⟨hnew, hm⟩ := List.nodup_cons.mp hm
    obtain rfl | h := List.mem_cons.mp h
    · simp
    · have hne : k ≠ e.1 := fun hk => hnew (hk ▸ List.mem_map_of_mem h)
      rw [List.lookup_cons, beq_false_of_ne hne]
      exact ih hm h

end Golib
