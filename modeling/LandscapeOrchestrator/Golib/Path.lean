import Mathlib.Data.List.Basic
import Mathlib.Data.List.TakeWhile

/-!
# Slash-separated paths

The functions of the `path` package that the mappers use, over characters.
-/

namespace Golib

/-- One element of a path is pushed on those before it, or takes the last of them back. -/
def cleanElement (rooted : Bool) (out : List (List Char)) (element : List Char) :
    List (List Char) :=
  if element = [] ∨ element = ['.'] then out
  else if element = ['.', '.'] then
    match out with
    | [] => if rooted then [] else [element]
    | last :: rest => if last = ['.', '.'] then element :: out else rest
  else element :: out

/-- `path.Clean` -/
def pathClean (path : List Char) : List Char :=
  let rooted := path.head? = some '/'
  let out := (path.splitOn '/').foldl (cleanElement rooted) []
  let joined := ['/'].intercalate out.reverse
  if rooted then '/' :: joined else if joined = [] then ['.'] else joined

/-- `path.Dir`: everything up to the last slash, cleaned. -/
def pathDir (path : List Char) : List Char :=
  pathClean (path.reverse.dropWhile (· ≠ '/')).reverse

/-- `path.Base`: what follows the last slash that is not a trailing one. -/
def pathBase (path : List Char) : List Char :=
  let trimmed := path.reverse.dropWhile (· = '/')
  if path = [] then ['.']
  else if trimmed = [] then ['/']
  else (trimmed.takeWhile (· ≠ '/')).reverse

example : pathDir "kden-test/charts/podinfo".toList = "kden-test/charts".toList ∧
    pathBase "kden-test/charts/podinfo".toList = "podinfo".toList ∧
    pathDir "podinfo".toList = ".".toList := by decide

/-- An element that cleaning keeps where it stands. -/
def IsElement (e : List Char) : Prop := e ≠ [] ∧ e ≠ ['.'] ∧ e ≠ ['.', '.'] ∧ '/' ∉ e

section

variable {es : List (List Char)} {b p : List Char}

theorem intercalate_concat (hne : es ≠ []) :
    ['/'].intercalate (es ++ [b]) = ['/'].intercalate es ++ '/' :: b := by
  induction es with
  | nil => exact absurd rfl hne
  | cons e es ih =>
    cases es with
    | nil => simp
    | cons e' es =>
      rw [List.cons_append, List.cons_append, List.intercalate_cons_cons, ← List.cons_append,
        ih (List.cons_ne_nil _ _), List.intercalate_cons_cons, List.append_assoc _ _ ('/' :: b)]

theorem foldl_cleanElement (rooted : Bool) (out : List (List Char)) (h : ∀ e ∈ es, IsElement e) :
    es.foldl (cleanElement rooted) out = es.reverse ++ out := by
  induction es generalizing out with
  | nil => rfl
  | cons e es ih =>
    obtain ⟨hnil, hdot, hdots, -⟩ := h e List.mem_cons_self
    have hstep : cleanElement rooted out e = e :: out := by simp [cleanElement, hnil, hdot, hdots]
    rw [List.foldl_cons, hstep, ih _ fun e he => h e (List.mem_cons_of_mem _ he)]
    simp

theorem intercalate_head (c : Char) (cs : List Char) (es : List (List Char)) :
    ∃ rest, ['/'].intercalate ((c :: cs) :: es) = c :: rest := by
  cases es with
  | nil => exact ⟨cs, by simp⟩
  | cons e es => exact ⟨_, by rw [List.intercalate_cons_cons]; rfl⟩

/-- A path of elements is not rooted. -/
theorem head?_intercalate (hne : es ≠ []) (h : ∀ e ∈ es, IsElement e) :
    ∃ c rest, ['/'].intercalate es = c :: rest ∧ c ≠ '/' := by
  obtain ⟨e, es, rfl⟩ := List.exists_cons_of_ne_nil hne
  obtain ⟨hnil, -, -, hslash⟩ := h e List.mem_cons_self
  obtain ⟨c, cs, rfl⟩ := List.exists_cons_of_ne_nil hnil
  obtain ⟨rest, hrest⟩ := intercalate_head c cs es
  exact ⟨c, rest, hrest, fun hc => hslash (hc ▸ List.mem_cons_self)⟩

/-- Cleaning takes a trailing slash away and leaves the elements. -/
theorem pathClean_elements (hne : es ≠ []) (h : ∀ e ∈ es, IsElement e) :
    pathClean (['/'].intercalate es ++ ['/']) = ['/'].intercalate es := by
  obtain ⟨c, rest, hjoin, hc⟩ := head?_intercalate hne h
  have hsplit : (['/'].intercalate es ++ ['/']).splitOn '/' = es ++ [[]] := by
    rw [← intercalate_concat hne]
    refine List.splitOn_intercalate '/' (fun e he => ?_) (by simp)
    obtain he | he := List.mem_append.mp he
    · exact (h e he).2.2.2
    · simp [List.mem_singleton.mp he]
  have hrooted : ¬ (['/'].intercalate es ++ ['/']).head? = some '/' := by simp [hjoin, hc]
  have hempty : ['/'].intercalate es ≠ [] := by simp [hjoin]
  simp only [pathClean, hsplit, hrooted, List.foldl_append, foldl_cleanElement _ _ h]
  simp [cleanElement, hempty]

theorem reverse_ne_slash (hb : '/' ∉ b) : ∀ c ∈ b.reverse, decide (c ≠ '/') = true :=
  fun _ hc => decide_eq_true fun h => hb (h ▸ List.mem_reverse.mp hc)

theorem pathDir_concat (hb : '/' ∉ b) : pathDir (p ++ '/' :: b) = pathClean (p ++ ['/']) := by
  have hdrop : (p ++ '/' :: b).reverse.dropWhile (· ≠ '/') = '/' :: p.reverse := by
    rw [List.reverse_append, List.reverse_cons, List.append_assoc,
      List.dropWhile_append_of_pos (reverse_ne_slash hb)]
    simp
  rw [pathDir, hdrop]
  simp

theorem pathBase_concat (hb : '/' ∉ b) (hne : b ≠ []) : pathBase (p ++ '/' :: b) = b := by
  obtain ⟨init, c, rfl⟩ := (List.eq_nil_or_concat' b).resolve_left hne
  have hc : c ≠ '/' := fun h => hb (by simp [h])
  have htake : (p ++ '/' :: (init ++ [c])).reverse.takeWhile (· ≠ '/') = c :: init.reverse := by
    rw [List.reverse_append, List.reverse_cons, List.append_assoc,
      List.takeWhile_append_of_pos (reverse_ne_slash hb)]
    simp
  have htrim : (p ++ '/' :: (init ++ [c])).reverse.dropWhile (· = '/') =
      (p ++ '/' :: (init ++ [c])).reverse := by simp [hc]
  simp only [pathBase, htrim, htake]
  simp

/-- A path of two elements or more is cut into all but the last and the last. -/
theorem pathDir_slash_pathBase (hne : es ≠ []) (h : ∀ e ∈ es, IsElement e) (hb : IsElement b) :
    pathDir (['/'].intercalate (es ++ [b])) ++ '/' :: pathBase (['/'].intercalate (es ++ [b])) =
      ['/'].intercalate (es ++ [b]) := by
  rw [intercalate_concat hne, pathDir_concat hb.2.2.2, pathBase_concat hb.2.2.2 hb.1,
    pathClean_elements hne h]

/-- A path of one element has the directory `.`. -/
theorem pathDir_single (h : '/' ∉ p) : pathDir p = ['.'] := by
  have hdrop : p.reverse.dropWhile (· ≠ '/') = [] :=
    List.dropWhile_eq_nil_iff.mpr (reverse_ne_slash h)
  rw [pathDir, hdrop]
  rfl

end

end Golib
