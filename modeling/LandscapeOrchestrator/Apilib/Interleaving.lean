import LandscapeOrchestrator.Apilib.Program
import LandscapeOrchestrator.Apilib.Runs
import Mathlib.Logic.Function.Basic

/-!
# Interleaved programs

Jobs of a type `J` run their programs side by side against one server, one call at
a time, while an environment makes its own moves. A job that runs is not started
again before it has ended; a call may fail; a job may be abandoned at any point.

## Main definitions

- `Pool` — the server state and what is left of every running program
- `Workload` — the server, the programs of the jobs, the environment
- `Workload.system` — all interleavings, as a labelled system
- `Workload.Step` — what each move does
- `Workload.Assertions` — an invariant of the state with an assertion on what is
  left of each program, each kept by every move of the others
-/

namespace Apilib

structure Pool (J Op : Type) (Res : Op → Type) (α S : Type) where
  state : S
  running : J → Option (Prog Op Res α)

/-- The moves of an interleaving. `stop` ends a job: it has returned, or the
process that ran it is gone. -/
inductive Move (E J X : Type) where
  | env (e : E)
  | start (j : J) (x : X)
  | call (j : J)
  | fault (j : J) (message : String)
  | stop (j : J)

/-- `X` are the choices made when a job starts. -/
structure Workload (E J X Op : Type) (Res : Op → Type) (α S : Type) where
  init : S → Prop
  exec : Exec Op Res S
  env : E → S → Option S
  prog : J → X → Prog Op Res α

variable {E J X Op : Type} {Res : Op → Type} {α S : Type} [DecidableEq J]

namespace Pool

/-- What is left of the program of `j` becomes `p`. -/
def advance (pool : Pool J Op Res α S) (j : J) (p : Option (Prog Op Res α)) (s : S) :
    Pool J Op Res α S :=
  ⟨s, Function.update pool.running j p⟩

theorem running_advance {pool : Pool J Op Res α S} {j j' : J} {p : Option (Prog Op Res α)} {s : S}
    {q : Prog Op Res α} (h : (pool.advance j p s).running j' = some q) :
    j' = j ∧ p = some q ∨ j' ≠ j ∧ pool.running j' = some q := by
  by_cases hj : j' = j
  · subst hj
    exact .inl ⟨rfl, by simpa [Pool.advance] using h⟩
  · exact .inr ⟨hj, by simpa [Pool.advance, Function.update_of_ne hj] using h⟩

/-- `inv` holds of the state, and `left j` of what is left of each running job `j`. -/
structure Asserts (inv : S → Prop) (left : J → Prog Op Res α → S → Prop)
    (pool : Pool J Op Res α S) : Prop where
  inv : inv pool.state
  left : ∀ j p, pool.running j = some p → left j p pool.state

end Pool

namespace Workload

/-- All interleavings. -/
def system (w : Workload E J X Op Res α S) : System (Pool J Op Res α S) (Move E J X) where
  init pool := w.init pool.state ∧ ∀ j, pool.running j = none
  next pool
    | .env e => (w.env e pool.state).map fun s => { pool with state := s }
    | .start j x => match pool.running j with
      | some _ => none
      | none => some (pool.advance j (some (w.prog j x)) pool.state)
    | .call j => match pool.running j with
      | some (.call op k) =>
        some (pool.advance j (some (k (w.exec op pool.state).1)) (w.exec op pool.state).2)
      | _ => none
    | .fault j message => match pool.running j with
      | some (.call _ k) => some (pool.advance j (some (k (.error (.fault message)))) pool.state)
      | _ => none
    | .stop j => some (pool.advance j none pool.state)

/-- What a move can do to the pool. -/
inductive Step (w : Workload E J X Op Res α S) (pool : Pool J Op Res α S) :
    Move E J X → Pool J Op Res α S → Prop
  | env {e : E} {t : S} (h : w.env e pool.state = some t) :
      Step w pool (.env e) { pool with state := t }
  | start (j : J) (x : X) : Step w pool (.start j x) (pool.advance j (some (w.prog j x)) pool.state)
  | call {j : J} {op : Op} {k : Except ApiError (Res op) → Prog Op Res α}
      (h : pool.running j = some (.call op k)) :
      Step w pool (.call j)
        (pool.advance j (some (k (w.exec op pool.state).1)) (w.exec op pool.state).2)
  | fault {j : J} {op : Op} {k : Except ApiError (Res op) → Prog Op Res α} (message : String)
      (h : pool.running j = some (.call op k)) :
      Step w pool (.fault j message)
        (pool.advance j (some (k (.error (.fault message)))) pool.state)
  | stop (j : J) : Step w pool (.stop j) (pool.advance j none pool.state)

theorem next_step {w : Workload E J X Op Res α S} {pool pool' : Pool J Op Res α S}
    {move : Move E J X} (hn : w.system.next pool move = some pool') : w.Step pool move pool' := by
  cases move with
  | env e =>
    obtain ⟨t, ht, rfl⟩ := Option.map_eq_some_iff.mp hn
    exact .env ht
  | start j x =>
    simp only [system] at hn
    split at hn
    · cases hn
    · exact Option.some.inj hn ▸ .start j x
  | call j =>
    simp only [system] at hn
    split at hn
    · next op k hrun => exact Option.some.inj hn ▸ .call hrun
    · cases hn
  | fault j message =>
    simp only [system] at hn
    split at hn
    · next op k hrun => exact Option.some.inj hn ▸ .fault message hrun
    · cases hn
  | stop j => exact Option.some.inj hn ▸ .stop j

/-- A job that does not run is run by no move but its start. -/
theorem running_next_eq_none {w : Workload E J X Op Res α S} {pool pool' : Pool J Op Res α S}
    {move : Move E J X} {j : J} (h : pool.running j = none) (hstart : ∀ x, move ≠ .start j x)
    (hn : w.system.next pool move = some pool') : pool'.running j = none := by
  have hother {j' : J} {p : Option (Prog Op Res α)} {s : S} (hj : j ≠ j') :
      (pool.advance j' p s).running j = none := (Function.update_of_ne hj _ _).trans h
  cases next_step hn with
  | env _ => exact h
  | start j' x =>
    refine hother ?_
    rintro rfl
    exact hstart x rfl
  | call hrun =>
    refine hother ?_
    rintro rfl
    simp [h] at hrun
  | fault message hrun =>
    refine hother ?_
    rintro rfl
    simp [h] at hrun
  | stop j' =>
    by_cases hj : j = j'
    · subst hj
      exact Function.update_self ..
    · exact hother hj

/-- An invariant `inv` of the state and assertions `left` on what is left of each
program, kept by the moves of the job itself, of the others, and of the environment. -/
structure Assertions (w : Workload E J X Op Res α S)
    (ok : Pool J Op Res α S → Move E J X → Prop) (inv : S → Prop)
    (left : J → Prog Op Res α → S → Prop) : Prop where
  init : ∀ s, w.init s → inv s
  env : ∀ pool e t, pool.Asserts inv left → w.env e pool.state = some t → ok pool (.env e) →
    inv t ∧ ∀ j p, pool.running j = some p → left j p t
  start : ∀ j x s, inv s → left j (w.prog j x) s
  call : ∀ pool j op k, pool.Asserts inv left → pool.running j = some (.call op k) →
    ok pool (.call j) →
    inv (w.exec op pool.state).2 ∧ left j (k (w.exec op pool.state).1) (w.exec op pool.state).2 ∧
      ∀ j' p, j' ≠ j → pool.running j' = some p → left j' p (w.exec op pool.state).2
  fault : ∀ j op k message s, inv s → left j (.call op k) s → left j (k (.error (.fault message))) s

/-- Assertions that are kept hold in every interleaving. -/
theorem Assertions.reaches {w : Workload E J X Op Res α S}
    {ok : Pool J Op Res α S → Move E J X → Prop} {inv : S → Prop}
    {left : J → Prog Op Res α → S → Prop} (h : w.Assertions ok inv left)
    {pool : Pool J Op Res α S} (hr : w.system.Reaches ok pool) :
    pool.Asserts inv left := by
  refine hr.invariant (fun pool hi => ⟨h.init _ hi.1, fun j p hp => by simp [hi.2 j] at hp⟩) ?_
  rintro pool move next ⟨hinv, hleft⟩ hok hn
  cases next_step hn with
  | env ht =>
    obtain ⟨hinv', hkeep⟩ := h.env pool _ _ ⟨hinv, hleft⟩ ht hok
    exact ⟨hinv', hkeep⟩
  | start j x =>
    refine ⟨hinv, fun j' p hp => ?_⟩
    obtain ⟨rfl, hq⟩ | ⟨-, hq⟩ := Pool.running_advance hp
    · exact Option.some.inj hq ▸ h.start _ x _ hinv
    · exact hleft j' p hq
  | call hrun =>
    obtain ⟨hinv', hown, hother⟩ := h.call pool _ _ _ ⟨hinv, hleft⟩ hrun hok
    refine ⟨hinv', fun j' p hp => ?_⟩
    obtain ⟨rfl, hq⟩ | ⟨hne, hq⟩ := Pool.running_advance hp
    · exact Option.some.inj hq ▸ hown
    · exact hother j' p hne hq
  | fault message hrun =>
    refine ⟨hinv, fun j' p hp => ?_⟩
    obtain ⟨rfl, hq⟩ | ⟨-, hq⟩ := Pool.running_advance hp
    · exact Option.some.inj hq ▸ h.fault _ _ _ message _ hinv (hleft _ _ hrun)
    · exact hleft j' p hq
  | stop j =>
    refine ⟨hinv, fun j' p hp => ?_⟩
    obtain ⟨-, hq⟩ | ⟨-, hq⟩ := Pool.running_advance hp
    · cases hq
    · exact hleft j' p hq

/-- The rule for results: when all answers satisfy `A`, a job ends in `Q`. -/
theorem reaches_ends {w : Workload E J X Op Res α S} {ok : Pool J Op Res α S → Move E J X → Prop}
    {A : J → (op : Op) → Except ApiError (Res op) → Prop} {Q : J → α → Prop}
    (hprog : ∀ j x, (w.prog j x).Ends (A j) (Q j))
    (hcall : ∀ pool j op k, w.system.Reaches ok pool → pool.running j = some (.call op k) →
      A j op (w.exec op pool.state).1)
    (hfault : ∀ pool j op message, ok pool (.fault j message) → A j op (.error (.fault message)))
    {pool : Pool J Op Res α S} (hr : w.system.Reaches ok pool) {j : J} {p : Prog Op Res α}
    (hrun : pool.running j = some p) : p.Ends (A j) (Q j) := by
  induction hr generalizing j p with
  | init h => simp [h.2 j] at hrun
  | step hs hok hn ih =>
    cases next_step hn with
    | env => exact ih hrun
    | start j' x =>
      obtain ⟨rfl, hq⟩ | ⟨-, hq⟩ := Pool.running_advance hrun
      · exact Option.some.inj hq ▸ hprog _ x
      · exact ih hq
    | call hcalls =>
      obtain ⟨rfl, hq⟩ | ⟨-, hq⟩ := Pool.running_advance hrun
      · exact Option.some.inj hq ▸ ih hcalls _ (hcall _ _ _ _ hs hcalls)
      · exact ih hq
    | fault message hcalls =>
      obtain ⟨rfl, hq⟩ | ⟨-, hq⟩ := Pool.running_advance hrun
      · exact Option.some.inj hq ▸ ih hcalls _ (hfault _ _ _ message hok)
      · exact ih hq
    | stop j' =>
      obtain ⟨-, hq⟩ | ⟨-, hq⟩ := Pool.running_advance hrun
      · cases hq
      · exact ih hq

end Workload

end Apilib
