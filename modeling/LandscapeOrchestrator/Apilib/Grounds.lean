import LandscapeOrchestrator.Apilib.Interleaving

/-!
# What a program has learned when it makes a call

A program decides on its calls by the answers to the calls before. The state may have
changed since, so what it has learned is kept apart from the state: a value `v : V`
that each answer changes by `learn`.

## Main definitions

- `Prog.Grounded` — every call is made on grounds, a relation between what has been
  learned and the call
- `Prog.Learns` — what has been learned at the end
- `Workload.learning` — all interleavings, beside what every job has learned
-/

namespace Apilib

variable {Op : Type} {Res : Op → Type} {V α β : Type}

/-- How the answer to a call changes what has been learned. -/
abbrev Learn (Op : Type) (Res : Op → Type) (V : Type) :=
  (op : Op) → Except ApiError (Res op) → V → V

namespace Prog

def Grounded (learn : Learn Op Res V) (P : V → Op → Prop) : Prog Op Res α → V → Prop
  | ret _, _ => True
  | call op k, v => P v op ∧ ∀ r, (k r).Grounded learn P (learn op r v)

variable {learn : Learn Op Res V} {P : V → Op → Prop} {v : V}

theorem Grounded.bind {p : Prog Op Res α} {f : α → Prog Op Res β} (hp : p.Grounded learn P v)
    (hf : ∀ a w, (f a).Grounded learn P w) : (p >>= f).Grounded learn P v := by
  induction p generalizing v with
  | ret a => exact hf a v
  | call op k ih => exact ⟨hp.1, fun r => ih r (hp.2 r)⟩

theorem Grounded.perform_bind {op : Op} {f : Except ApiError (Res op) → Prog Op Res β}
    (hop : P v op) (hf : ∀ r, (f r).Grounded learn P (learn op r v)) :
    (perform op >>= f).Grounded learn P v := ⟨hop, hf⟩

theorem Grounded.of_uses {p : Prog Op Res α} {P' : Op → Prop} (h : p.Uses P')
    (hP : ∀ v op, P' op → P v op) : p.Grounded learn P v := by
  induction p generalizing v with
  | ret a => trivial
  | call op k ih => exact ⟨hP v op h.1, fun r => ih r (h.2 r)⟩

/-- `Q` holds of the result and of what has been learned with it. -/
def Learns (learn : Learn Op Res V) (Q : α → V → Prop) : Prog Op Res α → V → Prop
  | ret a, v => Q a v
  | call op k, v => ∀ r, (k r).Learns learn Q (learn op r v)

theorem Learns.perform_bind {Q : β → V → Prop} {op : Op}
    {f : Except ApiError (Res op) → Prog Op Res β}
    (hf : ∀ r, (f r).Learns learn Q (learn op r v)) : (perform op >>= f).Learns learn Q v := hf

/-- Calls that teach nothing. -/
theorem Learns.of_uses {p : Prog Op Res α} {P' : Op → Prop} (h : p.Uses P')
    (hP : ∀ op r v, P' op → learn op r v = v) : p.Learns learn (fun _ w => w = v) v := by
  induction p with
  | ret a => rfl
  | call op k ih =>
    intro r
    rw [hP op r v h.1]
    exact ih r (h.2 r)

/-- The rule for a program whose calls rest on what the one before it has learned. -/
theorem Grounded.bind_learns {Q : α → V → Prop} {p : Prog Op Res α} {f : α → Prog Op Res β}
    (hp : p.Grounded learn P v) (hq : p.Learns learn Q v)
    (hf : ∀ a w, Q a w → (f a).Grounded learn P w) : (p >>= f).Grounded learn P v := by
  induction p generalizing v with
  | ret a => exact hf a v hq
  | call op k ih => exact ⟨hp.1, fun r => ih r (hp.2 r) (hq r)⟩

/-- What the grounds say of a call alone. -/
theorem Grounded.uses {p : Prog Op Res α} {P' : Op → Prop} (h : p.Grounded learn P v)
    (hP : ∀ v op, P v op → P' op) : p.Uses P' := by
  induction p generalizing v with
  | ret a => trivial
  | call op k ih => exact ⟨hP v op h.1, fun r => ih r (h.2 r)⟩

end Prog

namespace Workload

variable {E J X S : Type} [DecidableEq J]

/-- A job starts with `start` and learns from every answer, also from a failed call. -/
def noteLearned (w : Workload E J X Op Res α S) (learn : Learn Op Res V) (start : V)
    (pool : Pool J Op Res α S) (move : Move E J X) (_ : Pool J Op Res α S) (learned : J → V) :
    J → V :=
  match move with
  | .start j _ => Function.update learned j start
  | .call j => match pool.running j with
    | some (.call op _) =>
      Function.update learned j (learn op (w.exec op pool.state).1 (learned j))
    | _ => learned
  | .fault j message => match pool.running j with
    | some (.call op _) => Function.update learned j (learn op (.error (.fault message)) (learned j))
    | _ => learned
  | .env _ => learned
  | .stop _ => learned

def learning (w : Workload E J X Op Res α S) (learn : Learn Op Res V) (start : V) :
    System (Pool J Op Res α S × (J → V)) (Move E J X) :=
  w.system.recording (w.noteLearned learn start) fun _ => start

variable {w : Workload E J X Op Res α S} {learn : Learn Op Res V} {start : V} {P : J → V → Op → Prop}

/-- `Q` holds of what is left of every running job and of what the job has learned. -/
def Learned (Q : J → Prog Op Res α → V → Prop) (x : Pool J Op Res α S × (J → V)) : Prop :=
  ∀ j p, x.1.running j = some p → Q j p (x.2 j)

/-- One move of one job. -/
theorem Learned.advance {Q : J → Prog Op Res α → V → Prop} {pool : Pool J Op Res α S}
    {learned : J → V} {j : J} {p : Prog Op Res α} {v : V} {s : S}
    (h : Learned Q (pool, learned)) (hp : Q j p v) :
    Learned Q (pool.advance j (some p) s, Function.update learned j v) := by
  intro j' q hq
  obtain ⟨rfl, hpq⟩ | ⟨hne, hq⟩ := Pool.running_advance hq
  · obtain rfl := Option.some.inj hpq
    simpa using hp
  · simpa [Function.update_of_ne hne] using h j' q hq

/-- In every interleaving, what is left of a program is grounded in what its job has
learned. -/
theorem learning_grounded (hprog : ∀ j x, (w.prog j x).Grounded learn (P j) start)
    {ok : Pool J Op Res α S × (J → V) → Move E J X → Prop} {x : Pool J Op Res α S × (J → V)}
    (hr : (w.learning learn start).Reaches ok x) :
    Learned (fun j p v => p.Grounded learn (P j) v) x := by
  refine hr.invariant (fun x hx j p hp => by simp [hx.1.2 j] at hp) ?_
  rintro ⟨pool, learned⟩ move y hx - hn
  obtain ⟨pool', hpool, rfl⟩ := System.recording_next.mp hn
  dsimp only at hpool
  cases next_step hpool with
  | env => exact hx
  | start j x => exact hx.advance (hprog j x)
  | call hrun =>
    simp only [noteLearned, hrun]
    exact hx.advance ((hx _ _ hrun).2 _)
  | fault message hrun =>
    simp only [noteLearned, hrun]
    exact hx.advance ((hx _ _ hrun).2 _)
  | stop j =>
    intro j' p hp
    obtain ⟨-, hq⟩ | ⟨-, hq⟩ := Pool.running_advance hp
    · cases hq
    · exact hx j' p hq

end Workload

end Apilib
