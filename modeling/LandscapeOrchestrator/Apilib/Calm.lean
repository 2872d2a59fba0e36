import LandscapeOrchestrator.Apilib.Program

/-!
# Runs on which no call fails

When nothing fails and nobody interferes, a program is a function of the state. What it
has written it finds when it runs again, which is how a reconcile settles.

## Main definitions

- `Prog.calm` — the run on which no call fails
-/

namespace Apilib.Prog

variable {Op : Type} {Res : Op → Type} {S α β : Type} {exec : Exec Op Res S}

def calm (exec : Exec Op Res S) (p : Prog Op Res α) (s : S) : α × S := p.run exec (fun _ => none) s

@[simp] theorem calm_ret (a : α) (s : S) : (ret a : Prog Op Res α).calm exec s = (a, s) := rfl

@[simp] theorem calm_call (op : Op) (k : Except ApiError (Res op) → Prog Op Res α) (s : S) :
    (call op k).calm exec s = (k (exec op s).1).calm exec (exec op s).2 := rfl

theorem calm_perform_bind (op : Op) (f : Except ApiError (Res op) → Prog Op Res β) (s : S) :
    (perform op >>= f).calm exec s = (f (exec op s).1).calm exec (exec op s).2 := rfl

theorem calm_bind (p : Prog Op Res α) (f : α → Prog Op Res β) (s : S) :
    (p >>= f).calm exec s = (f (p.calm exec s).1).calm exec (p.calm exec s).2 := by
  induction p generalizing s with
  | ret a => rfl
  | call op k ih => exact ih _ _

/-- Calls that only look something up: where they find the same, the result is the same. -/
theorem Uses.calm_eq {P : Op → Prop} {p : Prog Op Res α} (h : p.Uses P) {s t : S}
    (hkept : ∀ op, P op → ∀ u, (exec op u).2 = u)
    (hanswer : ∀ op, P op → (exec op t).1 = (exec op s).1) :
    p.calm exec t = ((p.calm exec s).1, t) := by
  induction p with
  | ret a => rfl
  | call op k ih =>
    have hstep (u : S) : (call op k).calm exec u = (k (exec op u).1).calm exec u :=
      congrArg ((k (exec op u).1).calm exec) (hkept op h.1 u)
    rw [hstep t, hstep s, hanswer op h.1]
    exact ih _ (h.2 _)

end Apilib.Prog
