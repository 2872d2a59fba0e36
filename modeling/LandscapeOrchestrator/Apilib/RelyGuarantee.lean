import LandscapeOrchestrator.Apilib.Interleaving

/-!
# Rely and guarantee

A program that runs beside others keeps a contract: between two of its calls the
others change the state only as `rely` allows, and each of its own calls satisfies
`guar` in the state in which it is made. A workload whose guarantees imply each
other's relies keeps its invariant. A contract may also take something as given when
a call is made; it then speaks about the runs in which this holds.

## Main definitions

- `Contract`, `Prog.Keeps` — a program keeps its contract, whatever the others do
- `Workload.RelyGuarantee` — the obligations for all jobs and the environment
- `Workload.RelyGuaranteeUnder` — the same, for an environment that is held to a condition
-/

namespace Apilib

variable {Op : Type} {Res : Op → Type} {S α β : Type}

structure Contract (Op S : Type) where
  rely : S → S → Prop
  given : Op → S → Prop
  guar : Op → S → Prop

namespace Prog

/-- Every call keeps the contract, and `Q` holds of the result and of the state right
after the last call. -/
def Keeps (exec : Exec Op Res S) (c : Contract Op S) (Q : α → S → Prop) : Prog Op Res α → S → Prop
  | ret a, s => Q a s
  | call op k, s => ∀ t, c.rely s t → c.guar op t ∧
      (c.given op t → (k (exec op t).1).Keeps exec c Q (exec op t).2) ∧
      ∀ msg, (k (.error (.fault msg))).Keeps exec c Q t

variable {exec : Exec Op Res S} {c : Contract Op S}

/-- The rule for one call. -/
theorem keeps_perform_bind {Q : β → S → Prop} {op : Op}
    {f : Except ApiError (Res op) → Prog Op Res β} {s : S} :
    (perform op >>= f).Keeps exec c Q s ↔ ∀ t, c.rely s t → c.guar op t ∧
      (c.given op t → (f (exec op t).1).Keeps exec c Q (exec op t).2) ∧
      ∀ msg, (f (.error (.fault msg))).Keeps exec c Q t := Iff.rfl

theorem Keeps.mono {Q Q' : α → S → Prop} {p : Prog Op Res α} {s : S} (h : p.Keeps exec c Q s)
    (hQ : ∀ a t, Q a t → Q' a t) : p.Keeps exec c Q' s := by
  induction p generalizing s with
  | ret a => exact hQ a s h
  | call op k ih =>
    intro t ht
    obtain ⟨hg, hok, hfault⟩ := h t ht
    exact ⟨hg, fun hgiven => ih _ (hok hgiven), fun msg => ih _ (hfault msg)⟩

/-- The rule for a call of a function whose specification is known. -/
theorem Keeps.bind {p : Prog Op Res α} {f : α → Prog Op Res β} {R : α → S → Prop}
    {Q : β → S → Prop} {s : S} (h : p.Keeps exec c R s)
    (hf : ∀ a t, R a t → (f a).Keeps exec c Q t) : (p >>= f).Keeps exec c Q s := by
  induction p generalizing s with
  | ret a => exact hf a s h
  | call op k ih =>
    intro t ht
    obtain ⟨hg, hok, hfault⟩ := h t ht
    exact ⟨hg, fun hgiven => ih _ (hok hgiven), fun msg => ih _ (hfault msg)⟩

/-- The rule for a program whose calls and result are known: what they and the others do
to the state is in a relation `R`. -/
theorem Within.keeps {P : Op → Prop} {Q : α → Prop} (R : S → S → Prop) (hrefl : ∀ s, R s s)
    (htrans : ∀ s t u, R s t → R t u → R s u) (hrely : ∀ s t, c.rely s t → R s t)
    (hcall : ∀ op s, P op → c.guar op s ∧ R s (exec op s).2) {p : Prog Op Res α}
    (h : p.Within P Q) (s : S) : p.Keeps exec c (fun a t => Q a ∧ R s t) s := by
  have hfrom {s t : S} (hst : R s t) {p : Prog Op Res α}
      (hp : p.Keeps exec c (fun a u => Q a ∧ R t u) t) :
      p.Keeps exec c (fun a u => Q a ∧ R s u) t :=
    hp.mono fun a u hau => ⟨hau.1, htrans s t u hst hau.2⟩
  induction p generalizing s with
  | ret a => exact ⟨h, hrefl s⟩
  | call op k ih =>
    intro t ht
    have hst := hrely s t ht
    obtain ⟨hguar, hop⟩ := hcall op t h.1
    exact ⟨hguar, fun _ => hfrom (htrans _ _ _ hst hop) (ih _ (h.2 _) _),
      fun msg => hfrom hst (ih _ (h.2 _) _)⟩

/-- What the others do does not break a contract. -/
theorem Keeps.stable (htrans : ∀ s t u, c.rely s t → c.rely t u → c.rely s u)
    {Q : α → S → Prop} (hQ : ∀ a s t, c.rely s t → Q a s → Q a t) {p : Prog Op Res α} {s t : S}
    (h : p.Keeps exec c Q s) (hst : c.rely s t) : p.Keeps exec c Q t := by
  cases p with
  | ret a => exact hQ a s t hst h
  | call op k => exact fun u htu => h u (htrans s t u hst htu)

end Prog

namespace Workload

variable {E J X : Type}

structure RelyGuarantee (w : Workload E J X Op Res α S) (inv : S → Prop)
    (c : J → Contract Op S) : Prop where
  refl : ∀ j s, inv s → (c j).rely s s
  trans : ∀ j s t u, (c j).rely s t → (c j).rely t u → (c j).rely s u
  init : ∀ s, w.init s → inv s
  env : ∀ e s t, inv s → w.env e s = some t → inv t ∧ ∀ j, (c j).rely s t
  call : ∀ j op s, inv s → (c j).guar op s → (c j).given op s →
    inv (w.exec op s).2 ∧ ∀ j', j' ≠ j → (c j').rely s (w.exec op s).2
  prog : ∀ j x s, inv s → (w.prog j x).Keeps w.exec (c j) (fun _ _ => True) s

/-- What the contracts take as given holds at this move. -/
def Given (c : J → Contract Op S) (pool : Pool J Op Res α S) : Move E J X → Prop
  | .call j => ∀ op k, pool.running j = some (.call op k) → (c j).given op pool.state
  | _ => True

theorem Given.of_forall {c : J → Contract Op S} (h : ∀ j op s, (c j).given op s)
    (pool : Pool J Op Res α S) (m : Move E J X) : Given c pool m := by
  cases m with
  | call j => exact fun op k _ => h j op _
  | _ => trivial

variable {w : Workload E J X Op Res α S} {inv : S → Prop} {c : J → Contract Op S}

/-- The environment may depend on what is running: it has to respect the running jobs
only, and only when its move meets the condition `ok`. -/
structure RelyGuaranteeUnder (w : Workload E J X Op Res α S)
    (ok : Pool J Op Res α S → Move E J X → Prop) (inv : S → Prop) (c : J → Contract Op S) :
    Prop where
  refl : ∀ j s, inv s → (c j).rely s s
  trans : ∀ j s t u, (c j).rely s t → (c j).rely t u → (c j).rely s u
  init : ∀ s, w.init s → inv s
  env : ∀ pool e t, inv pool.state → w.env e pool.state = some t → ok pool (.env e) →
    inv t ∧ ∀ j p, pool.running j = some p → (c j).rely pool.state t
  call : ∀ j op s, inv s → (c j).guar op s → (c j).given op s →
    inv (w.exec op s).2 ∧ ∀ j', j' ≠ j → (c j').rely s (w.exec op s).2
  prog : ∀ j x s, inv s → (w.prog j x).Keeps w.exec (c j) (fun _ _ => True) s

variable {ok : Pool J Op Res α S → Move E J X → Prop}

/-- The programs may also have postconditions, if what the others do keeps them. -/
theorem RelyGuaranteeUnder.assertions (h : w.RelyGuaranteeUnder ok inv c) {Q : J → α → S → Prop}
    (hQ : ∀ j a s t, (c j).rely s t → Q j a s → Q j a t)
    (hprog : ∀ j x s, inv s → (w.prog j x).Keeps w.exec (c j) (Q j) s) :
    w.Assertions (fun pool m => ok pool m ∧ Given c pool m) inv
      (fun j p s => p.Keeps w.exec (c j) (Q j) s) where
  init := h.init
  env pool e t hpool ht hok := by
    obtain ⟨hinv', hrely⟩ := h.env pool e t hpool.inv ht hok.1
    exact ⟨hinv', fun j p hrun =>
      (hpool.left j p hrun).stable (h.trans j) (hQ j) (hrely j p hrun)⟩
  start := hprog
  call pool j op k hpool hrun hok := by
    have hgiven := hok.2 op k hrun
    obtain ⟨hg, hnext, -⟩ := hpool.left j _ hrun _ (h.refl j _ hpool.inv)
    obtain ⟨hinv, hrely⟩ := h.call j op _ hpool.inv hg hgiven
    exact ⟨hinv, hnext hgiven, fun j' p hne hrun' =>
      (hpool.left j' p hrun').stable (h.trans j') (hQ j') (hrely j' hne)⟩
  fault j op k message s hinv hp := (hp s (h.refl j s hinv)).2.2 message

/-- The invariant holds in every interleaving that meets the conditions, and every call
that a job is about to make satisfies its guarantee. -/
theorem RelyGuaranteeUnder.reaches [DecidableEq J] (h : w.RelyGuaranteeUnder ok inv c)
    {pool : Pool J Op Res α S}
    (hr : w.system.Reaches (fun pool m => ok pool m ∧ Given c pool m) pool) :
    inv pool.state ∧
      ∀ j op k, pool.running j = some (.call op k) → (c j).guar op pool.state := by
  have hpool := (h.assertions (fun _ _ _ _ _ => id) h.prog).reaches hr
  exact ⟨hpool.inv, fun j op k hrun => (hpool.left j _ hrun _ (h.refl j _ hpool.inv)).1⟩

theorem RelyGuarantee.under (h : w.RelyGuarantee inv c) :
    w.RelyGuaranteeUnder (fun _ _ => True) inv c where
  refl := h.refl
  trans := h.trans
  init := h.init
  env pool e t hinv ht _ := by
    obtain ⟨hinv', hrely⟩ := h.env e pool.state t hinv ht
    exact ⟨hinv', fun j _ _ => hrely j⟩
  call := h.call
  prog := h.prog

/-- The invariant holds in every interleaving in which the given conditions hold, and
every call that a job is about to make satisfies its guarantee. -/
theorem RelyGuarantee.reaches [DecidableEq J] (h : w.RelyGuarantee inv c)
    {pool : Pool J Op Res α S} (hr : w.system.Reaches (Given c) pool) :
    inv pool.state ∧
      ∀ j op k, pool.running j = some (.call op k) → (c j).guar op pool.state :=
  h.under.reaches (hr.mono fun _ _ hgiven => ⟨trivial, hgiven⟩)

/-- A job that has returned satisfies its postcondition. -/
theorem RelyGuarantee.returns [DecidableEq J] (h : w.RelyGuarantee inv c) {Q : J → α → S → Prop}
    (hQ : ∀ j a s t, (c j).rely s t → Q j a s → Q j a t)
    (hprog : ∀ j x s, inv s → (w.prog j x).Keeps w.exec (c j) (Q j) s)
    {pool : Pool J Op Res α S} (hr : w.system.Reaches (Given c) pool) {j : J} {a : α}
    (hj : pool.running j = some (.ret a)) : Q j a pool.state := by
  have hpool := (h.under.assertions hQ hprog).reaches (hr.mono fun _ _ hgiven => ⟨trivial, hgiven⟩)
  exact hpool.left j _ hj

/-- With nothing taken as given, this is about all interleavings. -/
theorem RelyGuarantee.reachable [DecidableEq J] (h : w.RelyGuarantee inv c)
    (hc : ∀ j op s, (c j).given op s) {pool : Pool J Op Res α S}
    (hr : w.system.Reachable pool) :
    inv pool.state ∧
      ∀ j op k, pool.running j = some (.call op k) → (c j).guar op pool.state :=
  h.reaches (hr.mono fun pool m _ => Given.of_forall hc pool m)

end Workload

end Apilib
