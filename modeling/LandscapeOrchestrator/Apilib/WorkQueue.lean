import LandscapeOrchestrator.Apilib.RelyGuarantee

/-!
# Work queues

A controller reconciles an object when something has happened to it. A change of the
state is reported for some keys; a report that is delivered puts its key into a queue;
a key leaves the queue when its job starts, and returns to it when the job asks to be
retried. When the process restarts, everything it held is lost and the objects are
listed again.

## Main definitions

- `Watched` — a workload with the reports about changes of its state
- `Station` — a pool, the reports on their way, and the queue
- `Watched.system` — all interleavings, as a labelled system
- `Watched.Drains` — the obligations under which a key that is neither reported, queued
  nor running has nothing left to do
- `Watched.idle_of_unreported`, `Watched.idle_throughout` — the rules for keys the controller
  never hears of
-/

namespace Apilib

/-- `reports s t k` says that the change from `s` to `t` is reported for `k`, `lists`
which keys a listing of the objects reports, and `retries` which results put the key
back. -/
structure Watched (E K X Op : Type) (Res : Op → Type) (α S : Type) extends
    Workload E K X Op Res α S where
  reports : S → S → K → Bool
  lists : S → K → Bool
  retries : α → Bool

structure Station (K Op : Type) (Res : Op → Type) (α S : Type) extends Pool K Op Res α S where
  reported : K → Bool
  queued : K → Bool

/-- `resync` reports a listed key without a change. -/
inductive StationMove (E K X : Type) where
  | pool (m : Move E K X)
  | deliver (k : K)
  | resync (k : K)
  | restart

variable {E K X Op : Type} {Res : Op → Type} {α S : Type} [DecidableEq K]

namespace Station

/-- A job starts when its key is queued, and is taken off when it has returned. -/
def admits (st : Station K Op Res α S) : Move E K X → Bool
  | .start k _ => st.queued k
  | .stop k => match st.running k with
    | some (.ret _) => true
    | _ => false
  | _ => true

/-- Nothing is on its way, queued or running for the key. -/
structure Idle (st : Station K Op Res α S) (k : K) : Prop where
  reported : st.reported k = false
  queued : st.queued k = false
  running : st.running k = none

end Station

namespace Watched

variable (w : Watched E K X Op Res α S)

def queuedAfter (st : Station K Op Res α S) (m : Move E K X) (k : K) : Bool :=
  match m with
  | .start j _ => st.queued k && k ≠ j
  | .stop j => st.queued k || match st.running j with
    | some (.ret a) => k = j && w.retries a
    | _ => false
  | _ => st.queued k

/-- At the start every listed object is reported. -/
def system : System (Station K Op Res α S) (StationMove E K X) where
  init st := w.toWorkload.system.init st.toPool ∧ st.reported = w.lists st.state ∧
    st.queued = fun _ => false
  next st
    | .pool m =>
      if st.admits m then
        (w.toWorkload.system.next st.toPool m).map fun pool =>
          { toPool := pool
            reported := fun k => st.reported k || w.reports st.state pool.state k
            queued := w.queuedAfter st m }
      else none
    | .deliver k =>
      if st.reported k then
        some { st with
          reported := Function.update st.reported k false
          queued := Function.update st.queued k true }
      else none
    | .resync k =>
      if w.lists st.state k then
        some { st with reported := Function.update st.reported k true }
      else none
    | .restart => some ⟨⟨st.state, fun _ => none⟩, w.lists st.state, fun _ => false⟩

/-- What a move can do to the station. -/
inductive StationStep (st : Station K Op Res α S) :
    StationMove E K X → Station K Op Res α S → Prop
  | pool {m : Move E K X} {pool : Pool K Op Res α S} (ha : st.admits m = true)
      (h : w.toWorkload.system.next st.toPool m = some pool) :
      StationStep st (.pool m)
        ⟨pool, fun k => st.reported k || w.reports st.state pool.state k, w.queuedAfter st m⟩
  | deliver {k : K} (h : st.reported k = true) :
      StationStep st (.deliver k)
        ⟨st.toPool, Function.update st.reported k false, Function.update st.queued k true⟩
  | resync {k : K} (h : w.lists st.state k = true) :
      StationStep st (.resync k)
        ⟨st.toPool, Function.update st.reported k true, st.queued⟩
  | restart :
      StationStep st .restart ⟨⟨st.state, fun _ => none⟩, w.lists st.state, fun _ => false⟩

variable {w}

theorem next_stationStep {st st' : Station K Op Res α S} {m : StationMove E K X}
    (hn : w.system.next st m = some st') : w.StationStep st m st' := by
  cases m with
  | pool m =>
    simp only [system] at hn
    split at hn
    · next ha =>
      obtain ⟨pool, hnext, rfl⟩ := Option.map_eq_some_iff.mp hn
      exact .pool ha hnext
    · cases hn
  | deliver k =>
    simp only [system] at hn
    split at hn
    · next h => exact Option.some.inj hn ▸ .deliver h
    · cases hn
  | resync k =>
    simp only [system] at hn
    split at hn
    · next h => exact Option.some.inj hn ▸ .resync h
    · cases hn
  | restart => exact Option.some.inj hn ▸ .restart

/-- A job of an idle key does not start. -/
theorem next_running {st : Station K Op Res α S} {k : K} {m : Move E K X} {pool : Pool K Op Res α S}
    (hidle : st.Idle k) (hadmits : st.admits m = true)
    (hn : w.toWorkload.system.next st.toPool m = some pool) :
    w.queuedAfter st m k = false ∧ pool.running k = none := by
  have hq := hidle.queued
  have hrunning := hidle.running
  have hother {j : K} (hne : k ≠ j) (p : Option (Prog Op Res α)) (s : S) :
      (st.toPool.advance j p s).running k = none :=
    (Function.update_of_ne hne _ _).trans hrunning
  cases Workload.next_step hn with
  | env _ => exact ⟨hq, hrunning⟩
  | start j x =>
    have hne : k ≠ j := by
      rintro rfl
      simp [Station.admits, hq] at hadmits
    exact ⟨by simp [queuedAfter, hq], hother hne _ _⟩
  | @call j op f hrun =>
    have hne : k ≠ j := by
      rintro rfl
      simp [hrunning] at hrun
    exact ⟨hq, hother hne _ _⟩
  | @fault j op f message hrun =>
    have hne : k ≠ j := by
      rintro rfl
      simp [hrunning] at hrun
    exact ⟨hq, hother hne _ _⟩
  | stop j =>
    have hne : k ≠ j := by
      rintro rfl
      simp [Station.admits, hrunning] at hadmits
    refine ⟨?_, hother hne _ _⟩
    cases hj : st.running j with
    | none => simp [queuedAfter, hq, hj]
    | some p => cases p <;> simp [queuedAfter, hq, hj, hne]

section Pools

variable {pool : Pool K Op Res α S}

/-- Only finitely many jobs run. -/
theorem running_finite {ok : Pool K Op Res α S → Move E K X → Prop}
    (h : w.toWorkload.system.Reaches ok pool) :
    ∃ ks : List K, ∀ k, k ∉ ks → pool.running k = none := by
  have hadvance {pool : Pool K Op Res α S} {ks : List K} (j : K) (p : Option (Prog Op Res α)) (s : S)
      (hks : ∀ k, k ∉ ks → pool.running k = none) :
      ∃ ks : List K, ∀ k, k ∉ ks → (pool.advance j p s).running k = none := by
    refine ⟨j :: ks, fun k hk => ?_⟩
    obtain ⟨hj, hk⟩ := not_or.mp (mt List.mem_cons.mpr hk)
    exact (Function.update_of_ne hj _ _).trans (hks k hk)
  induction h with
  | init hi => exact ⟨[], fun k _ => hi.2 k⟩
  | step hs _ hn ih =>
    obtain ⟨ks, hks⟩ := ih
    cases Workload.next_step hn with
    | env _ => exact ⟨ks, hks⟩
    | start j x => exact hadvance j _ _ hks
    | call _ => exact hadvance _ _ _ hks
    | fault _ _ => exact hadvance _ _ _ hks
    | stop j => exact hadvance j _ _ hks

/-- A process that dies stops all its jobs. -/
theorem reaches_halted {ok : Pool K Op Res α S → Move E K X → Prop}
    (hstop : ∀ pool j, ok pool (.stop j)) (h : w.toWorkload.system.Reaches ok pool) :
    w.toWorkload.system.Reaches ok ⟨pool.state, fun _ => none⟩ := by
  obtain ⟨ks, hks⟩ := running_finite h
  induction ks generalizing pool with
  | nil =>
    have hnone : pool.running = fun _ => none := funext fun k => hks k (List.not_mem_nil)
    rw [← hnone]
    exact h
  | cons j ks ih =>
    have hnext : w.toWorkload.system.Reaches ok (pool.advance j none pool.state) :=
      h.step (hstop pool j) rfl
    refine @ih (pool.advance j none pool.state) hnext fun k hk => ?_
    by_cases hj : k = j
    · rw [hj]
      exact Function.update_self ..
    · exact (Function.update_of_ne hj _ _).trans (hks k (by simp [hj, hk]))

end Pools

/-- A condition on the moves of the pool. -/
def OnPool (ok : Pool K Op Res α S → Move E K X → Prop) (st : Station K Op Res α S) :
    StationMove E K X → Prop
  | .pool m => ok st.toPool m
  | _ => True

/-- The jobs and the state are those of an interleaving. -/
theorem reaches_pool {ok : Pool K Op Res α S → Move E K X → Prop}
    (hstop : ∀ pool j, ok pool (.stop j)) {st : Station K Op Res α S}
    (h : w.system.Reaches (OnPool ok) st) : w.toWorkload.system.Reaches ok st.toPool := by
  induction h with
  | init hi => exact .init hi.1
  | step _ hok hn hpool =>
    cases next_stationStep hn with
    | pool _ hnext => exact hpool.step hok hnext
    | deliver _ => exact hpool
    | resync _ => exact hpool
    | restart => exact reaches_halted hstop hpool

theorem reachable_pool {ok : Station K Op Res α S → StationMove E K X → Prop}
    {st : Station K Op Res α S} (h : w.system.Reaches ok st) :
    w.toWorkload.system.Reachable st.toPool :=
  reaches_pool (fun _ _ => trivial) (h.mono fun st m _ => by cases m <;> trivial)

/-- The rule for what can be read off the programs: an invariant that the calls of a
class `P` keep, in an environment that keeps it. -/
theorem reachable_of_uses (inv : S → Prop) {P : K → Op → Prop} (hinit : ∀ s, w.init s → inv s)
    (henv : ∀ e s t, inv s → w.env e s = some t → inv t)
    (hcall : ∀ j op s, inv s → P j op → inv (w.exec op s).2)
    (hprog : ∀ j x, (w.prog j x).Uses (P j))
    {ok : Station K Op Res α S → StationMove E K X → Prop} {st : Station K Op Res α S}
    (h : w.system.Reaches ok st) :
    inv st.state ∧ ∀ k op f, st.running k = some (.call op f) → P k op := by
  have hassertions : w.toWorkload.Assertions (fun _ _ => True) inv fun j p _ => p.Uses (P j) :=
    { init := hinit
      env := fun pool e t hpool ht _ => ⟨henv e _ t hpool.inv ht, hpool.left⟩
      start := fun j x _ _ => hprog j x
      call := fun pool j op f hpool hrun _ =>
        have hp := hpool.left j _ hrun
        ⟨hcall j op _ hpool.inv hp.1, hp.2 _, fun j' p _ hrun' => hpool.left j' p hrun'⟩
      fault := fun _ _ _ _ _ _ hp => hp.2 _ }
  have hpool := hassertions.reaches (reachable_pool h)
  exact ⟨hpool.inv, fun k op f hrun => (hpool.left k _ hrun).1⟩

/-- A job of `k` leaves nothing due, or is retried, as long as nothing is reported for
`k` meanwhile: what the others do without a report is in `rely`. A listing reports `k` when
something is due. The steps of a run may be held to a condition `ok`. -/
structure Drains (w : Watched E K X Op Res α S)
    (ok : Station K Op Res α S → StationMove E K X → Prop) (inv : S → Prop)
    (guar : K → Op → S → Prop) (k : K) (rely : S → S → Prop) (due : S → Prop) : Prop where
  safe : ∀ st, w.system.Reaches ok st → inv st.state ∧
    ∀ j op f, st.running j = some (.call op f) → guar j op st.state
  trans : ∀ s t u, rely s t → rely t u → rely s u
  refl : ∀ s, inv s → rely s s
  env : ∀ st e t, inv st.state → ok st (.pool (.env e)) → w.env e st.state = some t →
    w.reports st.state t k = false → rely st.state t
  call : ∀ j op s, inv s → guar j op s → k ≠ j → w.reports s (w.exec op s).2 k = false →
    rely s (w.exec op s).2
  stays : ∀ s t, rely s t → due t → due s
  lists : ∀ s, inv s → due s → w.lists s k = true
  prog : ∀ x s, inv s → (w.prog k x).Keeps w.exec ⟨rely, fun _ _ => True, fun _ _ => True⟩
    (fun a t => w.retries a = true ∨ ¬ due t) s

namespace Drains

variable {ok : Station K Op Res α S → StationMove E K X → Prop} {inv : S → Prop}
  {guar : K → Op → S → Prop} {k : K} {rely : S → S → Prop} {due : S → Prop}

/-- What a job of the key keeps when nothing is reported for it. -/
abbrev Finishes (w : Watched E K X Op Res α S) (rely : S → S → Prop) (due : S → Prop)
    (p : Prog Op Res α) (s : S) : Prop :=
  p.Keeps w.exec ⟨rely, fun _ _ => True, fun _ _ => True⟩
    (fun a t => w.retries a = true ∨ ¬ due t) s

/-- The key will be looked after, or nothing is due. -/
inductive Attended (w : Watched E K X Op Res α S) (rely : S → S → Prop) (due : S → Prop)
    (st : Station K Op Res α S) (k : K) : Prop
  | reported (h : st.reported k = true)
  | queued (h : st.queued k = true)
  | running {p : Prog Op Res α} (h : st.running k = some p) (hp : Finishes w rely due p st.state)
  | idle (h : st.running k = none) (hd : ¬ due st.state)

/-- A change that is not reported for `k` and leaves the job and the queue of `k` alone. -/
theorem Attended.frame (h : w.Drains ok inv guar k rely due) {st st' : Station K Op Res α S}
    (ha : Attended w rely due st k) (hreported : st.reported k = true → st'.reported k = true)
    (hqueued : st.queued k = true → st'.queued k = true) (hrunning : st'.running k = st.running k)
    (hrely : st'.reported k = false → rely st.state st'.state) : Attended w rely due st' k := by
  by_cases hnew : st'.reported k = true
  · exact .reported hnew
  have hrely := hrely (by simpa using hnew)
  cases ha with
  | reported hr => exact .reported (hreported hr)
  | queued hq => exact .queued (hqueued hq)
  | running hrun hp =>
    refine .running (hrunning.trans hrun) (hp.stable h.trans ?_ hrely)
    rintro a s t hst (hretry | hdue)
    · exact .inl hretry
    · exact .inr fun hd => hdue (h.stays s t hst hd)
  | idle hrun hd => exact .idle (hrunning.trans hrun) fun hdue => hd (h.stays _ _ hrely hdue)

/-- A listing looks after the key when something is due. -/
theorem attended_listed (h : w.Drains ok inv guar k rely due) (st : Station K Op Res α S)
    (hinv : inv st.state) (hrep : st.reported = w.lists st.state) (hrun : st.running k = none) :
    Attended w rely due st k := by
  by_cases hd : due st.state
  · exact .reported (by rw [hrep]; exact h.lists _ hinv hd)
  · exact .idle hrun hd

/-- The job of `j` makes a move; what is left of it is `p`. -/
theorem attended_advance (h : w.Drains ok inv guar k rely due) {st st' : Station K Op Res α S}
    {j : K} {p : Option (Prog Op Res α)} {t : S} (hpool : st'.toPool = st.toPool.advance j p t)
    (hreported : st'.reported k = (st.reported k || w.reports st.state t k))
    (ha : Attended w rely due st k)
    (hqueued : k ≠ j → st.queued k = true → st'.queued k = true)
    (hother : k ≠ j → w.reports st.state t k = false → rely st.state t)
    (hown : k = j → st.reported k = false → w.reports st.state t k = false →
      Attended w rely due st' k) :
    Attended w rely due st' k := by
  by_cases hr : st'.reported k = true
  · exact .reported hr
  have hfalse : st.reported k = false ∧ w.reports st.state t k = false := by
    simpa [hreported] using hr
  by_cases hk : k = j
  · exact hown hk hfalse.1 hfalse.2
  · refine ha.frame h (fun hrep => ?_) (hqueued hk) ?_ fun _ => ?_
    · simp [hreported, hrep]
    · rw [hpool]
      exact Function.update_of_ne hk _ _
    · rw [hpool]
      exact hother hk hfalse.2

/-- Every move of the pool keeps the key attended. -/
theorem attended_next (h : w.Drains ok inv guar k rely due) {st : Station K Op Res α S}
    {m : Move E K X} (hreach : w.system.Reaches ok st) (hok : ok st (.pool m))
    (hadmits : st.admits m = true) (ha : Attended w rely due st k)
    {pool : Pool K Op Res α S} (hn : w.toWorkload.system.next st.toPool m = some pool) :
    Attended w rely due
      ⟨pool, fun k => st.reported k || w.reports st.state pool.state k, w.queuedAfter st m⟩ k := by
  obtain ⟨hinv, hguar⟩ := h.safe _ hreach
  cases Workload.next_step hn with
  | @env e t ht =>
    refine ha.frame h (fun hrep => by simp [hrep]) id rfl fun hrep => ?_
    exact h.env st e _ hinv hok ht (Bool.or_eq_false_iff.mp hrep).2
  | start j x =>
    refine attended_advance h rfl rfl ha (fun hk hq => ?_) (fun _ _ => h.refl _ hinv) fun hk _ _ => ?_
    · simp [queuedAfter, hq, hk]
    · subst hk
      exact .running (Function.update_self ..) (h.prog x _ hinv)
  | @call j op f hrun =>
    refine attended_advance h rfl rfl ha (fun _ hq => hq)
      (fun hk hrep => h.call j op _ hinv (hguar j op f hrun) hk hrep) fun hk hrep _ => ?_
    subst hk
    cases ha with
    | reported hr => simp [hrep] at hr
    | queued hq => exact .queued hq
    | running hrun' hp =>
      obtain rfl := Option.some.inj (hrun.symm.trans hrun')
      exact .running (Function.update_self ..) ((hp _ (h.refl _ hinv)).2.1 trivial)
    | idle hidle => simp [hrun] at hidle
  | @fault j op f message hrun =>
    refine attended_advance h rfl rfl ha (fun _ hq => hq) (fun _ _ => h.refl _ hinv)
      fun hk hrep _ => ?_
    subst hk
    cases ha with
    | reported hr => simp [hrep] at hr
    | queued hq => exact .queued hq
    | running hrun' hp =>
      obtain rfl := Option.some.inj (hrun.symm.trans hrun')
      exact .running (Function.update_self ..) ((hp _ (h.refl _ hinv)).2.2 message)
    | idle hidle => simp [hrun] at hidle
  | stop j =>
    have hkept (hq : st.queued k = true) : w.queuedAfter st (.stop j) k = true := by
      simp [queuedAfter, hq]
    refine attended_advance h rfl rfl ha (fun _ => hkept) (fun _ _ => h.refl _ hinv)
      fun hk hrep _ => ?_
    subst hk
    have hdone : (st.toPool.advance k none st.state).running k = none := Function.update_self ..
    cases ha with
    | reported hr => simp [hrep] at hr
    | queued hq => exact .queued (hkept hq)
    | @running p hrun hp =>
      cases p with
      | call op f => simp [Station.admits, hrun] at hadmits
      | ret a =>
        obtain hretry | hdue := hp
        · exact .queued (by simp [queuedAfter, hrun, hretry])
        · exact .idle hdone hdue
    | idle hidle hd => exact .idle hdone hd

theorem attended (h : w.Drains ok inv guar k rely due) {st : Station K Op Res α S}
    (hr : w.system.Reaches ok st) : Attended w rely due st k := by
  induction hr with
  | init hi => exact attended_listed h _ (h.safe _ (.init hi)).1 hi.2.1 (hi.1.2 k)
  | @step st st' _ hs hok hn ih =>
    have hinv := (h.safe _ hs).1
    cases next_stationStep hn with
    | pool hadmits hnext => exact attended_next h hs hok hadmits ih hnext
    | @deliver j _ =>
      by_cases hk : k = j
      · subst hk
        exact .queued (Function.update_self ..)
      · refine ih.frame h (fun hrep => ?_) (fun hq => ?_) rfl fun _ => h.refl _ hinv
        · simpa [Function.update_of_ne hk] using hrep
        · simpa [Function.update_of_ne hk] using hq
    | @resync j _ =>
      by_cases hk : k = j
      · subst hk
        exact .reported (Function.update_self ..)
      · refine ih.frame h (fun hrep => ?_) id rfl fun _ => h.refl _ hinv
        simpa [Function.update_of_ne hk] using hrep
    | restart =>
      exact attended_listed h ⟨⟨st.state, fun _ => none⟩, w.lists st.state, fun _ => false⟩ hinv rfl rfl

/-- An idle key has nothing due. -/
theorem idle (h : w.Drains ok inv guar k rely due) {st : Station K Op Res α S}
    (hr : w.system.Reaches ok st) (hidle : st.Idle k) : inv st.state ∧ ¬ due st.state := by
  refine ⟨(h.safe _ hr).1, ?_⟩
  cases h.attended hr with
  | reported hrep => simp [hidle.reported] at hrep
  | queued hq => simp [hidle.queued] at hq
  | running hrun hp => simp [hidle.running] at hrun
  | idle hrun hd => exact hd

end Drains

/-- An idle key stays idle when a listing would not report it and the move is not
reported for it. -/
theorem idle_next {k : K} {st st' : Station K Op Res α S} {m : StationMove E K X}
    (hidle : st.Idle k) (hn : w.system.next st m = some st') (hlists : w.lists st.state k = false)
    (hreports : ∀ m' pool, w.toWorkload.system.next st.toPool m' = some pool → m = .pool m' →
      w.reports st.state pool.state k = false) : st'.Idle k := by
  cases next_stationStep hn with
  | @pool m pool hadmits hnext =>
    obtain ⟨hqueued, hrunning⟩ := next_running hidle hadmits hnext
    exact ⟨by simp [hidle.reported, hreports m pool hnext rfl], hqueued, hrunning⟩
  | @deliver j hj =>
    have hne : k ≠ j := by
      rintro rfl
      simp [hidle.reported] at hj
    refine ⟨?_, ?_, hidle.running⟩
    · simpa [Function.update_of_ne hne] using hidle.reported
    · simpa [Function.update_of_ne hne] using hidle.queued
  | @resync j hj =>
    have hne : k ≠ j := by
      rintro rfl
      simp [hlists] at hj
    refine ⟨?_, hidle.queued, hidle.running⟩
    simpa [Function.update_of_ne hne] using hidle.reported
  | restart => exact ⟨hlists, rfl, rfl⟩

/-- Nothing runs for a key about which nothing is ever reported. `P` is what the state
keeps as long as that is so. -/
theorem idle_of_unreported {ok : Station K Op Res α S → StationMove E K X → Prop} {k : K}
    (P : S → Prop) (hinit : ∀ s, w.init s → P s) (hlists : ∀ s, P s → w.lists s k = false)
    (hnext : ∀ st m pool, w.system.Reaches ok st → st.Idle k → P st.state → ok st (.pool m) →
      w.toWorkload.system.next st.toPool m = some pool →
      P pool.state ∧ w.reports st.state pool.state k = false)
    {st : Station K Op Res α S} (h : w.system.Reaches ok st) : st.Idle k ∧ P st.state := by
  induction h with
  | @init st hi =>
    have hp := hinit _ hi.1.1
    exact ⟨⟨by rw [hi.2.1, hlists _ hp], by rw [hi.2.2], hi.1.2 k⟩, hp⟩
  | @step st st' _ hs hok hn ih =>
    obtain ⟨hidle, hp⟩ := ih
    refine ⟨idle_next hidle hn (hlists _ hp) fun m' pool hpool hm => ?_, ?_⟩
    · exact (hnext st m' pool hs hidle hp (hm ▸ hok) hpool).2
    · cases next_stationStep hn with
      | @pool m pool _ hpool => exact (hnext st m pool hs hidle hp hok hpool).1
      | deliver _ => exact hp
      | resync _ => exact hp
      | restart => exact hp

/-- The same when `P` is known of every state of the run. -/
theorem idle_throughout {k : K} (P : S → Prop) (hlists : ∀ s, P s → w.lists s k = false)
    (hreports : ∀ s t, P s → P t → w.reports s t k = false) {st : Station K Op Res α S}
    (h : w.system.Reaches (fun st _ => P st.state) st) (hp : P st.state) : st.Idle k := by
  induction h with
  | @init st hi => exact ⟨by rw [hi.2.1, hlists _ hp], by rw [hi.2.2], hi.1.2 k⟩
  | @step st st' _ hs hok hn ih =>
    refine idle_next (ih hok) hn (hlists _ hok) fun m' pool hpool hm => ?_
    subst hm
    cases next_stationStep hn with
    | pool _ hpool' =>
      obtain rfl := Option.some.inj (hpool.symm.trans hpool')
      exact hreports _ _ hok hp

end Watched

end Apilib
