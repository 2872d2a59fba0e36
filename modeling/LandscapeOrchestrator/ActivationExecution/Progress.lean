import LandscapeOrchestrator.ActivationExecution.Watches
import LandscapeOrchestrator.Apilib.Progress

/-!
# Progress of the cleanup of Stages

A Stage that is being deleted cannot get stuck: the cleanup alone can remove its route and
take the finalizer off, whatever the other jobs have done so far.

## Main results

- `cleanupReconcile_calm` — a cleanup on which no call fails does not ask for a retry
- `deleted_stage_progress` — from every state that is reached, the cleanup can finish
-/

namespace LandscapeOrchestrator.ActivationExecution
open Apilib

variable {adm : Admission} {s : Cluster} {key req : NamespacedName}

/-- A Stage of the name is being deleted. -/
def Going (key : NamespacedName) (s : Cluster) : Prop :=
  ∀ stage, s.stages key = some stage → stage.deleting = true

/-- No call brings a Stage back. -/
theorem exec_going (op : Op) (s : Cluster) (h : Going key s) : Going key (exec adm op s).2 := by
  intro stage' hs'
  have heffect := exec_effect adm op s
  generalize (exec adm op s).2 = t at heffect hs'
  cases heffect with
  | @removeStage key' stage hs =>
    by_cases hk : key = key'
    · simp [hk] at hs'
    · exact h stage' (by simpa [Function.update_of_ne hk] using hs')
  | @setFinalizers key' stage finalizers hs =>
    by_cases hk : key = key'
    · subst hk
      simp only [Cluster.setStage_stages, Function.update_self, Option.some.injEq] at hs'
      rw [← hs']
      exact h stage hs
    · exact h stage' (by simpa [Function.update_of_ne hk] using hs')
  | _ => exact h stage' hs'

section Calm

theorem releaseStage_calm {stage : Stage} (hs : s.stages req = some stage) :
    ((releaseStage req stage).calm (exec adm) s).1 = .ok {} := by
  have hsubset : stage.finalizers.filter (· ≠ stageRouteFinalizer) ⊆ stage.finalizers :=
    List.filter_subset_self _
  have hok : (exec adm (.patchStageFinalizers req
      (stage.finalizers.filter (· ≠ stageRouteFinalizer))) s).1 = .ok () := by
    simp only [exec, patchFinalizers, hs, hsubset, not_true, and_false, if_false]
    split <;> rfl
  unfold releaseStage patchStageFinalizers
  rw [Prog.calm_perform_bind, hok]
  rfl

theorem cleanupStage_calm {stage : Stage} (hs : s.stages req = some stage) :
    ((cleanupStage req stage).calm (exec adm) s).1 = .ok {} := by
  unfold cleanupStage deleteHTTPRoute
  rw [Prog.calm_perform_bind]
  simp only [exec]
  cases s.httpRoutes ⟨req.ns, stageRouteName req.name⟩ with
  | none => exact releaseStage_calm hs
  | some route => exact releaseStage_calm hs

theorem cleanupReconcile_calm (req : NamespacedName) (s : Cluster) :
    ((cleanupReconcile req).calm (exec adm) s).1 = .ok {} := by
  unfold cleanupReconcile getStage
  rw [Prog.calm_perform_bind]
  simp only [exec]
  cases hs : s.stages req with
  | none => rfl
  | some stage =>
    simp only [found]
    split
    · rfl
    · exact cleanupStage_calm hs

end Calm

/-- No activation is between its check of the Stage's finalizer and the Stage's route. -/
def NoneCommitted (key : NamespacedName) (pool : Controllers) : Prop :=
  ∀ req p, pool.running (.activation req) = some p → ¬ Committed key p

theorem NoneCommitted.advance {pool : Controllers} (h : NoneCommitted key pool)
    (q : Option (Program (Except ReconcileError CtrlResult))) (s : Cluster) :
    NoneCommitted key (pool.advance (.cleanup key) q s) := by
  intro req p hp
  have hother : Job.activation req ≠ .cleanup key := by simp
  exact h req p ((Function.update_of_ne hother q pool.running).symm.trans hp)

theorem NoneCommitted.own {st st' : ControllerStation} {m : StationMove UserMove Job (Runtime × Time)}
    (h : NoneCommitted key st.toPool) (hm : Watched.Own (.cleanup key) m)
    (hn : (watched adm).system.next st m = some st') : NoneCommitted key st'.toPool := by
  cases Watched.next_stationStep hn with
  | pool _ hnext =>
    cases Workload.next_step hnext with
    | env _ => cases hm
    | start j x => cases hm with | start => exact h.advance _ _
    | call hrun => cases hm with | call => exact h.advance _ _
    | fault message hrun => cases hm
    | stop j => cases hm with | stop => exact h.advance _ _
  | deliver _ => exact h
  | resync _ => exact h
  | restart => cases hm

/-- A cleanup that meets no such activation keeps apart from all of them. -/
theorem NoneCommitted.does_apart {st st' : ControllerStation} (h : NoneCommitted key st.toPool)
    (hdoes : (watched adm).Does (.cleanup key) st st') :
    ((watched adm).system.after st).Reaches (Watched.OnPool Apart) st' := by
  refine hdoes.strengthen (fun st => NoneCommitted key st.toPool) ?_ ?_ ?_
  · rintro st rfl
    exact h
  · intro st m st' hnone hm hn
    exact hnone.own hm hn
  · intro st m hnone hm
    cases hm with
    | call => exact fun _ _ _ req p hp => hnone req p hp
    | _ => trivial

/-- Whatever has happened, moves of the cleanup alone take the finalizer off a Stage that is
being deleted; and if activations and cleanups have kept apart and none is about to create
the Stage's route, the route is gone then, too. -/
theorem deleted_stage_progress (adm : Admission) (st : ControllerStation)
    (h : (watched adm).system.Reachable st) (key : NamespacedName)
    (hgoing : ∀ stage, st.state.stages key = some stage → stage.deleting = true) :
    ∃ st', (watched adm).Does (.cleanup key) st st' ∧
      (∀ stage, st'.state.stages key = some stage → stageRouteFinalizer ∉ stage.finalizers) ∧
      ((watched adm).system.Reaches (Watched.OnPool Apart) st →
        (∀ req p, st.running (.activation req) = some p → ¬ Committed key p) →
        st'.state.httpRoutes (routeKey key.ns key.name) = none) := by
  have hcalm (s : Cluster) :
      retried ((cleanupReconcile key).calm (exec adm) s).1 = false := by
    rw [cleanupReconcile_calm]
    rfl
  -- a cleanup reads neither the runtime nor the clock
  obtain ⟨st', hst', hgoing', hdone⟩ := (Watch.cleanup_drains adm _ key).progress
    (fun _ => Eq.refl _) (fun _ _ _ _ => trivial) exec_going (shopRuntime, 0)
    (fun s _ _ => hcalm s) h hgoing
  refine ⟨st', hst', fun stage hs hf => hdone ⟨stage, hs, hgoing' stage hs, hf⟩, ?_⟩
  intro hapart hnone
  have hreaches := hapart.after (fun _ _ _ hm => hm) (NoneCommitted.does_apart hnone hst')
  exact Watch.route_gone_of_not_due hreaches hdone hgoing'

/-- The deletion of the route has failed, and the process has died. -/
theorem deleted_stage_progress_prod : ∃ st st',
    (watched ⟨id⟩).system.Reaches (Watched.OnPool Apart) st ∧
      (st.state.httpRoutes (routeKey "landscape" "prod")).isSome = true ∧
      (watched ⟨id⟩).Does cleanUp st st' ∧
      st'.state.httpRoutes (routeKey "landscape" "prod") = none := by
  obtain ⟨st, hturns, hp⟩ := System.reaches_of_follow (watched ⟨id⟩).system
    (runReported activate 10 9 ++ [.pool (.env (.deleteStage ⟨"landscape", "prod"⟩)),
      .deliver cleanUp, .pool (.start cleanUp (shopRuntime, 11)), .pool (.call cleanUp),
      .pool (.fault cleanUp "timeout"), .restart])
    (fun st => (st.state.httpRoutes (routeKey "landscape" "prod")).isSome = true ∧
      (st.running activate).isNone = true ∧
      (st.state.stages ⟨"landscape", "prod"⟩).all (·.deleting) = true)
    (fun st m (h : stationTurns st m = true) => h) (s := freshStation)
    ⟨freshPool_init _, rfl, rfl⟩ (by decide +kernel)
  obtain ⟨hroute, hactivate, hall⟩ := of_decide_eq_true hp
  have hst := station_reaches_apart hturns
  have hgoing : ∀ stage, st.state.stages ⟨"landscape", "prod"⟩ = some stage →
      stage.deleting = true := by
    intro stage hs
    rw [hs] at hall
    exact hall
  -- the one activation of the run is over
  have hnone (req : NamespacedName) : st.running (.activation req) = none := by
    obtain ⟨only, rfl | rfl, hidle⟩ := station_oneJob hturns
    · by_cases hreq : Job.activation req = activate
      · rw [hreq]
        exact Option.isNone_iff_eq_none.mp hactivate
      · exact hidle _ hreq
    · exact hidle _ (by simp [cleanUp])
  obtain ⟨st', hst', -, hgone⟩ := deleted_stage_progress _ st (hst.mono fun _ _ _ => trivial)
    ⟨"landscape", "prod"⟩ hgoing
  refine ⟨st, st', hst, hroute, hst', hgone hst fun req p hp => ?_⟩
  rw [hnone req] at hp
  cases hp

end LandscapeOrchestrator.ActivationExecution
