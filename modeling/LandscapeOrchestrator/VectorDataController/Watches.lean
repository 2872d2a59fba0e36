import LandscapeOrchestrator.Apilib.Events
import LandscapeOrchestrator.VectorDataController.Lifecycle

/-!
# What the VectorData controller hears of

A VectorData is reconciled when its spec changes and at every event while it is being
deleted. ConfigMaps are not watched. Other finalizers come and go without a report.

## Main definitions

- `vectorDataPredicate` — what `SetupWithManager` asks for
- `watched` — the controller with its queue
- `Watch.Due` — what is left to do for a VectorData
-/

namespace LandscapeOrchestrator.VectorDataController
open Apilib Golib

/-- Deletion timestamps are compared by their address, so two that are set differ. -/
def vectorDataPredicate : Predicate VectorData :=
  (Predicate.generationChanged (·.generation)).or
    (.ofUpdate fun old new => old.deleting || new.deleting)

def watched (marshal : ComponentDeploymentResults → Except String String) :
    Watched UserMove NamespacedName (RangeOrder (String × ComponentDeploymentResults) × ℕ) Op Res
      (Except String Unit) Cluster where
  toWorkload := controller marshal
  reports s t key := vectorDataPredicate.notices (s.vectorDatas key) (t.vectorDatas key)
  lists s key := vectorDataPredicate.notices none (s.vectorDatas key)
  retries
    | .ok _ => false
    | .error _ => true

namespace Watch

variable {marshal : ComponentDeploymentResults → Except String String} {s t u : Cluster}
  {key req : NamespacedName} {vd : VectorData}

/-- A VectorData that is deleted still has the finalizer, or one that stays is not
materialized and reported. -/
def Due (key : NamespacedName) (s : Cluster) : Prop :=
  ∃ vd, s.vectorDatas key = some vd ∧
    (vd.deleting = true ∧ vectorDataFinalizer ∈ vd.finalizers ∨
      vd.deleting = false ∧ ¬ (vectorDataFinalizer ∈ vd.finalizers ∧
        (s.configMaps (configMapKey key)).isSome = true ∧
        isStatusConditionTrue vd.conditions .ready = true))

/-- The stored object is `vd`, up to the finalizers of others. -/
def Copy (s : Cluster) (key : NamespacedName) (vd : VectorData) : Prop :=
  ∃ finalizers, s.vectorDatas key = some { vd with finalizers := finalizers } ∧
    (vectorDataFinalizer ∈ finalizers ↔ vectorDataFinalizer ∈ vd.finalizers)

/-- What the others do to a VectorData and its ConfigMap without a report. -/
structure Unheard (key : NamespacedName) (s t : Cluster) : Prop where
  copy : ∀ vd, Copy s key vd → Copy t key vd
  absent : s.vectorDatas key = none → t.vectorDatas key = none
  configMap : t.configMaps (configMapKey key) = s.configMaps (configMapKey key)

theorem Copy.stored (h : s.vectorDatas key = some vd) : Copy s key vd := ⟨vd.finalizers, h, Iff.rfl⟩

theorem Unheard.of_eq (hvd : t.vectorDatas key = s.vectorDatas key)
    (hcm : t.configMaps (configMapKey key) = s.configMaps (configMapKey key)) : Unheard key s t where
  copy vd h := by rwa [Copy, hvd]
  absent h := by rw [hvd, h]
  configMap := hcm

theorem Unheard.trans (hst : Unheard key s t) (htu : Unheard key t u) : Unheard key s u where
  copy vd h := htu.copy vd (hst.copy vd h)
  absent h := htu.absent (hst.absent h)
  configMap := htu.configMap.trans hst.configMap

/-- What is due does not depend on the finalizers of others. -/
theorem Due.of_unheard (h : Unheard key s t) (hdue : Due key t) : Due key s := by
  obtain ⟨vd', hvd', hdue⟩ := hdue
  cases hs : s.vectorDatas key with
  | none => simp [h.absent hs] at hvd'
  | some vd =>
    obtain ⟨finalizers, hcopy, hiff⟩ := h.copy vd (.stored hs)
    obtain rfl := Option.some.inj (hcopy.symm.trans hvd')
    refine ⟨vd, hs, ?_⟩
    rw [h.configMap] at hdue
    simpa only [hiff] using hdue

section Users

/-- What a move can do to a VectorData. -/
inductive Moved : Option VectorData → Option VectorData → Prop
  | same (o : Option VectorData) : Moved o o
  | created (vd : VectorData) : Moved none (some vd)
  | removed (vd : VectorData) : Moved (some vd) none
  | marked (vd : VectorData) : Moved (some vd) (some { vd with deleting := true })
  | edited (vd : VectorData) {finalizers : List String}
      (h : vectorDataFinalizer ∈ finalizers ↔ vectorDataFinalizer ∈ vd.finalizers) :
      Moved (some vd) (some { vd with finalizers := finalizers })

theorem writeFinalizers_moved {finalizers : List String} (hs : s.vectorDatas key = some vd)
    (hiff : vectorDataFinalizer ∈ finalizers ↔ vectorDataFinalizer ∈ vd.finalizers)
    (key' : NamespacedName) :
    Moved (s.vectorDatas key') ((writeFinalizers key vd finalizers s).2.vectorDatas key') := by
  by_cases hk : key' = key
  · subst hk
    unfold writeFinalizers
    split
    · exact .same _
    · split
      · simpa [hs] using .removed vd
      · simpa [hs] using .edited vd hiff
  · rw [writeFinalizers_vectorDatas hk]
    exact .same _

theorem userMove_moved {m : UserMove} (hm : userMove m s = some t) (key : NamespacedName) :
    Moved (s.vectorDatas key) (t.vectorDatas key) := by
  have hset {key' : NamespacedName} {o : Option VectorData} (ho : Moved (s.vectorDatas key') o) :
      Moved (s.vectorDatas key) ((s.setVectorData key' o).vectorDatas key) := by
    by_cases hk : key = key'
    · subst hk
      simpa using ho
    · simpa [Function.update_of_ne hk] using Moved.same (s.vectorDatas key)
  cases m with
  | create key' uid finalizers spec =>
    simp only [userMove] at hm
    split at hm
    · cases hm
    · next hc =>
      obtain rfl := Option.some.inj hm
      refine hset ?_
      cases hs : s.vectorDatas key' with
      | none => exact .created _
      | some vd => exact absurd (.inl (by simp [hs])) hc
  | delete key' =>
    obtain ⟨vd, hs, rfl⟩ := Option.map_eq_some_iff.mp hm
    split
    · exact hset (hs ▸ .removed vd)
    · exact hset (hs ▸ .marked vd)
  | setFinalizers key' finalizers =>
    obtain ⟨vd, hs, hm⟩ := Option.bind_eq_some_iff.mp hm
    split at hm
    · next hiff =>
      obtain rfl := Option.some.inj hm
      exact writeFinalizers_moved hs hiff key
    · cases hm

/-- A move that is not reported changes the finalizers of others at most. -/
theorem userMove_unheard {m : UserMove} (hm : userMove m s = some t)
    (hr : vectorDataPredicate.notices (s.vectorDatas key) (t.vectorDatas key) = false) :
    Unheard key s t := by
  have hcm : t.configMaps (configMapKey key) = s.configMaps (configMapKey key) := by
    rw [(userMove_keeps hm).1]
  have hmoved := userMove_moved hm key
  generalize hold : s.vectorDatas key = old at hr hmoved
  generalize hnew : t.vectorDatas key = new at hr hmoved
  cases hmoved with
  | same => exact .of_eq (hnew.trans hold.symm) hcm
  | created vd => cases hr
  | removed vd => cases hr
  | marked vd =>
    have hdeleting : vd.deleting = true := by
      by_contra hnot
      have hne : vd ≠ { vd with deleting := true } := fun heq =>
        hnot (congrArg VectorData.deleting heq)
      simp [Predicate.notices, vectorDataPredicate, Predicate.or, Predicate.ofUpdate, hne] at hr
    have hsame : { vd with deleting := true } = vd := by rw [← hdeleting]
    exact .of_eq (by rw [hnew, hold, hsame]) hcm
  | @edited vd finalizers hiff =>
    refine ⟨fun vd' hcopy => ?_, fun hnone => ?_, hcm⟩
    · obtain ⟨finalizers', hvd', hiff'⟩ := hcopy
      obtain rfl := Option.some.inj (hold.symm.trans hvd')
      exact ⟨finalizers, hnew, hiff.trans hiff'⟩
    · simp [hold] at hnone

end Users

section Reconciles

/-- The conditions of a reconcile that hears of every change. -/
abbrev told (req : NamespacedName) : Contract Op Cluster :=
  ⟨Unheard req, fun _ _ => True, fun _ _ => True⟩

/-- The reconcile fails, or leaves nothing to do. -/
abbrev Settles (req : NamespacedName) (p : Program (Except String Unit)) (s : Cluster) : Prop :=
  p.Keeps exec (told req) (fun a t => (∃ e, a = .error e) ∨ ¬ Due req t) s

/-- The object of the local copy is the stored one and has the finalizer. -/
structure Materializing (req : NamespacedName) (vd : VectorData) (s : Cluster) : Prop where
  copy : Copy s req vd
  deleting : vd.deleting = false
  finalizer : vectorDataFinalizer ∈ vd.finalizers

theorem Materializing.of_unheard (h : Materializing req vd s) (hst : Unheard req s t) :
    Materializing req vd t := ⟨hst.copy vd h.copy, h.deleting, h.finalizer⟩

theorem not_due_of_ready {stored : VectorData} (hstored : s.vectorDatas req = some stored)
    (hdeleting : stored.deleting = false) (hf : vectorDataFinalizer ∈ stored.finalizers)
    (hcm : (s.configMaps (configMapKey req)).isSome = true)
    (hready : isStatusConditionTrue stored.conditions .ready = true) : ¬ Due req s := by
  rintro ⟨vd', hvd', hdue⟩
  obtain rfl := Option.some.inj (hstored.symm.trans hvd')
  simp [hdeleting, hf, hcm, hready] at hdue

/-- A status that is patched is the status of the stored object. -/
theorem patchStatus_stored {after : List (Condition VectorDataCondition)} (hcopy : Copy s req vd) :
    ∃ stored, (exec (.patchStatus req vd.conditions after) s).2.vectorDatas req = some stored ∧
      stored.deleting = vd.deleting ∧
      (vectorDataFinalizer ∈ stored.finalizers ↔ vectorDataFinalizer ∈ vd.finalizers) ∧
      stored.conditions = after := by
  obtain ⟨finalizers, hstored, hiff⟩ := hcopy
  simp only [exec, hstored]
  split
  · next hsame => exact ⟨_, hstored, rfl, hiff, hsame⟩
  · exact ⟨{ vd with finalizers := finalizers, conditions := after }, by simp, rfl, hiff, rfl⟩

theorem setReady_settles {now : ℕ} {reason message : String} (h : Materializing req vd s)
    (hcm : (s.configMaps (configMapKey req)).isSome = true) :
    Settles req (setReady now req vd .isTrue reason message) s := by
  refine Prog.keeps_perform_bind.mpr fun t ht => ⟨trivial, fun _ => ?_, fun msg => .inl ⟨_, rfl⟩⟩
  split
  · exact .inl ⟨_, rfl⟩
  · obtain ⟨stored, hstored, hdeleting, hiff, hconditions⟩ := patchStatus_stored (ht.copy vd h.copy)
    refine .inr (not_due_of_ready hstored (hdeleting.trans h.deleting) (hiff.mpr h.finalizer) ?_ ?_)
    · have heq : ∀ after, (exec (.patchStatus req vd.conditions after) t).2.configMaps =
          t.configMaps := by
        intro after
        have heffect := exec_effect (.patchStatus req vd.conditions after) t
        generalize (exec (.patchStatus req vd.conditions after) t).2 = t' at heffect
        cases heffect <;> rfl
      rw [heq, ht.configMap]
      exact hcm
    · rw [hconditions, isStatusConditionTrue_set rfl]
      rfl

/-- A failure is returned, whether or not it can be reported. -/
theorem setReady_fails {now : ℕ} {status : ConditionStatus} {reason message : String}
    {f : Except String Unit → Program (Except String Unit)} (hf : ∀ r, ∃ e, f r = .ret (.error e)) :
    Settles req (setReady now req vd status reason message >>= f) s := by
  have hset : (setReady now req vd status reason message).Keeps exec (told req)
      (fun _ _ => True) s := by
    refine Prog.keeps_perform_bind.mpr fun t ht => ⟨trivial, fun _ => ?_, fun msg => trivial⟩
    split <;> trivial
  refine hset.bind fun r t _ => ?_
  obtain ⟨e, he⟩ := hf r
  rw [he]
  exact .inl ⟨e, rfl⟩

theorem createAndReport_settles {now : ℕ} {data : List (String × String)}
    (h : Materializing req vd s) : Settles req (createAndReport now req vd data) s := by
  refine Prog.keeps_perform_bind.mpr fun t ht =>
    ⟨trivial, fun _ => ?_, fun msg => setReady_fails fun _ => ⟨_, rfl⟩⟩
  simp only [exec]
  have ht := h.of_unheard ht
  cases t.configMaps (configMapKey req) with
  | some cm => exact setReady_fails fun _ => ⟨_, rfl⟩
  | none => exact setReady_settles ⟨ht.copy, ht.deleting, ht.finalizer⟩ (by simp)

theorem materialize_settles {order : RangeOrder (String × ComponentDeploymentResults)} {now : ℕ}
    (h : Materializing req vd s) : Settles req (materialize marshal order now req vd) s := by
  unfold materialize
  cases renderData marshal order vd.spec with
  | error err =>
    refine setReady_fails fun r => ?_
    cases r <;> exact ⟨_, rfl⟩
  | ok data =>
    refine Prog.keeps_perform_bind.mpr fun t ht =>
      ⟨trivial, fun _ => ?_, fun msg => setReady_fails fun _ => ⟨_, rfl⟩⟩
    simp only [exec]
    cases hcm : t.configMaps (configMapKey req) with
    | none => exact createAndReport_settles (h.of_unheard ht)
    | some cm => exact setReady_settles (h.of_unheard ht) (by simp [hcm])

/-- The finalizers are refused, were the last ones, or are written. -/
theorem writeFinalizers_cases (key : NamespacedName) (vd : VectorData) (finalizers : List String)
    (s : Cluster) : (∃ e, writeFinalizers key vd finalizers s = (.error e, s)) ∨
      (∃ vd', writeFinalizers key vd finalizers s = (.ok vd', s.setVectorData key none)) ∨
      ∃ vd', writeFinalizers key vd finalizers s =
        (.ok vd', s.setVectorData key (some { vd with finalizers := finalizers })) := by
  unfold writeFinalizers
  split
  · exact .inl ⟨_, rfl⟩
  · split
    · exact .inr (.inl ⟨_, rfl⟩)
    · exact .inr (.inr ⟨_, rfl⟩)

/-- Once the finalizer is gone from a VectorData that is deleted, nothing is due. -/
theorem removeFinalizer_settles (hcopy : Copy s req vd) (hdeleting : vd.deleting = true) :
    Settles req (removeFinalizer req vd) s := by
  refine Prog.keeps_perform_bind.mpr fun t ht => ⟨trivial, fun _ => ?_, fun msg => .inl ⟨_, rfl⟩⟩
  obtain ⟨finalizers, hstored, hiff⟩ := ht.copy vd hcopy
  have hgone {t : Cluster} {finalizers : List String}
      (ht : t.vectorDatas req = some { vd with finalizers := finalizers })
      (hf : vectorDataFinalizer ∉ finalizers) : ¬ Due req t := by
    rintro ⟨vd', hvd', hdue⟩
    obtain rfl := Option.some.inj (ht.symm.trans hvd')
    simp [hdeleting, hf] at hdue
  simp only [exec, hstored]
  by_cases hsame : vd.finalizers = vd.finalizers.filter fun f => f ≠ vectorDataFinalizer
  · rw [if_pos hsame]
    refine .inr (hgone hstored fun hf => ?_)
    rw [hiff, hsame] at hf
    simp at hf
  · rw [if_neg hsame]
    obtain ⟨e, he⟩ | ⟨vd', he⟩ | ⟨vd', he⟩ := writeFinalizers_cases req
      { vd with finalizers := finalizers } (vd.finalizers.filter fun f => f ≠ vectorDataFinalizer) t
    · rw [he]
      exact .inl ⟨_, rfl⟩
    · rw [he]
      refine .inr ?_
      rintro ⟨vd', hvd', -⟩
      simp at hvd'
    · rw [he]
      exact .inr (hgone (Function.update_self ..) (by simp))

theorem handleDeletion_settles (hs : s.vectorDatas req = some vd) (hdeleting : vd.deleting = true) :
    Settles req (handleDeletion req vd) s := by
  have hcopy : Copy s req vd := .stored hs
  unfold handleDeletion
  split
  · refine Prog.keeps_perform_bind.mpr fun t ht => ⟨trivial, fun _ => ?_, fun msg => .inl ⟨_, rfl⟩⟩
    simp only [exec]
    cases t.configMaps (configMapKey req) with
    | none => exact removeFinalizer_settles (ht.copy vd hcopy) hdeleting
    | some cm => exact removeFinalizer_settles (ht.copy vd hcopy) hdeleting
  · next hf =>
    refine .inr ?_
    rintro ⟨vd', hvd', hdue⟩
    obtain rfl := Option.some.inj (hs.symm.trans hvd')
    simp [hdeleting, hf] at hdue

/-- A reconcile that hears of every change fails, or leaves nothing to do. -/
theorem reconcile_settles {order : RangeOrder (String × ComponentDeploymentResults)} {now : ℕ} :
    Settles req (reconcile marshal order now req) s := by
  refine Prog.keeps_perform_bind.mpr fun t ht => ⟨trivial, fun _ => ?_, fun msg => .inl ⟨_, rfl⟩⟩
  simp only [exec]
  cases hs : t.vectorDatas req with
  | none =>
    refine .inr ?_
    rintro ⟨vd, hvd, -⟩
    simp [hs] at hvd
  | some vd =>
    dsimp only
    split
    · next hdeleting => exact handleDeletion_settles hs hdeleting
    · next hdeleting =>
      have hdeleting : vd.deleting = false := by simpa using hdeleting
      split
      · next hf => exact materialize_settles ⟨.stored hs, hdeleting, hf⟩
      · refine Prog.keeps_perform_bind.mpr fun u hu => ⟨trivial, fun _ => ?_, fun msg => .inl ⟨_, rfl⟩⟩
        obtain ⟨finalizers, hstored, -⟩ := hu.copy vd (.stored hs)
        have hne : vd.finalizers ≠ vd.finalizers ++ [vectorDataFinalizer] := by simp
        simp only [exec, hstored, if_neg hne, writeFinalizers, hdeleting, Bool.false_eq_true,
          false_and, if_false]
        exact materialize_settles ⟨.stored (by simp), rfl, by simp⟩

end Reconciles

theorem watched_drains (marshal : ComponentDeploymentResults → Except String String)
    (key : NamespacedName) :
    (watched marshal).Drains (fun _ _ => True) (Materialized marshal) (Guar marshal) key
      (Unheard key) (Due key) where
  safe _ h := (controller_relyGuarantee marshal).reachable (fun _ _ _ => trivial)
    (Watched.reachable_pool h)
  trans _ _ _ hst htu := hst.trans htu
  refl _ _ := .of_eq rfl rfl
  env _ _ _ _ _ hm hr := userMove_unheard hm hr
  call _ _ _ _ hg hne _ := .of_eq (hg.frame hne).1 (hg.frame hne).2
  stays _ _ hst hdue := hdue.of_unheard hst
  lists s _ hdue := by
    obtain ⟨vd, hvd, -⟩ := hdue
    simp [watched, hvd, Predicate.notices, vectorDataPredicate, Predicate.or,
      Predicate.generationChanged, Predicate.ofUpdate]
  prog x s _ := by
    refine reconcile_settles.mono fun a t h => h.imp_left fun hfail => ?_
    obtain ⟨e, rfl⟩ := hfail
    rfl

/-- With nothing left to do a VectorData that stays is Ready, and its ConfigMap is the
rendering of its spec. -/
theorem configMap_of_not_due (hinv : Materialized marshal s) (hdone : ¬ Due key s)
    (hvd : s.vectorDatas key = some vd) (hstays : vd.deleting = false) :
    isStatusConditionTrue vd.conditions .ready = true ∧
      ∃ cm order, s.configMaps (configMapKey key) = some cm ∧
        cm.labels.lookup labelVectorDataUID = some vd.uid ∧
        renderData marshal order vd.spec = .ok cm.data := by
  have hready : vectorDataFinalizer ∈ vd.finalizers ∧
      (s.configMaps (configMapKey key)).isSome = true ∧
      isStatusConditionTrue vd.conditions .ready = true := by
    by_contra hnot
    exact hdone ⟨vd, hvd, .inr ⟨hstays, hnot⟩⟩
  obtain ⟨cm, hcm⟩ := Option.isSome_iff_exists.mp hready.2.1
  obtain ⟨vd', hvd', -, huid, order, hrender⟩ := hinv key cm hcm
  obtain rfl := Option.some.inj (hvd.symm.trans hvd')
  exact ⟨hready.2.2, cm, order, hcm, huid, hrender⟩

theorem no_configMap_of_not_due (hinv : Materialized marshal s) (hdone : ¬ Due key s)
    (hgone : ∀ vd, s.vectorDatas key = some vd → vd.deleting = true) :
    s.configMaps (configMapKey key) = none := by
  by_contra hcm
  obtain ⟨cm, hcm⟩ := Option.ne_none_iff_exists'.mp hcm
  obtain ⟨vd, hvd, hf, -⟩ := hinv key cm hcm
  exact hdone ⟨vd, hvd, .inl ⟨hgone vd hvd, hf⟩⟩

end Watch

/-- When nothing is reported, queued or running for a name, its ConfigMap is the rendering
of the VectorData of that name, which is reported Ready; and there is none when no
VectorData has the name or the one that has it is being deleted. -/
theorem idle_vectorData_materialized (marshal : ComponentDeploymentResults → Except String String)
    (st : Station NamespacedName Op Res (Except String Unit) Cluster)
    (h : (watched marshal).system.Reachable st) (key : NamespacedName) (hidle : st.Idle key) :
    (∀ vd, st.state.vectorDatas key = some vd → vd.deleting = false →
      isStatusConditionTrue vd.conditions .ready = true ∧
        ∃ cm order, st.state.configMaps (configMapKey key) = some cm ∧
          cm.labels.lookup labelVectorDataUID = some vd.uid ∧
          renderData marshal order vd.spec = .ok cm.data) ∧
    ((∀ vd, st.state.vectorDatas key = some vd → vd.deleting = true) →
      st.state.configMaps (configMapKey key) = none) := by
  obtain ⟨hinv, hdone⟩ := (Watch.watched_drains marshal key).idle h hidle
  refine ⟨fun vd hvd hstays => ?_, fun hgone => ?_⟩
  · exact Watch.configMap_of_not_due hinv hdone hvd hstays
  · exact Watch.no_configMap_of_not_due hinv hdone hgone

/-- The process starts on an empty cluster. -/
def shopStation : Station NamespacedName Op Res (Except String Unit) Cluster :=
  ⟨⟨emptyCluster, fun _ => none⟩, fun _ => false, fun _ => false⟩

/-- The process restarts after it has created the ConfigMap and before it reports that;
another controller adds a finalizer to the VectorData meanwhile. -/
def materializeShop : List (StationMove UserMove NamespacedName
    (RangeOrder (String × ComponentDeploymentResults) × ℕ)) :=
  [.pool (.env (.create shopKey "u1" [] (rawSpec "1"))), .deliver shopKey,
    .pool (.start shopKey (.insertion, 10))] ++ List.replicate 4 (.pool (.call shopKey)) ++
    [.restart, .deliver shopKey, .pool (.start shopKey (.insertion, 20))] ++
    List.replicate 3 (.pool (.call shopKey)) ++
    [.pool (.env (.setFinalizers shopKey ["other", vectorDataFinalizer])), .pool (.stop shopKey)]

theorem idle_vectorData_materialized_shop : ∃ st, (watched fun _ => .ok "[]").system.Reachable st ∧
    st.Idle shopKey ∧ ∃ vd cm, st.state.vectorDatas shopKey = some vd ∧
      st.state.configMaps (configMapKey shopKey) = some cm ∧
      isStatusConditionTrue vd.conditions .ready = true := by
  obtain ⟨st, hst, hp⟩ := System.reachable_of_follow (watched fun _ => .ok "[]").system
    materializeShop
    (fun st => st.reported shopKey = false ∧ st.queued shopKey = false ∧
      (st.running shopKey).isNone = true ∧
      (st.state.vectorDatas shopKey).map (·.deleting) = some false)
    (s := shopStation) ⟨⟨rfl, fun _ => rfl⟩, rfl, rfl⟩ (by decide +kernel)
  obtain ⟨hreported, hqueued, hrunning, hvd⟩ := of_decide_eq_true hp
  obtain ⟨vd, hvd, hstays⟩ := Option.map_eq_some_iff.mp hvd
  have hidle : st.Idle shopKey := ⟨hreported, hqueued, Option.isNone_iff_eq_none.mp hrunning⟩
  obtain ⟨hready, cm, -, hcm, -⟩ := (idle_vectorData_materialized _ st hst shopKey hidle).1 vd hvd hstays
  exact ⟨st, hst, hidle, vd, cm, hvd, hcm, hready⟩

end LandscapeOrchestrator.VectorDataController
