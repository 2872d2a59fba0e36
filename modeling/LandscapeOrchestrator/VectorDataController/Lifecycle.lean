import LandscapeOrchestrator.Apilib.RelyGuarantee
import LandscapeOrchestrator.VectorDataController.Reconcile

/-!
# The lifecycle of a VectorData

Reconciles run beside users who create, delete and re-create VectorData objects
under the same names. A ConfigMap that is found is reported as materialized without
a look at its content, so none of an earlier VectorData may be left. What carries
this is the finalizer: as long as it is there, the object of that name stays the one
that it is.

## Main definitions

- `controller` — all reconciles, one at a time for each object, beside the users
- `Describes` — a ConfigMap is what the controller writes for a VectorData in place
- `Rely`, `Guar` — what a reconcile assumes of the others, and what it keeps
-/

namespace LandscapeOrchestrator.VectorDataController
open Apilib Golib

-- ════════════════════════════════════════════════════════════════════════
-- Users
-- ════════════════════════════════════════════════════════════════════════

/-- Users create and delete VectorData; other controllers have finalizers of their own. -/
inductive UserMove where
  | create (key : NamespacedName) (uid : String) (finalizers : List String) (spec : VectorDataSpec)
  | delete (key : NamespacedName)
  | setFinalizers (key : NamespacedName) (finalizers : List String)

/-- Every object gets a new UID. Nobody else adds or removes the finalizer. -/
def userMove : UserMove → Cluster → Option Cluster
  | .create key uid finalizers spec, s =>
    if (s.vectorDatas key).isSome ∨ uid ∈ s.uids ∨ vectorDataFinalizer ∈ finalizers then none
    else some { s.setVectorData key (some ⟨uid, 1, finalizers, false, spec, []⟩) with
      uids := uid :: s.uids }
  | .delete key, s => (s.vectorDatas key).map fun vd =>
    if vd.finalizers = [] then s.setVectorData key none
    else s.setVectorData key (some { vd with deleting := true })
  | .setFinalizers key finalizers, s => (s.vectorDatas key).bind fun vd =>
    if (vectorDataFinalizer ∈ finalizers ↔ vectorDataFinalizer ∈ vd.finalizers)
    then some (writeFinalizers key vd finalizers s).2 else none

section

variable (marshal : ComponentDeploymentResults → Except String String)

/-- There are no ConfigMaps at the start. -/
def controller : Workload UserMove NamespacedName
    (RangeOrder (String × ComponentDeploymentResults) × ℕ) Op Res (Except String Unit) Cluster where
  init s := s.configMaps = fun _ => none
  exec := exec
  env := userMove
  prog req x := reconcile marshal x.1 x.2 req

/-- The VectorData is there with the finalizer, its UID is on the ConfigMap, and the
ConfigMap has its data. -/
def Describes (s : Cluster) (key : NamespacedName) (cm : ConfigMap) : Prop :=
  ∃ vd, s.vectorDatas key = some vd ∧ vectorDataFinalizer ∈ vd.finalizers ∧
    cm.labels.lookup labelVectorDataUID = some vd.uid ∧
    ∃ order, renderData marshal order vd.spec = .ok cm.data

def Materialized (s : Cluster) : Prop :=
  ∀ key cm, s.configMaps (configMapKey key) = some cm → Describes marshal s key cm

end

-- ════════════════════════════════════════════════════════════════════════
-- An object that is held
-- ════════════════════════════════════════════════════════════════════════

/-- The object of the local copy `vd` is the stored one, and has the finalizer. -/
def Held (s : Cluster) (key : NamespacedName) (vd : VectorData) : Prop :=
  ∃ stored, s.vectorDatas key = some stored ∧ vectorDataFinalizer ∈ stored.finalizers ∧
    stored.uid = vd.uid ∧ stored.spec = vd.spec

/-- What the others do to the state between two calls of a reconcile of `req`. -/
structure Rely (req : NamespacedName) (s t : Cluster) : Prop where
  held : ∀ vd, Held s req vd → Held t req vd
  configMap : t.configMaps (configMapKey req) = s.configMaps (configMapKey req)

variable {marshal : ComponentDeploymentResults → Except String String} {s t : Cluster}
  {key req : NamespacedName} {vd : VectorData}

theorem configMapKey_injective {a b : NamespacedName} (h : configMapKey a = configMapKey b) :
    a = b := by
  obtain ⟨hns, hname⟩ := NamespacedName.mk.inj h
  have hname : a.name = b.name := by
    simpa [String.ext_iff, String.toList_append] using hname
  cases a
  cases b
  simp_all

theorem Held.stored (hs : s.vectorDatas key = some vd) (hf : vectorDataFinalizer ∈ vd.finalizers) :
    Held s key vd := ⟨vd, hs, hf, rfl, rfl⟩

theorem Describes.mono {cm : ConfigMap} (h : Describes marshal s key cm)
    (hh : ∀ vd, Held s key vd → Held t key vd) : Describes marshal t key cm := by
  obtain ⟨vd, hs, hf, huid, order, hr⟩ := h
  obtain ⟨stored, hs', hf', huid', hspec⟩ := hh vd (.stored hs hf)
  exact ⟨stored, hs', hf', by rw [huid, huid'], order, by rw [hspec, hr]⟩

/-- The object may be written as long as it stays the same and keeps the finalizer. -/
theorem Held.setVectorData (new : VectorData) (hs : s.vectorDatas key = some vd)
    (hnew : vectorDataFinalizer ∈ vd.finalizers →
      vectorDataFinalizer ∈ new.finalizers ∧ new.uid = vd.uid ∧ new.spec = vd.spec)
    {key' : NamespacedName} {local' : VectorData} (h : Held s key' local') :
    Held (s.setVectorData key (some new)) key' local' := by
  by_cases hk : key' = key
  · subst hk
    obtain ⟨stored, hst, hf, huid, hspec⟩ := h
    obtain rfl := Option.some.inj (hs.symm.trans hst)
    obtain ⟨hf', huid', hspec'⟩ := hnew hf
    exact ⟨new, by simp, hf', by rw [huid', huid], by rw [hspec', hspec]⟩
  · obtain ⟨stored, hst, hrest⟩ := h
    exact ⟨stored, by simpa [Function.update_of_ne hk] using hst, hrest⟩

/-- An object without the finalizer may even go. -/
theorem Held.removeVectorData (hs : s.vectorDatas key = some vd)
    (hf : vectorDataFinalizer ∉ vd.finalizers) {key' : NamespacedName} {local' : VectorData}
    (h : Held s key' local') : Held (s.setVectorData key none) key' local' := by
  obtain ⟨stored, hst, hf', hrest⟩ := h
  have hk : key' ≠ key := by
    rintro rfl
    obtain rfl := Option.some.inj (hs.symm.trans hst)
    exact hf hf'
  exact ⟨stored, by simpa [Function.update_of_ne hk] using hst, hf', hrest⟩

theorem Held.writeFinalizers {finalizers : List String} (hs : s.vectorDatas key = some vd)
    (hf : vectorDataFinalizer ∈ vd.finalizers → vectorDataFinalizer ∈ finalizers)
    {key' : NamespacedName} {local' : VectorData} (h : Held s key' local') :
    Held (VectorDataController.writeFinalizers key vd finalizers s).2 key' local' := by
  unfold VectorDataController.writeFinalizers
  split
  · exact h
  · split
    · next hlast =>
      exact h.removeVectorData hs fun hin => by simpa [hlast.2] using hf hin
    · exact h.setVectorData { vd with finalizers := finalizers } hs
        fun hin => ⟨hf hin, rfl, rfl⟩

theorem writeFinalizers_configMaps (key : NamespacedName) (vd : VectorData)
    (finalizers : List String) (s : Cluster) :
    (writeFinalizers key vd finalizers s).2.configMaps = s.configMaps := by
  unfold writeFinalizers
  split
  · rfl
  · split <;> rfl

theorem userMove_keeps {m : UserMove} (h : userMove m s = some t) :
    t.configMaps = s.configMaps ∧ ∀ key vd, Held s key vd → Held t key vd := by
  cases m with
  | create key uid finalizers spec =>
    simp only [userMove] at h
    split at h
    · cases h
    · next hc =>
      obtain rfl := Option.some.inj h
      refine ⟨rfl, fun key' vd hh => ?_⟩
      obtain ⟨stored, hst, hrest⟩ := hh
      have hk : key' ≠ key := by
        rintro rfl
        exact hc (.inl (by simp [hst]))
      exact ⟨stored, by simpa [Function.update_of_ne hk] using hst, hrest⟩
  | delete key =>
    obtain ⟨vd, hs, rfl⟩ := Option.map_eq_some_iff.mp h
    split
    · next hnil => exact ⟨rfl, fun _ _ hh => hh.removeVectorData hs (by simp [hnil])⟩
    · exact ⟨rfl, fun _ _ hh =>
        hh.setVectorData { vd with deleting := true } hs fun hin => ⟨hin, rfl, rfl⟩⟩
  | setFinalizers key finalizers =>
    obtain ⟨vd, hs, h⟩ := Option.bind_eq_some_iff.mp h
    split at h
    · next hiff =>
      obtain rfl := Option.some.inj h
      exact ⟨writeFinalizers_configMaps _ _ _ _, fun _ _ hh => hh.writeFinalizers hs hiff.mpr⟩
    · cases h

-- ════════════════════════════════════════════════════════════════════════
-- What a reconcile guarantees
-- ════════════════════════════════════════════════════════════════════════

/-- The calls of a reconcile of `req`. The finalizer goes only when the ConfigMap is
gone, a ConfigMap is created only under the finalizer, and success is reported only
when there is a ConfigMap. -/
def Guar (marshal : ComponentDeploymentResults → Except String String) (req : NamespacedName) :
    Op → Cluster → Prop
  | .getVectorData _, _ => True
  | .getConfigMap _, _ => True
  | .patchFinalizers key _ after, s =>
    key = req ∧ (vectorDataFinalizer ∈ after ∨ s.configMaps (configMapKey req) = none)
  | .patchStatus key _ after, s =>
    key = req ∧ (isStatusConditionTrue after .ready = true →
      (s.configMaps (configMapKey req)).isSome)
  | .createConfigMap key cm, s => key = configMapKey req ∧ Describes marshal s req cm
  | .deleteConfigMap key, _ => key = configMapKey req

/-- What a call can do to the state. -/
inductive Effect (s : Cluster) : Op → Cluster → Prop
  | same (op : Op) : Effect s op s
  | patchFinalizers {key : NamespacedName} {vd : VectorData} (before after : List String)
      (hs : s.vectorDatas key = some vd) :
      Effect s (.patchFinalizers key before after) (writeFinalizers key vd after s).2
  | patchStatus {key : NamespacedName} {vd : VectorData}
      (before after : List (Condition VectorDataCondition)) (hs : s.vectorDatas key = some vd) :
      Effect s (.patchStatus key before after)
        (s.setVectorData key (some { vd with conditions := after }))
  | createConfigMap (key : NamespacedName) (cm : ConfigMap) :
      Effect s (.createConfigMap key cm) (s.setConfigMap key (some cm))
  | deleteConfigMap (key : NamespacedName) :
      Effect s (.deleteConfigMap key) (s.setConfigMap key none)

theorem exec_effect (op : Op) (s : Cluster) : Effect s op (exec op s).2 := by
  cases op with
  | getVectorData key =>
    simp only [exec]
    split <;> exact .same _
  | getConfigMap key =>
    simp only [exec]
    split <;> exact .same _
  | patchFinalizers key before after =>
    simp only [exec]
    split
    · exact .same _
    · next vd hs =>
      split
      · exact .same _
      · exact .patchFinalizers before after hs
  | patchStatus key before after =>
    simp only [exec]
    split
    · exact .same _
    · next vd hs =>
      split
      · exact .same _
      · exact .patchStatus before after hs
  | createConfigMap key cm =>
    simp only [exec]
    split
    · exact .same _
    · exact .createConfigMap key cm
  | deleteConfigMap key =>
    simp only [exec]
    split
    · exact .same _
    · exact .deleteConfigMap key

theorem writeFinalizers_vectorDatas {key' : NamespacedName} (hne : key' ≠ key) (vd : VectorData)
    (finalizers : List String) (s : Cluster) :
    (writeFinalizers key vd finalizers s).2.vectorDatas key' = s.vectorDatas key' := by
  unfold writeFinalizers
  split
  · rfl
  · split <;> simp [Function.update_of_ne hne]

/-- A reconcile writes its own object and its own ConfigMap only. -/
theorem Guar.frame {op : Op} (h : Guar marshal req op s) (hne : key ≠ req) :
    (exec op s).2.vectorDatas key = s.vectorDatas key ∧
      (exec op s).2.configMaps (configMapKey key) = s.configMaps (configMapKey key) := by
  have hck : configMapKey key ≠ configMapKey req := mt configMapKey_injective hne
  have heffect := exec_effect op s
  generalize (exec op s).2 = t at heffect
  cases heffect with
  | same => exact ⟨rfl, rfl⟩
  | patchFinalizers before after hs =>
    obtain ⟨rfl, -⟩ := h
    exact ⟨writeFinalizers_vectorDatas hne _ _ _, by rw [writeFinalizers_configMaps]⟩
  | patchStatus before after hs =>
    obtain ⟨rfl, -⟩ := h
    simp [Function.update_of_ne hne]
  | createConfigMap k cm =>
    obtain ⟨rfl, -⟩ := h
    simp [Function.update_of_ne hck]
  | deleteConfigMap k =>
    obtain rfl := h
    simp [Function.update_of_ne hck]

/-- What a call leaves of the ConfigMap of its own VectorData. -/
theorem Guar.own {op : Op} (h : Guar marshal req op s) {cm : ConfigMap}
    (hcm : (exec op s).2.configMaps (configMapKey req) = some cm) :
    (s.configMaps (configMapKey req) = some cm ∧
        ∀ vd, Held s req vd → Held (exec op s).2 req vd) ∨
      Describes marshal (exec op s).2 req cm := by
  have heffect := exec_effect op s
  generalize (exec op s).2 = t at heffect hcm ⊢
  cases heffect with
  | same => exact .inl ⟨hcm, fun _ => id⟩
  | patchFinalizers before after hs =>
    obtain ⟨rfl, hg⟩ := h
    rw [writeFinalizers_configMaps] at hcm
    have hafter : vectorDataFinalizer ∈ after := hg.resolve_right (by simp [hcm])
    exact .inl ⟨hcm, fun _ hh => hh.writeFinalizers hs fun _ => hafter⟩
  | patchStatus before after hs =>
    obtain ⟨rfl, -⟩ := h
    refine .inl ⟨hcm, fun _ hh => hh.setVectorData _ hs ?_⟩
    exact fun hin => ⟨hin, rfl, rfl⟩
  | createConfigMap k new =>
    obtain ⟨rfl, hd⟩ := h
    simp only [Cluster.setConfigMap_configMaps, Function.update_self, Option.some.injEq] at hcm
    subst hcm
    exact .inr hd
  | deleteConfigMap k =>
    obtain rfl := h
    simp at hcm

theorem Materialized.call {op : Op} (h : Materialized marshal s) (hg : Guar marshal req op s) :
    Materialized marshal (exec op s).2 := by
  intro key cm hcm
  by_cases hk : key = req
  · subst hk
    obtain ⟨hold, hh⟩ | hd := hg.own hcm
    · exact (h key cm hold).mono hh
    · exact hd
  · obtain ⟨hvd, hcms⟩ := hg.frame hk
    rw [hcms] at hcm
    exact (h key cm hcm).mono fun vd hh => by simpa [Held, hvd] using hh

-- ════════════════════════════════════════════════════════════════════════
-- The program keeps the guarantee
-- ════════════════════════════════════════════════════════════════════════

/-- The contract of a reconcile of `req`. -/
def contract (marshal : ComponentDeploymentResults → Except String String) (req : NamespacedName) :
    Contract Op Cluster where
  rely := Rely req
  given _ _ := True
  guar := Guar marshal req

abbrev Keeps (marshal : ComponentDeploymentResults → Except String String) (req : NamespacedName)
    (p : Program (Except String Unit)) (s : Cluster) : Prop :=
  p.Keeps exec (contract marshal req) (fun _ _ => True) s

theorem setReady_keeps {status : ConditionStatus} (now : ℕ) (vd : VectorData)
    (reason message : String)
    (h : status = .isTrue → (s.configMaps (configMapKey req)).isSome) :
    Keeps marshal req (setReady now req vd status reason message) s := by
  refine Prog.keeps_perform_bind.mpr fun t ht =>
    ⟨⟨rfl, fun htrue => ?_⟩, fun _ => ?_, fun msg => trivial⟩
  · rw [isStatusConditionTrue_set rfl] at htrue
    rw [ht.configMap]
    exact h (of_decide_eq_true htrue)
  · split <;> trivial

/-- Report a failure and return some error. -/
theorem setReady_false_keeps (now : ℕ) (vd : VectorData) (reason message : String)
    (f : Except String Unit → Except String Unit) (s : Cluster) :
    Keeps marshal req (setReady now req vd .isFalse reason message >>= fun r => pure (f r)) s :=
  (setReady_keeps now vd reason message (by simp)).bind fun _ _ _ => trivial

theorem createAndReport_keeps {data : List (String × String)}
    {order : RangeOrder (String × ComponentDeploymentResults)} (now : ℕ) (hh : Held s req vd)
    (hr : renderData marshal order vd.spec = .ok data) :
    Keeps marshal req (createAndReport now req vd data) s := by
  refine Prog.keeps_perform_bind.mpr fun t ht => ?_
  obtain ⟨stored, hs, hf, huid, hspec⟩ := ht.held vd hh
  refine ⟨⟨rfl, stored, hs, hf, ?_, order, by rw [hspec]; exact hr⟩, fun _ => ?_,
    fun msg => setReady_false_keeps _ _ _ _ _ _⟩
  · rw [huid]
    rfl
  · simp only [exec]
    cases t.configMaps (configMapKey req) with
    | some cm => exact setReady_false_keeps _ _ _ _ _ _
    | none => exact setReady_keeps now vd _ _ fun _ => by simp

theorem materialize_keeps (order : RangeOrder (String × ComponentDeploymentResults)) (now : ℕ)
    (hh : Held s req vd) : Keeps marshal req (materialize marshal order now req vd) s := by
  unfold materialize
  cases hr : renderData marshal order vd.spec with
  | error err =>
    refine (setReady_keeps now vd _ _ (by simp)).bind fun r t _ => ?_
    cases r <;> trivial
  | ok data =>
    refine Prog.keeps_perform_bind.mpr fun t ht => ⟨trivial, fun _ => ?_, fun msg => ?_⟩
    · simp only [exec]
      cases hcm : t.configMaps (configMapKey req) with
      | none => exact createAndReport_keeps now (ht.held vd hh) hr
      | some cm => exact setReady_keeps now vd _ _ fun _ => by simp [hcm]
    · exact setReady_false_keeps _ _ _ _ _ _

theorem removeFinalizer_keeps (vd : VectorData) (h : s.configMaps (configMapKey req) = none) :
    Keeps marshal req (removeFinalizer req vd) s := by
  refine Prog.keeps_perform_bind.mpr fun t ht =>
    ⟨⟨rfl, .inr (by rw [ht.configMap, h])⟩, fun _ => ?_, fun msg => trivial⟩
  split <;> trivial

theorem handleDeletion_keeps (vd : VectorData) (s : Cluster) :
    Keeps marshal req (handleDeletion req vd) s := by
  unfold handleDeletion
  split
  · refine Prog.keeps_perform_bind.mpr fun t ht => ⟨rfl, fun _ => ?_, fun msg => trivial⟩
    simp only [exec]
    cases hcm : t.configMaps (configMapKey req) with
    | none => exact removeFinalizer_keeps vd hcm
    | some cm => exact removeFinalizer_keeps vd (by simp)
  · trivial

/-- The answer to a patch that adds the finalizer is the object that has it now. -/
theorem held_of_addFinalizer {before finalizers : List String} {vd' : VectorData}
    (hne : before ≠ finalizers) (hf : vectorDataFinalizer ∈ finalizers)
    (h : (exec (.patchFinalizers key before finalizers) s).1 = .ok vd') :
    Held (exec (.patchFinalizers key before finalizers) s).2 key vd' := by
  simp only [exec] at h ⊢
  split at h
  · cases h
  · next vd hs =>
    rw [if_neg hne] at h ⊢
    unfold writeFinalizers at h ⊢
    split at h
    · cases h
    · next hnew =>
      have hlast : ¬ (vd.deleting = true ∧ finalizers = []) := by
        rintro ⟨-, rfl⟩
        simp at hf
      rw [if_neg hlast] at h
      obtain rfl := Except.ok.inj h
      rw [if_neg hnew, if_neg hlast]
      exact .stored (by simp) hf

theorem reconcile_keeps (order : RangeOrder (String × ComponentDeploymentResults)) (now : ℕ)
    (req : NamespacedName) (s : Cluster) :
    Keeps marshal req (reconcile marshal order now req) s := by
  refine Prog.keeps_perform_bind.mpr fun t _ => ⟨trivial, fun _ => ?_, fun msg => trivial⟩
  simp only [exec]
  cases hs : t.vectorDatas req with
  | none => trivial
  | some vd =>
    dsimp only
    split
    · exact handleDeletion_keeps vd t
    · split
      · next hf => exact materialize_keeps order now (.stored hs hf)
      · refine Prog.keeps_perform_bind.mpr fun u _ =>
          ⟨⟨rfl, .inl (by simp)⟩, fun _ => ?_, fun msg => trivial⟩
        split
        · trivial
        · next vd' hok =>
          exact materialize_keeps order now (held_of_addFinalizer (by simp) (by simp) hok)

-- ════════════════════════════════════════════════════════════════════════
-- All interleavings
-- ════════════════════════════════════════════════════════════════════════

theorem controller_relyGuarantee (marshal : ComponentDeploymentResults → Except String String) :
    (controller marshal).RelyGuarantee (Materialized marshal) (contract marshal) where
  refl _ _ _ := ⟨fun _ => id, rfl⟩
  trans _ _ _ _ hst htu :=
    ⟨fun vd h => htu.held vd (hst.held vd h), htu.configMap.trans hst.configMap⟩
  init s h := by
    intro key cm hcm
    rw [h] at hcm
    cases hcm
  env m s t h hm := by
    obtain ⟨hcms, hh⟩ := userMove_keeps hm
    refine ⟨fun key cm hcm => ?_, fun req => ⟨hh req, by rw [hcms]⟩⟩
    rw [hcms] at hcm
    exact (h key cm hcm).mono (hh key)
  call req op s h hg _ := by
    refine ⟨h.call hg, fun key hne => ?_⟩
    obtain ⟨hvd, hcm⟩ := hg.frame hne
    exact ⟨fun vd hh => by simpa [Held, hvd, controller] using hh, hcm⟩
  prog req x s _ := reconcile_keeps x.1 x.2 req s

/-- In every state, a ConfigMap has its VectorData with the finalizer, the UID and the
data; and whenever a reconcile is about to set Ready to true, there is one. -/
theorem vectorData_lifecycle (marshal : ComponentDeploymentResults → Except String String)
    (pool : Pool NamespacedName Op Res (Except String Unit) Cluster)
    (h : (controller marshal).system.Reachable pool) :
    (∀ key cm, pool.state.configMaps (configMapKey key) = some cm →
      Describes marshal pool.state key cm) ∧
    ∀ req key before after k, pool.running req = some (.call (.patchStatus key before after) k) →
      isStatusConditionTrue after .ready = true →
      key = req ∧ ∃ cm, pool.state.configMaps (configMapKey req) = some cm ∧
        Describes marshal pool.state req cm := by
  obtain ⟨hinv, hguar⟩ := (controller_relyGuarantee marshal).reachable (fun _ _ _ => trivial) h
  refine ⟨hinv, fun req key before after k hrun htrue => ?_⟩
  obtain ⟨hkey, hcm⟩ := hguar req _ k hrun
  obtain ⟨cm, hcm⟩ := Option.isSome_iff_exists.mp (hcm htrue)
  exact ⟨hkey, cm, hcm, hinv req cm hcm⟩

-- ════════════════════════════════════════════════════════════════════════
-- A VectorData that is re-created under a reconcile
-- ════════════════════════════════════════════════════════════════════════

def emptyCluster : Cluster := ⟨fun _ => none, fun _ => none, []⟩

def shopKey : NamespacedName := ⟨"landscape", "vd-1"⟩

def rawSpec (features : String) : VectorDataSpec := ⟨some features, none, [], by decide⟩

/-- The object that the reconcile has read is replaced before it gets the finalizer. -/
def recreate : List (Move UserMove NamespacedName
    (RangeOrder (String × ComponentDeploymentResults) × ℕ)) :=
  [.env (.create shopKey "u1" [] (rawSpec "1")), .start shopKey (.insertion, 10), .call shopKey,
    .env (.delete shopKey), .env (.create shopKey "u2" [] (rawSpec "2")), .call shopKey,
    .call shopKey, .call shopKey]

/-- The next call of the reconcile sets Ready to true. -/
def reportsReady (pool : Pool NamespacedName Op Res (Except String Unit) Cluster) : Bool :=
  match pool.running shopKey with
  | some (.call (.patchStatus _ _ after) _) => isStatusConditionTrue after .ready
  | _ => false

theorem vectorData_lifecycle_recreated :
    ∃ pool, (controller fun _ => .ok "[]").system.Reachable pool ∧ reportsReady pool = true ∧
      ∃ cm, pool.state.configMaps (configMapKey shopKey) = some cm ∧
        Describes (fun _ => .ok "[]") pool.state shopKey cm := by
  obtain ⟨pool, hpool, hp⟩ := System.reachable_of_follow
    (controller fun _ => .ok "[]").system recreate reportsReady
    (s := ⟨emptyCluster, fun _ => none⟩) ⟨rfl, fun _ => rfl⟩ (by decide +kernel)
  refine ⟨pool, hpool, hp, ?_⟩
  unfold reportsReady at hp
  split at hp
  · next hrun => exact ((vectorData_lifecycle _ pool hpool).2 _ _ _ _ _ hrun hp).2
  · cases hp

end LandscapeOrchestrator.VectorDataController
