import LandscapeOrchestrator.Apilib.Conditions
import LandscapeOrchestrator.Apilib.Names
import LandscapeOrchestrator.Apilib.Program
import LandscapeOrchestrator.VectorDataController.Render
import Mathlib.Logic.Function.Basic

/-!
# The VectorData controller

The controller writes a VectorData into a ConfigMap once, and removes the ConfigMap
again when the VectorData is deleted. The VectorData carries a finalizer meanwhile.
Events and log lines are left out: nothing reads them.

## Main definitions

- `Cluster`, `Op`, `exec` — VectorData objects, ConfigMaps, and the API server
- `reconcile` — one reconcile, in the order of the source
-/

namespace LandscapeOrchestrator.VectorDataController
open Apilib Golib

def vectorDataControllerName : String := "vector-data-controller"
def vectorDataFinalizer : String := "konfidence.cloud/vector-data-configmap-cleanup"
def labelManagedBy : String := "konfidence.cloud/managed-by"
def labelVectorDataName : String := "konfidence.cloud/vector-data-name"
def labelVectorDataUID : String := "konfidence.cloud/vector-data-uid"

inductive VectorDataCondition where
  | ready
  | other (s : String)
  deriving DecidableEq, Repr

structure VectorData where
  uid : String
  generation : ℕ
  finalizers : List String
  deleting : Bool
  spec : VectorDataSpec
  conditions : List (Condition VectorDataCondition)
  deriving DecidableEq

structure ConfigMap where
  labels : List (String × String)
  immutable : Bool
  data : List (String × String)
  deriving DecidableEq

/-- `uids` are those that were ever given to a VectorData. -/
structure Cluster where
  vectorDatas : NamespacedName → Option VectorData
  configMaps : NamespacedName → Option ConfigMap
  uids : List String

namespace Cluster

def setVectorData (s : Cluster) (key : NamespacedName) (vd : Option VectorData) : Cluster :=
  { s with vectorDatas := Function.update s.vectorDatas key vd }

def setConfigMap (s : Cluster) (key : NamespacedName) (cm : Option ConfigMap) : Cluster :=
  { s with configMaps := Function.update s.configMaps key cm }

variable {s : Cluster} {key key' : NamespacedName} {vd : Option VectorData} {cm : Option ConfigMap}

@[simp] theorem setVectorData_vectorDatas :
    (s.setVectorData key vd).vectorDatas = Function.update s.vectorDatas key vd := rfl

@[simp] theorem setVectorData_configMaps :
    (s.setVectorData key vd).configMaps = s.configMaps := rfl

@[simp] theorem setConfigMap_configMaps :
    (s.setConfigMap key cm).configMaps = Function.update s.configMaps key cm := rfl

@[simp] theorem setConfigMap_vectorDatas :
    (s.setConfigMap key cm).vectorDatas = s.vectorDatas := rfl

end Cluster

/-- A patch carries the list before and after the change: the request holds the new
list when the two differ, and nothing otherwise. -/
inductive Op where
  | getVectorData (key : NamespacedName)
  | patchFinalizers (key : NamespacedName) (before after : List String)
  | patchStatus (key : NamespacedName) (before after : List (Condition VectorDataCondition))
  | getConfigMap (key : NamespacedName)
  | createConfigMap (key : NamespacedName) (cm : ConfigMap)
  | deleteConfigMap (key : NamespacedName)

/-- A patch answers with the stored object, which replaces the local copy. -/
abbrev Res : Op → Type
  | .getVectorData _ => VectorData
  | .patchFinalizers _ _ _ => VectorData
  | .patchStatus _ _ _ => VectorData
  | .getConfigMap _ => ConfigMap
  | .createConfigMap _ _ => Unit
  | .deleteConfigMap _ => Unit

def notFound (resource name : String) : ApiError :=
  .notFound (resource ++ " \"" ++ name ++ "\" not found")

def alreadyExists (resource name : String) : ApiError :=
  .alreadyExists (resource ++ " \"" ++ name ++ "\" already exists")

/-- The finalizers of an object become `finalizers`. An object that is being deleted
gets no new ones, and is gone with its last one. -/
def writeFinalizers (key : NamespacedName) (vd : VectorData) (finalizers : List String)
    (s : Cluster) : Except ApiError VectorData × Cluster :=
  if vd.deleting ∧ ¬ finalizers ⊆ vd.finalizers then
    (.error (.fault "no new finalizers can be added if the object is being deleted"), s)
  else if vd.deleting ∧ finalizers = [] then
    (.ok { vd with finalizers := [] }, s.setVectorData key none)
  else
    (.ok { vd with finalizers := finalizers },
      s.setVectorData key (some { vd with finalizers := finalizers }))

/-- The API server. -/
def exec : Exec Op Res Cluster
  | .getVectorData key, s => match s.vectorDatas key with
    | none => (.error (notFound "vectordata" key.name), s)
    | some vd => (.ok vd, s)
  | .patchFinalizers key before after, s => match s.vectorDatas key with
    | none => (.error (notFound "vectordata" key.name), s)
    | some vd => if before = after then (.ok vd, s) else writeFinalizers key vd after s
  | .patchStatus key before after, s => match s.vectorDatas key with
    | none => (.error (notFound "vectordata" key.name), s)
    | some vd =>
      if before = after then (.ok vd, s)
      else (.ok { vd with conditions := after },
        s.setVectorData key (some { vd with conditions := after }))
  | .getConfigMap key, s => match s.configMaps key with
    | none => (.error (notFound "configmaps" key.name), s)
    | some cm => (.ok cm, s)
  | .createConfigMap key cm, s => match s.configMaps key with
    | some _ => (.error (alreadyExists "configmaps" key.name), s)
    | none => (.ok (), s.setConfigMap key (some cm))
  | .deleteConfigMap key, s => match s.configMaps key with
    | none => (.error (notFound "configmaps" key.name), s)
    | some _ => (.ok (), s.setConfigMap key none)

abbrev Program := Prog Op Res

def getVectorData (key : NamespacedName) : Program (Except ApiError VectorData) :=
  Prog.perform (Op.getVectorData key)

def patchFinalizers (key : NamespacedName) (before after : List String) :
    Program (Except ApiError VectorData) :=
  Prog.perform (Op.patchFinalizers key before after)

def patchStatus (key : NamespacedName) (before after : List (Condition VectorDataCondition)) :
    Program (Except ApiError VectorData) :=
  Prog.perform (Op.patchStatus key before after)

def getConfigMap (key : NamespacedName) : Program (Except ApiError ConfigMap) :=
  Prog.perform (Op.getConfigMap key)

def createConfigMap (key : NamespacedName) (cm : ConfigMap) : Program (Except ApiError Unit) :=
  Prog.perform (Op.createConfigMap key cm)

def deleteConfigMap (key : NamespacedName) : Program (Except ApiError Unit) :=
  Prog.perform (Op.deleteConfigMap key)

/-- `types.NamespacedName.String`. -/
def keyText (key : NamespacedName) : String := key.ns ++ "/" ++ key.name

/-- The ConfigMap of a VectorData. -/
def configMapKey (key : NamespacedName) : NamespacedName := ⟨key.ns, configMapPrefix ++ key.name⟩

def setReady (now : ℕ) (req : NamespacedName) (vd : VectorData) (status : ConditionStatus)
    (reason message : String) : Program (Except String Unit) := do
  let conditions := setStatusCondition now vd.conditions {
    type := .ready
    status := status
    reason := .text reason
    message := message
    observedGeneration := vd.generation
    lastTransitionTime := some now }
  match ← patchStatus req vd.conditions conditions with
  | .error e => return .error ("patch VectorData status: " ++ e.message)
  | .ok _ => return .ok ()

/-- The ConfigMap that is written for a VectorData. -/
def newConfigMap (req : NamespacedName) (vd : VectorData) (data : List (String × String)) :
    ConfigMap where
  labels := [(labelManagedBy, vectorDataControllerName), (labelVectorDataName, req.name),
    (labelVectorDataUID, vd.uid)]
  immutable := true
  data := data

/-- Create the ConfigMap and report. -/
def createAndReport (now : ℕ) (req : NamespacedName) (vd : VectorData)
    (data : List (String × String)) : Program (Except String Unit) := do
  match ← createConfigMap (configMapKey req) (newConfigMap req vd data) with
  | .error e =>
    let _ ← setReady now req vd .isFalse "ConfigMapCreateFailed" e.message
    return .error ("create ConfigMap " ++ keyText (configMapKey req) ++ ": " ++ e.message)
  | .ok _ =>
    setReady now req vd .isTrue "Materialized"
      ("ConfigMap " ++ (configMapKey req).name ++ " materialized")

section

variable (marshal : ComponentDeploymentResults → Except String String)
  (order : RangeOrder (String × ComponentDeploymentResults)) (now : ℕ)

/-- What follows once the finalizer is in place: `vd` is the local copy. -/
def materialize (req : NamespacedName) (vd : VectorData) : Program (Except String Unit) := do
  match renderData marshal order vd.spec with
  | .error err =>
    match ← setReady now req vd .isFalse "RenderFailed" err.message with
    | .error condErr => return .error condErr
    | .ok _ => return .error err.message
  | .ok data =>
    match ← getConfigMap (configMapKey req) with
    | .ok _ =>
      setReady now req vd .isTrue "Materialized"
        ("ConfigMap " ++ (configMapKey req).name ++ " already present")
    | .error e =>
      if e.isNotFound then createAndReport now req vd data
      else
        let _ ← setReady now req vd .isFalse "ConfigMapGetFailed" e.message
        return .error ("get ConfigMap " ++ keyText (configMapKey req) ++ ": " ++ e.message)

/-- Release the VectorData. -/
def removeFinalizer (req : NamespacedName) (vd : VectorData) : Program (Except String Unit) := do
  match ← patchFinalizers req vd.finalizers
      (vd.finalizers.filter fun f => f ≠ vectorDataFinalizer) with
  | .error e => return .error ("remove finalizer from VectorData " ++ keyText req ++ ": " ++ e.message)
  | .ok _ => return .ok ()

def handleDeletion (req : NamespacedName) (vd : VectorData) : Program (Except String Unit) := do
  if vectorDataFinalizer ∈ vd.finalizers then
    match ← deleteConfigMap (configMapKey req) with
    | .error e =>
      if e.isNotFound then removeFinalizer req vd
      else return .error ("delete ConfigMap " ++ keyText (configMapKey req) ++ " during teardown: "
        ++ e.message)
    | .ok _ => removeFinalizer req vd
  else return .ok ()

def reconcile (req : NamespacedName) : Program (Except String Unit) := do
  match ← getVectorData req with
  | .error e => if e.isNotFound then return .ok () else return .error e.message
  | .ok vd =>
    if vd.deleting then handleDeletion req vd
    else if vectorDataFinalizer ∈ vd.finalizers then materialize marshal order now req vd
    else
      match ← patchFinalizers req vd.finalizers (vd.finalizers ++ [vectorDataFinalizer]) with
      | .error e => return .error ("add finalizer to VectorData " ++ keyText req ++ ": " ++ e.message)
      | .ok vd => materialize marshal order now req vd

end

end LandscapeOrchestrator.VectorDataController
