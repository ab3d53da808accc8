import K8sR8r.FiniteMaps

/-!
# Kubernetes objects as the operator sees them

The parts of the Kubernetes object model that the operator's code reads or
writes: group/version/kinds, string maps, unstructured objects, API errors and
status conditions.

An unstructured object keeps the metadata that the code names apart from the
rest.  Every other top-level field is stored by field path together with the
JSON text of the leaf it holds, so that two objects agree on a field exactly
when they agree on its paths.
-/

namespace K8sR8r

/-- `map[string]string`: labels, annotations and other metadata. -/
abbrev StringMap := Finmap (fun _ : String => String)

/-- Go's `m[key]`: a missing key reads as the empty string. -/
def StringMap.get (map : StringMap) (key : String) : String :=
  (map.lookup key).getD ""

@[simp] theorem StringMap.get_insert_self (map : StringMap) (key value : String) :
    StringMap.get (map.insert key value) key = value := by
  simp [StringMap.get]

/-- Top-level fields by path, with the JSON text of each leaf. -/
abbrev FieldMap := Finmap (fun _ : List String => String)

structure GroupVersionKind where
  group : String
  version : String
  kind : String
  deriving DecidableEq

structure NamespacedName where
  ns : String
  name : String
  deriving DecidableEq

/-- An unstructured object.  `metadata` holds the metadata fields other than
name, namespace, UID, labels and annotations; `fields` holds everything outside
`apiVersion`, `kind` and `metadata`. -/
structure Unstructured where
  groupVersionKind : GroupVersionKind
  ns : String
  name : String
  uid : String
  labels : StringMap
  annotations : StringMap
  metadata : StringMap
  fields : FieldMap
  deriving DecidableEq

/-! ## API errors -/

/-- The error classes the code distinguishes (`apierrors.IsNotFound`,
`apierrors.IsInvalid`, `errors.Is(err, ErrClusterUnavailable)`, ...). -/
inductive ErrorReason where
  | notFound
  | alreadyExists
  | conflict
  | invalid
  | clusterUnavailable
  | other
  deriving DecidableEq

structure ApiError where
  reason : ErrorReason
  text : String
  deriving DecidableEq

def ApiError.isNotFound (err : ApiError) : Bool :=
  err.reason = .notFound

def ApiError.isInvalid (err : ApiError) : Bool :=
  err.reason = .invalid

abbrev ApiResult (α : Type) := Except ApiError α

/-! ## Text rendering -/

/-- Go's `%q` on the strings that occur in Kubernetes names and labels. -/
def quoted (text : String) : String :=
  "\"" ++ String.ofList (text.toList.flatMap fun c =>
    if c = '"' then ['\\', '"'] else if c = '\\' then ['\\', '\\'] else [c]) ++
    "\""

/-- Go's `%v` on a list of strings. -/
def bracketed (items : List String) : String :=
  "[" ++ String.intercalate " " items ++ "]"

/-- Go's `strings.HasPrefix`. -/
def hasPrefix (text start : String) : Bool :=
  start.toList.isPrefixOf text.toList

/-! ## Status conditions -/

inductive ConditionStatus where
  | conditionTrue
  | conditionFalse
  | conditionUnknown
  deriving DecidableEq

structure Condition where
  type : String
  status : ConditionStatus
  observedGeneration : Nat
  lastTransitionTime : Nat
  reason : String
  message : String
  deriving DecidableEq

/-- `meta.FindStatusCondition`. -/
def findStatusCondition (conditions : List Condition) (type : String) : Option Condition :=
  conditions.find? (fun condition => condition.type = type)

/-- The first condition of the given type, updated: the transition time moves
only when the status changes. -/
def updateStatusCondition (now : Nat) (fresh : Condition) : List Condition → List Condition
  | [] => []
  | condition :: rest =>
    if condition.type = fresh.type then
      { fresh with
        lastTransitionTime :=
          if condition.status = fresh.status then
            condition.lastTransitionTime
          else now } :: rest
    else condition :: updateStatusCondition now fresh rest

/-- `meta.SetStatusCondition` for a condition without a transition time. -/
def setStatusCondition (now : Nat) (conditions : List Condition) (fresh : Condition) :
    List Condition :=
  match findStatusCondition conditions fresh.type with
  | none => conditions ++ [{ fresh with lastTransitionTime := now }]
  | some _ => updateStatusCondition now fresh conditions

/-- `meta.RemoveStatusCondition`. -/
def removeStatusCondition (conditions : List Condition) (type : String) : List Condition :=
  conditions.filter (fun condition => condition.type ≠ type)

theorem findStatusCondition_update (now : Nat) (fresh condition : Condition)
    (conditions : List Condition)
    (hfind : findStatusCondition conditions fresh.type = some condition) :
    ∃ time, findStatusCondition (updateStatusCondition now fresh conditions) fresh.type =
      some { fresh with lastTransitionTime := time } := by
  induction conditions with
  | nil => simp [findStatusCondition] at hfind
  | cons head rest ih =>
    by_cases htype : head.type = fresh.type
    · exact ⟨_, by
        simp only [updateStatusCondition, if_pos htype, findStatusCondition]
        exact List.find?_cons_of_pos (by simp)⟩
    · simp only [findStatusCondition, List.find?_cons, htype, decide_false] at hfind
      rw [updateStatusCondition, if_neg htype]
      simp only [findStatusCondition, List.find?_cons, htype, decide_false]
      exact ih hfind

/-- After `setStatusCondition` the condition of that type is the new one, up to
its transition time. -/
theorem findStatusCondition_set (now : Nat) (conditions : List Condition) (fresh : Condition) :
    ∃ time, findStatusCondition (setStatusCondition now conditions fresh) fresh.type =
      some { fresh with lastTransitionTime := time } := by
  unfold setStatusCondition
  cases hfind : findStatusCondition conditions fresh.type with
  | none =>
    refine ⟨now, ?_⟩
    simp only [findStatusCondition] at hfind ⊢
    simp [List.find?_append, hfind]
  | some condition =>
    exact findStatusCondition_update now fresh condition conditions hfind

theorem findStatusCondition_update_of_ne (now : Nat) (fresh : Condition)
    (conditions : List Condition) {type : String} (hne : type ≠ fresh.type) :
    findStatusCondition (updateStatusCondition now fresh conditions) type =
      findStatusCondition conditions type := by
  induction conditions with
  | nil => rfl
  | cons head rest ih =>
    by_cases htype : head.type = fresh.type
    · simp [updateStatusCondition, htype, findStatusCondition, Ne.symm hne]
    · rw [updateStatusCondition, if_neg htype]
      simp only [findStatusCondition, List.find?_cons] at ih ⊢
      rw [ih]

theorem findStatusCondition_set_of_ne (now : Nat) (conditions : List Condition)
    (fresh : Condition) {type : String} (hne : type ≠ fresh.type) :
    findStatusCondition (setStatusCondition now conditions fresh) type =
      findStatusCondition conditions type := by
  unfold setStatusCondition
  cases hfind : findStatusCondition conditions fresh.type with
  | none =>
    simp [findStatusCondition, List.find?_append, Ne.symm hne]
  | some condition =>
    exact findStatusCondition_update_of_ne now fresh conditions hne

end K8sR8r
