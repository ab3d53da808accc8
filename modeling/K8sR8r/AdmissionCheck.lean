import K8sR8r.AnnotationContract

/-!
# The admission-time policy check

`internal/webhook`: the advisory check that runs before a source object is
stored.  It sees neither namespace labels nor the cluster inventory, so it
denies only what no policy could ever allow.  The cluster dimension is a search
for a contradiction between two label selectors; the search keeps an abstract
value for every label key, and a cluster that both selectors match lies in its
concretisation.
-/

namespace K8sR8r

/-! ## The parsed request -/

def knownKeys : List String := keySourceHash :: requestKeys

/-- `parsedRequest`: no selector when the annotation is absent or empty. -/
structure ParsedRequest where
  optedIn : Bool
  clusterSelector : Option Selector
  clusterSelectorRaw : String
  emptyClusterSelector : Bool
  targetNamespaces : List String
  targetName : String
  conflictPolicy : ConflictPolicy
  unknownKeys : List String

def isUnknownKey (key : String) : Bool :=
  hasPrefix key annotationStart && !knownKeys.contains key

/-- `parseRequest`, with the error of the shared parser beside the result. -/
def parseRequest (library : ParserLibrary) (ann : StringMap) (sourceNamespace : String) :
    ParsedRequest × Option (List String) :=
  let filtered : StringMap := ann.filterKeys fun key => !isUnknownKey key
  let rawSelector := filtered.lookup keyTargetClusters
  let emptySelector :=
    rawSelector.isSome && trimSpace (rawSelector.getD "") = ""
  let p : ParsedRequest :=
    { optedIn := replicates filtered
      clusterSelector := none
      clusterSelectorRaw := rawSelector.getD ""
      emptyClusterSelector := emptySelector
      targetNamespaces := []
      targetName := ""
      conflictPolicy := defaultConflictPolicy
      unknownKeys := ann.sortedKeys.filter isUnknownKey }
  match parseAnnotations library filtered with
  | .error errs => (p, some errs)
  | .ok none => (p, none)
  | .ok (some req) =>
    ({ p with
        clusterSelector :=
          if rawSelector.isSome && !emptySelector then
            some req.clusterSelector
          else none
        targetNamespaces := req.effectiveNamespaces sourceNamespace
        targetName := req.targetName
        conflictPolicy := req.conflictPolicy },
      none)

/-! ## Joint satisfiability of two selectors -/

/-- What the requirements on one label key ask for together.  `positive` is the
intersection of the allowed values, `none` while unconstrained; `negative` is
the union of the forbidden ones. -/
structure KeyState where
  positive : Option (List String)
  negative : List String
  mustExist : Bool
  mustNotExist : Bool
  deriving DecidableEq

namespace KeyState

def unconstrained : KeyState := ⟨none, [], false, false⟩

def require (state : KeyState) (requirement : Requirement) : KeyState :=
  match requirement.operator with
  | .equals | .doubleEquals | .inSet =>
    { state with
      mustExist := true
      positive := some (match state.positive with
        | none => requirement.values
        | some allowed => allowed.filter requirement.values.contains) }
  | .notEquals | .notIn =>
    { state with negative := state.negative ++ requirement.values }
  | .existsKey => { state with mustExist := true }
  | .doesNotExist => { state with mustNotExist := true }
  | .greaterThan | .lessThan => { state with mustExist := true }

def contradictory (state : KeyState) : Bool :=
  (state.mustNotExist && (state.mustExist || state.positive.isSome)) ||
    match state.positive with
    | none => false
    | some allowed =>
      (allowed.filter fun value => !state.negative.contains value).isEmpty

/-- The values of the key, absence included, that the state leaves open. -/
structure Admits (state : KeyState) (found : Option String) : Prop where
  positive : ∀ allowed, state.positive = some allowed →
    ∃ value ∈ allowed, found = some value
  negative : ∀ value, found = some value → value ∉ state.negative
  present : state.mustExist = true → found.isSome = true
  absent : state.mustNotExist = true → found = none

theorem unconstrained_admits (found : Option String) : unconstrained.Admits found where
  positive := by
    intro allowed hallowed
    cases hallowed
  negative := by
    intro value _
    exact List.not_mem_nil
  present := by
    intro h
    cases h
  absent := by
    intro h
    cases h

variable {state : KeyState} {found : Option String}

theorem Admits.requireOneOf {value : String} {values : List String}
    (hadmits : state.Admits (some value)) (hvalue : value ∈ values) :
    ({ state with
        mustExist := true
        positive := some (match state.positive with
          | none => values
          | some allowed => allowed.filter values.contains) } :
      KeyState).Admits (some value) := by
  refine ⟨?_, hadmits.negative, fun _ => rfl, hadmits.absent⟩
  intro allowed hallowed
  refine ⟨value, ?_, rfl⟩
  cases hpositive : state.positive with
  | none =>
    rw [hpositive] at hallowed
    cases hallowed
    exact hvalue
  | some before =>
    rw [hpositive] at hallowed
    cases hallowed
    obtain ⟨other, hother, heq⟩ := hadmits.positive before hpositive
    cases heq
    simp [hother, hvalue]

theorem Admits.forbid {values : List String} (hadmits : state.Admits found)
    (hfound : ∀ value, found = some value → value ∉ values) :
    ({ state with negative := state.negative ++ values } :
      KeyState).Admits found := by
  refine ⟨hadmits.positive, ?_, hadmits.present, hadmits.absent⟩
  intro value hvalue hmem
  rcases List.mem_append.mp hmem with hbefore | hnew
  · exact hadmits.negative value hvalue hbefore
  · exact hfound value hvalue hnew

theorem Admits.requirePresent (hadmits : state.Admits found) (hfound : found.isSome = true) :
    ({ state with mustExist := true } : KeyState).Admits found :=
  ⟨hadmits.positive, hadmits.negative, fun _ => hfound, hadmits.absent⟩

/-- A requirement that the labels meet takes no value away from its key that
the labels have. -/
theorem Admits.require {requirement : Requirement} {labels : StringMap}
    (hadmits : state.Admits (labels.lookup requirement.key))
    (hmatches : requirement.matches labels = true) :
    (state.require requirement).Admits (labels.lookup requirement.key) := by
  unfold KeyState.require
  unfold Requirement.matches at hmatches
  cases hfound : labels.lookup requirement.key with
  | none =>
    rw [hfound] at hadmits hmatches
    cases hoperator : requirement.operator <;>
      rw [hoperator] at hmatches <;> dsimp only at hmatches ⊢
    case doesNotExist =>
      exact ⟨hadmits.positive, hadmits.negative, hadmits.present, fun _ => rfl⟩
    case notEquals => exact hadmits.forbid (by simp)
    case notIn => exact hadmits.forbid (by simp)
    all_goals exact absurd hmatches (by simp)
  | some value =>
    rw [hfound] at hadmits hmatches
    cases hoperator : requirement.operator <;>
      rw [hoperator] at hmatches <;> dsimp only at hmatches ⊢
    case doesNotExist => exact absurd hmatches (by simp)
    case equals => exact hadmits.requireOneOf (by simpa using hmatches)
    case doubleEquals =>
      exact hadmits.requireOneOf (by simpa using hmatches)
    case inSet => exact hadmits.requireOneOf (by simpa using hmatches)
    case notEquals =>
      apply hadmits.forbid
      intro other hother
      cases hother
      simpa using hmatches
    case notIn =>
      apply hadmits.forbid
      intro other hother
      cases hother
      simpa using hmatches
    all_goals exact hadmits.requirePresent rfl

theorem Admits.not_contradictory (hadmits : state.Admits found) : state.contradictory = false := by
  unfold contradictory
  rw [Bool.or_eq_false_iff]
  constructor
  · rw [Bool.and_eq_false_iff]
    by_cases habsent : state.mustNotExist = true
    · right
      have hnone := hadmits.absent habsent
      have hexist : state.mustExist = false := by
        rw [← Bool.not_eq_true]
        intro hexist
        have hsome := hadmits.present hexist
        rw [hnone] at hsome
        cases hsome
      cases hpositive : state.positive with
      | none => simp [hexist]
      | some allowed =>
        obtain ⟨value, _, hfound⟩ := hadmits.positive allowed hpositive
        rw [hnone] at hfound
        cases hfound
    · left
      simpa using habsent
  · cases hpositive : state.positive with
    | none => rfl
    | some allowed =>
      obtain ⟨value, hmem, hfound⟩ := hadmits.positive allowed hpositive
      have hfree := hadmits.negative value hfound
      have hleft : value ∈ allowed.filter fun value => !state.negative.contains value := by
        simp [hmem, hfree]
      simpa [List.isEmpty_iff] using List.ne_nil_of_mem hleft

end KeyState

/-- The states of all keys; a key that no requirement names is
unconstrained. -/
def keyStates (requirements : List Requirement) : String → KeyState :=
  requirements.foldl (fun states requirement => Function.update states requirement.key
      ((states requirement.key).require requirement))
    (fun _ => KeyState.unconstrained)

def jointlySatisfiable (a b : Selector) : Bool :=
  match a, b with
  | .requirements reqsA, .requirements reqsB =>
    let reqs := reqsA ++ reqsB
    let states := keyStates reqs
    (reqs.map Requirement.key).all fun key => !(states key).contradictory
  | _, _ => false

theorem keyStates_admitted {requirements : List Requirement} {labels : StringMap}
    (hmatches : ∀ requirement ∈ requirements, requirement.matches labels = true) (key : String) :
    (keyStates requirements key).Admits (labels.lookup key) := by
  unfold keyStates
  -- The labels stay admitted at every key while the requirements are folded in.
  have hfold : ∀ states : String → KeyState, (∀ key, (states key).Admits (labels.lookup key)) →
      ∀ key, (requirements.foldl (fun states requirement => Function.update states requirement.key
          ((states requirement.key).require requirement)) states key).Admits
        (labels.lookup key) := by
    induction requirements with
    | nil =>
      intro states hstates
      exact hstates
    | cons requirement rest ih =>
      intro states hstates
      rw [List.foldl_cons]
      apply ih fun other hother =>
        hmatches other (List.mem_cons_of_mem _ hother)
      intro other
      by_cases hkey : other = requirement.key
      · subst hkey
        rw [Function.update_self]
        exact (hstates _).require (hmatches _ List.mem_cons_self)
      · rw [Function.update_of_ne hkey]
        exact hstates other
  exact hfold _ (fun _ => KeyState.unconstrained_admits _) key

theorem jointlySatisfiable_of_matches {a b : Selector} {labels : StringMap}
    (ha : a.matches labels = true) (hb : b.matches labels = true) :
    jointlySatisfiable a b = true := by
  cases a with
  | nothing => simp [Selector.matches] at ha
  | requirements reqsA =>
    cases b with
    | nothing => simp [Selector.matches] at hb
    | requirements reqsB =>
      simp only [Selector.matches, List.all_eq_true] at ha hb
      have hall : ∀ requirement ∈ reqsA ++ reqsB, requirement.matches labels = true := by
        intro requirement hmem
        rcases List.mem_append.mp hmem with hleft | hright
        · exact ha requirement hleft
        · exact hb requirement hright
      simp only [jointlySatisfiable, List.all_eq_true]
      intro key _
      rw [(keyStates_admitted hall key).not_contradictory]
      rfl

/-! ## The dimensions -/

structure Denial where
  dimension : Dimension
  message : String

def policiesForSourceNamespace (policies : List ReplicationPolicy) (sourceNamespace : String) :
    List ReplicationPolicy :=
  policies.filter fun p =>
    p.sources.namespaces.contains sourceNamespace || p.sources.namespaceSelector.isSome

def policiesForKind (policies : List ReplicationPolicy) (kind : String) : List ReplicationPolicy :=
  policies.filter fun p => p.sources.kinds.contains kind

def policiesForTargetNamespace (policies : List ReplicationPolicy) (tns : String) :
    List ReplicationPolicy :=
  policies.filter fun p => p.targets.namespaces.contains tns

/-- The policy could select a cluster that the requested selector matches; an
invalid policy selector fails closed. -/
def ReplicationPolicy.couldSelect (policy : ReplicationPolicy) (requested : Selector) : Bool :=
  match labelSelectorAsSelector policy.targets.clusterSelector with
  | none => false
  | some psel => jointlySatisfiable requested psel

/-- The checks for one requested target namespace. -/
def checkTargetNamespace (kindMatched : List ReplicationPolicy) (req : ParsedRequest)
    (tns : String) : Option Denial :=
  let tnsMatched := policiesForTargetNamespace kindMatched tns
  if tnsMatched.isEmpty then
    some ⟨.targetNamespace,
      "no ReplicationPolicy matching the source allowlists target namespace " ++ quoted tns ++ "."⟩
  else
    match req.clusterSelector with
    | none => none
    | some selector =>
      if tnsMatched.any fun p => p.couldSelect selector then none
      else
        some ⟨.targetCluster, "requested cluster selector " ++ quoted req.clusterSelectorRaw ++
            " cannot match any cluster permitted by a ReplicationPolicy " ++
            "that also allows target namespace " ++ quoted tns ++ "."⟩

def checkPolicies (policies : List ReplicationPolicy) (kind sourceNamespace : String)
    (req : ParsedRequest) : Option Denial :=
  if policies.isEmpty then
    some ⟨.noPolicies, "no ReplicationPolicy objects exist; replication is denied by default."⟩
  else
    let nsMatched := policiesForSourceNamespace policies sourceNamespace
    if nsMatched.isEmpty then
      some ⟨.sourceNamespace, "no ReplicationPolicy allowlists source namespace " ++
          quoted sourceNamespace ++ "."⟩
    else
      let kindMatched := policiesForKind nsMatched kind
      if kindMatched.isEmpty then
        some ⟨.sourceKind, "no ReplicationPolicy matching source namespace " ++
            quoted sourceNamespace ++ " allowlists kind " ++ quoted kind ++
            "."⟩
      else req.targetNamespaces.findSome? (checkTargetNamespace kindMatched req)

/-! ## Soundness of a denial -/

def ParsedRequest.Selects (req : ParsedRequest) (labels : StringMap) : Prop :=
  ∀ selector, req.clusterSelector = some selector → selector.matches labels = true

section

variable {policies : List ReplicationPolicy} {policy : ReplicationPolicy} {src : PolicySource}
  {tgt : PolicyTarget} {req : ParsedRequest}

theorem mem_policiesForSourceNamespace (hmem : policy ∈ policies)
    (hmatch : matchSourceNamespace policy.sources src = true) :
    policy ∈ policiesForSourceNamespace policies src.ns := by
  refine List.mem_filter.mpr ⟨hmem, ?_⟩
  unfold matchSourceNamespace at hmatch
  by_cases hlisted : policy.sources.namespaces.contains src.ns = true
  · rw [hlisted]
    rfl
  · rw [if_neg hlisted] at hmatch
    cases hselector : policy.sources.namespaceSelector with
    | none =>
      rw [hselector] at hmatch
      cases hmatch
    | some selector => simp

theorem mem_kindMatched_of_permits (hmem : policy ∈ policies) (hpermits : policy.Permits src tgt) :
    policy ∈ policiesForKind (policiesForSourceNamespace policies src.ns) src.kind := by
  obtain ⟨hns, hkind, _, _⟩ := hpermits
  refine List.mem_filter.mpr ⟨mem_policiesForSourceNamespace hmem hns, ?_⟩
  simpa using hkind

theorem couldSelect_of_permits {requested : Selector} (hpermits : policy.Permits src tgt)
    (hmatches : requested.matches tgt.clusterLabels = true) :
    policy.couldSelect requested = true := by
  obtain ⟨_, _, hcluster, _⟩ := hpermits
  unfold selectorMatches at hcluster
  unfold ReplicationPolicy.couldSelect
  cases hselector : labelSelectorAsSelector policy.targets.clusterSelector with
  | none =>
    rw [hselector] at hcluster
    cases hcluster
  | some psel =>
    rw [hselector] at hcluster
    exact jointlySatisfiable_of_matches hmatches hcluster

theorem checkTargetNamespace_of_permits {kindMatched : List ReplicationPolicy}
    (hmem : policy ∈ kindMatched) (hpermits : policy.Permits src tgt)
    (hselects : req.Selects tgt.clusterLabels) :
    checkTargetNamespace kindMatched req tgt.ns = none := by
  have htns : policy ∈ policiesForTargetNamespace kindMatched tgt.ns := by
    refine List.mem_filter.mpr ⟨hmem, ?_⟩
    simpa using hpermits.2.2.2
  unfold checkTargetNamespace
  dsimp only
  rw [if_neg (by simpa [List.isEmpty_iff] using List.ne_nil_of_mem htns)]
  cases hselector : req.clusterSelector with
  | none => rfl
  | some selector =>
    have hcould := couldSelect_of_permits hpermits (hselects selector hselector)
    exact if_pos (List.any_eq_true.mpr ⟨policy, htns, hcould⟩)

theorem checkPolicies_eq_none {kind sourceNamespace : String}
    (hnonempty : req.targetNamespaces ≠ [])
    (hpermitted : ∀ tns ∈ req.targetNamespaces,
      ∃ policy ∈ policies, ∃ namespaceLabels clusterName clusterLabels, req.Selects clusterLabels ∧
        policy.Permits ⟨kind, sourceNamespace, namespaceLabels⟩ ⟨clusterName, clusterLabels, tns⟩) :
    checkPolicies policies kind sourceNamespace req = none := by
  obtain ⟨first, hfirst⟩ := List.exists_mem_of_ne_nil _ hnonempty
  obtain ⟨policy, hmem, namespaceLabels, clusterName, clusterLabels, _,
    hpermits⟩ := hpermitted first hfirst
  have hns := mem_policiesForSourceNamespace hmem hpermits.1
  have hkind := mem_kindMatched_of_permits hmem hpermits
  unfold checkPolicies
  dsimp only at hns hkind ⊢
  rw [if_neg (by simpa [List.isEmpty_iff] using List.ne_nil_of_mem hmem),
    if_neg (by simpa [List.isEmpty_iff] using List.ne_nil_of_mem hns),
    if_neg (by simpa [List.isEmpty_iff] using List.ne_nil_of_mem hkind),
    List.findSome?_eq_none_iff]
  intro tns htns
  obtain ⟨other, hother, labels, name, clusterLabels, hselects, hpermits⟩ :=
    hpermitted tns htns
  exact checkTargetNamespace_of_permits
    (mem_kindMatched_of_permits hother hpermits) hpermits hselects

theorem effectiveNamespaces_ne_nil (req : AnnotationRequest) (sourceNamespace : String) :
    req.effectiveNamespaces sourceNamespace ≠ [] := by
  unfold AnnotationRequest.effectiveNamespaces
  split_ifs with hempty
  · simp
  · simpa [List.isEmpty_iff] using hempty

theorem parseAnnotations_of_replicates {library : ParserLibrary} {ann : StringMap}
    (hreplicates : replicates ann = true) :
    parseAnnotations library ann ≠ .ok none := by
  have hlookup : ann.lookup keyReplicate = some "true" := by
    have hget : StringMap.get ann keyReplicate = "true" := by
      simpa [replicates] using hreplicates
    unfold StringMap.get at hget
    cases hfound : ann.lookup keyReplicate with
    | none =>
      rw [hfound] at hget
      exact absurd hget (by decide)
    | some value =>
      rw [hfound] at hget
      exact congrArg some hget
  have hopted : parseOptional ann keyReplicate false parseReplicate = (true, []) := by
    simp [parseOptional, hlookup, parseReplicate]
  unfold parseAnnotations
  rw [hopted]
  dsimp only
  split_ifs <;> simp_all

theorem parseRequest_targetNamespaces {library : ParserLibrary} {ann : StringMap}
    {sourceNamespace : String} (hparse : parseRequest library ann sourceNamespace = (req, none))
    (hopted : req.optedIn = true) : req.targetNamespaces ≠ [] := by
  unfold parseRequest at hparse
  dsimp only at hparse
  split at hparse
  · cases hparse
  · rename_i hnone
    cases hparse
    exact absurd hnone (parseAnnotations_of_replicates hopted)
  · cases hparse
    exact effectiveNamespaces_ne_nil _ _

/-- Whatever the labels of the source namespace and of a cluster the request
selects, the reconcile-time evaluation refuses some requested namespace of a
request that was denied at admission. -/
theorem admission_denial_sound (library : ParserLibrary) (ann : StringMap)
    (policies : List ReplicationPolicy) (kind sourceNamespace : String) (req : ParsedRequest)
    (denial : Denial)
    (hparse : parseRequest library ann sourceNamespace = (req, none))
    (hopted : req.optedIn = true)
    (hdenial : checkPolicies policies kind sourceNamespace req = some denial) :
    ∃ tns ∈ req.targetNamespaces,
      ∀ (namespaceLabels clusterLabels : StringMap) (clusterName : String),
        req.Selects clusterLabels →
        ∀ (targets : List PolicyTarget) (position : Nat),
          targets[position]? = some ⟨clusterName, clusterLabels, tns⟩ →
          ((evaluate ⟨⟨kind, sourceNamespace, namespaceLabels⟩, targets⟩
            policies).decisions[position]?).map Decision.allowed =
            some false := by
  by_contra hno
  push Not at hno
  have hpermitted : ∀ tns ∈ req.targetNamespaces,
      ∃ policy ∈ policies, ∃ namespaceLabels clusterName clusterLabels, req.Selects clusterLabels ∧
        policy.Permits ⟨kind, sourceNamespace, namespaceLabels⟩
          ⟨clusterName, clusterLabels, tns⟩ := by
    intro tns htns
    obtain ⟨namespaceLabels, clusterLabels, clusterName, hselects, targets,
      position, htarget, hallowed⟩ := hno tns htns
    have hdecided : (decideTarget ⟨kind, sourceNamespace, namespaceLabels⟩
        ⟨clusterName, clusterLabels, tns⟩ policies).allowed = true := by
      simpa [htarget] using hallowed
    obtain ⟨policy, hmem, hpermits⟩ :=
      (decideTarget_allowed_iff _ _ _).mp hdecided
    exact ⟨policy, hmem, namespaceLabels, clusterName, clusterLabels, hselects, hpermits⟩
  have hnone := checkPolicies_eq_none (parseRequest_targetNamespaces hparse hopted) hpermitted
  rw [hnone] at hdenial
  cases hdenial

end

namespace Sample

def admissionLibrary : ParserLibrary where
  parseSelector := fun text =>
    if text = "env=prod" then
      .ok (.requirements [⟨"env", .equals, ["prod"]⟩])
    else .error "unsupported"
  labelProblems := fun _ => "invalid"
  subdomainProblems := fun _ => "invalid"

def admissionAnnotations : StringMap :=
  ((∅ : StringMap).insert keyReplicate "true").insert keyTargetClusters "env=prod"

def stagingPolicy : ReplicationPolicy where
  name := "staging"
  sources := ⟨["team"], none, ["Secret"]⟩
  targets := ⟨⟨[("env", "staging")], []⟩, ["team"]⟩
  options := ⟨false, [], none⟩

end Sample

open Sample

/-- A request for production clusters under a policy for staging ones. -/
theorem admission_denial_sound_sample :
    ∃ req denial,
      parseRequest admissionLibrary admissionAnnotations "team" = (req, none) ∧
      req.optedIn = true ∧
      checkPolicies [stagingPolicy] "Secret" "team" req = some denial ∧
      denial.dimension = .targetCluster ∧
      ∃ tns ∈ req.targetNamespaces,
        ∀ (namespaceLabels clusterLabels : StringMap) (clusterName : String),
          req.Selects clusterLabels →
          ∀ (targets : List PolicyTarget) (position : Nat),
            targets[position]? = some ⟨clusterName, clusterLabels, tns⟩ →
            ((evaluate ⟨⟨"Secret", "team", namespaceLabels⟩, targets⟩
              [stagingPolicy]).decisions[position]?).map Decision.allowed =
              some false := by
  obtain ⟨denial, hdenial, hdimension⟩ :
      ∃ denial, checkPolicies [stagingPolicy] "Secret" "team"
        (parseRequest admissionLibrary admissionAnnotations
          "team").1 = some denial ∧ denial.dimension = .targetCluster := by
    refine ⟨_, rfl, ?_⟩
    decide +kernel
  have hparse : parseRequest admissionLibrary admissionAnnotations "team" =
        ((parseRequest admissionLibrary admissionAnnotations
          "team").1, none) := Prod.ext rfl (by decide +kernel)
  have hopted : (parseRequest admissionLibrary
      admissionAnnotations "team").1.optedIn = true := by
    decide +kernel
  exact ⟨_, denial, hparse, hopted, hdenial, hdimension,
    admission_denial_sound _ _ _ _ _ _ _ hparse hopted hdenial⟩

end K8sR8r
