import K8sR8r.RetentionDecisions

/-!
# Which revocations are found

The engine finds revocations in two ways: `DetectRevocations` compares the
previous evaluation with the current one, and `addInventoryRevocations` adds one
for every denied target that still has recorded replicas.  When every evaluation
has at most one decision for a cluster and namespace, the two together find each
lost permission once, and nothing else.
-/

namespace K8sR8r

/-- What targets are told apart by. -/
def PolicyTarget.clusterAndNamespace (target : PolicyTarget) : String × String :=
  (target.clusterName, target.ns)

abbrev Decision.place (dec : Decision) : String × String :=
  dec.target.clusterAndNamespace

abbrev Revocation.place (rev : Revocation) : String × String :=
  rev.target.clusterAndNamespace

/-- One decision for a cluster and namespace. -/
def PolicyResult.Distinct (result : PolicyResult) : Prop :=
  (result.decisions.map Decision.place).Nodup
deriving Decidable

def PolicyResult.Allows (result : PolicyResult) (place : String × String) :
    Prop :=
  ∃ dec ∈ result.decisions, dec.place = place ∧ dec.allowed = true

theorem place_eq_iff {target other : PolicyTarget} :
    target.clusterAndNamespace = other.clusterAndNamespace ↔
      target.clusterName = other.clusterName ∧ target.ns = other.ns :=
  Prod.mk_inj

theorem PolicyResult.Distinct.eq_of_place {result : PolicyResult} (distinct : result.Distinct)
    {dec other : Decision} (hdec : dec ∈ result.decisions) (hother : other ∈ result.decisions)
    (hplace : dec.place = other.place) : dec = other :=
  List.inj_on_of_nodup_map distinct hdec hother hplace

/-! ## Comparing two evaluations -/

section Detected

variable {previous current : PolicyResult}

theorem currentByKey_eq_some_iff (distinct : current.Distinct) {target : PolicyTarget}
    {dec : Decision} :
    currentByKey current target.clusterName target.ns = some dec ↔
      dec ∈ current.decisions ∧ dec.place = target.clusterAndNamespace := by
  constructor
  · intro hfound
    obtain ⟨hmem, hcluster, hns⟩ := currentByKey_some hfound
    exact ⟨hmem, place_eq_iff.mpr ⟨hcluster, hns⟩⟩
  · intro ⟨hmem, hplace⟩
    obtain ⟨hcluster, hns⟩ := place_eq_iff.mp hplace
    obtain ⟨found, hfound⟩ := currentByKey_isSome hmem
    obtain ⟨hfoundMem, hfoundCluster, hfoundNs⟩ := currentByKey_some hfound
    have hsame : found = dec := distinct.eq_of_place hfoundMem hmem
      (place_eq_iff.mpr ⟨hfoundCluster, hfoundNs⟩)
    rw [← hcluster, ← hns, hfound, hsame]

theorem detectRevocation_place {dec : Decision} {rev : Revocation}
    (hrev : detectRevocation current dec = some rev) : rev.place = dec.place := by
  unfold detectRevocation at hrev
  split_ifs at hrev
  split at hrev
  · cases hrev
    rfl
  · split_ifs at hrev
    cases hrev
    rfl

theorem detectRevocations_nodup (distinct : previous.Distinct) :
    ((detectRevocations previous current).map Revocation.place).Nodup := by
  unfold PolicyResult.Distinct at distinct
  rw [detectRevocations, List.Nodup, List.pairwise_map, List.pairwise_filterMap]
  rw [List.Nodup, List.pairwise_map] at distinct
  refine distinct.imp ?_
  intro dec other hne rev hrev otherRev hotherRev
  rw [detectRevocation_place hrev, detectRevocation_place hotherRev]
  exact hne

end Detected

/-! ## Adding what the inventory implies -/

def implies (revocations : List Revocation) (inv : List InventoryEntry) (dec : Decision) : Bool :=
  !dec.allowed && !(revocations.map Revocation.place).contains dec.place &&
    !(entriesInNamespace inv dec.target.clusterName dec.target.ns).isEmpty

theorem skips_eq_not_implies (revocations : List Revocation) (inv : List InventoryEntry)
    (dec : Decision) :
    (dec.allowed || revocations.any (fun rev =>
        rev.target.clusterName = dec.target.clusterName && rev.target.ns = dec.target.ns) ||
      (entriesInNamespace inv dec.target.clusterName dec.target.ns).isEmpty) =
    !implies revocations inv dec := by
  have hany : revocations.any (fun rev =>
      rev.target.clusterName = dec.target.clusterName && rev.target.ns = dec.target.ns) =
      (revocations.map Revocation.place).contains dec.place := by
    rw [Bool.eq_iff_iff]
    simp [PolicyTarget.clusterAndNamespace]
  rw [hany]
  simp [implies, Bool.or_assoc]

theorem implies_append {revocations : List Revocation} {inv : List InventoryEntry}
    {dec other : Decision} (hne : other.place ≠ dec.place) :
    implies (revocations ++ [impliedRevocation dec]) inv other = implies revocations inv other := by
  have hplace : (impliedRevocation dec).place = dec.place := rfl
  simp [implies, hplace, hne]

/-- With one decision for a place, what is added does not depend on what was
added before it. -/
theorem addInventoryRevocations_eq {current : PolicyResult} (distinct : current.Distinct)
    (revocations : List Revocation) (inv : List InventoryEntry) :
    addInventoryRevocations revocations current inv =
      revocations ++
        (current.decisions.filter (implies revocations inv)).map impliedRevocation := by
  unfold PolicyResult.Distinct at distinct
  unfold addInventoryRevocations
  generalize current.decisions = decisions at distinct
  induction decisions generalizing revocations with
  | nil => simp
  | cons dec rest ih =>
    rw [List.map_cons, List.nodup_cons] at distinct
    have hothers : ∀ other ∈ rest, other.place ≠ dec.place :=
      fun other hmem hplace =>
        distinct.1 (List.mem_map.mpr ⟨other, hmem, hplace⟩)
    rw [List.foldl_cons, skips_eq_not_implies, List.filter_cons]
    cases himplies : implies revocations inv dec with
    | false => simpa using ih revocations distinct.2
    | true =>
      have hfilter : rest.filter (implies (revocations ++ [impliedRevocation dec]) inv) =
          rest.filter (implies revocations inv) :=
        List.filter_congr fun other hmem =>
          implies_append (hothers other hmem)
      have hrest := ih (revocations ++ [impliedRevocation dec]) distinct.2
      rw [hfilter] at hrest
      simp only [Bool.not_true, Bool.false_eq_true, if_false, if_true, List.map_cons]
      exact hrest.trans (List.append_assoc _ _ _)

/-! ## The revocations of a reconcile -/

section Found

variable {previous current : PolicyResult} {inv : List InventoryEntry}

variable {dec : Decision} {rev : Revocation} {place : String × String}

theorem implies_iff {revocations : List Revocation} :
    implies revocations inv dec = true ↔
      dec.allowed = false ∧ (∀ rev ∈ revocations, rev.place ≠ dec.place) ∧
        entriesInNamespace inv dec.target.clusterName dec.target.ns ≠ [] := by
  simp [implies, and_assoc]

theorem mem_found_iff (distinct : current.Distinct) :
    rev ∈ addInventoryRevocations (detectRevocations previous current) current inv ↔
      rev ∈ detectRevocations previous current ∨ ∃ dec ∈ current.decisions,
          implies (detectRevocations previous current) inv dec = true ∧
            rev = impliedRevocation dec := by
  rw [addInventoryRevocations_eq distinct]
  simp only [List.mem_append, List.mem_map, List.mem_filter, and_assoc]
  simp only [eq_comm]

theorem detected_of_allows (hallowed : previous.Allows place)
    (hnow : ∀ dec ∈ current.decisions, dec.place = place → dec.allowed = false) :
    ∃ rev ∈ detectRevocations previous current, rev.place = place := by
  obtain ⟨prev, hmem, rfl, hprev⟩ := hallowed
  refine ⟨⟨prev.target, prev, currentByKey current prev.target.clusterName prev.target.ns⟩, ?_, rfl⟩
  refine (mem_detectRevocations_iff _ _ _).mpr ⟨hmem, hprev, rfl, rfl, ?_⟩
  intro dec hdec
  obtain ⟨hdecMem, hcluster, hns⟩ := currentByKey_some hdec
  exact hnow dec hdecMem (place_eq_iff.mpr ⟨hcluster, hns⟩)

theorem current_of_detected (distinct : current.Distinct)
    (hrev : rev ∈ detectRevocations previous current) :
    rev.current = some dec ↔ dec ∈ current.decisions ∧ dec.place = rev.place := by
  obtain ⟨_, _, _, hcurrent, _⟩ := (mem_detectRevocations_iff _ _ _).mp hrev
  rw [hcurrent]
  exact currentByKey_eq_some_iff distinct

theorem allows_of_detected (hrev : rev ∈ detectRevocations previous current) :
    previous.Allows rev.place := by
  obtain ⟨hmem, hallowed, htarget, _⟩ :=
    (mem_detectRevocations_iff _ _ _).mp hrev
  refine ⟨rev.previous, hmem, ?_, hallowed⟩
  rw [Revocation.place, htarget]

theorem found_nodup (hprevious : previous.Distinct) (hcurrent : current.Distinct)
    (inv : List InventoryEntry) :
    ((addInventoryRevocations (detectRevocations previous current) current
      inv).map Revocation.place).Nodup := by
  have hsame : Revocation.place ∘ impliedRevocation = Decision.place := rfl
  rw [addInventoryRevocations_eq hcurrent, List.map_append, List.map_map, hsame, List.nodup_append]
  refine ⟨detectRevocations_nodup hprevious, ?_, ?_⟩
  · exact hcurrent.sublist (List.filter_sublist.map _)
  · intro place hdetected other hadded
    obtain ⟨rev, hrev, rfl⟩ := List.mem_map.mp hdetected
    obtain ⟨dec, hdec, rfl⟩ := List.mem_map.mp hadded
    exact (implies_iff.mp (List.mem_filter.mp hdec).2).2.1 rev hrev

theorem found_denied_iff (distinct : current.Distinct) (hdec : dec ∈ current.decisions)
    (hdenied : dec.allowed = false) :
    (∃ rev ∈ addInventoryRevocations (detectRevocations previous current)
        current inv, rev.place = dec.place ∧ rev.current = some dec) ↔
      previous.Allows dec.place ∨
        entriesInNamespace inv dec.target.clusterName dec.target.ns ≠ [] := by
  simp only [mem_found_iff distinct]
  constructor
  · intro ⟨rev, hrev, hplace, _⟩
    rcases hrev with hdetected | ⟨other, hother, himplies, rfl⟩
    · exact .inl (hplace ▸ allows_of_detected hdetected)
    · obtain rfl := distinct.eq_of_place hother hdec hplace
      exact .inr (implies_iff.mp himplies).2.2
  · intro hlost
    by_cases hdetected : ∃ rev ∈ detectRevocations previous current, rev.place = dec.place
    · obtain ⟨rev, hrev, hplace⟩ := hdetected
      exact ⟨rev, .inl hrev, hplace, (current_of_detected distinct hrev).mpr ⟨hdec, hplace.symm⟩⟩
    · -- Not detected, so it was not allowed before; the inventory implies it.
      have hnow : ∀ other ∈ current.decisions, other.place = dec.place → other.allowed = false := by
        intro other hother hplace
        rw [distinct.eq_of_place hother hdec hplace]
        exact hdenied
      have hentries := hlost.resolve_left fun hallowed =>
        hdetected (detected_of_allows hallowed hnow)
      have himplies : implies (detectRevocations previous current) inv dec =
          true :=
        implies_iff.mpr ⟨hdenied, fun rev hrev hplace => hdetected ⟨rev, hrev, hplace⟩, hentries⟩
      exact ⟨impliedRevocation dec, .inr ⟨dec, hdec, himplies, rfl⟩, rfl, rfl⟩

theorem not_found_of_allowed (distinct : current.Distinct) (hdec : dec ∈ current.decisions)
    (hallowed : dec.allowed = true)
    (hrev : rev ∈ addInventoryRevocations (detectRevocations previous current) current inv) :
    rev.place ≠ dec.place := by
  intro hplace
  rcases (mem_found_iff distinct).mp hrev with hdetected | ⟨other, hother, himplies, rfl⟩
  · have hcurrent := (current_of_detected distinct hdetected).mpr ⟨hdec, hplace.symm⟩
    obtain ⟨_, _, _, _, hdenied⟩ :=
      (mem_detectRevocations_iff _ _ _).mp hdetected
    simp [hdenied dec hcurrent] at hallowed
  · obtain rfl := distinct.eq_of_place hother hdec hplace
    simp [(implies_iff.mp himplies).1] at hallowed

theorem found_absent_iff (distinct : current.Distinct) :
    (∃ rev ∈ addInventoryRevocations (detectRevocations previous current)
        current inv, rev.place = place ∧ rev.current = none) ↔
      previous.Allows place ∧ ∀ dec ∈ current.decisions, dec.place ≠ place := by
  simp only [mem_found_iff distinct]
  constructor
  · intro ⟨rev, hrev, hplace, hnone⟩
    rcases hrev with hdetected | ⟨dec, _, _, rfl⟩
    · refine ⟨hplace ▸ allows_of_detected hdetected, ?_⟩
      intro dec hdec hsame
      have hsome := (current_of_detected distinct hdetected).mpr ⟨hdec, hsame.trans hplace.symm⟩
      simp [hnone] at hsome
    · cases hnone
  · intro ⟨hallowed, habsent⟩
    obtain ⟨rev, hrev, hplace⟩ := detected_of_allows hallowed
      fun dec hdec hsame => absurd hsame (habsent dec hdec)
    refine ⟨rev, .inl hrev, hplace, ?_⟩
    cases hcurrent : rev.current with
    | none => rfl
    | some dec =>
      obtain ⟨hdec, hsame⟩ := (current_of_detected distinct hrev).mp hcurrent
      exact absurd (hsame.trans hplace) (habsent dec hdec)

/-- For evaluations with one decision for a place, the revocations of a
reconcile have distinct places; a target that is denied now has one, with its
current decision, exactly if it was allowed before or has recorded replicas;
one that is allowed now has none; and those without a current decision are the
targets that were allowed before and are gone. -/
theorem revocations_complete_and_precise
    (hprevious : previous.Distinct)
    (hcurrent : current.Distinct)
    (inv : List InventoryEntry) :
    let found := addInventoryRevocations (detectRevocations previous current) current inv
    (found.map Revocation.place).Nodup ∧
    (∀ dec ∈ current.decisions,
      dec.allowed = false →
      ((∃ rev ∈ found, rev.place = dec.place ∧ rev.current = some dec) ↔
        previous.Allows dec.place ∨
        entriesInNamespace inv dec.target.clusterName dec.target.ns ≠ [])) ∧
    (∀ dec ∈ current.decisions, dec.allowed = true → ∀ rev ∈ found, rev.place ≠ dec.place) ∧
    (∀ place,
      (∃ rev ∈ found, rev.place = place ∧ rev.current = none) ↔
        previous.Allows place ∧ ∀ dec ∈ current.decisions, dec.place ≠ place) := by
  intro found
  exact ⟨found_nodup hprevious hcurrent inv,
    fun _ hdec hdenied => found_denied_iff hcurrent hdec hdenied,
    fun _ hdec hallowed _ hrev => not_found_of_allowed hcurrent hdec hallowed hrev,
    fun _ => found_absent_iff hcurrent⟩

end Found

/-- Of three targets that were allowed, one still is, one is denied and one is
gone; a fourth was denied all along and still has a replica. -/
theorem revocations_complete_and_precise_sample :
    let decision (cluster : String) (allowed : Bool) : Decision :=
      ⟨⟨cluster, ∅, "app"⟩, allowed, [], none, ""⟩
    let previous : PolicyResult :=
      ⟨[decision "a" true, decision "b" true, decision "c" true, decision "d" false]⟩
    let current : PolicyResult := ⟨[decision "a" true, decision "b" false, decision "d" false]⟩
    let inv : List InventoryEntry := [⟨"d", "app", "settings", "", "ConfigMap", ""⟩]
    let found := addInventoryRevocations (detectRevocations previous current) current inv
    found.map Revocation.place = [("b", "app"), ("c", "app"), ("d", "app")] ∧
    (found.map Revocation.place).Nodup := by
  intro decision previous current inv found
  have hcomplete := revocations_complete_and_precise
    (show previous.Distinct by decide) (show current.Distinct by decide) inv
  exact ⟨by decide, hcomplete.1⟩

end K8sR8r
