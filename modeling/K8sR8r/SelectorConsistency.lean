import Mathlib.Data.Fintype.EquivFin
import K8sR8r.AdmissionCheck

/-!
# Contradictory selectors

`jointlySatisfiable` collects what two selectors ask of each label key and
looks for a key that nothing can satisfy.  Without numeric comparisons the
collected states are exactly the requirements: a label set that every state
admits matches both selectors, and one can be built key by key.
-/

namespace K8sR8r

/-! ## States and requirements -/

def Requirement.NumberFree (requirement : Requirement) : Prop :=
  requirement.operator ≠ .greaterThan ∧ requirement.operator ≠ .lessThan

def Selector.NumberFree : Selector → Prop
  | .nothing => True
  | .requirements list => ∀ requirement ∈ list, requirement.NumberFree

namespace KeyState

variable {state : KeyState}

theorem Admits.of_requireOneOf {found : Option String} {values : List String}
    (hadmits : ({ state with
        mustExist := true
        positive := some (match state.positive with
          | none => values
          | some allowed => allowed.filter values.contains) } :
      KeyState).Admits found) :
    state.Admits found ∧ ∃ value ∈ values, found = some value := by
  obtain ⟨value, hmem, rfl⟩ := hadmits.positive _ rfl
  cases hpositive : state.positive with
  | none =>
    rw [hpositive] at hmem
    refine ⟨⟨?_, hadmits.negative, fun _ => rfl, hadmits.absent⟩, value, hmem, rfl⟩
    intro allowed hallowed
    rw [hpositive] at hallowed
    cases hallowed
  | some before =>
    rw [hpositive] at hmem
    obtain ⟨hbefore, hvalue⟩ := List.mem_filter.mp hmem
    refine ⟨⟨?_, hadmits.negative, fun _ => rfl, hadmits.absent⟩, value, by simpa using hvalue, rfl⟩
    intro allowed hallowed
    rw [hpositive] at hallowed
    cases hallowed
    exact ⟨value, hbefore, rfl⟩

theorem Admits.of_forbid {found : Option String} {values : List String}
    (hadmits : ({ state with negative := state.negative ++ values } : KeyState).Admits found) :
    state.Admits found ∧ ∀ value, found = some value → value ∉ values := by
  refine ⟨⟨hadmits.positive, ?_, hadmits.present, hadmits.absent⟩, ?_⟩
  · intro value hvalue hmem
    exact hadmits.negative value hvalue (List.mem_append_left _ hmem)
  · intro value hvalue hmem
    exact hadmits.negative value hvalue (List.mem_append_right _ hmem)

/-- Nothing is lost when a requirement is added: what the new state admits the
old one did, and it meets the requirement. -/
theorem Admits.of_require {requirement : Requirement} {labels : StringMap}
    (hfree : requirement.NumberFree)
    (hadmits : (state.require requirement).Admits (labels.lookup requirement.key)) :
    state.Admits (labels.lookup requirement.key) ∧ requirement.matches labels = true := by
  unfold KeyState.require at hadmits
  unfold Requirement.matches
  cases hoperator : requirement.operator <;>
    rw [hoperator] at hadmits <;> dsimp only at hadmits
  case greaterThan => exact absurd hoperator hfree.1
  case lessThan => exact absurd hoperator hfree.2
  case equals | doubleEquals | inSet =>
    obtain ⟨hbefore, value, hmem, hfound⟩ := hadmits.of_requireOneOf
    refine ⟨hbefore, ?_⟩
    rw [hfound]
    simpa using hmem
  case notEquals | notIn =>
    obtain ⟨hbefore, hvalue⟩ := hadmits.of_forbid
    refine ⟨hbefore, ?_⟩
    cases hfound : labels.lookup requirement.key with
    | none => rfl
    | some value => simpa using hvalue value hfound
  case existsKey =>
    have hsome := hadmits.present rfl
    exact ⟨⟨hadmits.positive, hadmits.negative, fun _ => hsome, hadmits.absent⟩, hsome⟩
  case doesNotExist =>
    have hnone := hadmits.absent rfl
    refine ⟨⟨hadmits.positive, hadmits.negative, hadmits.present, fun _ => hnone⟩, ?_⟩
    rw [hnone]
    rfl

/-- A state without a contradiction leaves something open: one of the allowed
values, a value nobody forbids, or absence. -/
theorem exists_admitted (hopen : state.contradictory = false) :
    ∃ found, state.Admits found := by
  unfold contradictory at hopen
  obtain ⟨hexistence, hremaining⟩ := Bool.or_eq_false_iff.mp hopen
  cases hpositive : state.positive with
  | some allowed =>
    rw [hpositive] at hexistence hremaining
    have hpresent : state.mustNotExist = false := by simpa using hexistence
    obtain ⟨value, hallowed, hvalue⟩ : ∃ value ∈ allowed, value ∉ state.negative := by
      simpa using hremaining
    refine ⟨some value, ?_, ?_, fun _ => rfl, by simp [hpresent]⟩
    · intro other hother
      rw [hpositive] at hother
      cases hother
      exact ⟨value, hallowed, rfl⟩
    · intro other hother
      cases hother
      exact hvalue
  | none =>
    rw [hpositive] at hexistence
    by_cases hexist : state.mustExist = true
    · have hpresent : state.mustNotExist = false := by
        simpa [hexist] using hexistence
      obtain ⟨value, hfresh⟩ :=
        Infinite.exists_notMem_finset state.negative.toFinset
      refine ⟨some value, by simp [hpositive], ?_, fun _ => rfl,
        by simp [hpresent]⟩
      intro other hother
      cases hother
      simpa using hfresh
    · exact ⟨none, by simp [hpositive], by simp, by simp [hexist],
        fun _ => rfl⟩

end KeyState

/-! ## Label sets -/

section

variable {requirements : List Requirement}

theorem keyStates_unnamed {key : String} (hkey : key ∉ requirements.map Requirement.key) :
    keyStates requirements key = KeyState.unconstrained := by
  unfold keyStates
  generalize hstart : (fun _ : String => KeyState.unconstrained) = states
  have hunconstrained : states key = KeyState.unconstrained := by
    rw [← hstart]
  clear hstart
  induction requirements generalizing states with
  | nil => exact hunconstrained
  | cons requirement rest ih =>
    rw [List.map_cons, List.mem_cons, not_or] at hkey
    rw [List.foldl_cons]
    apply ih hkey.2
    rw [Function.update_of_ne hkey.1, hunconstrained]

/-- Labels that every key state admits match every requirement. -/
theorem matches_of_keyStates_admitted {labels : StringMap}
    (hfree : ∀ requirement ∈ requirements, requirement.NumberFree)
    (hadmits : ∀ key, (keyStates requirements key).Admits (labels.lookup key)) :
    ∀ requirement ∈ requirements, requirement.matches labels = true := by
  unfold keyStates at hadmits
  generalize (fun _ : String => KeyState.unconstrained) = start at hadmits
  -- Going back over the requirements, every intermediate state admits the
  -- labels as well.
  have hfold : (∀ key, (start key).Admits (labels.lookup key)) ∧
      ∀ requirement ∈ requirements, requirement.matches labels = true := by
    induction requirements generalizing start with
    | nil => exact ⟨hadmits, by simp⟩
    | cons requirement rest ih =>
      rw [List.foldl_cons] at hadmits
      obtain ⟨hafter, hrest⟩ := ih
        (fun other hother => hfree other (List.mem_cons_of_mem _ hother)) _
        hadmits
      have hself := hafter requirement.key
      rw [Function.update_self] at hself
      obtain ⟨hbefore, hmatches⟩ :=
        hself.of_require (hfree requirement List.mem_cons_self)
      constructor
      · intro key
        by_cases hkey : key = requirement.key
        · rw [hkey]
          exact hbefore
        · have hother := hafter key
          rwa [Function.update_of_ne hkey] at hother
      · intro other hother
        rcases List.mem_cons.mp hother with rfl | hmem
        · exact hmatches
        · exact hrest other hmem
  exact hfold.2

theorem exists_labels (keys : List String) (found : String → Option String) :
    ∃ labels : StringMap, ∀ key, labels.lookup key = if key ∈ keys then found key else none := by
  induction keys with
  | nil => exact ⟨∅, fun key => by simp⟩
  | cons first rest ih =>
    obtain ⟨labels, hlabels⟩ := ih
    cases hfound : found first with
    | none =>
      refine ⟨labels.erase first, fun key => ?_⟩
      by_cases hkey : key = first
      · subst hkey
        simp [hfound]
      · rw [Finmap.lookup_erase_ne hkey, hlabels key]
        simp [hkey]
    | some value =>
      refine ⟨labels.insert first value, fun key => ?_⟩
      by_cases hkey : key = first
      · subst hkey
        simp [hfound]
      · rw [Finmap.lookup_insert_of_ne _ hkey, hlabels key]
        simp [hkey]

theorem exists_matching_labels (hfree : ∀ requirement ∈ requirements, requirement.NumberFree)
    (hopen : ∀ key ∈ requirements.map Requirement.key,
      (keyStates requirements key).contradictory = false) :
    ∃ labels : StringMap, ∀ requirement ∈ requirements, requirement.matches labels = true := by
  have hsome : ∀ key, ∃ found, (keyStates requirements key).Admits found := by
    intro key
    by_cases hkey : key ∈ requirements.map Requirement.key
    · exact KeyState.exists_admitted (hopen key hkey)
    · rw [keyStates_unnamed hkey]
      exact ⟨none, KeyState.unconstrained_admits none⟩
  choose found hfound using hsome
  obtain ⟨labels, hlabels⟩ :=
    exists_labels (requirements.map Requirement.key) found
  refine ⟨labels, matches_of_keyStates_admitted hfree fun key => ?_⟩
  rw [hlabels key]
  split_ifs with hkey
  · exact hfound key
  · rw [keyStates_unnamed hkey]
    exact KeyState.unconstrained_admits none

theorem jointlySatisfiable_iff_of_numberFree {a b : Selector} (ha : a.NumberFree)
    (hb : b.NumberFree) :
    jointlySatisfiable a b = true ↔ ∃ labels : StringMap,
        a.matches labels = true ∧ b.matches labels = true := by
  constructor
  · intro hjoint
    cases a with
    | nothing => cases hjoint
    | requirements reqsA =>
      cases b with
      | nothing => cases hjoint
      | requirements reqsB =>
        simp only [jointlySatisfiable, List.all_eq_true, Bool.not_eq_true'] at hjoint
        have hfree : ∀ requirement ∈ reqsA ++ reqsB,
            requirement.NumberFree := by
          intro requirement hmem
          rcases List.mem_append.mp hmem with hleft | hright
          · exact ha requirement hleft
          · exact hb requirement hright
        obtain ⟨labels, hlabels⟩ := exists_matching_labels hfree hjoint
        refine ⟨labels, ?_, ?_⟩
        · simp only [Selector.matches, List.all_eq_true]
          exact fun requirement hmem =>
            hlabels requirement (List.mem_append_left _ hmem)
        · simp only [Selector.matches, List.all_eq_true]
          exact fun requirement hmem =>
            hlabels requirement (List.mem_append_right _ hmem)
  · rintro ⟨labels, hfirst, hsecond⟩
    exact jointlySatisfiable_of_matches hfirst hsecond

/-- Without numeric comparisons the search is exact; with them it still only
rejects selectors that no label set matches together. -/
theorem jointlySatisfiable_exact (a b : Selector) :
    (a.NumberFree →
      b.NumberFree →
      (jointlySatisfiable a b = true ↔
        ∃ labels : StringMap, a.matches labels = true ∧ b.matches labels = true)) ∧
    (jointlySatisfiable a b = false →
      ∀ labels : StringMap, ¬ (a.matches labels = true ∧ b.matches labels = true)) := by
  constructor
  · exact jointlySatisfiable_iff_of_numberFree
  · rintro hreject labels ⟨hfirst, hsecond⟩
    rw [jointlySatisfiable_of_matches hfirst hsecond] at hreject
    cases hreject

end

namespace Sample

def productionOrStaging : Selector :=
  .requirements [⟨"env", .inSet, ["prod", "staging"]⟩]

def notProduction : Selector := .requirements [⟨"env", .notEquals, ["prod"]⟩]

end Sample

theorem jointlySatisfiable_exact_sample :
    Sample.productionOrStaging.NumberFree ∧
    Sample.notProduction.NumberFree ∧
    ∃ labels : StringMap,
      Sample.productionOrStaging.matches labels = true ∧
      Sample.notProduction.matches labels = true := by
  have hfirst : Sample.productionOrStaging.NumberFree := by
    simp [Sample.productionOrStaging, Selector.NumberFree, Requirement.NumberFree]
  have hsecond : Sample.notProduction.NumberFree := by
    simp [Sample.notProduction, Selector.NumberFree, Requirement.NumberFree]
  exact ⟨hfirst, hsecond, ((jointlySatisfiable_exact _ _).1 hfirst hsecond).mp (by decide)⟩

end K8sR8r
