import K8sR8r.FiniteMaps

/-!
# Maps whose entries have owners

Server-side apply keeps, for every entry of a map, the set of managers that
own it.  A forced apply sets the entries of its configuration, gives up the
entries it omits, and thereby removes those that nobody else owns.
-/

namespace FieldManagers

/-- A finite map with the managers of each entry. -/
structure OwnedMap (κ υ : Type) where
  entries : Finmap (fun _ : κ => υ)
  owners : κ → Finset String

namespace OwnedMap

variable {κ υ : Type} [DecidableEq κ]

def empty : OwnedMap κ υ :=
  ⟨∅, fun _ => ∅⟩

/-- A forced apply: whoever disagreed with an applied value loses the entry,
whoever agreed shares it. -/
def apply [DecidableEq υ] (manager : String) (map : OwnedMap κ υ)
    (config : Finmap (fun _ : κ => υ)) : OwnedMap κ υ where
  entries := config ∪ map.entries.filterKeys fun key => map.owners key ≠ {manager}
  owners := fun key =>
    match config.lookup key with
    | none => (map.owners key).erase manager
    | some value =>
      if map.entries.lookup key = some value then
        insert manager (map.owners key)
      else {manager}

/-- Of the entries in view, those outside the configuration belong to the
manager alone. -/
def Surrenders (map : OwnedMap κ υ) (manager : String) (view : κ → Bool)
    (config : Finmap (fun _ : κ => υ)) : Prop :=
  ∀ key, view key = true → key ∈ map.entries → key ∉ config → map.owners key = {manager}

/-- No entry in view belongs to the manager alone. -/
def Shared (map : OwnedMap κ υ) (manager : String) (view : κ → Bool) : Prop :=
  ∀ key, view key = true → key ∈ map.entries → map.owners key ≠ {manager}

variable [DecidableEq υ] {manager : String} {map : OwnedMap κ υ}
  {config : Finmap (fun _ : κ => υ)} {key : κ}

theorem lookup_apply_of_mem (hkey : key ∈ config) :
    (map.apply manager config).entries.lookup key = config.lookup key :=
  Finmap.lookup_union_left hkey

theorem lookup_apply_of_notMem (hkey : key ∉ config) :
    (map.apply manager config).entries.lookup key =
      if map.owners key = {manager} then none
      else map.entries.lookup key := by
  have hright : (map.apply manager config).entries.lookup key = (map.entries.filterKeys fun key =>
        map.owners key ≠ {manager}).lookup key :=
    Finmap.lookup_union_right hkey
  rw [hright, Finmap.lookup_filterKeys]
  by_cases howner : map.owners key = {manager}
  · simp [howner]
  · simp [howner]

/-- An apply leaves exactly its configuration in view when nobody else holds
an entry there. -/
theorem apply_eq_config_iff {view : κ → Bool} : (map.apply manager config).entries.filterKeys view =
        config.filterKeys view ↔
      map.Surrenders manager view config := by
  rw [Finmap.filterKeys_eq_iff]
  constructor
  · intro heq key hview hmem hkey
    have hlookup := heq key hview
    rw [lookup_apply_of_notMem hkey, Finmap.lookup_eq_none.mpr hkey] at hlookup
    by_contra howner
    rw [if_neg howner] at hlookup
    exact Finmap.lookup_eq_none.mp hlookup hmem
  · intro surrenders key hview
    by_cases hkey : key ∈ config
    · exact lookup_apply_of_mem hkey
    · rw [lookup_apply_of_notMem hkey, Finmap.lookup_eq_none.mpr hkey]
      by_cases hmem : key ∈ map.entries
      · rw [if_pos (surrenders key hview hmem hkey)]
      · rw [Finmap.lookup_eq_none.mpr hmem, ite_self]

/-- An apply that names nothing in view leaves the view as it was when its
manager is nowhere the last owner. -/
theorem apply_eq_self_iff {view : κ → Bool} (hconfig : ∀ key, view key = true → key ∉ config) :
    (map.apply manager config).entries.filterKeys view = map.entries.filterKeys view ↔
      map.Shared manager view := by
  rw [Finmap.filterKeys_eq_iff]
  refine forall_congr' fun key => forall_congr' fun hview => ?_
  rw [lookup_apply_of_notMem (hconfig key hview)]
  by_cases howner : map.owners key = {manager}
  · rw [if_pos howner]
    constructor
    · intro hnone hmem
      exact (Finmap.lookup_eq_none.mp hnone.symm hmem).elim
    · intro hmem
      symm
      rw [Finmap.lookup_eq_none]
      exact fun h => hmem h howner
  · rw [if_neg howner]
    exact ⟨fun _ _ => howner, fun _ => rfl⟩

end OwnedMap

end FieldManagers
