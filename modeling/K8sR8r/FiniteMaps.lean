import Mathlib.Data.Finmap
import Mathlib.Data.String.Basic
import Mathlib.Tactic

/-!
# Keys of finite maps

`Finmap` has no restriction to the keys that satisfy a predicate and no list of
its keys in order.  The restriction is determined by its lookups, which is all
that later proofs use.
-/

namespace Finmap

variable {α : Type} {β : α → Type}

/-- The entries of a finite map whose key satisfies a predicate. -/
def filterKeys (keep : α → Bool) (map : Finmap β) : Finmap β where
  entries := map.entries.filter (fun entry => keep entry.1)
  nodupKeys := by
    have hkeys := map.nodupKeys
    rw [← Multiset.nodup_keys] at hkeys ⊢
    exact Multiset.nodup_of_le (Multiset.map_le_map (Multiset.filter_le _ map.entries)) hkeys

variable [DecidableEq α]

@[simp] theorem lookup_filterKeys (keep : α → Bool) (map : Finmap β) (key : α) :
    (map.filterKeys keep).lookup key =
      if keep key then map.lookup key else none := by
  apply Option.ext
  intro value
  rw [← Option.mem_def, mem_lookup_iff]
  by_cases hkeep : keep key = true
  · simp only [hkeep, if_true, filterKeys, Multiset.mem_filter, and_true]
    rw [← mem_lookup_iff, Option.mem_def]
  · simp [hkeep, filterKeys]

theorem filterKeys_eq_iff {keep : α → Bool} {left right : Finmap β} :
    left.filterKeys keep = right.filterKeys keep ↔
      ∀ key, keep key = true → left.lookup key = right.lookup key := by
  constructor
  · intro heq key hkeep
    have hlookup := congrArg (Finmap.lookup key) heq
    simpa [hkeep] using hlookup
  · intro heq
    apply ext_lookup
    intro key
    by_cases hkeep : keep key = true
    · simp [hkeep, heq key hkeep]
    · simp [hkeep]

theorem filterKeys_true (map : Finmap β) : (map.filterKeys fun _ => true) = map := by
  apply ext_lookup
  intro key
  simp

theorem lookup_insert_eq {υ : Type} (map : Finmap fun _ : α => υ) (key other : α) (value : υ) :
    (map.insert key value).lookup other =
      if other = key then some value else map.lookup other := by
  by_cases hother : other = key
  · rw [if_pos hother, hother, lookup_insert]
  · rw [if_neg hother, lookup_insert_of_ne _ hother]

theorem keys_card_pos_iff {map : Finmap β} : 0 < map.keys.card ↔ map ≠ ∅ := by
  rw [Finset.card_pos, Finset.nonempty_iff_ne_empty]
  refine not_congr ⟨fun hkeys => ?_, fun hmap => by simp [hmap]⟩
  apply ext_lookup
  intro key
  rw [lookup_empty, lookup_eq_none, ← mem_keys, hkeys]
  exact Finset.notMem_empty key

def mapEntries {α κ β γ : Type} (f : α ↪ κ) (g : β → γ) (map : Finmap fun _ : α => β) :
    Finmap fun _ : κ => γ where
  entries := map.entries.map fun entry => ⟨f entry.1, g entry.2⟩
  nodupKeys := by
    have hkeys := map.nodupKeys
    rw [← Multiset.nodup_keys, Multiset.keys] at hkeys ⊢
    rw [Multiset.map_map]
    have hmap := hkeys.map f.injective
    rwa [Multiset.map_map] at hmap

section MapEntries

variable {κ γ υ : Type} [DecidableEq κ]

theorem lookup_mapEntries (f : α ↪ κ) (g : υ → γ) (map : Finmap fun _ : α => υ) (key : α) :
    (map.mapEntries f g).lookup (f key) = (map.lookup key).map g := by
  apply Option.ext
  intro value
  rw [← Option.mem_def, mem_lookup_iff, mapEntries, Multiset.mem_map, Option.map_eq_some_iff]
  constructor
  · rintro ⟨⟨other, old⟩, hmem, heq⟩
    obtain ⟨hkey, hvalue⟩ := Sigma.mk.inj heq
    obtain rfl := f.injective hkey
    exact ⟨old, mem_lookup_iff.mpr hmem, eq_of_heq hvalue⟩
  · rintro ⟨old, hlookup, rfl⟩
    exact ⟨⟨key, old⟩, mem_lookup_iff.mp hlookup, rfl⟩

omit [DecidableEq α] in
theorem lookup_mapEntries_of_notMem (f : α ↪ κ) (g : υ → γ) (map : Finmap fun _ : α => υ)
    {key : κ} (hkey : ∀ source, f source ≠ key) :
    (map.mapEntries f g).lookup key = none := by
  rw [lookup_eq_none, mem_def, mapEntries, Multiset.keys, Multiset.map_map, Multiset.mem_map]
  rintro ⟨entry, _, heq⟩
  exact hkey entry.1 heq

end MapEntries

def mapValues {α β γ : Type} (g : β → γ) (map : Finmap fun _ : α => β) : Finmap fun _ : α => γ :=
  map.mapEntries (Function.Embedding.refl α) g

@[simp] theorem lookup_mapValues {υ γ : Type} (g : υ → γ) (map : Finmap fun _ : α => υ) (key : α) :
    (map.mapValues g).lookup key = (map.lookup key).map g :=
  lookup_mapEntries (Function.Embedding.refl α) g map key

def sortedKeys {κ : Type} [LinearOrder κ] {β : κ → Type} (map : Finmap β) : List κ :=
  Quotient.liftOn map.entries (fun entries => (entries.map Sigma.fst).insertionSort (· ≤ ·))
    (fun _ _ hperm =>
      List.Perm.eq_of_pairwise' (List.pairwise_insertionSort _ _) (List.pairwise_insertionSort _ _)
        ((List.perm_insertionSort _ _).trans
          ((hperm.map _).trans (List.perm_insertionSort _ _).symm)))

theorem mem_sortedKeys_iff {κ : Type} [LinearOrder κ] {β : κ → Type} {map : Finmap β} {key : κ} :
    key ∈ map.sortedKeys ↔ ∃ value, map.lookup key = some value := by
  have hentry : (∃ value, map.lookup key = some value) ↔
      ∃ value, (⟨key, value⟩ : Sigma β) ∈ map.entries := by
    refine exists_congr fun value => ?_
    rw [← Option.mem_def, mem_lookup_iff]
  rw [hentry]
  obtain ⟨entries, hkeys⟩ := map
  induction entries using Quotient.inductionOn with
  | h entries =>
    change key ∈ (entries.map Sigma.fst).insertionSort (· ≤ ·) ↔ _
    rw [List.mem_insertionSort, List.mem_map]
    constructor
    · rintro ⟨⟨_, value⟩, hmem, rfl⟩
      exact ⟨value, hmem⟩
    · rintro ⟨value, hmem⟩
      exact ⟨⟨key, value⟩, hmem, rfl⟩

theorem mem_sortedKeys_of_lookup {κ : Type} [LinearOrder κ] {β : κ → Type} {map : Finmap β}
    {key : κ} {value : β key} (hlookup : map.lookup key = some value) :
    key ∈ map.sortedKeys :=
  mem_sortedKeys_iff.mpr ⟨value, hlookup⟩

end Finmap
