import K8sR8r.ReplicationApi

/-!
# The replica inventory

`internal/engine/inventory.go`: replica slots are identified by a `SlotKey`,
and the inventory is a list of entries that is only ever read through the keys
of its entries.
-/

namespace K8sR8r

structure SlotKey where
  cluster : String
  ns : String
  name : String
  group : String
  kind : String
  deriving DecidableEq

def keyForEntry (entry : InventoryEntry) : SlotKey :=
  ⟨entry.clusterName, entry.ns, entry.name, entry.group, entry.kind⟩

def hasEntry (inv : List InventoryEntry) (key : SlotKey) : Bool :=
  inv.any fun entry => keyForEntry entry = key

/-- The hash of a recorded slot is refreshed in place; a new slot is
appended. -/
def upsertEntry (entry : InventoryEntry) : List InventoryEntry → List InventoryEntry
  | [] => [entry]
  | head :: rest =>
    if keyForEntry head = keyForEntry entry then
      { head with lastAppliedHash := entry.lastAppliedHash } :: rest
    else head :: upsertEntry entry rest

def removeEntry (inv : List InventoryEntry) (key : SlotKey) : List InventoryEntry :=
  inv.filter fun entry => keyForEntry entry ≠ key

def entriesInNamespace (inv : List InventoryEntry) (cluster ns : String) : List InventoryEntry :=
  inv.filter fun entry => entry.clusterName = cluster && entry.ns = ns

def Recorded (inv : List InventoryEntry) (key : SlotKey) : Prop :=
  ∃ entry ∈ inv, keyForEntry entry = key
deriving Decidable

theorem hasEntry_iff (inv : List InventoryEntry) (key : SlotKey) :
    hasEntry inv key = true ↔ Recorded inv key := by
  simp [hasEntry, Recorded]

theorem not_recorded_nil (key : SlotKey) : ¬ Recorded [] key := by
  rintro ⟨entry, hmem, _⟩
  simp at hmem

theorem recorded_append_iff (first second : List InventoryEntry) (key : SlotKey) :
    Recorded (first ++ second) key ↔ Recorded first key ∨ Recorded second key := by
  simp only [Recorded, List.mem_append]
  constructor
  · rintro ⟨entry, hmem | hmem, hkey⟩
    · exact .inl ⟨entry, hmem, hkey⟩
    · exact .inr ⟨entry, hmem, hkey⟩
  · rintro (⟨entry, hmem, hkey⟩ | ⟨entry, hmem, hkey⟩)
    · exact ⟨entry, .inl hmem, hkey⟩
    · exact ⟨entry, .inr hmem, hkey⟩

theorem recorded_cons_iff (entry : InventoryEntry) (inv : List InventoryEntry) (key : SlotKey) :
    Recorded (entry :: inv) key ↔ keyForEntry entry = key ∨ Recorded inv key := by
  simp [Recorded]

theorem recorded_removeEntry_iff (inv : List InventoryEntry) (removed key : SlotKey) :
    Recorded (removeEntry inv removed) key ↔ Recorded inv key ∧ key ≠ removed := by
  simp only [Recorded, removeEntry, List.mem_filter, decide_eq_true_eq]
  constructor
  · rintro ⟨entry, ⟨hmem, hne⟩, rfl⟩
    exact ⟨⟨entry, hmem, rfl⟩, hne⟩
  · rintro ⟨⟨entry, hmem, rfl⟩, hne⟩
    exact ⟨entry, ⟨hmem, hne⟩, rfl⟩

theorem recorded_upsertEntry_iff (entry : InventoryEntry) (inv : List InventoryEntry)
    (key : SlotKey) :
    Recorded (upsertEntry entry inv) key ↔ key = keyForEntry entry ∨ Recorded inv key := by
  induction inv with
  | nil => simp [upsertEntry, Recorded, eq_comm]
  | cons head rest ih =>
    by_cases hkey : keyForEntry head = keyForEntry entry
    · rw [upsertEntry, if_pos hkey, recorded_cons_iff, recorded_cons_iff]
      have hsame : keyForEntry
          { head with lastAppliedHash := entry.lastAppliedHash } =
            keyForEntry head := rfl
      rw [hsame, hkey]
      tauto
    · rw [upsertEntry, if_neg hkey, recorded_cons_iff, ih, recorded_cons_iff]
      tauto

theorem recorded_iff_mem_keys (inv : List InventoryEntry) (key : SlotKey) :
    Recorded inv key ↔ key ∈ inv.map keyForEntry := by
  simp [Recorded]

theorem keys_upsertEntry {inv : List InventoryEntry} (entry : InventoryEntry)
    (recorded : Recorded inv (keyForEntry entry)) :
    (upsertEntry entry inv).map keyForEntry = inv.map keyForEntry := by
  induction inv with
  | nil => exact (not_recorded_nil _ recorded).elim
  | cons head rest ih =>
    by_cases hkey : keyForEntry head = keyForEntry entry
    · rw [upsertEntry, if_pos hkey, List.map_cons, List.map_cons]
      rfl
    · rw [recorded_cons_iff] at recorded
      rw [upsertEntry, if_neg hkey, List.map_cons, List.map_cons, ih (recorded.resolve_left hkey)]

theorem keys_upsertEntry_of_new {inv : List InventoryEntry} (entry : InventoryEntry)
    (new : ¬ Recorded inv (keyForEntry entry)) :
    (upsertEntry entry inv).map keyForEntry = inv.map keyForEntry ++ [keyForEntry entry] := by
  induction inv with
  | nil => rfl
  | cons head rest ih =>
    rw [recorded_cons_iff, not_or] at new
    rw [upsertEntry, if_neg new.1, List.map_cons, List.map_cons, ih new.2]
    rfl

theorem mem_entriesInNamespace_iff (inv : List InventoryEntry) (cluster ns : String)
    (entry : InventoryEntry) :
    entry ∈ entriesInNamespace inv cluster ns ↔
      entry ∈ inv ∧ entry.clusterName = cluster ∧ entry.ns = ns := by
  simp [entriesInNamespace]

end K8sR8r
