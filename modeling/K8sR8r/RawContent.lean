import K8sR8r.KubernetesObjects

/-!
# Objects as nested JSON

`unstructured.Unstructured` wraps a `map[string]any`.  The rendering code looks
into it to a depth of three: the top-level fields, the fields of `metadata`,
and the entries of the label and annotation maps.  Everything else is an
opaque JSON value, and so are objects below that depth.

The typed accessors of the Kubernetes library fall back silently: a getter
returns the zero value on an unexpected type, and a setter does nothing when
`metadata` is not an object.
-/

namespace K8sR8r

inductive RawEntry (J : Type) where
  | text (value : String)
  | other (value : J)
  deriving DecidableEq

/-- A JSON value: a string, an object, or anything else. -/
inductive RawValue (Inner J : Type) where
  | text (value : String)
  | object (fields : Finmap fun _ : String => Inner)
  | other (value : J)

abbrev RawMap (J : Type) := Finmap fun _ : String => RawEntry J

abbrev RawField (J : Type) := RawValue (RawEntry J) J

abbrev RawMetadata (J : Type) := Finmap fun _ : String => RawField J

abbrev RawContent (J : Type) :=
  Finmap fun _ : String => RawValue (RawField J) J

variable {J : Type}

/-! ## String maps -/

namespace RawEntry

def isText : RawEntry J → Bool
  | text _ => true
  | other _ => false

def string : RawEntry J → String
  | text value => value
  | other _ => ""

@[simp] theorem string_text (value : String) : (text value : RawEntry J).string = value := rfl

theorem text_string {entry : RawEntry J} (htext : entry.isText = true) :
    text entry.string = entry := by
  cases entry with
  | text value => rfl
  | other value => cases htext

end RawEntry

namespace RawMap

def AllText (entries : RawMap J) : Prop :=
  ∀ key ∈ entries.keys, (entries.lookup key).all RawEntry.isText = true
deriving Decidable

def strings (entries : RawMap J) : StringMap :=
  entries.mapValues RawEntry.string

def ofStrings (map : StringMap) : RawMap J :=
  map.mapValues RawEntry.text

theorem allText_iff {entries : RawMap J} :
    AllText entries ↔ ∀ key entry, entries.lookup key = some entry → entry.isText = true := by
  constructor
  · intro htext key entry hentry
    have hmem : key ∈ entries.keys :=
      Finmap.mem_keys.mpr (Finmap.mem_of_lookup_eq_some hentry)
    have hall := htext key hmem
    rwa [hentry] at hall
  · intro htext key _
    cases hentry : entries.lookup key with
    | none => rfl
    | some entry => exact htext key entry hentry

theorem allText_ofStrings (map : StringMap) : AllText (ofStrings map : RawMap J) := by
  rw [allText_iff]
  intro key entry hentry
  rw [ofStrings, Finmap.lookup_mapValues, Option.map_eq_some_iff] at hentry
  obtain ⟨value, _, rfl⟩ := hentry
  rfl

@[simp] theorem strings_ofStrings (map : StringMap) : strings (ofStrings map : RawMap J) = map := by
  apply Finmap.ext_lookup
  intro key
  cases hvalue : map.lookup key with
  | none => simp [strings, ofStrings, hvalue]
  | some value => simp [strings, ofStrings, hvalue]

theorem lookup_strings_eq_iff {left right : RawMap J} (hleft : AllText left)
    (hright : AllText right) (key : String) :
    (strings left).lookup key = (strings right).lookup key ↔
      left.lookup key = right.lookup key := by
  rw [allText_iff] at hleft hright
  unfold strings
  rw [Finmap.lookup_mapValues, Finmap.lookup_mapValues]
  refine ⟨fun heq => ?_, fun heq => by rw [heq]⟩
  cases hl : left.lookup key with
  | none =>
    rw [hl, Option.map_none, eq_comm, Option.map_eq_none_iff] at heq
    exact heq.symm
  | some entry =>
    rw [hl, Option.map_some, eq_comm, Option.map_eq_some_iff] at heq
    obtain ⟨other, hr, hsame⟩ := heq
    rw [hr, ← RawEntry.text_string (hleft key entry hl),
      ← RawEntry.text_string (hright key other hr), hsame]

end RawMap

/-! ## Accessors -/

namespace RawContent

def metadata (content : RawContent J) : RawMetadata J :=
  match content.lookup "metadata" with
  | some (.object fields) => fields
  | _ => ∅

def nestedString (content : RawContent J) (field : String) : String :=
  match (metadata content).lookup field with
  | some (.text value) => value
  | _ => ""

def topString (content : RawContent J) (field : String) : String :=
  match content.lookup field with
  | some (.text value) => value
  | _ => ""

/-- `NestedStringMap`: nil unless every value is a string. -/
def nestedStringMap (content : RawContent J) (field : String) : Option StringMap :=
  match (metadata content).lookup field with
  | some (.object entries) =>
    if RawMap.AllText entries then some (RawMap.strings entries) else none
  | _ => none

def getName (content : RawContent J) : String := nestedString content "name"

def getNamespace (content : RawContent J) : String :=
  nestedString content "namespace"

def getUID (content : RawContent J) : String := nestedString content "uid"

def getKind (content : RawContent J) : String := topString content "kind"

def getLabels (content : RawContent J) : Option StringMap :=
  nestedStringMap content "labels"

def getAnnotations (content : RawContent J) : Option StringMap :=
  nestedStringMap content "annotations"

/-- `SetNestedField` below `metadata`; its error is ignored by the setters. -/
def setNestedField (field : String) (value : RawField J) (content : RawContent J) : RawContent J :=
  match content.lookup "metadata" with
  | some (.object fields) =>
    content.insert "metadata" (.object (fields.insert field value))
  | some _ => content
  | none =>
    content.insert "metadata" (.object ((∅ : RawMetadata J).insert field value))

def removeNestedField (field : String) (content : RawContent J) : RawContent J :=
  match content.lookup "metadata" with
  | some (.object fields) =>
    content.insert "metadata" (.object (fields.erase field))
  | _ => content

def setNestedString (field value : String) (content : RawContent J) : RawContent J :=
  if value = "" then removeNestedField field content
  else setNestedField field (.text value) content

def setNestedStringMap (field : String) (map : Option StringMap) (content : RawContent J) :
    RawContent J :=
  match map with
  | none => removeNestedField field content
  | some map => setNestedField field (.object (RawMap.ofStrings map)) content

def setName (name : String) : RawContent J → RawContent J :=
  setNestedString "name" name

def setNamespace (ns : String) : RawContent J → RawContent J :=
  setNestedString "namespace" ns

def setLabels (labels : Option StringMap) : RawContent J → RawContent J :=
  setNestedStringMap "labels" labels

def setAnnotations (ann : Option StringMap) : RawContent J → RawContent J :=
  setNestedStringMap "annotations" ann

/-! ## Setters on objects whose metadata is an object -/

/-- `metadata` is missing or an object. -/
def HasMetadata (content : RawContent J) : Prop :=
  ∀ value, content.lookup "metadata" = some value → ∃ fields, value = .object fields

def SameOutside (before after : RawContent J) : Prop :=
  ∀ key, key ≠ "metadata" → after.lookup key = before.lookup key

variable {content : RawContent J} {field : String}

variable {fields : RawMetadata J}

@[simp] theorem metadata_insert :
    metadata (content.insert "metadata" (.object fields)) = fields := by
  simp [metadata]

theorem hasMetadata_insert : HasMetadata (content.insert "metadata" (.object fields)) := by
  intro value hvalue
  rw [Finmap.lookup_insert, Option.some.injEq] at hvalue
  exact ⟨fields, hvalue.symm⟩

theorem sameOutside_insert {value : RawValue (RawField J) J} :
    SameOutside content (content.insert "metadata" value) :=
  fun _ hkey => Finmap.lookup_insert_of_ne _ hkey

theorem SameOutside.refl (content : RawContent J) : SameOutside content content :=
  fun _ _ => rfl

theorem SameOutside.trans {first second third : RawContent J} (head : SameOutside first second)
    (tail : SameOutside second third) :
    SameOutside first third :=
  fun key hkey => (tail key hkey).trans (head key hkey)

/-- What a setter does to an object: it changes `metadata` only, by the given
function on its fields. -/
structure Edits
    (edit : RawMetadata J → RawMetadata J) (before after : RawContent J) :
    Prop where
  hasMetadata : HasMetadata after
  outside : SameOutside before after
  metadata : metadata after = edit (metadata before)

theorem edits_setNestedField (hmetadata : HasMetadata content) (value : RawField J) :
    Edits (fun fields => fields.insert field value) content
      (setNestedField field value content) := by
  unfold setNestedField
  cases hlookup : content.lookup "metadata" with
  | none =>
    have hempty : metadata content = ∅ := by simp [metadata, hlookup]
    exact ⟨hasMetadata_insert, sameOutside_insert, by simp [hempty]⟩
  | some value =>
    obtain ⟨fields, rfl⟩ := hmetadata value hlookup
    have hfields : metadata content = fields := by simp [metadata, hlookup]
    exact ⟨hasMetadata_insert, sameOutside_insert, by simp [hfields]⟩

theorem edits_removeNestedField (hmetadata : HasMetadata content) :
    Edits (fun fields => fields.erase field) content (removeNestedField field content) := by
  unfold removeNestedField
  cases hlookup : content.lookup "metadata" with
  | none =>
    have hempty : metadata content = ∅ := by simp [metadata, hlookup]
    refine ⟨hmetadata, SameOutside.refl content, ?_⟩
    rw [hempty]
    apply Finmap.ext_lookup
    intro key
    by_cases hkey : key = field
    · rw [hkey, Finmap.lookup_erase, Finmap.lookup_empty]
    · rw [Finmap.lookup_erase_ne hkey]
  | some value =>
    obtain ⟨fields, rfl⟩ := hmetadata value hlookup
    have hfields : metadata content = fields := by simp [metadata, hlookup]
    exact ⟨hasMetadata_insert, sameOutside_insert, by simp [hfields]⟩

theorem edits_setNestedString (hmetadata : HasMetadata content) (value : String) :
    Edits (fun fields =>
        if value = "" then fields.erase field
        else fields.insert field (.text value)) content
      (setNestedString field value content) := by
  unfold setNestedString
  by_cases hvalue : value = ""
  · simp only [if_pos hvalue]
    exact edits_removeNestedField hmetadata
  · simp only [if_neg hvalue]
    exact edits_setNestedField hmetadata _

theorem edits_setNestedStringMap (hmetadata : HasMetadata content) (map : StringMap) :
    Edits (fun fields =>
        fields.insert field (.object (RawMap.ofStrings map))) content
      (setNestedStringMap field (some map) content) :=
  edits_setNestedField hmetadata _

/-! ## Well-typed objects -/

def rawMap (content : RawContent J) (field : String) : RawMap J :=
  match (metadata content).lookup field with
  | some (.object entries) => entries
  | _ => ∅

/-- `metadata` is an object, and the labels and annotations are strings. -/
structure WellTyped (content : RawContent J) : Prop where
  hasMetadata : HasMetadata content
  labels : RawMap.AllText (rawMap content "labels")
  annotations : RawMap.AllText (rawMap content "annotations")

theorem rawMap_of_lookup {entries : RawMap J}
    (hlookup : (metadata content).lookup field = some (.object entries)) :
    rawMap content field = entries := by
  simp [rawMap, hlookup]

theorem nestedStringMap_getD (htext : RawMap.AllText (rawMap content field)) :
    (nestedStringMap content field).getD ∅ = RawMap.strings (rawMap content field) := by
  have hempty : RawMap.strings (∅ : RawMap J) = ∅ := by
    apply Finmap.ext_lookup
    intro key
    simp [RawMap.strings]
  unfold nestedStringMap rawMap at *
  cases hlookup : (metadata content).lookup field with
  | none => simp [hempty]
  | some value =>
    cases value with
    | text value => simp [hempty]
    | other value => simp [hempty]
    | object entries =>
      rw [hlookup] at htext
      simp only [if_pos htext, Option.getD_some]

theorem nestedStringMap_congr {other : RawContent J}
    (hlookup : (metadata content).lookup field = (metadata other).lookup field) :
    nestedStringMap content field = nestedStringMap other field := by
  simp only [nestedStringMap, hlookup]

theorem nestedStringMap_of_lookup {map : StringMap}
    (hlookup : (metadata content).lookup field = some (.object (RawMap.ofStrings map))) :
    nestedStringMap content field = some map := by
  unfold nestedStringMap
  rw [hlookup]
  simp [RawMap.allText_ofStrings]

end RawContent

end K8sR8r
