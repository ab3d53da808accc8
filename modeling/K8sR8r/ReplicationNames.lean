import K8sR8r.ControlPlane
import K8sR8r.NamespaceGrammar

/-!
# Replication names

`ReplicationName` in `internal/controller/request/controller.go`: the lower
case kind, the source's name and eight digits of a hash, joined by dashes and
cut to the length of a DNS subdomain.  The hash is opaque, so two names are told
apart by its digits and by what is left of the kind and the source's name.
-/

namespace K8sR8r

open SeparatedWords

/-! ## The parts of a name -/

/-- The kind and the source's name, before they are cut. -/
def replicationBase (kind sourceName : String) : List Char :=
  (toLower kind ++ "-" ++ sourceName).toList

def keptBase (kind sourceName : String) : List Char :=
  if 244 < (replicationBase kind sourceName).length then
    trimRight ((replicationBase kind sourceName).take 244) ['-', '.']
  else replicationBase kind sourceName

theorem replicationName_eq (config : RequestConfig) (sourceName : String) :
    replicationName config sourceName =
      String.ofList (keptBase config.gvk.kind sourceName) ++ "-" ++
        config.hash8 (config.gvk.kind ++ "/" ++ sourceName) := rfl

def isHexDigit (c : Char) : Bool :=
  c.isDigit || ('a' ≤ c && c ≤ 'f')

/-- The digest is hexadecimal, with eight digits or more. -/
structure RequestConfig.HexDigest (config : RequestConfig) : Prop where
  length : ∀ text, 8 ≤ (config.digest text).toList.length
  digits : ∀ text, ∀ c ∈ (config.digest text).toList, isHexDigit c = true

/-- An alphanumeric kind that starts with a letter. -/
structure IsKind (kind : String) : Prop where
  head : ∃ first ∈ kind.toList.head?, first.isAlpha = true
  letters : ∀ c ∈ kind.toList, c.isAlphanum = true
  length : kind.toList.length ≤ 63

structure NamedSource (config : RequestConfig) (sourceName : String) :
    Prop where
  digest : config.HexDigest
  kind : IsKind config.gvk.kind
  name : isDNS1123Subdomain sourceName = true

/-! ## Letters -/

abbrev isNameLetter (c : Char) : Bool := isLowerAlphanumeric c || c = '-'

theorem nameAlphabet : Alphabet isLowerAlphanumeric isNameLetter '.' where
  outer_inner := fun c hc => by simp [isNameLetter, hc]
  sep_inner := by decide

variable {c : Char}

theorem isLowerAlphanumeric_toLower (hc : c.isAlphanum = true) :
    isLowerAlphanumeric c.toLower = true := by
  unfold Char.toLower
  split
  next hupper =>
    have hrange : 65 ≤ c.toNat ∧ c.toNat ≤ 90 := by
      simpa [UInt32.le_iff_toNat_le] using hupper
    rw [isLowerAlphanumeric_iff]
    simp
    omega
  next hupper =>
    unfold Char.isAlphanum Char.isAlpha Char.isUpper Char.isLower Char.isDigit at hc
    simp only [UInt32.le_iff_toNat_le] at hc hupper
    rw [isLowerAlphanumeric_iff]
    simp at hc hupper
    omega

theorem isLowerAlphanumeric_of_hex (hc : isHexDigit c = true) : isLowerAlphanumeric c = true := by
  rw [isLowerAlphanumeric_iff]
  simp [isHexDigit, Char.isDigit, UInt32.le_iff_toNat_le, Char.le_def] at hc
  omega

theorem cut_eq_not_outer (hc : isNameLetter c = true ∨ c = '.') :
    ['-', '.'].contains c = !isLowerAlphanumeric c := by
  by_cases hdash : c = '-'
  · subst hdash
    decide
  · by_cases hdot : c = '.'
    · subst hdot
      decide
    · have houter : isLowerAlphanumeric c = true := by
        simpa [isNameLetter, hdash, hdot] using hc
      simp [hdash, hdot, houter]

theorem ascii_of_letter (hc : isNameLetter c = true ∨ c = '.') : c.toNat < 128 := by
  simp only [isNameLetter, Bool.or_eq_true, decide_eq_true_eq] at hc
  rcases hc with (hc | rfl) | rfl
  · have hrange := isLowerAlphanumeric_iff.mp hc
    omega
  · decide
  · decide

theorem utf8ByteSize_of_ascii {text : List Char} (hascii : ∀ c ∈ text, c.toNat < 128) :
    (String.ofList text).utf8ByteSize = text.length := by
  induction text with
  | nil => rfl
  | cons c text ih =>
    have hsize : c.utf8Size = 1 := by
      have hc := hascii c List.mem_cons_self
      rw [Char.utf8Size_eq_one_iff, UInt32.le_iff_toNat_le]
      exact Nat.le_of_lt_succ hc
    rw [String.ofList_cons, String.utf8ByteSize_append, String.utf8ByteSize_singleton, hsize,
      ih fun other hmem => hascii other (List.mem_cons_of_mem _ hmem),
      List.length_cons]
    omega

theorem isDNS1123Subdomain_iff {text : List Char} : isDNS1123Subdomain (String.ofList text) = true ↔
      text.length ≤ 253 ∧ IsSentence isLowerAlphanumeric isNameLetter '.' text := by
  have hwords : (text.splitOn '.').all isDNS1123Word = true ↔
      IsSentence isLowerAlphanumeric isNameLetter '.' text := by
    rw [isSentence_iff nameAlphabet, List.all_eq_true]
    exact forall₂_congr fun part _ => isDNS1123Word_iff
  have hsize : IsSentence isLowerAlphanumeric isNameLetter '.' text →
      (String.ofList text).utf8ByteSize = text.length := fun sentence =>
    utf8ByteSize_of_ascii fun c hc => ascii_of_letter (sentence.letters c hc)
  simp only [isDNS1123Subdomain, String.toList_ofList, Bool.and_eq_true, decide_eq_true_eq, hwords]
  constructor
  · intro ⟨hbytes, sentence⟩
    exact ⟨hsize sentence ▸ hbytes, sentence⟩
  · intro ⟨hlength, sentence⟩
    exact ⟨(hsize sentence).symm ▸ hlength, sentence⟩

/-! ## Validity -/

section Source

variable {config : RequestConfig} {sourceName : String}

theorem IsKind.lower_letters {kind : String} (hkind : IsKind kind) :
    ∀ c ∈ (toLower kind).toList, isLowerAlphanumeric c = true := by
  intro c hc
  simp only [toLower, String.toList_ofList, List.mem_map] at hc
  obtain ⟨original, hmem, rfl⟩ := hc
  exact isLowerAlphanumeric_toLower (hkind.letters original hmem)

theorem IsKind.isSentence {kind : String} (hkind : IsKind kind) :
    IsSentence isLowerAlphanumeric isNameLetter '.' (toLower kind).toList := by
  have hne : (toLower kind).toList ≠ [] := by
    obtain ⟨first, hfirst, _⟩ := hkind.head
    have hmem := List.mem_of_mem_head? hfirst
    simp only [toLower, String.toList_ofList, ne_eq, List.map_eq_nil_iff]
    exact List.ne_nil_of_mem hmem
  exact (nameAlphabet.isWord hne hkind.lower_letters).isSentence nameAlphabet

theorem RequestConfig.HexDigest.length_hash8 (digest : config.HexDigest) (text : String) :
    (config.hash8 text).toList.length = 8 := by
  have hlength := digest.length text
  simp only [RequestConfig.hash8, String.toList_ofList, List.length_take]
  omega

theorem RequestConfig.HexDigest.isSentence (digest : config.HexDigest) (text : String) :
    IsSentence isLowerAlphanumeric isNameLetter '.' (config.hash8 text).toList := by
  have hne : (config.hash8 text).toList ≠ [] := by
    apply List.ne_nil_of_length_pos
    rw [digest.length_hash8]
    decide
  refine (nameAlphabet.isWord hne ?_).isSentence nameAlphabet
  intro c hc
  simp only [RequestConfig.hash8, String.toList_ofList] at hc
  exact isLowerAlphanumeric_of_hex (digest.digits text c (List.mem_of_mem_take hc))

theorem replicationName_toList (config : RequestConfig) (sourceName : String) :
    (replicationName config sourceName).toList = keptBase config.gvk.kind sourceName ++
        '-' :: (config.hash8 (config.gvk.kind ++ "/" ++ sourceName)).toList := by
  simp [replicationName_eq]

theorem NamedSource.base_isSentence (source : NamedSource config sourceName) :
    IsSentence isLowerAlphanumeric isNameLetter '.'
      (replicationBase config.gvk.kind sourceName) := by
  have hname : isDNS1123Subdomain (String.ofList sourceName.toList) = true := by
    rw [String.ofList_toList]
    exact source.name
  have hjoined := source.kind.isSentence.join nameAlphabet
    (isDNS1123Subdomain_iff.mp hname).2 (x := '-') (.inl (by decide))
  simpa [replicationBase] using hjoined

theorem NamedSource.kept_isSentence (source : NamedSource config sourceName) :
    (keptBase config.gvk.kind sourceName).length ≤ 244 ∧
      IsSentence isLowerAlphanumeric isNameLetter '.' (keptBase config.gvk.kind sourceName) := by
  have hbase := source.base_isSentence
  unfold keptBase
  split_ifs with hlong
  · have hopens := hbase.of_start (List.take_prefix 244 _) (by simp [hbase.nonempty])
    have hcut : ∀ c ∈ (replicationBase config.gvk.kind sourceName).take 244,
        ['-', '.'].contains c = !isLowerAlphanumeric c :=
      fun c hc => cut_eq_not_outer (hopens.letters c hc)
    refine ⟨?_, hopens.rdropWhile hcut⟩
    have hshorter := (List.rdropWhile_prefix ['-', '.'].contains
      ((replicationBase config.gvk.kind sourceName).take 244)).length_le
    exact hshorter.trans (List.length_take_le 244 _)
  · exact ⟨by omega, hbase⟩

theorem NamedSource.name_valid (source : NamedSource config sourceName) :
    isDNS1123Subdomain (replicationName config sourceName) = true := by
  obtain ⟨hlength, hkept⟩ := source.kept_isSentence
  have hhash := source.digest.isSentence (config.gvk.kind ++ "/" ++ sourceName)
  rw [← String.ofList_toList (s := replicationName config sourceName),
    isDNS1123Subdomain_iff, replicationName_toList]
  refine ⟨?_, hkept.join nameAlphabet hhash (.inl (by decide))⟩
  rw [List.length_append, List.length_cons, source.digest.length_hash8]
  omega

end Source

/-! ## Separation -/

theorem replicationBase_inj {kind otherKind sourceName otherName : String} (hkind : IsKind kind)
    (hotherKind : IsKind otherKind)
    (hsame : replicationBase kind sourceName = replicationBase otherKind otherName) :
    toLower kind = toLower otherKind ∧ sourceName = otherName := by
  have hdash : ∀ {kind : String}, IsKind kind → '-' ∉ (toLower kind).toList :=
    fun hkind hmem => absurd (hkind.lower_letters '-' hmem) (by decide)
  have hshape : ∀ kind sourceName : String, replicationBase kind sourceName =
      (toLower kind).toList ++ '-' :: sourceName.toList := by
    simp [replicationBase]
  rw [hshape, hshape] at hsame
  have hsplit := congrArg (List.splitOn '-') hsame
  rw [List.splitOn_append_cons_self_of_not_mem (hdash hkind),
    List.splitOn_append_cons_self_of_not_mem (hdash hotherKind),
    List.cons.injEq] at hsplit
  rw [hsplit.1, List.append_cancel_left_eq, List.cons.injEq] at hsame
  exact ⟨String.toList_inj.mp hsplit.1, String.toList_inj.mp hsame.2⟩

/-- The name of the Replication of a source is a DNS subdomain.  Sources with
one name have the same digits and the same kept base, and when nothing was cut
they have the same kind, up to case, and the same name. -/
theorem replicationName_valid_and_separating {config other : RequestConfig}
    {sourceName otherName : String}
    (source : NamedSource config sourceName)
    (otherSource : NamedSource other otherName) :
    isDNS1123Subdomain (replicationName config sourceName) = true ∧
    (replicationName config sourceName = replicationName other otherName →
      config.hash8 (config.gvk.kind ++ "/" ++ sourceName) =
          other.hash8 (other.gvk.kind ++ "/" ++ otherName) ∧
        keptBase config.gvk.kind sourceName = keptBase other.gvk.kind otherName ∧
        ((replicationBase config.gvk.kind sourceName).length ≤ 244 →
          (replicationBase other.gvk.kind otherName).length ≤ 244 →
          toLower config.gvk.kind = toLower other.gvk.kind ∧ sourceName = otherName)) := by
  refine ⟨source.name_valid, fun hsame => ?_⟩
  have hlists := congrArg String.toList hsame
  rw [replicationName_toList, replicationName_toList] at hlists
  obtain ⟨hkept, hsuffix⟩ := List.append_inj' hlists (by
    rw [List.length_cons, List.length_cons, source.digest.length_hash8,
      otherSource.digest.length_hash8])
  refine ⟨String.toList_inj.mp (List.cons.inj hsuffix).2, hkept, ?_⟩
  intro hshort hotherShort
  unfold keptBase at hkept
  rw [if_neg (by omega), if_neg (by omega)] at hkept
  exact replicationBase_inj source.kind otherSource.kind hkept

namespace Sample

def longName (last : Char) : String :=
  String.ofList (List.replicate 249 'a' ++ [last])

theorem longName_named (last : Char) (hlast : isLowerAlphanumeric last = true) :
    NamedSource request (longName last) := by
  have hdigest : 8 ≤ "5f2c9a01".toList.length ∧ "5f2c9a01".toList.all isHexDigit = true := by
    decide
  have hletters : ∀ c ∈ List.replicate 249 'a' ++ [last], isLowerAlphanumeric c = true := by
    intro c hc
    rcases List.mem_append.mp hc with hc | hc
    · rw [List.eq_of_mem_replicate hc]
      decide
    · rwa [List.mem_singleton.mp hc]
  have hword := (nameAlphabet.isWord (List.concat_ne_nil _ _) hletters).isSentence nameAlphabet
  exact
    { digest := ⟨fun _ => hdigest.1, fun _ => List.all_eq_true.mp hdigest.2⟩
      kind := ⟨⟨'C', rfl, by decide⟩, List.all_eq_true.mp (by decide), by decide⟩
      name := isDNS1123Subdomain_iff.mpr ⟨by simp [-List.reduceReplicate], hword⟩ }

theorem keptBase_longName (last : Char) :
    keptBase "ConfigMap" (longName last) = "configmap-".toList ++ List.replicate 234 'a' := by
  have hbase : replicationBase "ConfigMap" (longName last) =
      ("configmap-".toList ++ List.replicate 234 'a') ++ (List.replicate 15 'a' ++ [last]) := by
    have hlower : toLower "ConfigMap" = "configmap" := by decide
    rw [replicationBase, longName, hlower, List.append_assoc, ← List.append_assoc _ _ [last],
      List.replicate_append_replicate]
    simp [-List.reduceReplicate]
  unfold keptBase
  rw [hbase, if_pos (by simp [-List.reduceReplicate]),
    List.take_left' (by simp [-List.reduceReplicate]), trimRight, List.replicate_succ',
    ← List.append_assoc, List.reverse_concat, List.dropWhile_cons_of_neg (by decide),
    List.reverse_cons, List.reverse_reverse]

end Sample

open Sample

/-- Two long names are cut to the same base. -/
theorem replicationName_valid_and_separating_sample :
    replicationName request (longName 'a') = replicationName request (longName 'b') ∧
    isDNS1123Subdomain (replicationName request (longName 'a')) = true ∧
    keptBase "ConfigMap" (longName 'a') = keptBase "ConfigMap" (longName 'b') ∧
    longName 'a' ≠ longName 'b' := by
  obtain ⟨hvalid, hseparates⟩ := replicationName_valid_and_separating
    (longName_named 'a' (by decide))
    (longName_named 'b' (by decide))
  have hsame : replicationName request (longName 'a') =
      replicationName request (longName 'b') := by
    rw [replicationName_eq, replicationName_eq]
    exact congrArg (String.ofList · ++ "-" ++ "5f2c9a01")
      ((keptBase_longName 'a').trans (keptBase_longName 'b').symm)
  exact ⟨hsame, hvalid, (hseparates hsame).2.1, by simp [-List.reduceReplicate, longName]⟩

end K8sR8r
