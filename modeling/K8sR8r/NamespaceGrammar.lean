import K8sR8r.AnnotationContract
import K8sR8r.SeparatedWords

/-!
# The grammar of the target namespaces

`parseTargetNamespaces` accepts the comma-separated lists of distinct DNS
labels, with white space around the labels, and returns the labels in their
order.
-/

namespace K8sR8r

open SeparatedWords

/-! ## Labels -/

theorem isWord_iff {outer inner : Char → Bool} {text : List Char} :
    isWord outer inner text = true ↔ IsWord outer inner text := by
  cases text with
  | nil =>
    simp only [isWord, List.head?_nil, Bool.false_eq_true, false_iff]
    exact fun word => word.nonempty rfl
  | cons first rest =>
    obtain ⟨last, hlast⟩ : ∃ last, (first :: rest).getLast? = some last :=
      ⟨_, List.getLast?_eq_some_getLast (List.cons_ne_nil first rest)⟩
    simp only [isWord, List.head?_cons, hlast, Bool.and_eq_true, List.all_eq_true]
    constructor
    · intro ⟨⟨hfirst, hlastOuter⟩, hall⟩
      exact ⟨List.cons_ne_nil _ _, by simpa using hfirst,
        by simpa [hlast] using hlastOuter, hall⟩
    · intro word
      exact ⟨⟨word.head first rfl, word.last last hlast⟩, word.letters⟩

theorem isDNS1123Word_iff {text : List Char} : isDNS1123Word text = true ↔
      IsWord isLowerAlphanumeric (fun c => isLowerAlphanumeric c || c = '-') text :=
  isWord_iff

variable {ns : String}

theorem isDNS1123Label_word (hlabel : isDNS1123Label ns = true) :
    IsWord isLowerAlphanumeric (fun c => isLowerAlphanumeric c || c = '-') ns.toList := by
  simp only [isDNS1123Label, Bool.and_eq_true] at hlabel
  exact isDNS1123Word_iff.mp hlabel.2

theorem isDNS1123Label_ne_empty (hlabel : isDNS1123Label ns = true) : ns ≠ "" := by
  rintro rfl
  exact absurd hlabel (by decide)

theorem isLowerAlphanumeric_iff {c : Char} :
    isLowerAlphanumeric c = true ↔
      (97 ≤ c.toNat ∧ c.toNat ≤ 122) ∨ (48 ≤ c.toNat ∧ c.toNat ≤ 57) := by
  unfold isLowerAlphanumeric Char.isLower Char.isDigit
  simp [UInt32.le_iff_toNat_le]

theorem isSpaceRune_of_lowerAlphanumeric (c : Char) (hc : isLowerAlphanumeric c = true) :
    isSpaceRune c = false := by
  have hrange := isLowerAlphanumeric_iff.mp hc
  simp only [isSpaceRune, Bool.or_eq_false_iff, Bool.and_eq_false_iff, decide_eq_false_iff_not]
  omega

/-! ## White space -/

/-- A text with white space around it. -/
def Padded (text padded : String) : Prop :=
  ∃ left right : String, (∀ c ∈ left.toList, isSpaceRune c = true) ∧
    (∀ c ∈ right.toList, isSpaceRune c = true) ∧
    padded = left ++ (text ++ right)

theorem Padded.trimSpace_eq {padded : String} (hpadded : Padded ns padded)
    (hlabel : isDNS1123Label ns = true) : trimSpace padded = ns := by
  obtain ⟨left, right, hleft, hright, rfl⟩ := hpadded
  have htrim := (isDNS1123Label_word hlabel).trim isSpaceRune_of_lowerAlphanumeric hleft hright
  have hshape : trimSpace (left ++ (ns ++ right)) = String.ofList
      (((left.toList ++ (ns.toList ++ right.toList)).dropWhile
        isSpaceRune).rdropWhile isSpaceRune) := by
    simp [trimSpace, List.rdropWhile]
  rw [hshape, htrim, String.ofList_toList]

theorem Padded.no_comma {padded : String} (hpadded : Padded ns padded)
    (hlabel : isDNS1123Label ns = true) : ',' ∉ padded.toList := by
  obtain ⟨left, right, hleft, hright, rfl⟩ := hpadded
  have hcomma : ',' ∉ ns.toList := fun hmem =>
    absurd ((isDNS1123Label_word hlabel).letters ',' hmem) (by decide)
  simp only [String.toList_append, List.mem_append, not_or]
  exact ⟨fun hmem => absurd (hleft ',' hmem) (by decide), hcomma,
    fun hmem => absurd (hright ',' hmem) (by decide)⟩

theorem isSpaceRune_of_blank {raw : String} (hblank : trimSpace raw = "") :
    ∀ c ∈ raw.toList, isSpaceRune c = true := by
  have hnil : (raw.toList.dropWhile isSpaceRune).rdropWhile isSpaceRune = [] := by
    have hlist := congrArg String.toList hblank
    simpa [trimSpace, List.rdropWhile] using hlist
  have hrest := List.rdropWhile_eq_nil_iff.mp hnil
  have hdrop : raw.toList.dropWhile isSpaceRune = [] := by
    by_contra hne
    have hhead := hrest _ (List.head_mem hne)
    have hnot := List.head_dropWhile_not isSpaceRune hne
    simp [hnot] at hhead
  simpa using hdrop

/-! ## Reading a list -/

def namespaceParts (raw : String) : List String :=
  (raw.toList.splitOn ',').map fun part => trimSpace (String.ofList part)

/-- A list of distinct labels. -/
structure NamespaceList (names : List String) : Prop where
  labels : ∀ ns ∈ names, isDNS1123Label ns = true
  nodup : names.Nodup

theorem namespaceList_cons {names : List String} :
    NamespaceList (ns :: names) ↔ isDNS1123Label ns = true ∧ ns ∉ names ∧ NamespaceList names := by
  constructor
  · intro ⟨hlabels, hnodup⟩
    obtain ⟨hfresh, hrest⟩ := List.nodup_cons.mp hnodup
    exact ⟨hlabels ns List.mem_cons_self, hfresh,
      fun other hmem => hlabels other (List.mem_cons_of_mem _ hmem), hrest⟩
  · intro ⟨hlabel, hfresh, hrest⟩
    exact ⟨by simpa using ⟨hlabel, hrest.labels⟩,
      List.nodup_cons.mpr ⟨hfresh, hrest.nodup⟩⟩

theorem namespaceParts_of_blank {raw : String} (hblank : trimSpace raw = "") :
    namespaceParts raw = [""] := by
  have hcomma : ',' ∉ raw.toList := fun hmem =>
    absurd (isSpaceRune_of_blank hblank ',' hmem) (by decide)
  rw [namespaceParts, List.splitOn_eq_singleton hcomma]
  simp [hblank]

section Parsing

variable {library : ParserLibrary} {raw : String} {names : List String}

theorem parseNamespacePart_eq_ok {seen : List String} {part : List Char} :
    parseNamespacePart library raw seen part = .ok names ↔
      names = seen ++ [trimSpace (String.ofList part)] ∧
        isDNS1123Label (trimSpace (String.ofList part)) = true ∧
        trimSpace (String.ofList part) ∉ seen := by
  unfold parseNamespacePart
  dsimp only
  generalize trimSpace (String.ofList part) = ns
  have hne : isDNS1123Label ns = true → ns ≠ "" := isDNS1123Label_ne_empty
  split_ifs with hempty hlabel hseen
  · simp only [false_iff]
    exact fun ⟨_, hok, _⟩ => hne hok hempty
  · simp_all
  · simp_all
  · have hfresh : ns ∉ seen := by simpa using hseen
    have hok : isDNS1123Label ns = true := by simpa using hlabel
    simp only [Except.ok.injEq, hok, hfresh, not_false_eq_true, and_true]
    exact eq_comm

/-- The loop appends the names of the parts, and stops at the first one that is
no label or was seen before. -/
theorem parseParts_eq_ok {seen : List String} {parts : List (List Char)} {found : List String}
    (hfound : found = parts.map fun part => trimSpace (String.ofList part)) :
    parts.foldlM (parseNamespacePart library raw) seen = .ok names ↔
      names = seen ++ found ∧ NamespaceList found ∧ ∀ ns ∈ found, ns ∉ seen := by
  induction parts generalizing seen found with
  | nil =>
    obtain rfl : found = [] := hfound
    have hnil : NamespaceList [] := ⟨by simp, List.nodup_nil⟩
    simp only [List.foldlM_nil, List.append_nil, hnil, List.not_mem_nil,
      false_implies, implies_true, and_true]
    exact ⟨fun h => (Except.ok.inj h).symm, fun h => congrArg _ h.symm⟩
  | cons part parts ih =>
    rw [List.foldlM_cons, hfound, List.map_cons]
    generalize hrest : parts.map (fun part =>
      trimSpace (String.ofList part)) = rest
    cases hpart : parseNamespacePart library raw seen part with
    | error problem =>
      -- A part that is turned away is no label or not a new one.
      refine ⟨nofun, fun ⟨_, hlist, hfresh⟩ => ?_⟩
      have hok : parseNamespacePart library raw seen part = .ok _ :=
        parseNamespacePart_eq_ok.mpr ⟨rfl,
          (namespaceList_cons.mp hlist).1, hfresh _ List.mem_cons_self⟩
      rw [hpart] at hok
      cases hok
    | ok next =>
      obtain ⟨rfl, hlabel, hfresh⟩ := parseNamespacePart_eq_ok.mp hpart
      refine (ih hrest.symm).trans ?_
      rw [namespaceList_cons, List.append_assoc, List.singleton_append]
      constructor
      · intro ⟨hnames, hlist, hnew⟩
        refine ⟨hnames, ⟨hlabel, ?_, hlist⟩, ?_⟩
        · exact fun hmem => hnew _ hmem (by simp)
        · simp only [List.forall_mem_cons]
          exact ⟨hfresh, fun ns hmem hseen => hnew ns hmem (by simp [hseen])⟩
      · intro ⟨hnames, ⟨_, hnotin, hlist⟩, hnew⟩
        refine ⟨hnames, hlist, fun ns hmem hseen => ?_⟩
        rcases List.mem_append.mp hseen with hold | hsame
        · exact hnew ns (List.mem_cons_of_mem _ hmem) hold
        · rw [List.mem_singleton.mp hsame] at hmem
          exact hnotin hmem

/-- A text that is not blank gives its parts, when they are a list of distinct
labels. -/
theorem parseTargetNamespaces_eq_ok (hblank : trimSpace raw ≠ "") :
    parseTargetNamespaces library raw = .ok names ↔
      namespaceParts raw = names ∧ NamespaceList names := by
  unfold parseTargetNamespaces
  have hloop : (raw.toList.splitOn ',').foldlM
      (parseNamespacePart library raw) [] = .ok names ↔ _ :=
    parseParts_eq_ok (rfl : namespaceParts raw = _)
  rw [if_neg hblank, hloop]
  constructor
  · intro ⟨hnames, hlist, _⟩
    rw [List.nil_append] at hnames
    exact ⟨hnames.symm, by rwa [hnames]⟩
  · intro ⟨hnames, hlist⟩
    exact ⟨by simp [hnames], by rwa [hnames], by simp⟩

theorem not_blank_of_namespaceList (hlist : NamespaceList (namespaceParts raw)) :
    trimSpace raw ≠ "" := by
  intro hblank
  rw [namespaceParts_of_blank hblank] at hlist
  exact absurd (hlist.labels "" (by simp)) (by decide)

end Parsing

/-! ## Printing and reading back -/

section Printing

variable {names padded : List String}

theorem trimSpace_padded (hlabels : ∀ ns ∈ names, isDNS1123Label ns = true)
    (hpadded : List.Forall₂ Padded names padded) :
    padded.map trimSpace = names ∧ ∀ text ∈ padded, ',' ∉ text.toList := by
  induction hpadded with
  | nil => simp
  | @cons ns text names padded hhead _ ih =>
    rw [List.forall_mem_cons] at hlabels
    obtain ⟨htrim, hcommas⟩ := ih hlabels.2
    rw [List.map_cons, hhead.trimSpace_eq hlabels.1, htrim]
    exact ⟨rfl, List.forall_mem_cons.mpr ⟨hhead.no_comma hlabels.1, hcommas⟩⟩

theorem namespaceParts_intercalate (hne : names ≠ []) (hlist : NamespaceList names)
    (hpadded : List.Forall₂ Padded names padded) :
    namespaceParts (String.intercalate "," padded) = names := by
  obtain ⟨htrim, hcommas⟩ := trimSpace_padded hlist.labels hpadded
  have hpaddedNe : padded ≠ [] := by
    rintro rfl
    exact hne htrim.symm
  have hsplit : (String.intercalate "," padded).toList.splitOn ',' = padded.map String.toList := by
    rw [String.toList_intercalate]
    apply List.splitOn_intercalate
    · simpa using hcommas
    · simpa using hpaddedNe
  rw [namespaceParts, hsplit, List.map_map]
  simpa [Function.comp_def] using htrim

end Printing

/-- The grammar of the target namespaces: a blank text is no list; a text is
read as a non-empty list exactly when that is the list of its trimmed parts, all
of them labels and no two the same; any other text is refused; and a list of
distinct labels is read back however it is padded. -/
theorem parseTargetNamespaces_grammar (library : ParserLibrary) :
    (∀ raw, trimSpace raw = "" → parseTargetNamespaces library raw = .ok []) ∧
    (∀ raw names,
      names ≠ [] →
      (parseTargetNamespaces library raw = .ok names ↔
        namespaceParts raw = names ∧ NamespaceList names)) ∧
    (∀ raw,
      trimSpace raw ≠ "" →
      ¬ NamespaceList (namespaceParts raw) →
      ∃ problem, parseTargetNamespaces library raw = .error problem) ∧
    ∀ names padded,
      names ≠ [] →
      NamespaceList names →
      List.Forall₂ Padded names padded →
      parseTargetNamespaces library (String.intercalate "," padded) = .ok names := by
  refine ⟨?_, ?_, ?_, ?_⟩
  · intro raw hblank
    unfold parseTargetNamespaces
    rw [if_pos hblank]
  · intro raw names hne
    by_cases hblank : trimSpace raw = ""
    · constructor
      · intro hok
        unfold parseTargetNamespaces at hok
        rw [if_pos hblank] at hok
        exact absurd (Except.ok.inj hok).symm hne
      · intro ⟨hnames, hlist⟩
        rw [← hnames] at hlist
        exact absurd hblank (not_blank_of_namespaceList hlist)
    · exact parseTargetNamespaces_eq_ok hblank
  · intro raw hblank hrefused
    cases hparse : parseTargetNamespaces library raw with
    | error problem => exact ⟨problem, rfl⟩
    | ok names =>
      obtain ⟨rfl, hlist⟩ := (parseTargetNamespaces_eq_ok hblank).mp hparse
      exact absurd hlist hrefused
  · intro names padded hne hlist hpadded
    have hparts := namespaceParts_intercalate hne hlist hpadded
    apply (parseTargetNamespaces_eq_ok _).mpr ⟨hparts, hlist⟩
    apply not_blank_of_namespaceList
    rwa [hparts]

end K8sR8r
