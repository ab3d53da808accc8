import K8sR8r.PolicyEvaluation

/-!
# The annotation contract

`internal/annotations/annotations.go`: parsing and validating the `r8r.io/*`
request annotations.  The selector syntax of `labels.Parse` is outside the
repository and enters as a parameter.
-/

namespace K8sR8r

def annotationStart : String := "r8r.io/"
def keyReplicate : String := "r8r.io/replicate"
def keyTargetClusters : String := "r8r.io/target-clusters"
def keyTargetNamespaces : String := "r8r.io/target-namespaces"
def keyTargetName : String := "r8r.io/target-name"
def keyConflictPolicy : String := "r8r.io/conflict-policy"
def keySourceHash : String := "r8r.io/source-hash"

def requestKeys : List String :=
  [keyConflictPolicy, keyReplicate, keyTargetClusters, keyTargetName, keyTargetNamespaces]

def ignoredKeys : List String := [keySourceHash]

/-- Go's `unicode.IsSpace`. -/
def isSpaceRune (c : Char) : Bool :=
  let n := c.toNat
  (9 ≤ n && n ≤ 13) || n = 32 || n = 0x85 || n = 0xa0 || n = 0x1680 ||
    (0x2000 ≤ n && n ≤ 0x200a) || n = 0x2028 || n = 0x2029 || n = 0x202f ||
    n = 0x205f || n = 0x3000

/-- Go's `strings.TrimSpace`. -/
def trimSpace (text : String) : String :=
  String.ofList (((text.toList.dropWhile isSpaceRune).reverse.dropWhile isSpaceRune).reverse)

def ConflictPolicy.text : ConflictPolicy → String
  | .fail => "Fail"
  | .overwrite => "Overwrite"
  | .adopt => "Adopt"
  | .other text => text

def defaultConflictPolicy : ConflictPolicy := .fail

def parseConflictPolicy (raw : String) : Except String ConflictPolicy :=
  let trimmed := trimSpace raw
  if trimmed = "" then .ok defaultConflictPolicy
  else if trimmed = "Fail" then .ok .fail
  else if trimmed = "Adopt" then .ok .adopt
  else if trimmed = "Overwrite" then .ok .overwrite
  else
    .error ("annotation " ++ quoted keyConflictPolicy ++
      ": expected one of Fail, Adopt, Overwrite, got " ++ quoted trimmed)

/-- Lenient: anything that does not parse consents to nothing. -/
def requestedConflictPolicy (ann : StringMap) : ConflictPolicy :=
  match parseConflictPolicy (StringMap.get ann keyConflictPolicy) with
  | .ok cp => cp
  | .error _ => defaultConflictPolicy

def hasRequest (ann : StringMap) : Bool :=
  requestKeys.any fun key => (ann.lookup key).isSome

def replicates (ann : StringMap) : Bool :=
  StringMap.get ann keyReplicate = "true"

/-! ## Parsing the whole contract -/

/-- What the parser calls outside the repository: the selector grammar of
`labels.Parse`, and the texts with which `validation` explains a bad name. -/
structure ParserLibrary where
  parseSelector : String → Except String Selector
  labelProblems : String → String
  subdomainProblems : String → String

/-- `annotations.Request`. -/
structure AnnotationRequest where
  clusterSelector : Selector
  clusterSelectorString : String
  targetNamespaces : List String
  targetName : String
  conflictPolicy : ConflictPolicy

def AnnotationRequest.effectiveNamespaces (req : AnnotationRequest) (sourceNamespace : String) :
    List String :=
  if req.targetNamespaces.isEmpty then [sourceNamespace]
  else req.targetNamespaces

def annotationError (key text : String) : String :=
  "annotation " ++ quoted key ++ ": " ++ text

def parseClusterSelector (library : ParserLibrary) (raw : String) : Except String Selector :=
  let trimmed := trimSpace raw
  if trimmed = "" then .ok .nothing
  else if trimmed = "*" then
    .error (annotationError keyTargetClusters
      ("wildcard \"*\" is not supported; select clusters with an explicit " ++ "label selector"))
  else
    match library.parseSelector trimmed with
    | .ok selector => .ok selector
    | .error problem =>
      .error (annotationError keyTargetClusters
        ("invalid label selector " ++ quoted trimmed ++ ": " ++ problem))

/-- One comma-separated part, checked against the parts before it. -/
def parseNamespacePart (library : ParserLibrary) (raw : String) (seen : List String)
    (part : List Char) : Except String (List String) :=
  let ns := trimSpace (String.ofList part)
  if ns = "" then
    .error (annotationError keyTargetNamespaces ("empty namespace entry in " ++ quoted raw))
  else if !isDNS1123Label ns then
    .error (annotationError keyTargetNamespaces
      ("invalid namespace " ++ quoted ns ++ ": " ++ library.labelProblems ns))
  else if seen.contains ns then
    .error (annotationError keyTargetNamespaces ("duplicate namespace " ++ quoted ns))
  else .ok (seen ++ [ns])

def parseTargetNamespaces (library : ParserLibrary) (raw : String) : Except String (List String) :=
  if trimSpace raw = "" then .ok []
  else
    (raw.toList.splitOn ',').foldlM (parseNamespacePart library raw) []

def parseTargetName (library : ParserLibrary) (raw : String) : Except String String :=
  let name := trimSpace raw
  if name = "" then .ok ""
  else if isDNS1123Subdomain name then .ok name
  else
    .error (annotationError keyTargetName ("invalid name " ++ quoted name ++ ": " ++
        library.subdomainProblems name))

def parseReplicate (raw : String) : Except String Bool :=
  if raw = "true" then .ok true
  else if raw = "false" then .ok false
  else
    .error (annotationError keyReplicate ("expected \"true\" or \"false\", got " ++ quoted raw))

def unknownKeyErrors (ann : StringMap) : List String :=
  (ann.sortedKeys.filter fun key =>
      hasPrefix key annotationStart && !requestKeys.contains key &&
        !ignoredKeys.contains key).map fun key =>
    annotationError key ("unknown r8r.io annotation (valid keys: " ++
      String.intercalate ", " requestKeys ++ ")")

/-- An optional annotation: its default when absent, and its error if any. -/
def parseOptional {α : Type} (ann : StringMap) (key : String) (missing : α)
    (parser : String → Except String α) : α × List String :=
  match ann.lookup key with
  | none => (missing, [])
  | some raw =>
    match parser raw with
    | .ok value => (value, [])
    | .error problem => (missing, [problem])

/-- `annotations.Parse`; `none` means that the object does not opt in. -/
def parseAnnotations (library : ParserLibrary) (ann : StringMap) :
    Except (List String) (Option AnnotationRequest) :=
  let optIn := parseOptional ann keyReplicate false parseReplicate
  let selector := parseOptional ann keyTargetClusters .nothing
    (parseClusterSelector library)
  let namespaces := parseOptional ann keyTargetNamespaces []
    (parseTargetNamespaces library)
  let name := parseOptional ann keyTargetName "" (parseTargetName library)
  let policy := parseOptional ann keyConflictPolicy defaultConflictPolicy
    parseConflictPolicy
  let errs := unknownKeyErrors ann ++ optIn.2 ++ selector.2 ++
    namespaces.2 ++ name.2 ++ policy.2
  if !errs.isEmpty then .error errs
  else if !optIn.1 then .ok none
  else
    .ok (some
      { clusterSelector := selector.1
        clusterSelectorString :=
          trimSpace (StringMap.get ann keyTargetClusters)
        targetNamespaces := namespaces.1
        targetName := name.1
        conflictPolicy := policy.1 })

/-- `utilerrors.Aggregate.Error`: repeated messages once, several in
brackets. -/
def aggregateText (errs : List String) : String :=
  match errs.eraseDups with
  | [single] => single
  | several => "[" ++ String.intercalate ", " several ++ "]"

end K8sR8r
