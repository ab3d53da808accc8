import K8sR8r.KubernetesObjects

/-!
# Names and label selectors

The validation rules of `k8s.io/apimachinery/pkg/util/validation` and the
selectors of `k8s.io/apimachinery/pkg/labels`, as documented there.  Both are
outside the repository; the policy evaluator and the request parser call them.
-/

namespace K8sR8r

/-! ## Name validation -/

def isLowerAlphanumeric (c : Char) : Bool :=
  c.isLower || c.isDigit

/-- A non-empty word over `inner` that starts and ends in `outer`. -/
def isWord (outer inner : Char → Bool) (text : List Char) : Bool :=
  match text.head?, text.getLast? with
  | some first, some last => outer first && outer last && text.all inner
  | _, _ => false

def isDNS1123Word (text : List Char) : Bool :=
  isWord isLowerAlphanumeric (fun c => isLowerAlphanumeric c || c = '-') text

/-- `validation.IsDNS1123Label` reports no problem. -/
def isDNS1123Label (text : String) : Bool :=
  text.utf8ByteSize ≤ 63 && isDNS1123Word text.toList

/-- `validation.IsDNS1123Subdomain` reports no problem. -/
def isDNS1123Subdomain (text : String) : Bool :=
  text.utf8ByteSize ≤ 253 && (text.toList.splitOn '.').all isDNS1123Word

def isQualifiedNamePart (text : List Char) : Bool :=
  text.length ≤ 63 && isWord Char.isAlphanum
      (fun c => c.isAlphanum || c = '-' || c = '_' || c = '.') text

/-- `validation.IsQualifiedName`: an optional DNS subdomain before a slash and
a short name after it. -/
def isQualifiedName (text : String) : Bool :=
  match text.toList.splitOn '/' with
  | [name] => isQualifiedNamePart name
  | [domain, name] =>
    isDNS1123Subdomain (String.ofList domain) && isQualifiedNamePart name
  | _ => false

/-- `validation.IsValidLabelValue`. -/
def isValidLabelValue (text : String) : Bool :=
  text.isEmpty || isQualifiedNamePart text.toList

/-! ## Selectors -/

/-- `selection.Operator`. -/
inductive SelectionOperator where
  | doesNotExist
  | equals
  | doubleEquals
  | inSet
  | notEquals
  | notIn
  | existsKey
  | greaterThan
  | lessThan
  deriving DecidableEq

def parseDigits (digits : List Char) : Option Nat :=
  if digits.isEmpty || !digits.all Char.isDigit then none
  else some (digits.foldl (fun value c => 10 * value + (c.toNat - 48)) 0)

/-- `strconv.ParseInt(text, 10, 64)`. -/
def parseInt64 (text : String) : Option Int :=
  let parsed : Option Int :=
    match text.toList with
    | '-' :: digits => (parseDigits digits).map fun value => -(value : Int)
    | '+' :: digits => (parseDigits digits).map fun value => (value : Int)
    | digits => (parseDigits digits).map fun value => (value : Int)
  parsed.filter fun value => decide (-(2 : Int) ^ 63 ≤ value ∧ value < 2 ^ 63)

/-- `labels.Requirement`. -/
structure Requirement where
  key : String
  operator : SelectionOperator
  values : List String
  deriving DecidableEq

/-- `labels.NewRequirement` accepts the requirement. -/
def Requirement.isValid (requirement : Requirement) : Bool :=
  isQualifiedName requirement.key && (match requirement.operator with
      | .inSet | .notIn => !requirement.values.isEmpty
      | .equals | .doubleEquals | .notEquals => requirement.values.length = 1
      | .existsKey | .doesNotExist => requirement.values.isEmpty
      | .greaterThan | .lessThan =>
        requirement.values.length = 1 &&
          requirement.values.all fun value => (parseInt64 value).isSome) &&
    requirement.values.all isValidLabelValue

/-- `labels.Requirement.Matches`. -/
def Requirement.matches (requirement : Requirement) (labels : StringMap) : Bool :=
  match requirement.operator, labels.lookup requirement.key with
  | .inSet, some value | .equals, some value | .doubleEquals, some value =>
    requirement.values.contains value
  | .inSet, none | .equals, none | .doubleEquals, none => false
  | .notIn, some value | .notEquals, some value =>
    !requirement.values.contains value
  | .notIn, none | .notEquals, none => true
  | .existsKey, found => found.isSome
  | .doesNotExist, found => found.isNone
  | .greaterThan, some value | .lessThan, some value =>
    match parseInt64 value, requirement.values.map parseInt64 with
    | some left, [some right] =>
      if requirement.operator = .greaterThan then left > right
      else left < right
    | _, _ => false
  | .greaterThan, none | .lessThan, none => false

/-- `labels.Selector`: nothing at all, or every requirement of a list. -/
inductive Selector where
  | nothing
  | requirements (list : List Requirement)
  deriving DecidableEq

def Selector.matches (selector : Selector) (labels : StringMap) : Bool :=
  match selector with
  | .nothing => false
  | .requirements list => list.all fun requirement => requirement.matches labels

/-- `metav1.LabelSelectorRequirement`; the operator is free text in the API. -/
structure LabelSelectorRequirement where
  key : String
  operator : String
  values : List String
  deriving DecidableEq

/-- `metav1.LabelSelector`. -/
structure LabelSelector where
  matchLabels : List (String × String)
  matchExpressions : List LabelSelectorRequirement
  deriving DecidableEq

def LabelSelectorRequirement.asRequirement (expression : LabelSelectorRequirement) :
    Option Requirement :=
  let operator : Option SelectionOperator :=
    if expression.operator = "In" then some .inSet
    else if expression.operator = "NotIn" then some .notIn
    else if expression.operator = "Exists" then some .existsKey
    else if expression.operator = "DoesNotExist" then some .doesNotExist
    else none
  operator.map fun operator => ⟨expression.key, operator, expression.values⟩

/-- `metav1.LabelSelectorAsSelector` on a non-nil selector: `none` is an invalid
selector. -/
def labelSelectorAsSelector (selector : LabelSelector) : Option Selector :=
  let fromLabels : List (Option Requirement) :=
    selector.matchLabels.map fun entry => some ⟨entry.1, .equals, [entry.2]⟩
  let fromExpressions :=
    selector.matchExpressions.map LabelSelectorRequirement.asRequirement
  ((fromLabels ++ fromExpressions).mapM fun requirement =>
    Option.filter Requirement.isValid requirement).map .requirements

end K8sR8r
