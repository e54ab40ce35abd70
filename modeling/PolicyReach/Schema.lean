import PolicyReach.Json.Print

/-!
# The schema of a policies document

Each type of a document is described by its fields; the schema is written from these descriptions.
-/
namespace PolicyReach.Schema

/-- What a value may be. -/
inductive Shape where
  | text
  /-- A number of 16 bits that is not below the least one. -/
  | number (least : Nat)
  | choice (names : List String)
  | list (item : Shape)
  /-- A list in which no item occurs twice. -/
  | set (item : Shape)
  | map (value : Shape)
  | either (one other : Shape)
  /-- A type that is described under its own name. -/
  | reference (name : String)

inductive Presence where
  | required
  | omissible
  /-- The field may be missing or null. -/
  | nullable
  /-- The field may be missing and is then an empty object. -/
  | blank

structure Field where
  name : String
  presence : Presence
  shape : Shape
  description : Option String

inductive Body where
  | shape (s : Shape)
  | record (fields : List Field)

structure Definition where
  name : String
  body : Body
  description : Option String

/-! ### Writing -/

abbrev Keywords := List (String × Json)

def describe (description : Option String) : Keywords :=
  Json.optional "description" .str description

def typed (nullable : Bool) (name : String) : Keywords :=
  [("type", if nullable then .arr [.str name, .str "null"] else .str name)]

def null : Json := .obj [("type", .str "null")]

def link (name : String) : Keywords := [("$ref", .str ("#/definitions/" ++ name))]

/-- Numbers of a schema are written with a fraction. -/
def fraction (n : Nat) : Json := .decimal false n 0

/-- The keywords that describe a shape, or null if that is also allowed. -/
def Shape.keywords (nullable : Bool) : Shape → Keywords
  | .text => typed nullable "string"
  | .number least =>
    typed nullable "integer" ++ [("format", .str "uint16"), ("minimum", fraction least)]
  | .choice names => typed nullable "string" ++ [("enum", .arr (names.map .str))]
  | .list item => typed nullable "array" ++ [("items", .obj (item.keywords false))]
  | .set item =>
    typed nullable "array" ++
      [("items", .obj (item.keywords false)), ("uniqueItems", .bool true)]
  | .map value =>
    typed nullable "object" ++ [("additionalProperties", .obj (value.keywords false))]
  | .either one other =>
    [("anyOf", .arr ([.obj (one.keywords false), .obj (other.keywords false)] ++
      (if nullable then [null] else [])))]
  | .reference name =>
    if nullable then [("anyOf", .arr [.obj (link name), null])] else link name

def Field.keywords (f : Field) : Keywords :=
  describe f.description ++
    match f.presence with
    | .required | .omissible => f.shape.keywords false
    | .nullable => f.shape.keywords true
    | .blank => [("default", .obj []), ("allOf", .arr [.obj (f.shape.keywords false)])]

def Field.isRequired (f : Field) : Bool :=
  match f.presence with
  | .required => true
  | _ => false

def requiredNames (fields : List Field) : Keywords :=
  match fields.filter (·.isRequired) with
  | [] => []
  | required => [("required", .arr (required.map fun f => .str f.name))]

def Body.keywords : Body → Keywords
  | .shape s => s.keywords false
  | .record fields =>
    typed false "object" ++ requiredNames fields ++
      [("properties", .obj (fields.map fun f => (f.name, .obj f.keywords)))]

def Definition.toJson (d : Definition) : Json :=
  .obj (describe d.description ++ d.body.keywords)

/-! ### The types of a document -/

def peersOf (d : String) (them : String) : Field :=
  ⟨d, .nullable, .list (.reference "NetworkPolicyPeer"),
    some (them ++ " allowed by this rule. Empty or missing permits all " ++
      them.map Char.toLower ++ ".")⟩

def rulePorts : Field :=
  ⟨"ports", .nullable, .list (.reference "NetworkPolicyPort"),
    some "Destination ports allowed by this rule. Empty or missing permits all ports."⟩

def selectorField (name : String) (description : Option String) : Field :=
  ⟨name, .nullable, .reference "Selector", description⟩

def ruleTypes : List Definition :=
  [⟨"EgressRule", .record [rulePorts, peersOf "to" "Destinations"], none⟩,
   ⟨"Expression", .record
      [⟨"key", .required, .text, none⟩, ⟨"operator", .required, .text, none⟩,
       ⟨"values", .omissible, .set .text, none⟩],
    some "A single label requirement."⟩,
   ⟨"IngressRule", .record [peersOf "from" "Sources", rulePorts], none⟩,
   ⟨"IpBlock", .record
      [⟨"cidr", .required, .text, none⟩, ⟨"except", .nullable, .list .text, none⟩], none⟩]

def policyTypes : List Definition :=
  [⟨"NetworkPolicy", .record
      [⟨"metadata", .blank, .reference "ObjectMeta", none⟩,
       ⟨"spec", .blank, .reference "NetworkPolicySpec", none⟩],
    some "A `networking.k8s.io/v1` NetworkPolicy document."⟩,
   ⟨"NetworkPolicyPeer", .record
      [⟨"ipBlock", .nullable, .reference "IpBlock", none⟩,
       selectorField "namespaceSelector" none, selectorField "podSelector" none], none⟩,
   ⟨"NetworkPolicyPort", .record
      [⟨"endPort", .nullable, .number 0, some "Extends a numeric `port` to an inclusive range."⟩,
       ⟨"port", .nullable, .reference "Port",
        some "A numeric or named port. When missing, all ports of the protocol match."⟩,
       ⟨"protocol", .nullable, .reference "Protocol", some "Defaults to TCP."⟩], none⟩,
   ⟨"NetworkPolicySpec", .record
      [⟨"egress", .nullable, .list (.reference "EgressRule"), none⟩,
       ⟨"ingress", .nullable, .list (.reference "IngressRule"), none⟩,
       selectorField "podSelector"
        (some ("Selects the pods in the policy's namespace that the policy applies to.\n\n" ++
          "An empty selector selects every pod in the namespace; a missing selector is invalid.")),
       ⟨"policyTypes", .nullable, .list (.reference "PolicyType"),
        some ("When unset (or empty), the policy applies to ingress and, if any egress rules " ++
          "are present, to egress.")⟩], none⟩]

def namedTypes : List Definition :=
  [⟨"ObjectMeta", .record
      [⟨"name", .nullable, .text, none⟩, ⟨"namespace", .nullable, .text, none⟩],
    some "The subset of object metadata that identifies a policy."⟩,
   ⟨"PolicyType", .shape (.choice ["Ingress", "Egress"]), none⟩,
   ⟨"Port", .shape (.either (.number 1) .text),
    some "References a pod spec's port by name or number."⟩,
   ⟨"Protocol", .shape (.choice ["TCP", "UDP", "SCTP"]),
    some "A transport protocol, as named by Kubernetes."⟩,
   ⟨"Selector", .record
      [⟨"matchExpressions", .nullable, .list (.reference "Expression"), none⟩,
       ⟨"matchLabels", .nullable, .map .text, none⟩],
    some "Selects a set of labeled resources.\n\nAn empty selector selects everything."⟩]

/-- All types by name. -/
def definitions : List Definition := ruleTypes ++ policyTypes ++ namedTypes

def draft : String := "json-schema.org/draft-07/schema#"

/-- A list of network policies. -/
def policies : Json :=
  .obj
    [("$schema", .str ("http://" ++ draft)),
     ("title", .str "Array_of_NetworkPolicy"),
     ("type", .str "array"),
     ("items", .obj (link "NetworkPolicy")),
     ("definitions", .obj (definitions.map fun d => (d.name, d.toJson)))]

/-- The printed schema. -/
def text : String := policies.pretty "" ++ "\n"

end PolicyReach.Schema
