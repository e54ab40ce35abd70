/-!
# JSON values

Members keep their order and may repeat a name. A text can be well formed and still denote no
value: a string with half of a surrogate pair, or a number beyond the doubles. Such a part is kept
as `unreadable`, because nobody minds it where the value is ignored.
-/
namespace PolicyReach

inductive Json where
  | null
  | bool (b : Bool)
  | int (i : Int)
  /-- A number that is not an integer of 64 bits: about `significand * 10 ^ scale`. -/
  | decimal (negative : Bool) (significand : Nat) (scale : Int)
  | str (s : String)
  | arr (items : List Json)
  | obj (members : List (String × Json))
  | unreadable
  deriving Inhabited

namespace Json

mutual

/-- No part is `unreadable`. -/
def readable : Json → Bool
  | .arr items => readableItems items
  | .obj members => readableMembers members
  | .unreadable => false
  | _ => true

def readableItems : List Json → Bool
  | [] => true
  | v :: rest => readable v && readableItems rest

def readableMembers : List (String × Json) → Bool
  | [] => true
  | m :: rest => readable m.2 && readableMembers rest

end

mutual

/-- How many arrays and objects stand inside one another. -/
def depth : Json → Nat
  | .arr items => depthItems items + 1
  | .obj members => depthMembers members + 1
  | _ => 0

def depthItems : List Json → Nat
  | [] => 0
  | v :: rest => max (depth v) (depthItems rest)

def depthMembers : List (String × Json) → Nat
  | [] => 0
  | m :: rest => max (depth m.2) (depthMembers rest)

end

/-! ### Reading parts of a value -/

def asString? : Json → Option String
  | .str s => some s
  | _ => none

def asList? {α : Type} (item : Json → Option α) : Json → Option (List α)
  | .arr items => items.mapM item
  | _ => none

def asNat? (bound : Nat) : Json → Option Nat
  | .int (.ofNat n) => if n < bound then some n else none
  | _ => none

/-- A part that may be missing or null. -/
def nullable {α : Type} (item : Json → Option α) : Option Json → Option (Option α)
  | none | some .null => some none
  | some v => (item v).map some

/-- A part that may be missing, but not null. -/
def orElse {α : Type} (missing : α) (item : Json → Option α) : Option Json → Option α
  | none => some missing
  | some v => item v

/-- The member of a record under a name, which may be missing only if it is optional and must not
occur twice. -/
def member? (members : List (String × Json)) (slot : String × Bool) : Option (Option Json) :=
  match members.filter fun m => m.1 = slot.1 with
  | [] => if slot.2 then some none else none
  | [m] => some (some m.2)
  | _ => none

/-- Hands the items of an array to the slots of a record in their order. -/
def fill : List (String × Bool) → List Json → Option (List (Option Json))
  | [], [] => some []
  | [], _ :: _ => none
  | slot :: slots, [] => if slot.2 then (fill slots []).map (none :: ·) else none
  | _ :: slots, v :: rest => (fill slots rest).map (some v :: ·)

/-- A record is an object, or an array of the fields' values in their order. The slots name the
fields and tell which of them are optional; other members are ignored. -/
def record? (slots : List (String × Bool)) : Json → Option (List (Option Json))
  | .obj members => slots.mapM (member? members)
  | .arr items => fill slots items
  | _ => none

/-! ### Building values -/

def ofNat (n : Nat) : Json := .int n

def ofOption {α : Type} (item : α → Json) : Option α → Json
  | none => .null
  | some a => item a

/-- A member that is left out when it has no value. -/
def optional {α : Type} (name : String) (item : α → Json) : Option α → List (String × Json)
  | none => []
  | some a => [(name, item a)]

end Json

end PolicyReach
