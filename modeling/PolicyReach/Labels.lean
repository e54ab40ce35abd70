import PolicyReach.Json.Value
import PolicyReach.Sorted

/-!
# Labels of namespaces and workloads
-/
namespace PolicyReach

abbrev Labels := SortedMap String String

namespace Labels

def text (labels : Labels) : String :=
  String.intercalate "," (labels.toList.map fun l => l.1 ++ "=" ++ l.2)

/-- Of a key that is written twice the last value counts. -/
def ofJson? : Json → Option Labels
  | .obj members => do
    let entries ← members.mapM fun m => m.2.asString?.map (m.1, ·)
    return SortedMap.ofList entries
  | _ => none

def toJson (labels : Labels) : Json := .obj (labels.toList.map fun l => (l.1, .str l.2))

end Labels

end PolicyReach
