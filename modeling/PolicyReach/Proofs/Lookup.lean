import PolicyReach.Proofs.ByteOrder
import PolicyReach.Proofs.Compilation

/-!
# Looking a policy up by its id

The policies of a set are sorted by the bytes of their ids, none of which occurs twice. A search that
goes on in the lower or in the upper half, as the id in the middle says, therefore leaves the policy
that it looks for in the half that it keeps.
-/
namespace PolicyReach

/-- Strictly before in the order of bytes: by namespace, and by name within one. -/
def PolicyRef.Precedes (a b : PolicyRef) : Prop :=
  Text.bytes a.ns < Text.bytes b.ns ∨ a.ns = b.ns ∧ Text.bytes a.name < Text.bytes b.name

theorem PolicyRef.compare_eq_lt_iff {a b : PolicyRef} : compare a b = .lt ↔ a.Precedes b := by
  have hthen : compare a b = (compare a.ns b.ns).then (compare a.name b.name) := rfl
  rw [hthen, Ordering.then_eq_lt, compare_lt_iff_lt, compare_lt_iff_lt, compare_eq_iff_eq, Precedes,
    Text.bytes_lt_bytes_iff, Text.bytes_lt_bytes_iff]

namespace PolicySet

/-! ### The search -/

/-- Ids compare as the places of their policies do. -/
def Ascending (policies : Array Policy) : Prop :=
  ∀ (i j : ℕ) (p q : Policy), policies[i]? = some p → policies[j]? = some q →
    compare p.id q.id = compare i j

/-- The policy `p` has the id and stands at one of the places from `lo` on and before `hi`. -/
def Stands (id : PolicyRef) (policies : Array Policy) (lo hi : ℕ) (p : Policy) : Prop :=
  ∃ i, lo ≤ i ∧ i < hi ∧ policies[i]? = some p ∧ p.id = id

section Search

variable {id : PolicyRef} {policies : Array Policy} {lo mid hi : ℕ} {p q : Policy}

theorem not_stands_of_le (h : hi ≤ lo) : ¬ Stands id policies lo hi p := by
  rintro ⟨i, hlo, hhi, -, -⟩
  omega

theorem Ascending.stands_iff_of_lt (h : Ascending policies) (hq : policies[mid]? = some q)
    (hlt : compare q.id id = .lt) (hlo : lo ≤ mid) :
    Stands id policies lo hi p ↔ Stands id policies (mid + 1) hi p := by
  constructor
  · rintro ⟨i, _, hhi, hp, rfl⟩
    rw [h mid i q p hq hp, compare_lt_iff_lt] at hlt
    exact ⟨i, hlt, hhi, hp, rfl⟩
  · rintro ⟨i, habove, hhi, hp, hid⟩
    exact ⟨i, by omega, hhi, hp, hid⟩

theorem Ascending.stands_iff_of_gt (h : Ascending policies) (hq : policies[mid]? = some q)
    (hgt : compare q.id id = .gt) (hhi : mid ≤ hi) :
    Stands id policies lo hi p ↔ Stands id policies lo mid p := by
  constructor
  · rintro ⟨i, hlo, _, hp, rfl⟩
    rw [h mid i q p hq hp, compare_gt_iff_gt] at hgt
    exact ⟨i, hlo, hgt, hp, rfl⟩
  · rintro ⟨i, hlo, hbelow, hp, hid⟩
    exact ⟨i, hlo, by omega, hp, hid⟩

theorem Ascending.stands_iff_of_eq (h : Ascending policies) (hq : policies[mid]? = some q)
    (heq : compare q.id id = .eq) (hlo : lo ≤ mid) (hhi : mid < hi) :
    Stands id policies lo hi p ↔ q = p := by
  constructor
  · rintro ⟨i, _, _, hp, rfl⟩
    rw [h mid i q p hq hp, compare_eq_iff_eq] at heq
    subst heq
    exact Option.some.inj (hq.symm.trans hp)
  · rintro rfl
    exact ⟨mid, hlo, hhi, hq, Std.LawfulEqOrd.eq_of_compare heq⟩

/-- The search finds what stands between the two places, and nothing else. -/
theorem search_eq_some_iff (h : Ascending policies) (hhi : hi ≤ policies.size) :
    search id policies lo hi = some p ↔ Stands id policies lo hi p := by
  fun_induction search id policies lo hi with
  | case1 lo hi hlt mid hnone =>
    have hmid : mid < policies.size := by omega
    rw [Array.getElem?_eq_getElem hmid] at hnone
    cases hnone
  | case2 lo hi hlt mid q hq heq =>
    have hlo : lo ≤ mid := by omega
    have hmid : mid < hi := by omega
    rw [h.stands_iff_of_eq hq heq hlo hmid, Option.some.injEq]
  | case3 lo hi hlt mid q hq hless ih =>
    have hlo : lo ≤ mid := by omega
    rw [ih hhi, h.stands_iff_of_lt hq hless hlo]
  | case4 lo hi hlt mid q hq hgreater ih =>
    have hmid : mid ≤ hi := by omega
    rw [ih (hmid.trans hhi), h.stands_iff_of_gt hq hgreater hmid]
  | case5 lo hi hle =>
    exact iff_of_false nofun (not_stands_of_le (by omega))

end Search

/-! ### Sets of policies -/

variable {docs : List Document.Policy} {s : PolicySet}

theorem ascending_policies (h : PolicySet.compile docs = .ok s) :
    Ascending s.policies.toArray := by
  have hsorted := List.pairwise_iff_getElem.mp (pairwise_policies h)
  intro i j p q hp hq
  rw [List.getElem?_toArray, List.getElem?_eq_some_iff] at hp hq
  obtain ⟨hi, rfl⟩ := hp
  obtain ⟨hj, rfl⟩ := hq
  rcases Nat.lt_trichotomy i j with hlt | rfl | hgt
  · rw [hsorted i j hi hj hlt, compare_lt_iff_lt.mpr hlt]
  · exact Std.ReflCmp.compare_self.trans (compare_eq_iff_eq.mpr rfl).symm
  · rw [Std.OrientedCmp.gt_of_lt (hsorted j i hj hi hgt), compare_gt_iff_gt.mpr hgt]

theorem get?_eq_some_iff (h : PolicySet.compile docs = .ok s) {id : PolicyRef} {p : Policy} :
    s.get? id = some p ↔ p ∈ s.policies ∧ p.id = id := by
  rw [get?, search_eq_some_iff (ascending_policies h) List.size_toArray.ge]
  constructor
  · rintro ⟨i, _, _, hp, hid⟩
    rw [List.getElem?_toArray] at hp
    exact ⟨List.mem_of_getElem? hp, hid⟩
  · rintro ⟨hp, hid⟩
    obtain ⟨i, hi, rfl⟩ := List.getElem_of_mem hp
    exact ⟨i, Nat.zero_le i, hi, by rw [List.getElem?_toArray, List.getElem?_eq_getElem hi], hid⟩

theorem get?_eq_none_iff (h : PolicySet.compile docs = .ok s) {id : PolicyRef} :
    s.get? id = none ↔ ∀ p ∈ s.policies, p.id ≠ id := by
  rw [Option.eq_none_iff_forall_ne_some]
  constructor
  · intro hnone p hp hid
    exact hnone p ((get?_eq_some_iff h).mpr ⟨hp, hid⟩)
  · intro hall p hp
    obtain ⟨hmem, hid⟩ := (get?_eq_some_iff h).mp hp
    exact hall p hmem hid

/-- A set holds what its documents compile to, one policy for each, in strictly ascending order of
the bytes of their ids. Under an id it finds the policy that has it, and nothing if there is none. -/
theorem sorted_and_searchable (h : PolicySet.compile docs = .ok s) :
    (s.policies.map Except.ok).Perm (docs.map Policy.compile) ∧
    s.policies.Pairwise (fun p q => p.id.Precedes q.id) ∧
    (∀ id p, s.get? id = some p ↔ p ∈ s.policies ∧ p.id = id) ∧
    ∀ id, s.get? id = none ↔ ∀ p ∈ s.policies, p.id ≠ id := by
  refine ⟨policies_perm h, ?_, fun id p => get?_eq_some_iff h, fun id => get?_eq_none_iff h⟩
  exact (pairwise_policies h).imp PolicyRef.compare_eq_lt_iff.mp

end PolicySet

namespace Sample

/-- Lets nothing reach the pods of a namespace. -/
def closing (ns name : String) : Document.Policy := .named ns name ⟨some .all, none, none, none⟩

def closed (ns name : String) : Policy := ⟨⟨ns, name⟩, .all, some [], none⟩

def closings : List Document.Policy :=
  [closing "x-y" "1", closing "x" "😀", closing "x" "9", closing "x" "10", closing "x" "Ａ"]

/-- Three other orders would put these elsewhere: that of the numbers in the names has `9` before
`10`, that of ids written out has `x-y/1` before `x/9`, and that of UTF-16 has the emoji before the
wide letter. -/
def closedInOrder : PolicySet :=
  ⟨[closed "x" "10", closed "x" "9", closed "x" "Ａ", closed "x" "😀", closed "x-y" "1"]⟩

theorem get?_of_closings :
    PolicySet.compile closings = .ok closedInOrder ∧
    closedInOrder.policies.Pairwise (fun p q => p.id.Precedes q.id) ∧
    closedInOrder.get? ⟨"x", "😀"⟩ = some (closed "x" "😀") ∧
    closedInOrder.get? ⟨"x-y", "10"⟩ = none := by
  have hcompile : PolicySet.compile closings = .ok closedInOrder := by cbv
  obtain ⟨_, hsorted, hfound, hmissing⟩ := PolicySet.sorted_and_searchable hcompile
  refine ⟨hcompile, hsorted, (hfound _ _).mpr ⟨?_, rfl⟩, (hmissing _).mpr ?_⟩
  · decide
  · decide

end Sample

end PolicyReach
