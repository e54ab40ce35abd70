import PolicyReach.Proofs.PolicyJson

/-!
# Policies documents that list what was written

Written policies are read again from an array of them, from an object that lists them under the name
`items`, and each of them also alone. An object may have other members, of whatever shape, but not
deeper than the limit of a document and without a part that denotes nothing.
-/
namespace PolicyReach

namespace Document

variable {ps : List Policy} {p : Policy} {before after : List (String × Json)}

/-- Some JSON value is read as the policy. -/
def Policy.Decodable (p : Policy) : Prop := ∃ v, Policy.ofJson? v = some p

theorem Policy.Decodable.again (h : p.Decodable) : Policy.ofJson? p.toJson = some p :=
  h.elim fun _ hv => Policy.rereads.again hv

/-- An array of written policies. -/
def written (ps : List Policy) : Json := .arr (ps.map Policy.toJson)

/-- An object that lists written policies among other members. -/
def listed (before after : List (String × Json)) (ps : List Policy) : Json :=
  .obj (before ++ ("items", written ps) :: after)

theorem mapM_written (hps : ∀ p ∈ ps, p.Decodable) :
    (ps.map Policy.toJson).mapM Policy.ofJson? = some ps := by
  rw [mapM_eq_some_iff, List.map_map]
  exact List.map_congr_left fun p hp => (hps p hp).again

theorem within_written (ps : List Policy) : Json.Within 11 (written ps) :=
  Policy.rereads.list.within ps

theorem isComplete_of_within {v : Json} {d : Nat} (h : Json.Within d v) (hd : d ≤ depthLimit) :
    isComplete v = true := by
  rw [isComplete, Bool.and_eq_true, decide_eq_true_iff]
  exact ⟨Json.readable_of_plain v h.plain, Nat.le_trans h.depth_le hd⟩

/-! ### Objects with items -/

/-- Whether a member of a document may have the value, although nobody reads it. -/
def isCarried (v : Json) : Bool := v.readable && v.depth < depthLimit

theorem isComplete_obj {members : List (String × Json)} :
    isComplete (.obj members) = members.all fun m => isCarried m.2 := by
  rw [Bool.eq_iff_iff, isComplete, Json.readable, Json.depth, Bool.and_eq_true,
    decide_eq_true_iff, Json.readableMembers_iff, List.all_eq_true]
  have hdepth : Json.depthMembers members + 1 ≤ depthLimit ↔
      ∀ m ∈ members, m.2.depth < depthLimit := by
    have hlimit : Json.depthMembers members + 1 ≤ depthLimit ↔
        Json.depthMembers members ≤ 126 := Nat.add_le_add_iff_right
    rw [hlimit, Json.depthMembers_le_iff]
    exact forall₂_congr fun _ _ => Nat.lt_succ_iff.symm
  simp only [hdepth, isCarried, Bool.and_eq_true, decide_eq_true_iff, forall_and]

theorem isComplete_listed :
    isComplete (listed before after ps) = (before ++ after).all fun m => isCarried m.2 := by
  have hitems : isCarried (written ps) = true := by
    have h := within_written ps
    rw [isCarried, Bool.and_eq_true, decide_eq_true_iff]
    exact ⟨Json.readable_of_plain _ h.plain, Nat.lt_of_le_of_lt h.depth_le (by decide)⟩
  rw [listed, isComplete_obj, List.all_append, List.all_cons, List.all_append, hitems,
    Bool.true_and]

theorem member?_listed (hother : ∀ m ∈ before ++ after, m.1 ≠ "items") (items : Json) :
    Json.member? (before ++ ("items", items) :: after) ("items", false) = some (some items) := by
  rw [List.forall_mem_append] at hother
  have hbefore : before.filter (fun m => m.1 = "items") = [] :=
    List.filter_eq_nil_iff.mpr fun m hm => by simpa using hother.1 m hm
  have hafter : after.filter (fun m => m.1 = "items") = [] :=
    List.filter_eq_nil_iff.mpr fun m hm => by simpa using hother.2 m hm
  rw [Json.member?, List.filter_append, List.filter_cons_of_pos (by simp), hbefore, hafter]
  rfl

theorem policiesOf?_listed (hps : ∀ p ∈ ps, p.Decodable)
    (hother : ∀ m ∈ before ++ after, m.1 ≠ "items")
    (hcarried : (before ++ after).all (fun m => isCarried m.2) = true) :
    policiesOf? (listed before after ps) = some ps := by
  have hlists : Lists (listed before after ps) (ps.map Policy.toJson) :=
    .object (member?_listed hother _)
  rw [policiesOf?_of_lists hlists (isComplete_listed.trans hcarried), mapM_written hps]
  rfl

/-! ### The other shapes -/

theorem policiesOf?_written (hps : ∀ p ∈ ps, p.Decodable) :
    policiesOf? (written ps) = some ps := by
  have hlists : Lists (written ps) (ps.map Policy.toJson) := .array _
  have hc := isComplete_of_within (within_written ps) (by decide)
  rw [policiesOf?_of_lists hlists hc, mapM_written hps]
  rfl

/-- A written policy lists no items and is no array, so that only the last reading fits. -/
theorem policiesOf?_toJson (hp : p.Decodable) : policiesOf? p.toJson = some [p] := by
  have hc := isComplete_of_within (Policy.rereads.within p) (by decide)
  rw [policiesOf?, if_pos hc, hp.again]
  rfl

/-! ### Texts -/

variable {text : String} {v : Json}

theorem policiesOf_of_parse (hv : Json.parse? text = some v) (h : policiesOf? v = some ps) :
    Program.policiesOf text = .ok ps :=
  Program.policiesOf_eq_ok_iff.mpr ⟨v, hv, h⟩

theorem policiesOf_of_incomplete (hv : Json.parse? text = some v) (h : isComplete v = false) :
    Program.policiesOf text = .error (Program.malformed "JSON") := by
  rw [Program.policiesOf, hv, Option.filter_some, h]
  rfl

/-- Policies that were read from JSON are read again from what is written for them, and written as
before: in an array, under the name `items` in an object with other members, and alone. Only the
other members can keep a document from being read. -/
theorem policiesOf_written (hps : ∀ p ∈ ps, p.Decodable) :
    (∀ p ∈ ps, Policy.ofJson? p.toJson = some p ∧
      (Policy.ofJson? p.toJson).map Policy.toJson = some p.toJson) ∧
    (Program.policiesOf (written ps).compact = .ok ps ∧
      ∀ text, Json.parse? text = some (written ps) → Program.policiesOf text = .ok ps) ∧
    (∀ before after, (∀ m ∈ before ++ after, m.1 ≠ "items") →
      ∀ text, Json.parse? text = some (listed before after ps) →
        Program.policiesOf text =
          if (before ++ after).all (fun m => isCarried m.2) then .ok ps
          else .error (Program.malformed "JSON")) ∧
    ∀ p ∈ ps, Program.policiesOf p.toJson.compact = .ok [p] ∧
      ∀ text, Json.parse? text = some p.toJson → Program.policiesOf text = .ok [p] := by
  refine ⟨fun p hp => ?_, ?_, fun before after hother text htext => ?_, fun p hp => ?_⟩
  · have hagain := (hps p hp).again
    exact ⟨hagain, congrArg (Option.map Policy.toJson) hagain⟩
  · have hread : ∀ text, Json.parse? text = some (written ps) → Program.policiesOf text = .ok ps :=
      fun text htext => policiesOf_of_parse htext (policiesOf?_written hps)
    exact ⟨hread _ (Json.parse?_compact (within_written ps).plain), hread⟩
  · split
    · next hcarried => exact policiesOf_of_parse htext (policiesOf?_listed hps hother hcarried)
    · next hcarried =>
      refine policiesOf_of_incomplete htext ?_
      rw [isComplete_listed]
      exact Bool.eq_false_iff.mpr hcarried
  · have hread : ∀ text, Json.parse? text = some p.toJson → Program.policiesOf text = .ok [p] :=
      fun text htext => policiesOf_of_parse htext (policiesOf?_toJson (hps p hp))
    exact ⟨hread _ (Json.parse?_compact (Policy.rereads.within p).plain), hread⟩

end Document

namespace Sample

open Document

/-- Two policies, among them one that names an operator that does not exist. -/
def twoPolicies : List Document.Policy :=
  [allPods "a", .named "x" "b" ⟨some ⟨none, some [⟨"app", .unsupported "Equals", .empty⟩]⟩,
    some [.egress], none, some []⟩]

def twoPoliciesJson : List Json :=
  [allPodsJson "a", .obj [
    ("metadata", .obj [("name", .str "b"), ("namespace", .str "x")]),
    ("spec", .arr [.obj [("matchExpressions",
        .arr [.obj [("operator", .str "Equals"), ("key", .str "app"), ("values", .arr [])]])],
      .arr [.obj [("Egress", .null)]], .null, .arr []])]]

theorem decodable_twoPolicies : ∀ p ∈ twoPolicies, p.Decodable := by
  have hread : twoPoliciesJson.map Policy.ofJson? = twoPolicies.map some := by cbv
  intro p hp
  have hmem : some p ∈ twoPoliciesJson.map Policy.ofJson? := hread ▸ List.mem_map_of_mem hp
  obtain ⟨v, _, hv⟩ := List.mem_map.mp hmem
  exact ⟨v, hv⟩

/-- Both policies are read from a list of them that says of which kind it is. -/
theorem policiesOf_twoPolicies :
    (∀ p ∈ twoPolicies, p.Decodable) ∧
    Program.policiesOf (listed [("kind", .str "List")] [] twoPolicies).compact =
      .ok twoPolicies := by
  have hparse : Json.parse? (listed [("kind", .str "List")] [] twoPolicies).compact =
      some (listed [("kind", .str "List")] [] twoPolicies) :=
    Json.parse?_compact (by decide)
  exact ⟨decodable_twoPolicies,
    (policiesOf_written decodable_twoPolicies).2.2.1 _ [] (by decide) _ hparse⟩

/-- Arrays within one another. -/
def nest : Nat → Json
  | 0 => .arr []
  | n + 1 => .arr [nest n]

theorem depth_nest (n : Nat) : (nest n).depth = n + 1 := by
  induction n with
  | zero => rfl
  | succ n ih => simp [nest, Json.depth, Json.depthItems, ih]

theorem plain_nest (n : Nat) : (nest n).plain = true := by
  induction n with
  | zero => rfl
  | succ n ih => simp [nest, Json.plain, Json.plainItems, ih]

/-- An empty list of policies with a note that is as deep as a document may be, which is one level
too deep for a part of it. -/
def deepNote : String := (listed [] [("note", nest 126)] []).compact

/-- An empty list of policies with a note that is half of a surrogate pair. -/
def halfNote : String := "\x7b\"items\":[],\"note\":\"\\ud800\"\x7d"

theorem documents_refused_for_a_note :
    (∃ note, Json.parse? deepNote = some (listed [] [("note", note)] []) ∧
      Program.policiesOf deepNote ≠ .ok []) ∧
    ∃ note, Json.parse? halfNote = some (listed [] [("note", note)] []) ∧
      Program.policiesOf halfNote ≠ .ok [] := by
  constructor
  · have hparse : Json.parse? deepNote = some (listed [] [("note", nest 126)] []) :=
      Json.parse?_compact (by simp [listed, written, Json.plain, Json.plainMembers, Json.plainItems,
        plain_nest])
    refine ⟨nest 126, hparse, ?_⟩
    have hdeep : isComplete (listed [] [("note", nest 126)] []) = false := by
      simp [isComplete_listed, isCarried, depth_nest, depthLimit]
    simp [policiesOf_of_incomplete hparse hdeep]
  · have hparse : Json.parse? halfNote = some (listed [] [("note", .unreadable)] []) := by cbv
    have hhalf : isComplete (listed [] [("note", .unreadable)] []) = false := by decide
    exact ⟨.unreadable, hparse, by simp [policiesOf_of_incomplete hparse hhalf]⟩

end Sample

end PolicyReach
