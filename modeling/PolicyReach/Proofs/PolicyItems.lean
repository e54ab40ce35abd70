import PolicyReach.Program
import PolicyReach.Proofs.Compilation

/-!
# Items of policies documents

A document lists policies as the items of an array, or of an array that an object has under the name
`items`. All of them are kept if each item is a policy. If some item is none, the document may still
be one policy as a whole, and then that one is all there is.
-/
namespace PolicyReach

namespace Document

/-- The items of a document. The name `items` counts only where an object has it once. -/
inductive Lists : Json → List Json → Prop where
  | array (items : List Json) : Lists (.arr items) items
  | object {members : List (String × Json)} {items : List Json}
      (h : Json.member? members ("items", false) = some (some (.arr items))) :
      Lists (.obj members) items

variable {v : Json} {items : List Json} {docs : List Policy}

theorem isComplete_of_policiesOf? (h : policiesOf? v = some docs) : isComplete v = true := by
  by_contra hc
  rw [policiesOf?, if_neg hc] at h
  cases h

/-- The items come first, the whole document only where they are not all policies. -/
theorem policiesOf?_of_lists (hlists : Lists v items) (hc : isComplete v = true) :
    policiesOf? v = (items.mapM Policy.ofJson?).or ((Policy.ofJson? v).map ([·])) := by
  rw [policiesOf?, if_pos hc]
  cases hlists with
  | array => rfl
  | @object members _ h =>
    have hitems : itemsOf? (.obj members) = items.mapM Policy.ofJson? := by
      rw [itemsOf?, h]
      rfl
    rw [hitems]
    rfl

theorem policiesOf?_of_all (hlists : Lists v items) (h : policiesOf? v = some docs)
    (hall : ∀ item ∈ items, Policy.ofJson? item ≠ none) :
    items.map Policy.ofJson? = docs.map some := by
  rw [policiesOf?_of_lists hlists (isComplete_of_policiesOf? h)] at h
  cases hread : items.mapM Policy.ofJson? with
  | none =>
    obtain ⟨item, hitem, hnone⟩ := mapM_eq_none_iff.mp hread
    exact absurd hnone (hall item hitem)
  | some read =>
    rw [hread, Option.some_or] at h
    exact mapM_eq_some_iff.mp (hread.trans h)

theorem policiesOf?_of_bad_item (hlists : Lists v items) (h : policiesOf? v = some docs)
    (hbad : ∃ item ∈ items, Policy.ofJson? item = none) :
    ∃ doc, Policy.ofJson? v = some doc ∧ docs = [doc] := by
  rw [policiesOf?_of_lists hlists (isComplete_of_policiesOf? h), mapM_eq_none_iff.mpr hbad,
    Option.none_or] at h
  obtain ⟨doc, hdoc, hdocs⟩ := Option.map_eq_some_iff.mp h
  exact ⟨doc, hdoc, hdocs.symm⟩

/-- An array is a policy by its first two items, of which the second one tells what it is about. -/
theorem length_of_ofJson?_arr {doc : Policy} (h : Policy.ofJson? (.arr items) = some doc)
    (hspec : doc.spec.podSelector ≠ none) : items.length = 2 := by
  obtain ⟨slots, hslots, h⟩ := Option.bind_eq_some_iff.mp h
  match items with
  | [] =>
    obtain rfl := Option.some.inj hslots
    obtain rfl := Option.some.inj h
    exact absurd rfl hspec
  | [metadata] =>
    obtain rfl := Option.some.inj hslots
    obtain ⟨_, _, h⟩ := Option.bind_eq_some_iff.mp h
    obtain rfl := Option.some.inj h
    exact absurd rfl hspec
  | [metadata, spec] => rfl
  | _ :: _ :: _ :: _ => cases hslots

end Document

/-- Reading a text succeeds if it is JSON that holds policies in one of the accepted forms. -/
theorem Program.policiesOf_eq_ok_iff {text : String} {docs : List Document.Policy} :
    policiesOf text = .ok docs ↔
      ∃ v, Json.parse? text = some v ∧ Document.policiesOf? v = some docs := by
  rw [policiesOf]
  cases Json.parse? text with
  | none => simp
  | some v =>
    simp only [Option.some.injEq, exists_eq_left']
    by_cases hc : Document.isComplete v = true
    · simp only [Option.filter_some, hc, if_true]
      cases Document.policiesOf? v <;> simp
    · simp only [Option.filter_some, hc, Bool.false_eq_true, if_false, reduceCtorEq, false_iff]
      exact fun h => hc (Document.isComplete_of_policiesOf? h)

namespace PolicySet

/-- The policies of the set are those that the items compile to, one for each item. -/
def Keeps (s : PolicySet) (items : List Json) : Prop :=
  ∃ docs : List Document.Policy, items.map Document.Policy.ofJson? = docs.map some ∧
    (s.policies.map Except.ok).Perm (docs.map Policy.compile)

variable {text : String} {v : Json} {items : List Json} {docs : List Document.Policy}
  {s : PolicySet}

theorem Keeps.length_eq (h : s.Keeps items) : s.policies.length = items.length := by
  obtain ⟨docs, hitems, hperm⟩ := h
  have hlen := congrArg List.length hitems
  simp only [List.length_map] at hlen
  simpa [hlen] using hperm.length_eq

theorem Keeps.decodes (h : s.Keeps items) :
    ∀ item ∈ items, Document.Policy.ofJson? item ≠ none := by
  obtain ⟨docs, hitems, _⟩ := h
  intro item hitem hnone
  have hmem : none ∈ docs.map some := by
    rw [← hitems, ← hnone]
    exact List.mem_map_of_mem hitem
  simp at hmem

/-- A text that lists its policies, and is accepted, keeps each of them exactly if every item is a
policy. Otherwise it is taken for one policy as a whole; an array then has two items, of which
neither need be a policy. -/
theorem keeps_iff_items_decode (hv : Json.parse? text = some v) (hlists : Document.Lists v items)
    (hdocs : Program.policiesOf text = .ok docs) (hs : PolicySet.compile docs = .ok s) :
    (s.Keeps items ↔ ∀ item ∈ items, Document.Policy.ofJson? item ≠ none) ∧
    ((∃ item ∈ items, Document.Policy.ofJson? item = none) →
      (∃ doc, Document.Policy.ofJson? v = some doc ∧ docs = [doc]) ∧ s.policies.length = 1 ∧
        (v = .arr items → items.length = 2)) := by
  obtain ⟨v', hv', hread⟩ := Program.policiesOf_eq_ok_iff.mp hdocs
  obtain rfl := Option.some.inj (hv.symm.trans hv')
  refine ⟨⟨Keeps.decodes, fun hall => ?_⟩, fun hbad => ?_⟩
  · exact ⟨docs, Document.policiesOf?_of_all hlists hread hall, policies_perm hs⟩
  · obtain ⟨doc, hdoc, rfl⟩ := Document.policiesOf?_of_bad_item hlists hread hbad
    obtain ⟨p, _, hp⟩ := exists_compile_of_mem hs List.mem_cons_self
    obtain rfl := Except.ok.inj (hs.symm.trans (compile_singleton hp))
    refine ⟨⟨doc, hdoc, rfl⟩, rfl, ?_⟩
    rintro rfl
    refine Document.length_of_ofJson?_arr hdoc ?_
    rw [(compileTarget_eq_ok_iff.mp (Policy.compile_eq_ok_iff.mp hp).1).2.2.1]
    exact Option.some_ne_none _

end PolicySet

namespace Sample

def onePolicy : String :=
  "[\x7b\"metadata\":\x7b\"namespace\":\"x\",\"name\":\"a\"\x7d,\"spec\":\x7b\"podSelector\":\x7b\x7d\x7d\x7d]"

/-- An array of two items, of which the first is no policy, but which are one together. -/
def twoItems : String :=
  "[\x7b\"namespace\":\"x\",\"name\":\"a\",\"metadata\":5\x7d,\x7b\"podSelector\":\x7b\x7d\x7d]"

/-- A list of two numbers with metadata and a spec. -/
def namedList : String :=
  "\x7b\"items\":[1,2],\"metadata\":\x7b\"namespace\":\"x\",\"name\":\"p\"\x7d,\"spec\":\x7b\"podSelector\":\x7b\x7d\x7d\x7d"

/-- What the text of a policy says. -/
def allPods (name : String) : Document.Policy := .named "x" name ⟨some .all, none, none, none⟩

def allPodsJson (name : String) : Json :=
  .obj [("metadata", .obj [("namespace", .str "x"), ("name", .str name)]),
    ("spec", .obj [("podSelector", .obj [])])]

/-- Nothing may reach any pod. -/
def closeAll (name : String) : Policy := ⟨⟨"x", name⟩, .all, some [], none⟩

def metadataAndSpec : List Json :=
  [.obj [("namespace", .str "x"), ("name", .str "a"), ("metadata", .int 5)],
    .obj [("podSelector", .obj [])]]

def namedMembers : List (String × Json) :=
  [("items", .arr [.int 1, .int 2]),
    ("metadata", .obj [("namespace", .str "x"), ("name", .str "p")]),
    ("spec", .obj [("podSelector", .obj [])])]

theorem parse_twoItems : Json.parse? twoItems = some (.arr metadataAndSpec) := by cbv

theorem policiesOf_twoItems : Program.policiesOf twoItems = .ok [allPods "a"] := by cbv

theorem compile_allPods (name : String) :
    PolicySet.compile [allPods name] = .ok ⟨[closeAll name]⟩ :=
  PolicySet.compile_singleton rfl

/-- The policy of one array is kept, and both items of the other are one policy. -/
theorem keeps_onePolicy :
    (⟨[closeAll "a"]⟩ : PolicySet).Keeps [allPodsJson "a"] ∧
    ¬ (⟨[closeAll "a"]⟩ : PolicySet).Keeps metadataAndSpec ∧
    ∃ doc, Document.Policy.ofJson? (.arr metadataAndSpec) = some doc ∧ [allPods "a"] = [doc] := by
  have hparse : Json.parse? onePolicy = some (.arr [allPodsJson "a"]) := by cbv
  have hdocs : Program.policiesOf onePolicy = .ok [allPods "a"] := by cbv
  obtain ⟨hkeeps, _⟩ := PolicySet.keeps_iff_items_decode hparse (.array _) hdocs
    (compile_allPods "a")
  obtain ⟨hlost, hwhole⟩ := PolicySet.keeps_iff_items_decode parse_twoItems (.array _)
    policiesOf_twoItems (compile_allPods "a")
  have hread : Document.Policy.ofJson? (allPodsJson "a") = some (allPods "a") := by cbv
  have hnone : Document.Policy.ofJson? metadataAndSpec.head! = none := by cbv
  have hbad : ∃ item ∈ metadataAndSpec, Document.Policy.ofJson? item = none :=
    ⟨_, List.mem_cons_self, hnone⟩
  refine ⟨hkeeps.mpr ?_, fun h => ?_, (hwhole hbad).1⟩
  · intro item hitem
    rw [List.mem_singleton.mp hitem, hread]
    exact Option.some_ne_none _
  · exact hlost.mp h _ List.mem_cons_self hnone

/-- A text that is accepted although not each of its items is a policy of the set. -/
def LosesItems (text : String) : Prop :=
  ∃ v items docs s, Json.parse? text = some v ∧ Document.Lists v items ∧
    Program.policiesOf text = .ok docs ∧ PolicySet.compile docs = .ok s ∧ ¬ s.Keeps items

theorem texts_that_lose_items : LosesItems twoItems ∧ LosesItems namedList := by
  constructor
  · exact ⟨_, _, _, _, parse_twoItems, .array _, policiesOf_twoItems, compile_allPods "a",
      fun h => absurd h.length_eq (by decide)⟩
  · have hparse : Json.parse? namedList = some (.obj namedMembers) := by cbv
    have hdocs : Program.policiesOf namedList = .ok [allPods "p"] := by cbv
    have hitems : Json.member? namedMembers ("items", false) =
        some (some (.arr [.int 1, .int 2])) := by cbv
    exact ⟨_, _, _, _, hparse, .object hitems, hdocs, compile_allPods "p",
      fun h => absurd h.length_eq (by decide)⟩

end Sample

end PolicyReach
