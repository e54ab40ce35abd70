import PolicyReach.Proofs.Defects
import PolicyReach.Proofs.OrderIndependence

/-!
# What validation accepts and reports

A list of documents is rejected for the first defect of the first document that has one, and for an
id that is used twice only if no document has any.
-/
namespace PolicyReach

/-- More than one of the documents have the id. -/
def Document.Repeats (docs : List Document.Policy) (id : PolicyRef) : Prop :=
  (docs.map (·.metadata)).Duplicate id.metadata

/-- Rules for a direction that the listed types leave out are not looked at. -/
theorem Policy.compile_withRules {doc : Document.Policy} {d : Direction}
    (htypes : doc.spec.policyTypes.getD [] ≠ []) (hd : d ∉ doc.spec.policyTypes.getD [])
    (rules : Option (List Document.Rule)) :
    Policy.compile (doc.withRules d rules) = Policy.compile doc := by
  have hdirection (id : PolicyRef) (e : Direction) :
      compileDirection id (doc.withRules d rules) e = compileDirection id doc e := by
    rw [compileDirection, compileDirection, Document.Policy.declares_withRules htypes,
      Document.Policy.rules_withRules]
    split
    · next he =>
      have hne : e ≠ d := by
        rintro rfl
        rw [Document.Policy.declares_of_types htypes, List.contains_iff_mem] at he
        exact hd he
      rw [if_neg hne]
    · rfl
  simp only [Policy.compile, compileTarget_withRules, hdirection]

namespace PolicySet

variable {docs docs' A B : List Document.Policy} {doc : Document.Policy}

/-- Only what the documents compile to matters for what the list does. -/
theorem compile_congr (h : docs.map Policy.compile = docs'.map Policy.compile) :
    PolicySet.compile docs = PolicySet.compile docs' := by
  have hmapM (l : List Document.Policy) :
      l.mapM Policy.compile = (l.map Policy.compile).mapM id := by
    rw [List.mapM_map]
    rfl
  rw [PolicySet.compile, PolicySet.compile, hmapM, hmapM, h]

theorem exists_of_wellFormed (h : ∀ doc ∈ docs, doc.WellFormed) :
    ∃ ps : List Policy, docs.map Policy.compile = ps.map .ok :=
  exists_of_valid fun doc hdoc => Policy.exists_compile_iff.mpr (h doc hdoc)

theorem repeats_iff {ps : List Policy} (h : docs.map Policy.compile = ps.map .ok)
    {id : PolicyRef} :
    Document.Repeats docs id ↔ ((ps.mergeSort idLe).map (·.id)).Duplicate id := by
  rw [Document.Repeats, Policy.map_metadata h, List.duplicate_iff_two_le_count,
    List.duplicate_iff_two_le_count, List.count_map_of_injective _ _ PolicyRef.metadata_injective,
    ((List.mergeSort_perm ps idLe).map (·.id)).count_eq]

theorem exists_ok_iff : (∃ s, PolicySet.compile docs = .ok s) ↔
    (∀ doc ∈ docs, doc.WellFormed) ∧ (docs.map (·.metadata)).Nodup := by
  constructor
  · rintro ⟨s, hs⟩
    obtain ⟨ps, hps, hnodup, _⟩ := compile_eq_ok_iff.mp hs
    refine ⟨fun doc hdoc => ?_, (Policy.nodup_ids_iff hps).mp hnodup⟩
    obtain ⟨p, _, hp⟩ := exists_compile_of_mem hs hdoc
    exact Policy.exists_compile_iff.mp ⟨p, hp⟩
  · rintro ⟨hwell, hnodup⟩
    obtain ⟨ps, hps⟩ := exists_of_wellFormed hwell
    exact ⟨_, compile_eq_ok_iff.mpr ⟨ps, hps, (Policy.nodup_ids_iff hps).mpr hnodup, rfl⟩⟩

/-- The documents after the first one with a defect do not matter, nor do ids that repeat. -/
theorem compile_of_first_defect (hA : ∀ a ∈ A, a.WellFormed) (hdoc : ¬ doc.WellFormed) :
    ∃ e, doc.defects.head? = some e ∧ PolicySet.compile (A ++ doc :: B) = .error e := by
  have hnil : A.flatMap Document.Policy.defects = [] :=
    List.flatMap_eq_nil_iff.mpr fun a ha => Document.Policy.defects_eq_nil_iff.mpr (hA a ha)
  obtain ⟨e, rest, hdefects⟩ :=
    List.exists_cons_of_ne_nil fun h => hdoc (Document.Policy.defects_eq_nil_iff.mp h)
  -- The defects of a list are those of its documents, one document after another.
  have hreports := reports_mapM (l := A ++ doc :: B) fun d _ => reports_compile d
  have herror := hreports.eq_error (e := e) (by simp [hnil, hdefects])
  refine ⟨e, by rw [hdefects]; rfl, ?_⟩
  rw [PolicySet.compile, herror]
  rfl

/-- Without defects the least of the ids that repeat is reported. -/
theorem compile_of_repeats (hwell : ∀ doc ∈ docs, doc.WellFormed)
    (hrepeat : ¬ (docs.map (·.metadata)).Nodup) :
    ∃ id, Document.Repeats docs id ∧
      (∀ other, Document.Repeats docs other → (compare id other).isLE) ∧
      PolicySet.compile docs = .error (.duplicate id) := by
  obtain ⟨ps, hps⟩ := exists_of_wellFormed hwell
  have hdup : firstDuplicate? (ps.mergeSort idLe) ≠ none := fun hnone =>
    hrepeat ((Policy.nodup_ids_iff hps).mp (firstDuplicate?_sort_eq_none_iff.mp hnone))
  obtain ⟨id, hid⟩ := Option.ne_none_iff_exists'.mp hdup
  obtain ⟨hrepeats, hleast⟩ := duplicate_of_firstDuplicate? (pairwise_sort ps) hid
  refine ⟨id, (repeats_iff hps).mpr hrepeats, ?_, ?_⟩
  · intro other hother
    exact hleast other ((repeats_iff hps).mp hother)
  · rw [compile_of_valid hps, hid]

/-- Exactly the lists of well-formed documents with different ids compile. Otherwise what is reported
is the first defect of the first document that has any, and the least of the ids that repeat if none
has. Rules for directions that the types of a document leave out play no part in this. -/
theorem compile_reports_first_defect (docs : List Document.Policy) :
    ((∃ s, PolicySet.compile docs = .ok s) ↔
      (∀ doc ∈ docs, doc.WellFormed) ∧ (docs.map (·.metadata)).Nodup) ∧
    (∀ A doc B, docs = A ++ doc :: B → (∀ a ∈ A, a.WellFormed) → ¬ doc.WellFormed →
      ∃ e, doc.defects.head? = some e ∧ PolicySet.compile docs = .error e) ∧
    ((∀ doc ∈ docs, doc.WellFormed) → ¬ (docs.map (·.metadata)).Nodup →
      ∃ id, Document.Repeats docs id ∧
        (∀ other, Document.Repeats docs other → (compare id other).isLE) ∧
        PolicySet.compile docs = .error (.duplicate id)) ∧
    ∀ A doc B d rules, docs = A ++ doc :: B → doc.spec.policyTypes.getD [] ≠ [] →
      d ∉ doc.spec.policyTypes.getD [] →
      PolicySet.compile (A ++ doc.withRules d rules :: B) = PolicySet.compile docs := by
  refine ⟨exists_ok_iff, ?_, compile_of_repeats, ?_⟩
  · rintro A doc B rfl hA hdoc
    exact compile_of_first_defect hA hdoc
  · rintro A doc B d rules rfl htypes hd
    refine compile_congr ?_
    rw [List.map_append, List.map_append, List.map_cons, List.map_cons,
      Policy.compile_withRules htypes hd]

end PolicySet

namespace Sample

/-- Excepts more than it lets in, and gives a range of ports that begins with a name. -/
def broken : Document.Policy :=
  .named "x" "3" ⟨some (pods "a"), some [.ingress], some [⟨some [.block "10.0.0.0/8"
    ["10.1.0.0/16", "11.0.0.0/8"]], some [⟨none, some (.name "http"), some 9000⟩]⟩], none⟩

/-- Of two rejected documents the first one is reported, whatever its rules for egress are, and ids
that repeat are reported only where no document is rejected. -/
theorem reports_of_broken :
    (∃ s, PolicySet.compile [guardA, closeB] = .ok s) ∧
    (∃ e, PolicySet.compile [guardA, broken, guardA] = .error e ∧ e.message =
      "policy x/3 ingress rule 0 excepts 11.0.0.0/8, which is not within 10.0.0.0/8") ∧
    PolicySet.compile [guardA, broken.withRules .egress (some [⟨some [⟨none, none, none⟩], none⟩]),
      guardA] = PolicySet.compile [guardA, broken, guardA] ∧
    PolicySet.compile [guardA, guardA] = .error (.duplicate ⟨"x", "1"⟩) := by
  have hA : guardA.WellFormed := Document.Policy.defects_eq_nil_iff.mp (by cbv)
  have hB : closeB.WellFormed := Document.Policy.defects_eq_nil_iff.mp (by cbv)
  have hfirst : broken.defects.head?.map Invalid.message =
      some "policy x/3 ingress rule 0 excepts 11.0.0.0/8, which is not within 10.0.0.0/8" := by
    decide +kernel
  have hbroken : ¬ broken.WellFormed := fun h => by
    rw [Document.Policy.defects_eq_nil_iff.mpr h] at hfirst
    cases hfirst
  obtain ⟨hok, _, _, _⟩ := PolicySet.compile_reports_first_defect [guardA, closeB]
  obtain ⟨_, hdefect, _, hignored⟩ :=
    PolicySet.compile_reports_first_defect [guardA, broken, guardA]
  obtain ⟨_, _, hrepeats, _⟩ := PolicySet.compile_reports_first_defect [guardA, guardA]
  refine ⟨hok.mpr ⟨by simp [hA, hB], by decide⟩, ?_, ?_, ?_⟩
  · obtain ⟨e, he, herror⟩ := hdefect [guardA] broken [guardA] rfl (by simp [hA]) hbroken
    rw [he] at hfirst
    exact ⟨e, herror, Option.some.inj hfirst⟩
  · exact hignored [guardA] broken [guardA] .egress _ rfl (by decide) (by decide)
  · obtain ⟨id, hid, _, herror⟩ := hrepeats (by simp [hA]) (by decide)
    have hmetadata : id.metadata = guardA.metadata := by simpa using hid.mem
    obtain rfl : id = ⟨"x", "1"⟩ := PolicyRef.metadata_injective hmetadata
    exact herror

end Sample

end PolicyReach
