import PolicyReach.Evaluation
import PolicyReach.Proofs.Checks

/-!
# Valid topologies

Resources are checked while they are indexed: one after another, namespaces and then workloads take
their places under keys that none before them has taken. So no key is used twice in what is
accepted, and what a topology finds by a name or an id is the one that is meant.
-/
namespace PolicyReach

namespace SortedMap

variable {α κ : Type} [Ord κ] [BEq κ] {m : SortedMap κ ℕ} {key : α → κ} {l : List α} {a : α} {k : κ}

/-- The map agrees with the list: it has the keys of the elements, and for each the only place at
which it is used. -/
def Indexes (m : SortedMap κ ℕ) (key : α → κ) (l : List α) : Prop :=
  ∀ k place, m.get? k = some place ↔ ∃ a, l[place]? = some a ∧ key a = k

theorem indexes_empty (key : α → κ) : (empty : SortedMap κ ℕ).Indexes key [] := by
  intro k place
  simp [get?, empty]

namespace Indexes

theorem contains_iff (h : m.Indexes key l) : m.contains k = true ↔ k ∈ l.map key := by
  rw [contains, Option.isSome_iff_exists, List.mem_map]
  constructor
  · rintro ⟨place, hplace⟩
    obtain ⟨a, ha, hkey⟩ := (h k place).mp hplace
    exact ⟨a, List.mem_of_getElem? ha, hkey⟩
  · rintro ⟨a, ha, hkey⟩
    obtain ⟨place, hplace⟩ := List.getElem?_of_mem ha
    exact ⟨place, (h k place).mpr ⟨a, hplace, hkey⟩⟩

/-- A key has one place, so no two elements can have the key. -/
theorem nodup (h : m.Indexes key l) : (l.map key).Nodup := by
  refine List.pairwise_map.mpr (List.pairwise_iff_getElem.mpr fun i j hi hj hij heq => ?_)
  have hplace := (h (key l[i]) i).mpr ⟨l[i], List.getElem?_eq_getElem hi, rfl⟩
  have hplace' := (h (key l[i]) j).mpr ⟨l[j], List.getElem?_eq_getElem hj, heq.symm⟩
  have hsame : i = j := Option.some.inj (hplace.symm.trans hplace')
  exact Nat.ne_of_lt hij hsame

/-- Looking up a place, and then what stands there, finds the element with the key. -/
theorem find_eq_some_iff (h : m.Indexes key l) :
    ((m.get? k).bind fun place => l[place]?) = some a ↔ a ∈ l ∧ key a = k := by
  rw [Option.bind_eq_some_iff]
  constructor
  · rintro ⟨place, hplace, ha⟩
    obtain ⟨b, hb, hkey⟩ := (h k place).mp hplace
    obtain rfl := Option.some.inj (hb.symm.trans ha)
    exact ⟨List.mem_of_getElem? ha, hkey⟩
  · rintro ⟨ha, hkey⟩
    obtain ⟨place, hplace⟩ := List.getElem?_of_mem ha
    exact ⟨place, (h k place).mpr ⟨a, hplace, hkey⟩, hplace⟩

/-- Going through the list finds the same. -/
theorem find_eq_find? [LawfulBEq κ] (h : m.Indexes key l) :
    ((m.get? k).bind fun place => l[place]?) = l.find? (key · == k) := by
  have hfound {b : α} (hb : l.find? (key · == k) = some b) :
      ((m.get? k).bind fun place => l[place]?) = some b := by
    have hkey : key b = k := by simpa using List.find?_some hb
    exact h.find_eq_some_iff.mpr ⟨List.mem_of_find?_eq_some hb, hkey⟩
  cases hfind : l.find? (key · == k) with
  | some b => exact hfound hfind
  | none =>
    refine Option.eq_none_iff_forall_ne_some.mpr fun a ha => ?_
    obtain ⟨hmem, hkey⟩ := h.find_eq_some_iff.mp ha
    exact List.find?_eq_none.mp hfind a hmem (beq_iff_eq.mpr hkey)

/-- One step of both loops: the next element takes its place under a key that is not taken. -/
theorem concat [LawfulBEq κ] [Std.TransOrd κ] [Std.LawfulEqOrd κ] (h : m.Indexes key l)
    (hnew : key a ∉ l.map key) : (m.insert (key a) l.length).Indexes key (l ++ [a]) := by
  intro k place
  rw [get?_insert]
  by_cases hk : k = key a
  · rw [if_pos (beq_iff_eq.mpr hk), Option.some.injEq]
    constructor
    · rintro rfl
      exact ⟨a, List.getElem?_concat_length, hk.symm⟩
    · rintro ⟨b, hb, hkey⟩
      by_contra hne
      have hold : l[place]? = some b := by
        rwa [List.getElem?_append_left] at hb
        have hlt := (List.getElem?_eq_some_iff.mp hb).1
        rw [List.length_append, List.length_singleton] at hlt
        omega
      have hmem := List.mem_map_of_mem (f := key) (List.mem_of_getElem? hold)
      exact hnew (hk ▸ hkey ▸ hmem)
  · rw [if_neg (by simpa using hk), h k place]
    refine exists_congr fun b => and_congr_left fun hkey => ?_
    constructor
    · intro hb
      rw [List.getElem?_append_left (List.getElem?_eq_some_iff.mp hb).1]
      exact hb
    · intro hb
      rw [List.getElem?_append] at hb
      split at hb
      · exact hb
      · obtain rfl := List.mem_singleton.mp (List.mem_of_getElem? hb)
        exact absurd hkey.symm hk

end Indexes

end SortedMap

/-! ### Resources in order -/

theorem notMem_of_nodup_map {α κ : Type} {key : α → κ} {before after : List α} {a : α}
    (h : ((before ++ a :: after).map key).Nodup) : key a ∉ before.map key := by
  rw [List.map_append, List.map_cons, List.nodup_middle, List.nodup_cons] at h
  intro hmem
  exact h.1 (List.mem_append_left _ hmem)

namespace Resources

/-- What makes up a topology: no name and no id is used twice, and every workload is in a listed
namespace and has no container port 0. -/
structure Consistent (r : Resources) : Prop where
  names : (r.namespaces.map (·.name)).Nodup
  listed : ∀ w ∈ r.workloads, w.ns ∈ r.namespaces.map (·.name)
  ports : ∀ w ∈ r.workloads, ∀ p ∈ w.ports, p.port ≠ 0
  ids : (r.workloads.map (·.id)).Nodup

/-- The maps agree with the lists. -/
structure Index.Agrees (index : Index) (r : Resources) : Prop where
  namespaces : index.namespaces.Indexes (·.name) r.namespaces
  workloads : index.workloads.Indexes (·.id) r.workloads

section Loops

variable {names names' : SortedMap String ℕ} {ids ids' : SortedMap WorkloadId ℕ}

/-- What the loop over namespaces preserves: the map agrees with those that it has passed. -/
theorem indexes_of_indexNamespaces {before after : List Namespace}
    (hnames : names.Indexes (·.name) before)
    (h : indexNamespaces names before.length after = .ok names') :
    names'.Indexes (·.name) (before ++ after) := by
  induction after generalizing names before with
  | nil =>
    obtain rfl := Except.ok.inj h
    rwa [List.append_nil]
  | cons n rest ih =>
    rw [indexNamespaces] at h
    split at h
    · cases h
    · next htaken =>
      rw [hnames.contains_iff] at htaken
      rw [List.append_cons]
      refine ih (hnames.concat htaken) ?_
      rwa [List.length_append]

theorem exists_indexNamespaces {before after : List Namespace}
    (hnames : names.Indexes (·.name) before) (hnodup : ((before ++ after).map (·.name)).Nodup) :
    ∃ names', indexNamespaces names before.length after = .ok names' := by
  induction after generalizing names before with
  | nil => exact ⟨names, rfl⟩
  | cons n rest ih =>
    have hnew : n.name ∉ before.map (·.name) := notMem_of_nodup_map hnodup
    rw [indexNamespaces, if_neg (by rwa [hnames.contains_iff])]
    rw [List.append_cons] at hnodup
    have := ih (hnames.concat hnew) hnodup
    rwa [List.length_append] at this

/-- What the loop over workloads preserves: the map agrees with those that it has passed, and they
are all in order. -/
theorem indexes_of_indexWorkloads {before after : List Workload}
    (hids : ids.Indexes (·.id) before)
    (h : indexWorkloads names ids before.length after = .ok ids') :
    (∀ w ∈ after, names.contains w.ns = true ∧ ∀ p ∈ w.ports, p.port ≠ 0) ∧
      ids'.Indexes (·.id) (before ++ after) := by
  induction after generalizing ids before with
  | nil =>
    obtain rfl := Except.ok.inj h
    rw [List.append_nil]
    exact ⟨nofun, hids⟩
  | cons w rest ih =>
    rw [indexWorkloads] at h
    split at h
    · cases h
    · next hlisted =>
      split at h
      · cases h
      · next hports =>
        split at h
        · cases h
        · next htaken =>
          rw [hids.contains_iff] at htaken
          obtain ⟨hrest, hids'⟩ := ih (hids.concat htaken) (by rwa [List.length_append])
          rw [List.append_cons]
          refine ⟨List.forall_mem_cons.mpr ⟨⟨?_, ?_⟩, hrest⟩, hids'⟩
          · simpa using hlisted
          · simpa using hports

theorem exists_indexWorkloads {before after : List Workload} (hids : ids.Indexes (·.id) before)
    (hall : ∀ w ∈ after, names.contains w.ns = true ∧ ∀ p ∈ w.ports, p.port ≠ 0)
    (hnodup : ((before ++ after).map (·.id)).Nodup) :
    ∃ ids', indexWorkloads names ids before.length after = .ok ids' := by
  induction after generalizing ids before with
  | nil => exact ⟨ids, rfl⟩
  | cons w rest ih =>
    obtain ⟨⟨hlisted, hports⟩, hrest⟩ := List.forall_mem_cons.mp hall
    have hnew : w.id ∉ before.map (·.id) := notMem_of_nodup_map hnodup
    rw [indexWorkloads, if_neg (by simpa using hlisted), if_neg (by simpa using hports),
      if_neg (by rwa [hids.contains_iff])]
    rw [List.append_cons] at hnodup
    have := ih (hids.concat hnew) hrest hnodup
    rwa [List.length_append] at this

end Loops

variable {r : Resources} {index : Index}

/-- Both loops together: what they let pass is consistent, and the maps agree with the lists. -/
theorem agrees_of_index (h : r.index = .ok index) : r.Consistent ∧ index.Agrees r := by
  rw [Resources.index] at h
  obtain ⟨names, hn, h⟩ := bind_eq_ok_iff.mp h
  obtain ⟨ids, hi, h⟩ := bind_eq_ok_iff.mp h
  obtain rfl := Except.ok.inj h
  have hnames := indexes_of_indexNamespaces (SortedMap.indexes_empty _) hn
  obtain ⟨hall, hids⟩ := indexes_of_indexWorkloads (SortedMap.indexes_empty _) hi
  refine ⟨⟨hnames.nodup, fun w hw => ?_, fun w hw => (hall w hw).2, hids.nodup⟩, hnames, hids⟩
  exact hnames.contains_iff.mp (hall w hw).1

theorem exists_names {namespaces : List Namespace} (h : (namespaces.map (·.name)).Nodup) :
    ∃ names, indexNamespaces .empty 0 namespaces = .ok names ∧
      names.Indexes (·.name) namespaces := by
  have hnone : (.empty : SortedMap String ℕ).Indexes Namespace.name [] := SortedMap.indexes_empty _
  obtain ⟨names, hn⟩ := exists_indexNamespaces hnone h
  exact ⟨names, hn, indexes_of_indexNamespaces hnone hn⟩

theorem Consistent.exists_ids {names : SortedMap String ℕ} (h : r.Consistent)
    (hnames : names.Indexes (·.name) r.namespaces) :
    ∃ ids, indexWorkloads names .empty 0 r.workloads = .ok ids ∧
      ids.Indexes (·.id) r.workloads := by
  have hnone : (.empty : SortedMap WorkloadId ℕ).Indexes Workload.id [] := SortedMap.indexes_empty _
  have hall : ∀ w ∈ r.workloads, names.contains w.ns = true ∧ ∀ p ∈ w.ports, p.port ≠ 0 :=
    fun w hw => ⟨hnames.contains_iff.mpr (h.listed w hw), h.ports w hw⟩
  obtain ⟨ids, hi⟩ := exists_indexWorkloads hnone hall h.ids
  exact ⟨ids, hi, (indexes_of_indexWorkloads hnone hi).2⟩

theorem exists_index (h : r.Consistent) : ∃ index, r.index = .ok index := by
  obtain ⟨names, hn, hnames⟩ := exists_names h.names
  obtain ⟨ids, hi, _⟩ := h.exists_ids hnames
  exact ⟨⟨names, ids⟩, bind_eq_ok_iff.mpr ⟨names, hn, bind_eq_ok_iff.mpr ⟨ids, hi, rfl⟩⟩⟩

end Resources

namespace Topology

variable {t : Topology} {r : Resources} {w : Workload}

theorem consistent (t : Topology) : t.resources.Consistent := (Resources.agrees_of_index t.valid).1

theorem index_agrees (t : Topology) : t.index.Agrees t.resources :=
  (Resources.agrees_of_index t.valid).2

theorem build_eq_ok_iff : build r = .ok t ↔ t.resources = r := by
  obtain ⟨r', index, valid⟩ := t
  rw [build]
  split
  · next index' h =>
    constructor
    · intro heq
      exact (congrArg resources (Except.ok.inj heq)).symm
    · rintro rfl
      obtain rfl := Except.ok.inj (h.symm.trans valid)
      rfl
  · next e h =>
    refine iff_of_false nofun ?_
    rintro rfl
    cases h.symm.trans valid

theorem exists_build (h : r.Consistent) : ∃ t, build r = .ok t := by
  obtain ⟨index, hindex⟩ := Resources.exists_index h
  exact ⟨⟨r, index, hindex⟩, build_eq_ok_iff.mpr rfl⟩

theorem build_eq_error_iff {e : TopologyError} : build r = .error e ↔ r.index = .error e := by
  rw [build]
  split
  · next h => simp [h]
  · next e' h => simp [h]

/-! ### Looking up -/

theorem namespace?_eq_some_iff {name : String} {n : Namespace} :
    t.namespace? name = some n ↔ n ∈ t.namespaces ∧ n.name = name :=
  t.index_agrees.namespaces.find_eq_some_iff

theorem namespace?_eq_none_iff {name : String} :
    t.namespace? name = none ↔ ∀ n ∈ t.namespaces, n.name ≠ name := by
  simp only [Option.eq_none_iff_forall_ne_some, ne_eq, namespace?_eq_some_iff, not_and]

theorem workload?_eq_some_iff {id : WorkloadId} :
    t.workload? id = some w ↔ w ∈ t.workloads ∧ w.id = id :=
  t.index_agrees.workloads.find_eq_some_iff

theorem workload?_eq_find? (t : Topology) (id : WorkloadId) :
    t.workload? id = t.workloads.find? (·.id == id) :=
  t.index_agrees.workloads.find_eq_find?

theorem workload?_eq_none_iff {id : WorkloadId} :
    t.workload? id = none ↔ ∀ w ∈ t.workloads, w.id ≠ id := by
  simp only [Option.eq_none_iff_forall_ne_some, ne_eq, workload?_eq_some_iff, not_and]

theorem ids_nodup (t : Topology) : t.ids.Nodup := t.consistent.ids

theorem eq_of_id_eq {v : Workload} (hv : v ∈ t.workloads) (hw : w ∈ t.workloads)
    (h : v.id = w.id) : v = w :=
  List.inj_on_of_nodup_map t.ids_nodup hv hw h

theorem workload?_id (hw : w ∈ t.workloads) : t.workload? w.id = some w :=
  workload?_eq_some_iff.mpr ⟨hw, rfl⟩

theorem namespaceOf_name (t : Topology) (w : Workload) : (t.namespaceOf w).name = w.ns := by
  rw [namespaceOf]
  cases h : t.namespace? w.ns with
  | none => rfl
  | some n => exact (namespace?_eq_some_iff.mp h).2

theorem namespaceOf_congr {t' : Topology} (h : t'.namespaces = t.namespaces) (w : Workload) :
    t'.namespaceOf w = t.namespaceOf w := by
  have hfound : t'.namespace? w.ns = t.namespace? w.ns := by
    ext n
    rw [namespace?_eq_some_iff, namespace?_eq_some_iff, h]
  rw [namespaceOf, namespaceOf, hfound]

/-- A member of a topology is never without its namespace. -/
theorem namespace?_ns (hw : w ∈ t.workloads) : t.namespace? w.ns = some (t.namespaceOf w) := by
  obtain ⟨n, hn, hname⟩ := List.mem_map.mp (t.consistent.listed w hw)
  have hfound := namespace?_eq_some_iff.mpr ⟨hn, hname⟩
  rw [namespaceOf, hfound, Option.getD_some]

theorem namespaceOf_mem (hw : w ∈ t.workloads) : t.namespaceOf w ∈ t.namespaces :=
  (namespace?_eq_some_iff.mp (namespace?_ns hw)).1

/-- The namespace found for a workload is the only one of its name. -/
theorem exists_namespace_iff (hw : w ∈ t.workloads) {P : Namespace → Prop} :
    (∃ n ∈ t.namespaces, n.name = w.ns ∧ P n) ↔ P (t.namespaceOf w) := by
  constructor
  · rintro ⟨n, hn, hname, h⟩
    have hfound := namespace?_eq_some_iff.mpr ⟨hn, hname⟩
    obtain rfl := Option.some.inj (hfound.symm.trans (namespace?_ns hw))
    exact h
  · intro h
    exact ⟨t.namespaceOf w, namespaceOf_mem hw, t.namespaceOf_name w, h⟩

end Topology

end PolicyReach
