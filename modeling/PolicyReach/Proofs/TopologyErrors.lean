import PolicyReach.Proofs.Resolution

/-!
# What building a topology accepts and reports

Namespaces are taken in one after another, then workloads. What is reported is the first of them
that does not go together with those before it. A topology that is built has exactly what was
listed, and finds everything in it by its name or id.
-/
namespace PolicyReach

/-- Why a workload cannot join earlier ones, of several reasons the first. -/
inductive Workload.Fault (known : List String) (earlier : List Workload) (w : Workload) :
    TopologyError → Prop where
  | unknownNamespace (ns : w.ns ∉ known) : Fault known earlier w (.unknownNamespace w.id w.ns)
  | invalidPort (ns : w.ns ∈ known) (port : ∃ p ∈ w.ports, p.port = 0) :
    Fault known earlier w (.invalidPort w.id)
  | duplicateWorkload (ns : w.ns ∈ known) (ports : ∀ p ∈ w.ports, p.port ≠ 0)
    (again : w.id ∈ earlier.map (·.id)) : Fault known earlier w (.duplicateWorkload w.id)

namespace Resources

/-- What is wrong with resources: the first name that is used again or else, if there is none, what
the first workload that does not go together with those before it is to blame for. -/
inductive Refused (r : Resources) : TopologyError → Prop where
  | duplicateNamespace {before n after} (split : r.namespaces = before ++ n :: after)
    (names : (before.map (·.name)).Nodup) (again : n.name ∈ before.map (·.name)) :
    Refused r (.duplicateNamespace n.name)
  | workload {before w after e} (split : r.workloads = before ++ w :: after)
    (consistent : Consistent ⟨r.namespaces, before⟩)
    (fault : w.Fault (r.namespaces.map (·.name)) before e) : Refused r e

variable {r : Resources}

/-! ### Going through the lists -/

/-- After the front of the list, its names have their places. -/
theorem indexNamespaces_append (names : SortedMap String ℕ) (place : ℕ)
    (before after : List Namespace) :
    indexNamespaces names place (before ++ after) =
      (indexNamespaces names place before >>= fun names' =>
        indexNamespaces names' (place + before.length) after) := by
  induction before generalizing names place with
  | nil => rfl
  | cons n rest ih =>
    rw [List.cons_append, indexNamespaces, indexNamespaces]
    by_cases hn : names.contains n.name = true
    · rw [if_pos hn, if_pos hn]
      rfl
    · rw [if_neg hn, if_neg hn, ih, List.length_cons, Nat.add_assoc, Nat.add_comm 1]

theorem indexWorkloads_append (names : SortedMap String ℕ) (ids : SortedMap WorkloadId ℕ)
    (place : ℕ) (before after : List Workload) :
    indexWorkloads names ids place (before ++ after) =
      (indexWorkloads names ids place before >>= fun ids' =>
        indexWorkloads names ids' (place + before.length) after) := by
  induction before generalizing ids place with
  | nil => rfl
  | cons w rest ih =>
    rw [List.cons_append, indexWorkloads, indexWorkloads]
    by_cases hns : (!names.contains w.ns) = true
    · rw [if_pos hns, if_pos hns]
      rfl
    · rw [if_neg hns, if_neg hns]
      by_cases hport : w.ports.any (·.port == 0) = true
      · rw [if_pos hport, if_pos hport]
        rfl
      · rw [if_neg hport, if_neg hport]
        by_cases hid : ids.contains w.id = true
        · rw [if_pos hid, if_pos hid]
          rfl
        · rw [if_neg hid, if_neg hid, ih, List.length_cons, Nat.add_assoc, Nat.add_comm 1]

theorem indexWorkloads_of_fault {names : SortedMap String ℕ} {ids : SortedMap WorkloadId ℕ}
    {namespaces : List Namespace} {before after : List Workload} {w : Workload} {e : TopologyError}
    (hnames : names.Indexes (·.name) namespaces) (hids : ids.Indexes (·.id) before)
    (h : w.Fault (namespaces.map (·.name)) before e) (place : ℕ) :
    indexWorkloads names ids place (w :: after) = .error e := by
  rw [indexWorkloads]
  cases h with
  | unknownNamespace hns =>
    rw [← hnames.contains_iff] at hns
    rw [if_pos (by simpa using hns)]
  | invalidPort hns hport =>
    rw [← hnames.contains_iff] at hns
    rw [if_neg (by simpa using hns), if_pos (by simpa using hport)]
  | duplicateWorkload hns hports hagain =>
    rw [← hnames.contains_iff] at hns
    rw [← hids.contains_iff] at hagain
    rw [if_neg (by simpa using hns), if_neg (by simpa using hports), if_pos hagain]

theorem index_of_refused {e : TopologyError} (h : r.Refused e) : r.index = .error e := by
  cases h with
  | @duplicateNamespace before n after hsplit hnames hagain =>
    obtain ⟨names, hbefore, hindexes⟩ := exists_names hnames
    have hloop : indexNamespaces .empty 0 r.namespaces = .error (.duplicateNamespace n.name) := by
      rw [hsplit, indexNamespaces_append, hbefore]
      exact if_pos (hindexes.contains_iff.mpr hagain)
    rw [Resources.index, hloop]
    rfl
  | @workload before w after e hsplit hconsistent hfault =>
    obtain ⟨names, hnamespaces, hnames⟩ := exists_names hconsistent.names
    obtain ⟨ids, hbefore, hids⟩ := hconsistent.exists_ids hnames
    have hloop : indexWorkloads names .empty 0 r.workloads = .error e := by
      rw [hsplit, indexWorkloads_append, hbefore]
      exact indexWorkloads_of_fault hnames hids hfault _
    have hfirst : indexNamespaces .empty 0 r.namespaces = .ok names := hnamespaces
    rw [Resources.index, hfirst]
    change (indexWorkloads names .empty 0 r.workloads >>= _) = _
    rw [hloop]
    rfl

/-! ### The first thing that is wrong -/

/-- A workload that cannot join consistent resources has a fault. -/
theorem exists_fault {namespaces : List Namespace} {before : List Workload} {w : Workload}
    (h : Consistent ⟨namespaces, before⟩) (hw : ¬ Consistent ⟨namespaces, before ++ [w]⟩) :
    ∃ e, w.Fault (namespaces.map (·.name)) before e := by
  by_cases hns : w.ns ∈ namespaces.map (·.name)
  · by_cases hports : ∀ p ∈ w.ports, p.port ≠ 0
    · by_cases hagain : w.id ∈ before.map (·.id)
      · exact ⟨_, .duplicateWorkload hns hports hagain⟩
      · refine absurd ⟨h.names, ?_, ?_, ?_⟩ hw
        · intro v hv
          rcases List.mem_append.mp hv with hv | hv
          · exact h.listed v hv
          · rwa [List.mem_singleton.mp hv]
        · intro v hv
          rcases List.mem_append.mp hv with hv | hv
          · exact h.ports v hv
          · rwa [List.mem_singleton.mp hv]
        · rw [List.map_append, List.map_singleton, ← List.concat_eq_append]
          exact h.ids.concat hagain
    · refine ⟨_, .invalidPort hns ?_⟩
      simpa using hports
  · exact ⟨_, .unknownNamespace hns⟩

theorem exists_refused (h : ¬ r.Consistent) : ∃ e, r.Refused e := by
  by_cases hnames : (r.namespaces.map (·.name)).Nodup
  · have hnone : Consistent ⟨r.namespaces, []⟩ := ⟨hnames, nofun, nofun, List.nodup_nil⟩
    obtain ⟨before, w, after, hsplit, hbefore, hfails⟩ :=
      exists_first_failure (P := fun l => Consistent ⟨r.namespaces, l⟩) hnone h
    obtain ⟨e, hfault⟩ := exists_fault hbefore hfails
    exact ⟨e, .workload hsplit hbefore hfault⟩
  · obtain ⟨before, n, after, hsplit, hbefore, hfails⟩ :=
      exists_first_failure (P := fun l : List Namespace => (l.map (·.name)).Nodup)
        List.nodup_nil hnames
    refine ⟨_, .duplicateNamespace hsplit hbefore ?_⟩
    by_contra hnew
    apply hfails
    rw [List.map_append, List.map_singleton, ← List.concat_eq_append]
    exact hbefore.concat hnew

end Resources

namespace Topology

/-- A topology has what the resources list, in the same order, and its maps agree with the lists.
What it finds by a name or an id is the one that has it, and no workload of it is ever without its
namespace. -/
structure Presents (t : Topology) (r : Resources) : Prop where
  namespaces : t.namespaces = r.namespaces
  workloads : t.workloads = r.workloads
  index : t.index.Agrees r
  found_namespace : ∀ name n, t.namespace? name = some n ↔ n ∈ r.namespaces ∧ n.name = name
  no_namespace : ∀ name, t.namespace? name = none ↔ ∀ n ∈ r.namespaces, n.name ≠ name
  found_workload : ∀ id w, t.workload? id = some w ↔ w ∈ r.workloads ∧ w.id = id
  no_workload : ∀ id, t.workload? id = none ↔ ∀ w ∈ r.workloads, w.id ≠ id
  member : ∀ w ∈ r.workloads, t.namespace? w.ns = some (t.namespaceOf w)
  /-- Whatever stood for a namespace that is not listed, members would be decided alike. -/
  admission : ∀ peer ∈ r.workloads, ∀ (m : PolicyModel) d subject traffic other,
    ((m.workload subject).direction d).admission peer ((t.namespace? peer.ns).getD other) traffic =
      m.admission t d subject peer traffic

variable {t : Topology} {r : Resources}

theorem presents_of_build (h : build r = .ok t) : t.Presents r := by
  obtain rfl := build_eq_ok_iff.mp h
  refine ⟨rfl, rfl, t.index_agrees, fun _ _ => namespace?_eq_some_iff,
    fun _ => namespace?_eq_none_iff, fun _ _ => workload?_eq_some_iff,
    fun _ => workload?_eq_none_iff, fun _ => namespace?_ns, ?_⟩
  intro peer hpeer m d subject traffic other
  rw [namespace?_ns hpeer, Option.getD_some]
  rfl

/-- Exactly consistent resources make up a topology, which presents them. Others are refused for the
first namespace whose name was used before, or else for the first workload with a fault. -/
theorem build_accepts_and_reports (r : Resources) :
    ((∃ t, build r = .ok t) ↔ r.Consistent) ∧ (∀ t, build r = .ok t → t.Presents r) ∧
    ∀ e, build r = .error e ↔ r.Refused e := by
  refine ⟨?_, fun t => presents_of_build, ?_⟩
  · constructor
    · rintro ⟨t, ht⟩
      exact build_eq_ok_iff.mp ht ▸ t.consistent
    · exact exists_build
  · intro e
    rw [build_eq_error_iff]
    constructor
    · intro h
      have hnot : ¬ r.Consistent := by
        intro hconsistent
        obtain ⟨index, hindex⟩ := Resources.exists_index hconsistent
        cases h.symm.trans hindex
      obtain ⟨e', he'⟩ := Resources.exists_refused hnot
      obtain rfl := Except.error.inj (h.symm.trans (Resources.index_of_refused he'))
      exact he'
    · exact Resources.index_of_refused

end Topology

namespace Sample

def nsX : Namespace := ⟨"x", .empty⟩

def nsY : Namespace := ⟨"y", .empty⟩

/-- In a namespace that may not be listed, and with a container port that cannot be reached. -/
def stray : Workload := { a with ns := "y", name := "c", ports := [⟨none, 0, .tcp⟩] }

/-- Of several faults the one that comes first is reported, and of those of one workload the unknown
namespace before the port and the port before the id. -/
theorem refusals_of_stray :
    (∃ t, Topology.build ⟨[nsX], [b, a]⟩ = .ok t ∧ t.workloads = [b, a] ∧
      t.index.workloads.get? ⟨"x", "a"⟩ = some 1 ∧ t.workload? ⟨"x", "a"⟩ = some a ∧
      t.namespace? "y" = none) ∧
    Topology.build ⟨[nsX, nsY, nsY, nsX], [stray]⟩ = .error (.duplicateNamespace "y") ∧
    Topology.build ⟨[nsX], [a, stray, a]⟩ = .error (.unknownNamespace ⟨"y", "c"⟩ "y") ∧
    Topology.build ⟨[nsX, nsY], [a, stray, a]⟩ = .error (.invalidPort ⟨"y", "c"⟩) ∧
    Topology.build ⟨[nsX], [a, a, stray]⟩ = .error (.duplicateWorkload ⟨"x", "a"⟩) := by
  have hX : Resources.Consistent ⟨[nsX], [a]⟩ := ⟨by decide, by decide, by decide, by decide⟩
  have hXY : Resources.Consistent ⟨[nsX, nsY], [a]⟩ := ⟨by decide, by decide, by decide, by decide⟩
  have hXab : Resources.Consistent ⟨[nsX], [b, a]⟩ := ⟨by decide, by decide, by decide, by decide⟩
  refine ⟨?_, ?_, ?_, ?_, ?_⟩
  · obtain ⟨hok, hpresents, _⟩ := Topology.build_accepts_and_reports ⟨[nsX], [b, a]⟩
    obtain ⟨t, ht⟩ := hok.mpr hXab
    have h := hpresents t ht
    refine ⟨t, ht, h.workloads, (h.index.workloads _ _).mpr ⟨a, rfl, rfl⟩,
      (h.found_workload _ _).mpr ?_, (h.no_namespace _).mpr ?_⟩
    · decide
    · decide
  · have hsplit : [nsX, nsY, nsY, nsX] = [nsX, nsY] ++ nsY :: [nsX] := rfl
    obtain ⟨_, _, hreports⟩ :=
      Topology.build_accepts_and_reports ⟨[nsX, nsY, nsY, nsX], [stray]⟩
    refine (hreports (.duplicateNamespace nsY.name)).mpr (.duplicateNamespace hsplit ?_ ?_)
    · decide
    · decide
  · have hsplit : [a, stray, a] = [a] ++ stray :: [a] := rfl
    obtain ⟨_, _, hreports⟩ := Topology.build_accepts_and_reports ⟨[nsX], [a, stray, a]⟩
    exact (hreports _).mpr (.workload hsplit hX (.unknownNamespace (by decide)))
  · have hsplit : [a, stray, a] = [a] ++ stray :: [a] := rfl
    obtain ⟨_, _, hreports⟩ := Topology.build_accepts_and_reports ⟨[nsX, nsY], [a, stray, a]⟩
    exact (hreports _).mpr (.workload hsplit hXY (.invalidPort (by decide) (by decide)))
  · have hsplit : [a, a, stray] = [a] ++ a :: [stray] := rfl
    obtain ⟨_, _, hreports⟩ := Topology.build_accepts_and_reports ⟨[nsX], [a, a, stray]⟩
    exact (hreports _).mpr
      (.workload hsplit hX (.duplicateWorkload (by decide) (by decide) (by decide)))

end Sample

end PolicyReach
