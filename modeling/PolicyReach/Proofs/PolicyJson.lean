import PolicyReach.Proofs.JsonText
import PolicyReach.Proofs.PolicyItems

/-!
# Policies written as JSON

A policy may be read from records in the form of arrays, from repeated labels or from members that
are null; it is written in one form. What is read again from that form is the same policy.
-/
namespace PolicyReach

/-! ### Sets and maps in canonical form -/

theorem SortedSet.ofList_toList {α : Type} [Ord α] [Std.TransOrd α] [Std.LawfulEqOrd α]
    (s : SortedSet α) : ofList s.toList = s :=
  ext_mem fun _ => mem_ofList

namespace SortedMap

variable {α β : Type} [Ord α] [Std.TransOrd α] [Std.LawfulEqOrd α]

omit [Std.TransOrd α] [Std.LawfulEqOrd α] in
theorem insertList_last {a : α} {v : β} {l : List (α × β)}
    (h : ∀ e ∈ l, compare a e.1 = .gt) : insertList a v l = l ++ [(a, v)] := by
  induction l with
  | nil => rfl
  | cons e rest ih =>
    have ⟨he, hrest⟩ := List.forall_mem_cons.mp h
    rw [insertList, he, ih hrest]
    rfl

/-- Entries that come in ascending order are appended one by one. -/
theorem toList_foldl_insert {l : List (α × β)} {m : SortedMap α β}
    (h : (m.toList ++ l).Pairwise fun a b => compare a.1 b.1 = .lt) :
    (l.foldl (fun m e => m.insert e.1 e.2) m).toList = m.toList ++ l := by
  induction l generalizing m with
  | nil => simp
  | cons e rest ih =>
    have hlast : (m.insert e.1 e.2).toList = m.toList ++ [e] :=
      insertList_last fun b hb =>
        Std.OrientedCmp.gt_of_lt ((List.pairwise_append.mp h).2.2 b hb e List.mem_cons_self)
    rw [List.foldl_cons, ih, hlast, List.append_assoc, List.singleton_append]
    rwa [hlast, List.append_assoc, List.singleton_append]

theorem ofList_toList (m : SortedMap α β) : ofList m.toList = m :=
  ext (toList_foldl_insert (m := empty) m.ascending)

end SortedMap

namespace Json

/-! ### How deep written values are -/

/-- The value can be written as text and is nowhere deeper than the bound. -/
structure Within (depth : Nat) (v : Json) : Prop where
  plain : v.plain = true
  depth_le : v.depth ≤ depth

theorem depthItems_le_iff {items : List Json} {d : Nat} :
    depthItems items ≤ d ↔ ∀ v ∈ items, v.depth ≤ d := by
  induction items with
  | nil => simp [depthItems]
  | cons v rest ih => simp [depthItems, ih]

theorem depthMembers_le_iff {members : List (String × Json)} {d : Nat} :
    depthMembers members ≤ d ↔ ∀ m ∈ members, m.2.depth ≤ d := by
  induction members with
  | nil => simp [depthMembers]
  | cons m rest ih => simp only [depthMembers, Nat.max_le, ih, List.forall_mem_cons]

theorem within_arr {items : List Json} {d : Nat} (h : ∀ v ∈ items, Within d v) :
    Within (d + 1) (.arr items) where
  plain := plainItems_iff.mpr fun v hv => (h v hv).plain
  depth_le := Nat.succ_le_succ (depthItems_le_iff.mpr fun v hv => (h v hv).depth_le)

theorem within_obj {members : List (String × Json)} {d : Nat}
    (h : ∀ m ∈ members, Within d m.2) : Within (d + 1) (.obj members) where
  plain := plainMembers_iff.mpr fun m hm => (h m hm).plain
  depth_le := Nat.succ_le_succ (depthMembers_le_iff.mpr fun m hm => (h m hm).depth_le)

theorem Within.mono {v : Json} {d e : Nat} (h : Within d v) (hde : d ≤ e) : Within e v :=
  ⟨h.plain, Nat.le_trans h.depth_le hde⟩

/-! ### Records -/

/-- A field of a record with the value that is written for it, if any. -/
structure Field where
  name : String
  isOptional : Bool
  value : Option Json

def Field.slot (f : Field) : String × Bool := (f.name, f.isOptional)

def Field.members (f : Field) : List (String × Json) := optional f.name id f.value

theorem members_map {α : Type} (name : String) (isOptional : Bool) (item : α → Json)
    (o : Option α) : Field.members ⟨name, isOptional, o.map item⟩ = optional name item o := by
  cases o <;> rfl

theorem members_some (name : String) (isOptional : Bool) (v : Json) :
    Field.members ⟨name, isOptional, some v⟩ = [(name, v)] :=
  rfl

theorem filter_members_self (f : Field) :
    f.members.filter (fun m => m.1 = f.name) = f.members := by
  obtain ⟨name, _, value⟩ := f
  cases value <;> simp [Field.members, optional]

theorem filter_members_other {f : Field} {name : String} (h : f.name ≠ name) :
    f.members.filter (fun m => m.1 = name) = [] := by
  obtain ⟨_, _, value⟩ := f
  cases value <;> simp [Field.members, optional, h]

theorem filter_flatMap_members {fields : List Field} (hnames : (fields.map (·.name)).Nodup)
    {f : Field} (hf : f ∈ fields) :
    (fields.flatMap Field.members).filter (fun m => m.1 = f.name) = f.members := by
  induction fields with
  | nil => simp at hf
  | cons g rest ih =>
    rw [List.map_cons, List.nodup_cons] at hnames
    rw [List.flatMap_cons, List.filter_append]
    rcases List.mem_cons.mp hf with rfl | hf
    · have hnone : (rest.flatMap Field.members).filter (fun m => m.1 = f.name) = [] := by
        rw [List.filter_flatMap, List.flatMap_eq_nil_iff]
        intro g hg
        exact filter_members_other fun heq => hnames.1 (heq ▸ List.mem_map_of_mem hg)
      rw [filter_members_self, hnone, List.append_nil]
    · have hne : g.name ≠ f.name := fun heq => hnames.1 (heq ▸ List.mem_map_of_mem hf)
      rw [filter_members_other hne, List.nil_append, ih hnames.2 hf]

/-- The slots of a record get what was written for them. -/
theorem record?_flatMap_members {fields : List Field} (hnames : (fields.map (·.name)).Nodup)
    (hthere : ∀ f ∈ fields, f.isOptional = false → f.value.isSome) :
    record? (fields.map Field.slot) (.obj (fields.flatMap Field.members)) =
      some (fields.map (·.value)) := by
  rw [record?, mapM_eq_some_iff, List.map_map, List.map_map]
  refine List.map_congr_left fun f hf => ?_
  have hthere := hthere f hf
  change member? (fields.flatMap Field.members) (f.name, f.isOptional) = some f.value
  rw [member?, filter_flatMap_members hnames hf]
  obtain ⟨name, isOptional, value⟩ := f
  cases value with
  | none =>
    cases isOptional with
    | true => rfl
    | false => simp at hthere
  | some v => rfl

/-! ### Values that are found again -/

variable {α : Type} {read : Json → Option α} {write : α → Json} {depth : Nat}

/-- What was read is found again in what is written for it. That is never null, because null would
count as missing, and nowhere deeper than the bound. -/
structure Rereads (read : Json → Option α) (write : α → Json) (depth : Nat) : Prop where
  again {v : Json} {a : α} (h : read v = some a) : read (write a) = some a
  not_null (a : α) : write a ≠ .null
  within (a : α) : Within depth (write a)

namespace Rereads

theorem list (h : Rereads read write depth) :
    Rereads (asList? read) (fun as => .arr (as.map write)) (depth + 1) where
  again {v as} hread := by
    cases v with
    | arr items =>
      have hitems := mapM_eq_some_iff.mp hread
      refine mapM_eq_some_iff.mpr ?_
      rw [List.map_map]
      refine List.map_congr_left fun a ha => ?_
      have hmem : some a ∈ items.map read := hitems ▸ List.mem_map_of_mem ha
      obtain ⟨item, _, hitem⟩ := List.mem_map.mp hmem
      exact h.again hitem
    | _ => cases hread
  not_null _ := by simp
  within as := within_arr fun v hv => by
    obtain ⟨a, _, rfl⟩ := List.mem_map.mp hv
    exact h.within a

theorem nullable (h : Rereads read write depth) {part : Option Json} {o : Option α}
    (hread : Json.nullable read part = some o) : Json.nullable read (o.map write) = some o := by
  cases o with
  | none => rfl
  | some a =>
    have hpart : ∃ v, read v = some a := by
      rw [Json.nullable.eq_def] at hread
      split at hread
      · simp at hread
      · simp at hread
      · exact ⟨_, by simpa using hread⟩
    obtain ⟨v, hv⟩ := hpart
    have hagain := h.again hv
    have hnull := h.not_null a
    rw [Option.map_some, Json.nullable.eq_def]
    split <;> simp_all

theorem orElse (h : Rereads read write depth) {missing a : α} {part : Option Json}
    (hmissing : read (write missing) = some missing)
    (hread : Json.orElse missing read part = some a) : read (write a) = some a := by
  cases part with
  | none =>
    obtain rfl := Option.some.inj hread
    exact hmissing
  | some v => exact h.again hread

theorem mono (h : Rereads read write depth) {d : Nat} (hd : depth ≤ d) : Rereads read write d :=
  ⟨h.again, h.not_null, fun a => (h.within a).mono hd⟩

theorem within_map (h : Rereads read write depth) (o : Option α) :
    ∀ v ∈ o.map write, Within depth v := by
  intro v hv
  obtain ⟨a, _, rfl⟩ := Option.mem_map.mp hv
  exact h.within a

/-- A record is found again if its fields are. -/
theorem record {slots : List (String × Bool)} {decode : List (Option Json) → Option α}
    (fields : α → List Field) (hread : ∀ v, read v = (v.record? slots).bind decode)
    (hwrite : ∀ a, write a = .obj ((fields a).flatMap Field.members))
    (hslots : ∀ a, (fields a).map Field.slot = slots) (hnames : (slots.map (·.1)).Nodup)
    (hthere : ∀ a, ∀ f ∈ fields a, f.isOptional = false → f.value.isSome)
    (hagain : ∀ parts a, decode parts = some a → decode ((fields a).map (·.value)) = some a)
    (hwithin : ∀ a, ∀ f ∈ fields a, ∀ v ∈ f.value, Within depth v) :
    Rereads read write (depth + 1) where
  again {v a} h := by
    rw [hread] at h ⊢
    obtain ⟨parts, _, hparts⟩ := Option.bind_eq_some_iff.mp h
    have hnames : ((fields a).map (·.name)).Nodup := by
      rw [← hslots a, List.map_map] at hnames
      exact hnames
    rw [hwrite, ← hslots a, record?_flatMap_members hnames (hthere a), Option.bind_some]
    exact hagain parts a hparts
  not_null a := by simp [hwrite]
  within a := by
    rw [hwrite]
    refine within_obj fun m hm => ?_
    obtain ⟨f, hf, hm⟩ := List.mem_flatMap.mp hm
    obtain ⟨name, isOptional, value⟩ := f
    cases value with
    | none => cases hm
    | some v =>
      obtain rfl := List.mem_singleton.mp hm
      exact hwithin a _ hf v rfl

theorem str : Rereads asString? .str 0 where
  again _ := rfl
  not_null _ := by simp
  within _ := ⟨rfl, Nat.le_refl 0⟩

end Rereads

theorem asList?_str (ss : List String) : asList? asString? (.arr (ss.map .str)) = some ss := by
  rw [asList?, mapM_eq_some_iff, List.map_map]
  rfl

end Json

open Json (Within Rereads)

/-! ### The parts of a policy -/

theorem Protocol.ofName?_name (p : Protocol) : ofName? p.name = some p := by
  cases p <;> decide

theorem Protocol.rereads : Rereads Protocol.ofJson? Protocol.toJson 0 where
  again {_ p} _ := p.ofName?_name
  not_null _ := by simp [toJson]
  within _ := ⟨rfl, Nat.le_refl 0⟩

/-- The numbers of 16 bits. -/
theorem Json.rereads_number :
    Rereads (fun v => (v.asNat? 0x10000).map UInt16.ofNat) (fun n => .ofNat n.toNat) 0 where
  again {_ n} _ := by
    have hn : n.toNat < 0x10000 := n.toNat_lt
    simp [ofNat, asNat?, hn]
  not_null _ := by simp [ofNat]
  within n := by
    have hn : n.toNat < 0x10000 := n.toNat_lt
    refine ⟨?_, Nat.le_refl 0⟩
    simp only [ofNat, plain, Bool.and_eq_true, decide_eq_true_eq]
    omega

theorem Labels.rereads : Rereads Labels.ofJson? Labels.toJson 1 where
  again {_ labels} _ := by
    have h : (labels.toList.map fun l => (l.1, Json.str l.2)).mapM
        (fun m => m.2.asString?.map (m.1, ·)) = some labels.toList := by
      rw [mapM_eq_some_iff, List.map_map]
      rfl
    rw [toJson, ofJson?, h]
    exact congrArg some (SortedMap.ofList_toList labels)
  not_null _ := by simp [toJson]
  within labels := Json.within_obj fun m hm => by
    obtain ⟨l, _, rfl⟩ := List.mem_map.mp hm
    exact Json.Rereads.str.within l.2

/-- A name stands for the same operator as the name that is written for it. -/
theorem Operator.ofName_name (name : String) : ofName (ofName name).name = ofName name := by
  rw [ofName.eq_def name]
  split
  case h_5 hin hnot hexists habsent => exact ofName.eq_5 name hin hnot hexists habsent
  all_goals rfl

namespace Requirement

def writtenValues (r : Requirement) : Option (List String) :=
  if r.values.isEmpty then none else some r.values.toList

/-- What is written for a requirement. -/
def fields (r : Requirement) : List Json.Field :=
  [⟨"key", false, some (.str r.key)⟩, ⟨"operator", false, some (.str r.operator.name)⟩,
    ⟨"values", true, r.writtenValues.map fun vs => .arr (vs.map .str)⟩]

/-- No values are written for an empty set, and missing values are read as the empty set. -/
theorem orElse_writtenValues (r : Requirement) :
    Json.orElse [] (Json.asList? Json.asString?)
      (r.writtenValues.map fun vs => .arr (vs.map .str)) = some r.values.toList := by
  rw [writtenValues]
  split
  · next hempty =>
    rw [SortedSet.isEmpty_iff.mp hempty]
    rfl
  · exact Json.asList?_str r.values.toList

theorem rereads : Rereads ofJson? toJson 2 := by
  have strings := Rereads.str.mono (Nat.zero_le 1)
  refine Rereads.record fields (fun _ => rfl) (fun r => ?_) (fun _ => rfl) (by decide)
    (fun r => ?_) (fun parts r h => ?_) (fun r => ?_)
  · simp [toJson, fields, Json.members_map, Json.members_some, writtenValues]
  · simp [fields]
  · split at h
    · simp only [bind, Option.bind_eq_some_iff] at h
      obtain ⟨key, hkey, operator, hoperator, values, hvalues, h⟩ := h
      obtain rfl := Option.some.inj h
      simp [fields, orElse_writtenValues, Json.asString?, Operator.ofName_name,
        SortedSet.ofList_toList]
    · cases h
  · simp only [fields, List.forall_mem_cons]
    exact ⟨strings.within_map (some r.key), strings.within_map (some r.operator.name),
      Rereads.str.list.within_map r.writtenValues, by simp⟩

end Requirement

def Selector.fields (s : Selector) : List Json.Field :=
  [⟨"matchLabels", true, s.matchLabels.map Labels.toJson⟩,
    ⟨"matchExpressions", true, s.matchExpressions.map fun rs => .arr (rs.map Requirement.toJson)⟩]

theorem Selector.rereads : Rereads Selector.ofJson? Selector.toJson 4 := by
  have labels := Labels.rereads.mono (Nat.le_add_right 1 2)
  have expressions := Requirement.rereads.list
  refine Rereads.record fields (fun _ => rfl) (fun s => ?_) (fun _ => rfl) (by decide)
    (fun s => ?_) (fun parts s h => ?_) (fun s => ?_)
  · simp [toJson, fields, Json.members_map]
  · simp [fields]
  · split at h
    · simp only [bind, Option.bind_eq_some_iff] at h
      obtain ⟨matchLabels, hlabels, matchExpressions, hexpressions, h⟩ := h
      obtain rfl := Option.some.inj h
      simp [fields, labels.nullable hlabels, expressions.nullable hexpressions]
    · cases h
  · simp only [fields, List.forall_mem_cons]
    exact ⟨labels.within_map s.matchLabels, expressions.within_map s.matchExpressions, by simp⟩

namespace Document

theorem Port.rereads : Rereads Port.ofJson? Port.toJson 0 where
  again {_ p} _ := by
    cases p with
    | number n pos =>
      have hn : n.toNat < 0x10000 := n.toNat_lt
      simp [toJson, ofJson?, Json.ofNat, Json.asNat?, hn, pos]
    | name s => rfl
  not_null p := by cases p <;> simp [toJson, Json.ofNat]
  within p := by
    cases p with
    | number n pos => exact Json.rereads_number.within n
    | name s => exact ⟨rfl, Nat.le_refl 0⟩

def PortRange.fields (p : PortRange) : List Json.Field :=
  [⟨"protocol", true, p.protocol.map Protocol.toJson⟩, ⟨"port", true, p.port.map Port.toJson⟩,
    ⟨"endPort", true, p.endPort.map fun n => .ofNat n.toNat⟩]

theorem PortRange.rereads : Rereads PortRange.ofJson? PortRange.toJson 1 := by
  refine Rereads.record fields (fun _ => rfl) (fun p => ?_) (fun _ => rfl) (by decide)
    (fun p => ?_) (fun parts p h => ?_) (fun p => ?_)
  · simp [toJson, fields, Json.members_map]
  · simp [fields]
  · split at h
    · simp only [bind, Option.bind_eq_some_iff] at h
      obtain ⟨protocol, hprotocol, port, hport, endPort, hend, h⟩ := h
      obtain rfl := Option.some.inj h
      simp [fields, Protocol.rereads.nullable hprotocol, Port.rereads.nullable hport,
        Json.rereads_number.nullable hend]
    · cases h
  · simp only [fields, List.forall_mem_cons]
    exact ⟨Protocol.rereads.within_map _, Port.rereads.within_map _,
      Json.rereads_number.within_map _, by simp⟩

def IpBlock.fields (b : IpBlock) : List Json.Field :=
  [⟨"cidr", false, some (.str b.cidr)⟩,
    ⟨"except", true, b.except.map fun es => .arr (es.map .str)⟩]

theorem IpBlock.rereads : Rereads IpBlock.ofJson? IpBlock.toJson 2 := by
  refine Rereads.record fields (fun _ => rfl) (fun b => ?_) (fun _ => rfl) (by decide)
    (fun b => ?_) (fun parts b h => ?_) (fun b => ?_)
  · simp [toJson, fields, Json.members_map, Json.members_some]
  · simp [fields]
  · split at h
    · simp only [bind, Option.bind_eq_some_iff] at h
      obtain ⟨cidr, hcidr, except, hexcept, h⟩ := h
      obtain rfl := Option.some.inj h
      simp [fields, Json.asString?, Rereads.str.list.nullable hexcept]
    · cases h
  · simp only [fields, List.forall_mem_cons]
    exact ⟨(Rereads.str.mono (Nat.zero_le 1)).within_map (some b.cidr),
      Rereads.str.list.within_map b.except, by simp⟩

def Peer.fields (p : Peer) : List Json.Field :=
  [⟨"podSelector", true, p.podSelector.map Selector.toJson⟩,
    ⟨"namespaceSelector", true, p.namespaceSelector.map Selector.toJson⟩,
    ⟨"ipBlock", true, p.ipBlock.map IpBlock.toJson⟩]

theorem Peer.rereads : Rereads Peer.ofJson? Peer.toJson 5 := by
  have block := IpBlock.rereads.mono (Nat.le_add_right 2 2)
  refine Rereads.record fields (fun _ => rfl) (fun p => ?_) (fun _ => rfl) (by decide)
    (fun p => ?_) (fun parts p h => ?_) (fun p => ?_)
  · simp [toJson, fields, Json.members_map]
  · simp [fields]
  · split at h
    · simp only [bind, Option.bind_eq_some_iff] at h
      obtain ⟨pods, hpods, namespaces, hnamespaces, ipBlock, hblock, h⟩ := h
      obtain rfl := Option.some.inj h
      simp [fields, Selector.rereads.nullable hpods, Selector.rereads.nullable hnamespaces,
        block.nullable hblock]
    · cases h
  · simp only [fields, List.forall_mem_cons]
    exact ⟨Selector.rereads.within_map p.podSelector,
      Selector.rereads.within_map p.namespaceSelector,
      block.within_map p.ipBlock, by simp⟩

def Rule.fields (d : Direction) (r : Rule) : List Json.Field :=
  [⟨peersName d, true, r.peers.map fun ps => .arr (ps.map Peer.toJson)⟩,
    ⟨"ports", true, r.ports.map fun ps => .arr (ps.map PortRange.toJson)⟩]

theorem Rule.rereads (d : Direction) : Rereads (Rule.ofJson? d) (Rule.toJson d) 7 := by
  have peers := Peer.rereads.list
  have ports := PortRange.rereads.list.mono (Nat.le_add_right 2 4)
  refine Rereads.record (fields d) (fun _ => rfl) (fun r => ?_) (fun _ => rfl)
    (by cases d <;> decide) (fun r => ?_) (fun parts r h => ?_) (fun r => ?_)
  · simp [toJson, fields, Json.members_map]
  · simp [fields]
  · split at h
    · simp only [bind, Option.bind_eq_some_iff] at h
      obtain ⟨rulePeers, hpeers, rulePorts, hports, h⟩ := h
      obtain rfl := Option.some.inj h
      simp [fields, peers.nullable hpeers, ports.nullable hports]
    · cases h
  · simp only [fields, List.forall_mem_cons]
    exact ⟨peers.within_map r.peers, ports.within_map r.ports, by simp⟩

theorem rereads_type : Rereads typeOfJson? (fun t => .str t.typeName) 0 where
  again {_ t} _ := by cases t <;> rfl
  not_null _ := by simp
  within _ := ⟨rfl, Nat.le_refl 0⟩

def Metadata.fields (m : Metadata) : List Json.Field :=
  [⟨"name", true, m.name.map .str⟩, ⟨"namespace", true, m.ns.map .str⟩]

theorem Metadata.rereads : Rereads Metadata.ofJson? Metadata.toJson 1 := by
  refine Rereads.record fields (fun _ => rfl) (fun m => ?_) (fun _ => rfl) (by decide)
    (fun m => ?_) (fun parts m h => ?_) (fun m => ?_)
  · simp [toJson, fields, Json.members_map]
  · simp [fields]
  · split at h
    · simp only [bind, Option.bind_eq_some_iff] at h
      obtain ⟨name, hname, ns, hns, h⟩ := h
      obtain rfl := Option.some.inj h
      simp [fields, Rereads.str.nullable hname, Rereads.str.nullable hns]
    · cases h
  · simp only [fields, List.forall_mem_cons]
    exact ⟨Rereads.str.within_map m.name, Rereads.str.within_map m.ns, by simp⟩

def Spec.fields (s : Spec) : List Json.Field :=
  [⟨"podSelector", true, s.podSelector.map Selector.toJson⟩,
    ⟨"policyTypes", true, s.policyTypes.map fun ts => .arr (ts.map fun t => .str t.typeName)⟩,
    ⟨"ingress", true, s.ingress.map fun rs => .arr (rs.map (Rule.toJson .ingress))⟩,
    ⟨"egress", true, s.egress.map fun rs => .arr (rs.map (Rule.toJson .egress))⟩]

theorem Spec.rereads : Rereads Spec.ofJson? Spec.toJson 9 := by
  have selector := Selector.rereads.mono (Nat.le_add_right 4 4)
  have types := rereads_type.list.mono (Nat.le_add_right 1 7)
  have ingress := (Rule.rereads .ingress).list
  have egress := (Rule.rereads .egress).list
  refine Rereads.record fields (fun _ => rfl) (fun s => ?_) (fun _ => rfl) (by decide)
    (fun s => ?_) (fun parts s h => ?_) (fun s => ?_)
  · simp [toJson, fields, Json.members_map]
  · simp [fields]
  · split at h
    · simp only [bind, Option.bind_eq_some_iff] at h
      obtain ⟨pods, hpods, declared, htypes, inRules, hin, outRules, hout, h⟩ := h
      obtain rfl := Option.some.inj h
      simp [fields, selector.nullable hpods, types.nullable htypes, ingress.nullable hin,
        egress.nullable hout]
    · cases h
  · simp only [fields, List.forall_mem_cons]
    exact ⟨selector.within_map s.podSelector, types.within_map s.policyTypes,
      ingress.within_map s.ingress, egress.within_map s.egress, by simp⟩

def Policy.fields (p : Policy) : List Json.Field :=
  [⟨"metadata", true, some p.metadata.toJson⟩, ⟨"spec", true, some p.spec.toJson⟩]

theorem Policy.rereads : Rereads Policy.ofJson? Policy.toJson 10 := by
  have metadata := Metadata.rereads.mono (Nat.le_add_right 1 8)
  refine Rereads.record fields (fun _ => rfl) (fun p => ?_) (fun _ => rfl) (by decide)
    (fun p => ?_) (fun parts p h => ?_) (fun p => ?_)
  · simp [toJson, fields, Json.members_some]
  · simp [fields]
  · split at h
    · simp only [bind, Option.bind_eq_some_iff] at h
      obtain ⟨m, hm, s, hs, h⟩ := h
      obtain rfl := Option.some.inj h
      simp [fields, Json.orElse, metadata.orElse rfl hm, Spec.rereads.orElse rfl hs]
    · cases h
  · simp only [fields, List.forall_mem_cons]
    exact ⟨metadata.within_map (some p.metadata), Spec.rereads.within_map (some p.spec), by simp⟩

end Document

end PolicyReach
