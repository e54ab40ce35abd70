import PolicyReach.Proofs.Semantics

/-!
# Which addresses a block is about

A network is the set of addresses of its family that begin with its leading bits. A block of addresses
compiles to the difference of such sets, and is refused if one of those that it takes away is not a
part of it.
-/
namespace PolicyReach

/-- The bits of an address from the highest to the lowest. -/
def Address.bits (a : Address) : List Bool :=
  (List.range a.family.width).map fun i => a.value.testBit (a.family.width - 1 - i)

namespace Network

/-- The addresses of a network: those of its family that begin with the same bits. -/
def addresses (n : Network) : Set Address :=
  {a | a.family = n.base.family ∧ a.bits.take n.length = n.base.bits.take n.length}

def first (n : Network) : ℕ := n.base.value >>> n.hostBits <<< n.hostBits

def last (n : Network) : ℕ := n.first + (2 ^ n.hostBits - 1)

/-- Networks that differ in no more than the bits behind the leading ones. -/
structure Alike (n m : Network) : Prop where
  family : n.base.family = m.base.family
  length : n.length = m.length
  leading : n.base.bits.take n.length = m.base.bits.take m.length

end Network

namespace Document

/-- The network that a block is written as; an address by itself is written for the network of that
one address. -/
def written? (block : String) : Option Network :=
  (Network.parse? block).or ((Address.parse? block).map .single)

/-- The networks that stand in a block of addresses, with all the bits that were written. -/
structure IpBlock.Writes (b : IpBlock) (cidr : Network) (excepts : List Network) : Prop where
  cidr : written? b.cidr = some cidr
  excepts : (b.except.getD []).map written? = excepts.map some

end Document

theorem Document.IpBlock.Writes.unique {b : Document.IpBlock} {cidr cidr' : Network}
    {excepts excepts' : List Network} (h : b.Writes cidr excepts) (h' : b.Writes cidr' excepts') :
    cidr = cidr' ∧ excepts = excepts' := by
  refine ⟨Option.some.inj (h.cidr.symm.trans h'.cidr), ?_⟩
  exact List.map_injective_iff.mpr (Option.some_injective _) (h.excepts.symm.trans h'.excepts)

/-! ### Leading bits -/

theorem Address.testBit_eq_false {a : Address} {i : ℕ} (h : a.family.width ≤ i) :
    a.value.testBit i = false := by
  apply Nat.testBit_lt_two_pow
  calc
    a.value < 1 <<< a.family.width := a.inRange
    _ = 2 ^ a.family.width := Nat.one_shiftLeft _
    _ ≤ 2 ^ i := Nat.pow_le_pow_right (by decide) h

theorem Address.take_bits_eq_iff {a b : Address} {length : ℕ} (hfamily : a.family = b.family)
    (hlength : length ≤ b.family.width) :
    a.bits.take length = b.bits.take length ↔
      ∀ i, b.family.width - length ≤ i → a.value.testBit i = b.value.testBit i := by
  rw [bits, bits, hfamily, ← List.map_take, ← List.map_take, List.take_range, Nat.min_eq_left hlength,
    List.map_inj_left]
  constructor
  · intro h i hi
    by_cases hwidth : i < b.family.width
    · have hbit := h (b.family.width - 1 - i) (List.mem_range.mpr (by omega))
      rwa [show b.family.width - 1 - (b.family.width - 1 - i) = i by omega] at hbit
    · have hout : b.family.width ≤ i := Nat.le_of_not_lt hwidth
      rw [testBit_eq_false (hfamily ▸ hout), testBit_eq_false hout]
  · intro h i hi
    have hlt := List.mem_range.mp hi
    exact h _ (by omega)

namespace Network

variable {n m : Network} {a : Address}

theorem mem_addresses_iff : a ∈ n.addresses ↔ n.Holds a := by
  constructor
  · rintro ⟨hfamily, hbits⟩
    refine ⟨hfamily.symm, fun i hi => ?_⟩
    exact ((Address.take_bits_eq_iff hfamily n.length_le).mp hbits i hi).symm
  · rintro ⟨hfamily, hbits⟩
    refine ⟨hfamily.symm, (Address.take_bits_eq_iff hfamily.symm n.length_le).mpr ?_⟩
    intro i hi
    exact (hbits i hi).symm

theorem contains_iff_mem : n.contains a = true ↔ a ∈ n.addresses := by
  rw [contains_iff, mem_addresses_iff]

theorem covers_iff_subset : n.covers m = true ↔ m.addresses ⊆ n.addresses := by
  rw [covers_iff]
  exact forall_congr' fun a => by rw [mem_addresses_iff, mem_addresses_iff]

theorem addresses_trunc (n : Network) : n.trunc.addresses = n.addresses := by
  ext a
  rw [← contains_iff_mem, ← contains_iff_mem, trunc_contains]

theorem eq_of_base (hfamily : n.base.family = m.base.family) (hvalue : n.base.value = m.base.value)
    (hlength : n.length = m.length) : n = m := by
  obtain ⟨⟨_, _, _⟩, _, _⟩ := n
  obtain ⟨⟨_, _, _⟩, _, _⟩ := m
  subst hfamily hvalue hlength
  rfl

theorem trunc_single (a : Address) : (single a).trunc = single a := by
  have hzero : (single a).hostBits = 0 := Nat.sub_self _
  refine eq_of_base rfl ?_ rfl
  change a.value >>> (single a).hostBits <<< (single a).hostBits = a.value
  rw [hzero]
  rfl

theorem trunc_eq_of_alike (h : Alike n m) : n.trunc = m.trunc := by
  obtain ⟨hfamily, hlength, hleading⟩ := h
  rw [hlength] at hleading
  have hbits := (Address.take_bits_eq_iff hfamily m.length_le).mp hleading
  have hhost : n.hostBits = m.hostBits := by rw [hostBits, hostBits, hfamily, hlength]
  have hshift : n.base.value >>> m.hostBits = m.base.value >>> m.hostBits :=
    shiftRight_eq_iff.mpr hbits
  refine eq_of_base hfamily ?_ hlength
  change n.base.value >>> n.hostBits <<< n.hostBits = m.base.value >>> m.hostBits <<< m.hostBits
  rw [hhost, hshift]

theorem Alike.addresses_eq (h : Alike n m) : n.addresses = m.addresses := by
  rw [← addresses_trunc, trunc_eq_of_alike h, addresses_trunc]

/-- A network has addresses outside of another if it is of the other family, is shorter or begins
with other bits. -/
theorem not_subset_iff : ¬ m.addresses ⊆ n.addresses ↔
    m.base.family ≠ n.base.family ∨ m.length < n.length ∨
      m.base.bits.take n.length ≠ n.base.bits.take n.length := by
  have hbase : n.contains m.base = true ↔ m.base.family = n.base.family ∧
      m.base.bits.take n.length = n.base.bits.take n.length := contains_iff_mem
  rw [← covers_iff_subset, covers, Bool.and_eq_true, decide_eq_true_eq, hbase, ← Nat.not_le,
    not_and_or, not_and_or]
  exact or_left_comm

/-! ### Networks as ranges -/

/-- A network is also the range of addresses from the first to the last one. -/
theorem contains_iff_between :
    n.contains a = true ↔
      a.family = n.base.family ∧ n.first ≤ a.value ∧ a.value ≤ n.last := by
  have hpow : 0 < 2 ^ n.hostBits := Nat.two_pow_pos _
  rw [contains, Bool.and_eq_true, decide_eq_true_eq, decide_eq_true_eq,
    eq_comm (a := n.base.family), Nat.shiftRight_eq_div_pow, Nat.shiftRight_eq_div_pow, last, first,
    Nat.shiftRight_eq_div_pow, Nat.shiftLeft_eq, Nat.div_eq_iff hpow]
  refine and_congr Iff.rfl ?_
  omega

theorem last_lt (n : Network) : n.last < 1 <<< n.base.family.width := by
  have hsplit : 2 ^ n.base.family.width = 2 ^ n.length * 2 ^ n.hostBits := by
    rw [← Nat.pow_add, hostBits, Nat.add_sub_cancel' n.length_le]
  have hbase : n.base.value < 2 ^ n.length * 2 ^ n.hostBits := by
    rw [← hsplit, ← Nat.one_shiftLeft]
    exact n.base.inRange
  have hnext : (n.base.value / 2 ^ n.hostBits + 1) * 2 ^ n.hostBits ≤
      2 ^ n.length * 2 ^ n.hostBits :=
    Nat.mul_le_mul_right _ ((Nat.div_lt_iff_lt_mul (Nat.two_pow_pos _)).mpr hbase)
  have hpow : 0 < 2 ^ n.hostBits := Nat.two_pow_pos _
  rw [Nat.one_shiftLeft, hsplit, last, first, Nat.shiftRight_eq_div_pow, Nat.shiftLeft_eq]
  rw [Nat.add_mul, Nat.one_mul] at hnext
  omega

/-- One network is inside another if the ends of its range are. -/
theorem covers_iff_between : n.covers m = true ↔
    m.base.family = n.base.family ∧ n.first ≤ m.first ∧ m.last ≤ n.last := by
  have hends : m.first ≤ m.last := Nat.le_add_right _ _
  have hmem : ∀ v (hv : v < 1 <<< m.base.family.width), m.first ≤ v → v ≤ m.last →
      (⟨m.base.family, v, hv⟩ : Address) ∈ m.addresses := by
    intro v hv hfirst hlast
    exact contains_iff_mem.mp (contains_iff_between.mpr ⟨rfl, hfirst, hlast⟩)
  rw [covers_iff_subset]
  constructor
  · intro h
    have hfirst := h (hmem m.first (Nat.lt_of_le_of_lt hends m.last_lt) (Nat.le_refl _) hends)
    have hlast := h (hmem m.last m.last_lt hends (Nat.le_refl _))
    obtain ⟨hfamily, hle, _⟩ := contains_iff_between.mp (contains_iff_mem.mpr hfirst)
    obtain ⟨_, _, hge⟩ := contains_iff_between.mp (contains_iff_mem.mpr hlast)
    exact ⟨hfamily, hle, hge⟩
  · rintro ⟨hfamily, hfirst, hlast⟩ a ha
    obtain ⟨hfamily', hge, hle⟩ := contains_iff_between.mp (contains_iff_mem.mpr ha)
    refine contains_iff_mem.mp (contains_iff_between.mpr ⟨hfamily'.trans hfamily, ?_, ?_⟩)
    · exact Nat.le_trans hfirst hge
    · exact Nat.le_trans hle hlast

theorem not_subset_iff_between : ¬ m.addresses ⊆ n.addresses ↔
    m.base.family ≠ n.base.family ∨ m.first < n.first ∨ n.last < m.last := by
  rw [← covers_iff_subset, covers_iff_between, not_and_or, not_and_or, Nat.not_le, Nat.not_le]

/-! ### Reading blocks -/

theorem parseBlock?_eq (block : String) :
    parseBlock? block = (Document.written? block).map trunc := by
  rw [parseBlock?, Document.written?]
  cases parse? block with
  | some n => rfl
  | none =>
    cases Address.parse? block with
    | none => rfl
    | some a => exact congrArg some (trunc_single a).symm

end Network

/-! ### Compiling blocks -/

section Blocks

variable {rule : RuleRef} {block block' : Document.IpBlock} {cidr cidr' : Network}
  {excepts excepts' : List Network}

theorem compileBlock_eq_ok_iff {text : String} {net : Network} :
    compileBlock rule text = .ok net ↔ ∃ n, Document.written? text = some n ∧ n.trunc = net := by
  rw [compileBlock, Network.parseBlock?_eq]
  cases Document.written? text with
  | none => simp
  | some n => simp

theorem compileExcept_eq {text : String} {net e : Network} (h : Document.written? text = some e) :
    compileExcept rule net text =
      if net.covers e.trunc then .ok e.trunc
      else .error (.exceptOutsideCidr rule net e.trunc) := by
  rw [compileExcept, compileBlock_eq_ok_iff.mpr ⟨e, h, rfl⟩]
  rfl

theorem compileExcept_of_subset {text : String} {e : Network} (h : Document.written? text = some e)
    (hsub : e.addresses ⊆ cidr.addresses) :
    compileExcept rule cidr.trunc text = .ok e.trunc := by
  have hcovers : cidr.trunc.covers e.trunc = true := by
    rwa [Network.covers_iff_subset, Network.addresses_trunc, Network.addresses_trunc]
  rw [compileExcept_eq h, if_pos hcovers]

theorem compileExcept_of_not_subset {text : String} {e : Network}
    (h : Document.written? text = some e) (hsub : ¬ e.addresses ⊆ cidr.addresses) :
    compileExcept rule cidr.trunc text = .error (.exceptOutsideCidr rule cidr.trunc e.trunc) := by
  have hcovers : ¬ cidr.trunc.covers e.trunc = true := by
    rwa [Network.covers_iff_subset, Network.addresses_trunc, Network.addresses_trunc]
  rw [compileExcept_eq h, if_neg hcovers]

theorem mapM_compileExcept_of_subset {texts : List String}
    (h : texts.map Document.written? = excepts.map some)
    (hsub : ∀ e ∈ excepts, e.addresses ⊆ cidr.addresses) :
    texts.mapM (compileExcept rule cidr.trunc) = .ok (excepts.map Network.trunc) := by
  rw [mapM_eq_ok_iff, List.map_map]
  induction texts generalizing excepts with
  | nil =>
    obtain rfl : excepts = [] := List.map_eq_nil_iff.mp h.symm
    rfl
  | cons text rest ih =>
    obtain ⟨e, es, rfl, he, hes⟩ := List.map_eq_cons_iff.mp h.symm
    have ⟨hfirst, hrest⟩ := List.forall_mem_cons.mp hsub
    rw [List.map_cons, List.map_cons, compileExcept_of_subset he.symm hfirst, ih hes.symm hrest]
    rfl

/-- What comes after the first network that is outside is not looked at. -/
theorem mapM_compileExcept_of_not_subset {texts : List String} {before after : List Network}
    {e : Network} (h : texts.map Document.written? = (before ++ e :: after).map some)
    (hbefore : ∀ b ∈ before, b.addresses ⊆ cidr.addresses)
    (he : ¬ e.addresses ⊆ cidr.addresses) :
    texts.mapM (compileExcept rule cidr.trunc) =
      .error (.exceptOutsideCidr rule cidr.trunc e.trunc) := by
  rw [List.map_append, List.map_cons] at h
  obtain ⟨first, rest, rfl, hfirst, hrest⟩ := List.map_eq_append_iff.mp h
  obtain ⟨text, more, rfl, htext, _⟩ := List.map_eq_cons_iff.mp hrest
  rw [List.mapM_append, mapM_compileExcept_of_subset hfirst hbefore, List.mapM_cons,
    compileExcept_of_not_subset htext he]
  rfl

/-- A peer that is given by no more than a block of addresses. -/
def Document.IpBlock.peer (block : Document.IpBlock) : Document.Peer := ⟨none, none, some block⟩

theorem compilePeer_eq (h : block.Writes cidr excepts) :
    compilePeer rule block.peer =
      ((block.except.getD []).mapM (compileExcept rule cidr.trunc)).map
        fun except => .network ⟨cidr.trunc, except⟩ := by
  have hcidr : compileBlock rule block.cidr = .ok cidr.trunc :=
    compileBlock_eq_ok_iff.mpr ⟨cidr, h.cidr, rfl⟩
  change (compileBlock rule block.cidr >>= fun net =>
    (block.except.getD []).mapM (compileExcept rule net) >>= fun except =>
      pure (PeerMatch.network ⟨net, except⟩)) = _
  rw [hcidr]
  change ((block.except.getD []).mapM (compileExcept rule cidr.trunc) >>= _) = _
  cases (block.except.getD []).mapM (compileExcept rule cidr.trunc) <;> rfl

theorem compilePeer_of_subset (h : block.Writes cidr excepts)
    (hsub : ∀ e ∈ excepts, e.addresses ⊆ cidr.addresses) :
    compilePeer rule block.peer = .ok (.network ⟨cidr.trunc, excepts.map Network.trunc⟩) := by
  rw [compilePeer_eq h, mapM_compileExcept_of_subset h.excepts hsub]
  rfl

theorem compilePeer_of_not_subset {before after : List Network} {e : Network}
    (h : block.Writes cidr (before ++ e :: after))
    (hbefore : ∀ b ∈ before, b.addresses ⊆ cidr.addresses)
    (he : ¬ e.addresses ⊆ cidr.addresses) :
    compilePeer rule block.peer = .error (.exceptOutsideCidr rule cidr.trunc e.trunc) := by
  rw [compilePeer_eq h, mapM_compileExcept_of_not_subset h.excepts hbefore he]
  rfl

theorem exists_first_outside (h : ¬ ∀ e ∈ excepts, e.addresses ⊆ cidr.addresses) :
    ∃ before e after, excepts = before ++ e :: after ∧
      (∀ b ∈ before, b.addresses ⊆ cidr.addresses) ∧ ¬ e.addresses ⊆ cidr.addresses := by
  obtain ⟨before, e, after, hsplit, hbefore, hfails⟩ :=
    exists_first_failure (P := fun l : List Network => ∀ e ∈ l, e.addresses ⊆ cidr.addresses) nofun h
  refine ⟨before, e, after, hsplit, hbefore, fun he => hfails fun b hb => ?_⟩
  rcases List.mem_append.mp hb with hb | hb
  · exact hbefore b hb
  · rwa [List.mem_singleton.mp hb]

theorem eq_peer_of_compilePeer {p : Document.Peer} {m : PeerMatch} (hblock : p.ipBlock = some block)
    (h : compilePeer rule p = .ok m) : p = block.peer := by
  obtain ⟨pods, namespaces, _⟩ := p
  obtain rfl := hblock
  cases pods with
  | some pods => cases h
  | none =>
    cases namespaces with
    | some namespaces => cases h
    | none => rfl

theorem exists_written_of_compileExcept {text : String} {net e : Network}
    (h : compileExcept rule net text = .ok e) : ∃ n, Document.written? text = some n := by
  obtain ⟨_, hblock, _⟩ := bind_eq_ok_iff.mp h
  obtain ⟨n, hn, _⟩ := compileBlock_eq_ok_iff.mp hblock
  exact ⟨n, hn⟩

theorem exists_writes_of_compilePeer {m : PeerMatch} (h : compilePeer rule block.peer = .ok m) :
    ∃ cidr excepts, block.Writes cidr excepts := by
  obtain ⟨net, except, hnet, hexcept, _⟩ := exists_of_compilePeer_block h
  obtain ⟨cidr, hcidr, _⟩ := compileBlock_eq_ok_iff.mp hnet
  have hall : ∀ n ∈ (block.except.getD []).map Document.written?, n ∈ Set.range some := by
    intro n hn
    obtain ⟨text, htext, rfl⟩ := List.mem_map.mp hn
    have hchecked : compileExcept rule net text ∈ except.map Except.ok :=
      mapM_eq_ok_iff.mp hexcept ▸ List.mem_map_of_mem htext
    obtain ⟨e, _, he⟩ := List.mem_map.mp hchecked
    obtain ⟨e', he'⟩ := exists_written_of_compileExcept he.symm
    exact ⟨e', he'.symm⟩
  obtain ⟨excepts, hexcepts⟩ : (block.except.getD []).map Document.written? ∈
      Set.range (List.map some) := by
    rw [Set.range_list_map]
    exact hall
  exact ⟨cidr, excepts, hcidr, hexcepts.symm⟩

theorem NetworkMatch.contains_trunc_iff {a : Address} :
    NetworkMatch.contains ⟨cidr.trunc, excepts.map Network.trunc⟩ a = true ↔
      a ∈ cidr.addresses ∧ ∀ e ∈ excepts, a ∉ e.addresses := by
  rw [NetworkMatch.contains, Bool.and_eq_true, Network.contains_iff_mem, Network.addresses_trunc,
    Bool.not_eq_true', List.any_eq_false, List.forall_mem_map]
  refine and_congr Iff.rfl (forall₂_congr fun e _ => ?_)
  rw [Network.contains_iff_mem, Network.addresses_trunc]

/-- A block is accepted if all that it takes away is inside, and only then. -/
theorem compilePeer_eq_ok_iff (h : block.Writes cidr excepts) {m : PeerMatch} :
    compilePeer rule block.peer = .ok m ↔
      (∀ e ∈ excepts, e.addresses ⊆ cidr.addresses) ∧
        m = .network ⟨cidr.trunc, excepts.map Network.trunc⟩ := by
  by_cases hsub : ∀ e ∈ excepts, e.addresses ⊆ cidr.addresses
  · rw [compilePeer_of_subset h hsub, Except.ok.injEq]
    constructor
    · rintro rfl
      exact ⟨hsub, rfl⟩
    · rintro ⟨_, rfl⟩
      rfl
  · obtain ⟨before, e, after, rfl, hbefore, he⟩ := exists_first_outside hsub
    rw [compilePeer_of_not_subset h hbefore he]
    exact iff_of_false nofun fun hboth => hsub hboth.1

theorem exists_error_iff (h : block.Writes cidr excepts) :
    (∃ net e, compilePeer rule block.peer = .error (.exceptOutsideCidr rule net e)) ↔
      ∃ e ∈ excepts, ∃ a ∈ e.addresses, a ∉ cidr.addresses := by
  have hnot : (∃ e ∈ excepts, ∃ a ∈ e.addresses, a ∉ cidr.addresses) ↔
      ¬ ∀ e ∈ excepts, e.addresses ⊆ cidr.addresses := by
    simp only [← Set.not_subset, not_forall, exists_prop]
  rw [hnot]
  constructor
  · rintro ⟨net, e, herror⟩ hsub
    rw [compilePeer_of_subset h hsub] at herror
    cases herror
  · intro hsub
    obtain ⟨before, e, after, rfl, hbefore, he⟩ := exists_first_outside hsub
    exact ⟨_, _, compilePeer_of_not_subset h hbefore he⟩

/-- Neither order nor repetition of what is taken away plays a part, nor do stray bits. -/
theorem compilePeer_of_alike (h : block.Writes cidr excepts) (h' : block'.Writes cidr' excepts')
    (hcidr : cidr.Alike cidr') (hleft : ∀ e ∈ excepts, ∃ e' ∈ excepts', e.Alike e')
    (hright : ∀ e' ∈ excepts', ∃ e ∈ excepts, e.Alike e') {net : NetworkMatch}
    (hnet : compilePeer rule block.peer = .ok (.network net)) :
    ∃ net', compilePeer rule block'.peer = .ok (.network net') ∧
      ∀ a, net'.contains a = net.contains a := by
  obtain ⟨hsub, hmatch⟩ := (compilePeer_eq_ok_iff h).mp hnet
  obtain rfl := PeerMatch.network.inj hmatch
  have hsub' : ∀ e' ∈ excepts', e'.addresses ⊆ cidr'.addresses := by
    intro e' he'
    obtain ⟨e, he, hlike⟩ := hright e' he'
    rw [← hlike.addresses_eq, ← hcidr.addresses_eq]
    exact hsub e he
  refine ⟨_, compilePeer_of_subset h' hsub', fun a => ?_⟩
  rw [Bool.eq_iff_iff, NetworkMatch.contains_trunc_iff, NetworkMatch.contains_trunc_iff,
    hcidr.addresses_eq]
  refine and_congr Iff.rfl ⟨fun hnone e he => ?_, fun hnone e' he' => ?_⟩
  · obtain ⟨e', he', hlike⟩ := hleft e he
    exact hlike.addresses_eq ▸ hnone e' he'
  · obtain ⟨e, he, hlike⟩ := hright e' he'
    exact hlike.addresses_eq ▸ hnone e he

end Blocks

/-- What a block of addresses means to a rule that lists it. -/
structure Document.IpBlock.Denotes (block : Document.IpBlock) (rule : RuleRef) : Prop where
  /-- An accepted block is about the addresses of its network less those that it takes away. -/
  accepted : ∀ p m, p.ipBlock = some block → compilePeer rule p = .ok m →
    ∃ net cidr excepts, m = .network net ∧ block.Writes cidr excepts ∧
      ∀ a, (net.contains a = true ↔ a ∈ cidr.addresses ∧ ∀ e ∈ excepts, a ∉ e.addresses) ∧
        (a.family ≠ cidr.base.family → net.contains a = false)
  complete : ∀ cidr excepts, block.Writes cidr excepts →
    (∀ e ∈ excepts, e.addresses ⊆ cidr.addresses) →
    ∃ net, compilePeer rule block.peer = .ok (.network net)
  refused : ∀ cidr excepts, block.Writes cidr excepts →
    ((∃ net e, compilePeer rule block.peer = .error (.exceptOutsideCidr rule net e)) ↔
      ∃ e ∈ excepts, ∃ a ∈ e.addresses, a ∉ cidr.addresses)
  outside : ∀ cidr e : Network, (∃ a ∈ e.addresses, a ∉ cidr.addresses) ↔
    e.base.family ≠ cidr.base.family ∨ e.length < cidr.length ∨
      e.base.bits.take cidr.length ≠ cidr.base.bits.take cidr.length
  between : ∀ cidr e : Network, (∃ a ∈ e.addresses, a ∉ cidr.addresses) ↔
    e.base.family ≠ cidr.base.family ∨ e.first < cidr.first ∨ cidr.last < e.last
  first : ∀ cidr before e after, block.Writes cidr (before ++ e :: after) →
    (∀ b ∈ before, b.addresses ⊆ cidr.addresses) → ¬ e.addresses ⊆ cidr.addresses →
    compilePeer rule block.peer = .error (.exceptOutsideCidr rule cidr.trunc e.trunc)
  alike : ∀ block' cidr cidr' excepts excepts', block.Writes cidr excepts →
    Writes block' cidr' excepts' → cidr.Alike cidr' → (∀ e ∈ excepts, ∃ e' ∈ excepts', e.Alike e') →
    (∀ e' ∈ excepts', ∃ e ∈ excepts, e.Alike e') →
    ∀ net, compilePeer rule block.peer = .ok (.network net) →
      ∃ net', compilePeer rule block'.peer = .ok (.network net') ∧
        ∀ a, net'.contains a = net.contains a

/-- A block of addresses denotes the difference of sets of addresses. It is refused for the first
network to take away that is not inside of the one to take it from. -/
theorem Document.IpBlock.denotes_difference (rule : RuleRef) (block : Document.IpBlock) :
    block.Denotes rule where
  accepted p m hblock hm := by
    obtain rfl := eq_peer_of_compilePeer hblock hm
    obtain ⟨cidr, excepts, hwrites⟩ := exists_writes_of_compilePeer hm
    obtain ⟨_, rfl⟩ := (compilePeer_eq_ok_iff hwrites).mp hm
    refine ⟨_, cidr, excepts, rfl, hwrites, fun a => ⟨NetworkMatch.contains_trunc_iff, ?_⟩⟩
    intro hfamily
    apply Bool.eq_false_iff.mpr
    intro hcontains
    exact hfamily (NetworkMatch.contains_trunc_iff.mp hcontains).1.1
  complete _ _ hwrites hsub := ⟨_, compilePeer_of_subset hwrites hsub⟩
  refused _ _ hwrites := exists_error_iff hwrites
  outside cidr e := by
    rw [← Network.not_subset_iff, Set.not_subset]
  between cidr e := by
    rw [← Network.not_subset_iff_between, Set.not_subset]
  first _ _ _ _ hwrites hbefore he := compilePeer_of_not_subset hwrites hbefore he
  alike _ _ _ _ _ h h' hcidr hleft hright _ := compilePeer_of_alike h h' hcidr hleft hright

namespace Sample

def net4 (value length : ℕ) (h : value < 1 <<< 32 ∧ length ≤ 32) : Network :=
  ⟨⟨.v4, value, h.1⟩, length, h.2⟩

/-- What begins with 10, less the given networks; the other bits that are written do not count. -/
def tens (excepts : List String) : Document.IpBlock := ⟨"10.1.2.3/8", some excepts⟩

def anyRule : RuleRef := ⟨⟨"x", "1"⟩, .ingress, 0⟩

def ten : Network := net4 0x0A010203 8 (by decide)

def tenFar : Network := net4 0x0A400009 10 (by decide)

def tenNear : Network := net4 0x0A050607 32 (by decide)

def eleven : Network := net4 0x0B050000 8 (by decide)

theorem writes_tens : (tens ["10.64.0.9/10", "10.5.6.7"]).Writes ten [tenFar, tenNear] where
  cidr := by cbv
  excepts := by cbv

theorem writes_eleven : (tens ["10.5.6.7", "11.5.0.0/8", "::/0"]).Writes ten
    ([tenNear] ++ eleven :: [⟨⟨.v6, 0, by decide⟩, 0, by decide⟩]) where
  cidr := by cbv
  excepts := by cbv

/-- The first of what is not inside is reported, here a network of the same length with other leading
bits, and what comes after it is not looked at. -/
theorem contains_of_tens :
    (∃ net, compilePeer anyRule (tens ["10.64.0.9/10", "10.5.6.7"]).peer = .ok (.network net) ∧
      net.contains ⟨.v4, 0x0A000001, by decide⟩ = true ∧
      net.contains ⟨.v4, 0x0A7FFFFF, by decide⟩ = false ∧
      net.contains ⟨.v6, 0x0A000001, by decide⟩ = false) ∧
    compilePeer anyRule (tens ["10.5.6.7", "11.5.0.0/8", "::/0"]).peer =
      .error (.exceptOutsideCidr anyRule (net4 0x0A000000 8 (by decide))
        (net4 0x0B000000 8 (by decide))) := by
  have hfar : tenFar.addresses ⊆ ten.addresses := Network.covers_iff_subset.mp (by decide)
  have hnear : tenNear.addresses ⊆ ten.addresses := Network.covers_iff_subset.mp (by decide)
  constructor
  · have h := Document.IpBlock.denotes_difference anyRule (tens ["10.64.0.9/10", "10.5.6.7"])
    obtain ⟨net, hnet⟩ := h.complete _ _ writes_tens (by simp [hfar, hnear])
    obtain ⟨_, _, _, hmatch, hwrites, hcontains⟩ := h.accepted _ _ rfl hnet
    obtain rfl := PeerMatch.network.inj hmatch
    obtain ⟨rfl, rfl⟩ := hwrites.unique writes_tens
    refine ⟨net, hnet, (hcontains _).1.mpr ⟨?_, ?_⟩, ?_, (hcontains _).2 (by decide)⟩
    · exact Network.contains_iff_mem.mp (by decide)
    · simp only [← Network.contains_iff_mem]
      decide
    · apply Bool.eq_false_iff.mpr
      intro hin
      exact ((hcontains _).1.mp hin).2 tenFar (by simp) (Network.contains_iff_mem.mp (by decide))
  · have h := Document.IpBlock.denotes_difference anyRule (tens ["10.5.6.7", "11.5.0.0/8", "::/0"])
    have hout : ¬ eleven.addresses ⊆ ten.addresses :=
      Set.not_subset.mpr ((h.outside ten eleven).mpr (.inr (.inr (by decide))))
    exact h.first ten [tenNear] eleven _ writes_eleven (by simp [hnear]) hout

end Sample

end PolicyReach
