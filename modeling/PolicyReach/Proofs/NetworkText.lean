import PolicyReach.Proofs.AddressBlocks
import PolicyReach.Proofs.AddressText
import PolicyReach.Proofs.CompiledPolicies
import PolicyReach.Proofs.Defects

/-!
# Compiling what was printed

The networks of compiled policies have no stray bits, and their texts compile to the same networks
again. An address by itself is written for the network of its full length.
-/
namespace PolicyReach

namespace Network

variable {s : String} {a : Address} {n : Network}

theorem trunc_of_canonical (h : n.Canonical) : n.trunc = n := by
  refine eq_of_base rfl ?_ rfl
  change n.base.value >>> n.hostBits <<< n.hostBits = n.base.value
  apply Nat.eq_of_testBit_eq
  intro i
  rw [Nat.testBit_shiftLeft, Nat.testBit_shiftRight]
  by_cases hi : n.hostBits ≤ i
  · rw [Nat.add_sub_cancel' hi]
    simp [hi]
  · rw [h i (Nat.lt_of_not_le hi)]
    simp [hi]

/-! ### Reading networks -/

theorem length_toDigits_le {family : Family} {length : ℕ} (h : length ≤ family.width) :
    (Nat.toDigits 10 length).length ≤ lengthDigits family := by
  cases family with
  | v4 =>
    have hlt : length < 10 ^ 2 := Nat.lt_of_le_of_lt h (by decide)
    exact (Nat.length_toDigits_le_iff (by decide) (by decide)).mpr hlt
  | v6 =>
    have hlt : length < 10 ^ 3 := Nat.lt_of_le_of_lt h (by decide)
    exact (Nat.length_toDigits_le_iff (by decide) (by decide)).mpr hlt

theorem ofLength?_toDigits (n : Network) :
    ofLength? n.base (Nat.toDigits 10 n.length) = some n := by
  rw [ofLength?, Text.decimal?_toDigits]
  change (if _ then _ else none) = _
  rw [if_pos (length_toDigits_le n.length_le), dif_pos n.length_le]

theorem slash_notMem {g : Address.Grammar} {cs : List Char} (h : Address.read? g cs = some a) :
    '/' ∉ cs := by
  intro hslash
  rcases Address.plain_of_read? h '/' hslash with hc | hc | hc <;> cases hc

/-- A network is read from any text of its address that is followed by its length. -/
theorem parse?_of_base (h : Address.read? Address.lenient s.toList = some n.base) :
    parse? (s ++ "/" ++ toString n.length) = some n := by
  have hdigits : '/' ∉ Nat.toDigits 10 n.length := by
    intro hslash
    exact absurd (Text.isAsciiDigit_of_mem_toDigits hslash) (by decide)
  have htext : (s ++ "/" ++ toString n.length).toList =
      s.toList ++ '/' :: Nat.toDigits 10 n.length := by
    rw [String.toList_append, String.toList_append, Nat.toString_eq_repr, Nat.toList_repr,
      List.append_assoc]
    rfl
  have hpieces : Text.pieces '/' (s ++ "/" ++ toString n.length).toList =
      [s.toList, Nat.toDigits 10 n.length] := by
    rw [htext, Text.pieces_eq_splitOn, List.splitOn_append_cons_self,
      List.splitOn_eq_singleton (slash_notMem h), List.splitOn_eq_singleton hdigits]
    rfl
  simp only [parse?, hpieces, h, Option.bind_eq_bind, Option.bind_some]
  exact ofLength?_toDigits n

theorem parse?_text (n : Network) : parse? n.text = some n :=
  parse?_of_base (n.base.read?_text Address.lenient)

theorem parseBlock?_of_parse (h : parse? s = some n) : parseBlock? s = some n.trunc := by
  simp only [parseBlock?, h]

theorem parseBlock?_text (h : n.Canonical) : parseBlock? n.text = some n := by
  rw [parseBlock?_of_parse n.parse?_text, trunc_of_canonical h]

/-- An address by itself is no network, as it has no length. -/
theorem parse?_of_address (h : Address.parse? s = some a) : parse? s = none := by
  have hpieces : Text.pieces '/' s.toList = [s.toList] := by
    rw [Text.pieces_eq_splitOn, List.splitOn_eq_singleton (slash_notMem h)]
  simp only [parse?, hpieces]

theorem parseBlock?_of_address (h : Address.parse? s = some a) :
    parseBlock? s = some (single a) := by
  simp only [parseBlock?, parse?_of_address h, h, Option.map_some]

/-- An address by itself is written for the network of its full length. -/
theorem parseBlock?_append {length : String} (h : Address.parse? s = some a)
    (hlength : length = "/" ++ toString a.family.width) :
    parseBlock? s = parseBlock? (s ++ length) := by
  have hparse : parse? (s ++ "/" ++ toString (single a).length) = some (single a) :=
    parse?_of_base (n := single a) (Address.read?_of_strict h)
  have hfull := parseBlock?_of_parse hparse
  rw [trunc_single, String.append_assoc] at hfull
  rw [parseBlock?_of_address h, hlength]
  exact hfull.symm

end Network

/-! ### Compiling texts again -/

/-- The block of addresses as which a compiled one is shown. -/
def NetworkMatch.block (m : NetworkMatch) : Document.IpBlock :=
  ⟨m.net.text, some (m.except.map Network.text)⟩

section Blocks

variable {rule : RuleRef} {p : Document.Peer}

theorem compileBlock_text {n : Network} (h : n.Canonical) : compileBlock rule n.text = .ok n := by
  rw [compileBlock, Network.parseBlock?_text h]

theorem written?_text (n : Network) : Document.written? n.text = some n := by
  rw [Document.written?, Network.parse?_text, Option.some_or]

theorem NetworkMatch.writes_block (m : NetworkMatch) : m.block.Writes m.net m.except where
  cidr := written?_text m.net
  excepts := by
    rw [block, Option.getD_some, List.map_map]
    exact List.map_congr_left fun e _ => written?_text e

theorem compilePeer_block {m : NetworkMatch} (h : m.WellFormed) :
    compilePeer rule m.block.peer = .ok (.network m) := by
  have hsub : ∀ e ∈ m.except, e.addresses ⊆ m.net.addresses := by
    intro e he a ha
    exact Network.mem_addresses_iff.mpr (h.within e he a (Network.mem_addresses_iff.mp ha))
  have hexcept : m.except.map Network.trunc = m.except := by
    conv_rhs => rw [← List.map_id m.except]
    apply List.map_congr_left
    intro e he
    exact Network.trunc_of_canonical (h.canonical e he)
  rw [compilePeer_of_subset m.writes_block hsub, Network.trunc_of_canonical h.net, hexcept]

theorem mem_exceptDefects {r : RuleRef} {net net' e : Network} {text : String}
    (h : .exceptOutsideCidr r net' e ∈ Document.exceptDefects rule net text) :
    net' = net ∧ Network.parseBlock? text = some e := by
  rw [Document.exceptDefects] at h
  cases hread : Network.parseBlock? text with
  | none => simp [hread] at h
  | some e' =>
    by_cases hcovers : net.covers e' = true
    · simp [hread, hcovers] at h
    · obtain ⟨_, rfl, rfl⟩ : r = rule ∧ net' = net ∧ e = e' := by simpa [hread, hcovers] using h
      exact ⟨rfl, rfl⟩

theorem exists_of_mem_defects {r : RuleRef} {net e : Network} {block : Document.IpBlock}
    (h : .exceptOutsideCidr r net e ∈ block.defects rule) :
    Network.parseBlock? block.cidr = some net ∧
      ∃ text ∈ block.except.getD [], Network.parseBlock? text = some e := by
  rw [Document.IpBlock.defects] at h
  cases hcidr : Network.parseBlock? block.cidr with
  | none => simp [hcidr] at h
  | some cidr =>
    simp only [hcidr, List.mem_flatMap] at h
    obtain ⟨text, htext, hdefect⟩ := h
    obtain ⟨rfl, hread⟩ := mem_exceptDefects hdefect
    exact ⟨rfl, text, htext, hread⟩

/-- The networks that a refusal names are those of texts that the block holds. -/
theorem exists_of_refused {r : RuleRef} {net e : Network}
    (h : compilePeer rule p = .error (.exceptOutsideCidr r net e)) :
    ∃ block, p.ipBlock = some block ∧ Network.parseBlock? block.cidr = some net ∧
      ∃ text ∈ block.except.getD [], Network.parseBlock? text = some e := by
  have hreports : Reports (compilePeer rule p) (p.defects rule) := reports_compilePeer p
  rw [h] at hreports
  have hmem : .exceptOutsideCidr r net e ∈ p.defects rule := List.mem_of_head? hreports
  obtain ⟨pods, namespaces, block⟩ := p
  cases block with
  | none =>
    cases pods <;> cases namespaces <;>
      simp [Document.Peer.defects, Document.selectorDefects] at hmem
  | some block =>
    cases pods with
    | some _ => simp [Document.Peer.defects] at hmem
    | none =>
      cases namespaces with
      | some _ => simp [Document.Peer.defects] at hmem
      | none => exact ⟨block, rfl, exists_of_mem_defects hmem⟩

end Blocks

/-- What a text stands for where a block of addresses is asked for. -/
structure Document.BlockText (s : String) : Prop where
  canonical : ∀ n, Network.parseBlock? s = some n → n.Canonical
  again : ∀ n, Network.parseBlock? s = some n → Network.parseBlock? n.text = some n
  bare : ∀ a, Address.parse? s = some a → Network.parseBlock? s = some (.single a)
  full4 : ∀ a, Address.parse? s = some a → a.family = .v4 →
    Network.parseBlock? s = Network.parseBlock? (s ++ "/32")
  full6 : ∀ a, Address.parse? s = some a → a.family = .v6 →
    Network.parseBlock? s = Network.parseBlock? (s ++ "/128")

theorem Document.blockText (s : String) : Document.BlockText s where
  canonical _ h := Network.canonical_of_parseBlock h
  again _ h := Network.parseBlock?_text (Network.canonical_of_parseBlock h)
  bare _ h := Network.parseBlock?_of_address h
  full4 _ h hfamily := Network.parseBlock?_append h (by rw [hfamily]; rfl)
  full6 _ h hfamily := Network.parseBlock?_append h (by rw [hfamily]; rfl)

/-- What is shown of a network compiles to that network, be it in a rule or in a refusal. -/
theorem Network.texts_compile_again :
    (∀ s, Document.BlockText s) ∧
    (∀ n : Network, n.Canonical → parseBlock? n.text = some n) ∧
    (∀ rule p m, compilePeer rule p = .ok (.network m) →
      compilePeer rule m.block.peer = .ok (.network m)) ∧
    ∀ rule p r net e, compilePeer rule p = .error (.exceptOutsideCidr r net e) →
      compileBlock rule net.text = .ok net ∧ compileBlock rule e.text = .ok e := by
  refine ⟨Document.blockText, fun _ => parseBlock?_text, ?_, ?_⟩
  · intro rule p m h
    exact compilePeer_block (wellFormed_of_compilePeer h)
  · intro rule p r net e h
    obtain ⟨block, _, hcidr, text, _, hexcept⟩ := exists_of_refused h
    constructor
    · exact compileBlock_text (canonical_of_parseBlock hcidr)
    · exact compileBlock_text (canonical_of_parseBlock hexcept)

namespace Sample

/-- The last three bits of the third group do not count, nor does what comes after it. -/
def prefix45 : Network := ⟨⟨.v6, 0x20010DB8000800000000000000000000, by decide⟩, 45, by decide⟩

/-- An address of the older family inside the newer one, of which the first octet counts. -/
def mapped104 : Network := ⟨⟨.v6, 0xFFFF0A000000, by decide⟩, 104, by decide⟩

/-- Neither the zeros nor the stray bits that are written are printed, and addresses need no length. -/
theorem texts_of_prefixes :
    (Network.parseBlock? "2001:DB8:f:07::10.1.2.3/45" = some prefix45 ∧ prefix45.Canonical ∧
      prefix45.text = "2001:db8:8::/45" ∧ Network.parseBlock? prefix45.text = some prefix45) ∧
    (Network.parseBlock? "::ffff:010.1.2.3/104" = some mapped104 ∧ mapped104.Canonical ∧
      mapped104.text = "::ffff:10.0.0.0/104" ∧
      Network.parseBlock? mapped104.text = some mapped104) ∧
    Network.parseBlock? "10.1.2.3" = Network.parseBlock? "10.1.2.3/32" ∧
    Network.parseBlock? "::1:0:0:0" = Network.parseBlock? "::1:0:0:0/128" ∧
    (∃ m : NetworkMatch, m.net.text = "10.0.0.0/8" ∧
      compilePeer anyRule (tens ["10.64.0.9/10"]).peer = .ok (.network m) ∧
      compilePeer anyRule m.block.peer = .ok (.network m)) ∧
    ∃ net e : Network, e.text = "11.0.0.0/8" ∧
      compilePeer anyRule (tens ["11.5.0.0/8"]).peer =
        .error (.exceptOutsideCidr anyRule net e) ∧
      compileBlock anyRule e.text = .ok e := by
  obtain ⟨htexts, hprinted, hshown, hrefused⟩ := Network.texts_compile_again
  have hleading : Network.parseBlock? "2001:DB8:f:07::10.1.2.3/45" = some prefix45 := by cbv
  have hmapped : Network.parseBlock? "::ffff:010.1.2.3/104" = some mapped104 := by cbv
  have hbare4 : Address.parse? "10.1.2.3" = some ⟨.v4, 0x0A010203, by decide⟩ := by cbv
  have hbare6 : Address.parse? "::1:0:0:0" = some ⟨.v6, 0x1000000000000, by decide⟩ := by cbv
  have hnet : compilePeer anyRule (tens ["10.64.0.9/10"]).peer = .ok (.network
      ⟨net4 0x0A000000 8 (by decide), [net4 0x0A400000 10 (by decide)]⟩) := by cbv
  have herror : compilePeer anyRule (tens ["11.5.0.0/8"]).peer = .error (.exceptOutsideCidr anyRule
      (net4 0x0A000000 8 (by decide)) (net4 0x0B000000 8 (by decide))) := by cbv
  refine ⟨⟨hleading, ?_, by cbv, ?_⟩, ⟨hmapped, ?_, by cbv, ?_⟩, ?_, ?_, ?_, ?_⟩
  · exact (htexts _).canonical _ hleading
  · exact (htexts _).again _ hleading
  · exact (htexts _).canonical _ hmapped
  · exact hprinted _ ((htexts _).canonical _ hmapped)
  · exact (htexts "10.1.2.3").full4 _ hbare4 rfl
  · exact (htexts "::1:0:0:0").full6 _ hbare6 rfl
  · exact ⟨_, by cbv, hnet, hshown _ _ _ hnet⟩
  · exact ⟨_, _, by cbv, herror, (hrefused _ _ _ _ _ herror).2⟩

end Sample

end PolicyReach
