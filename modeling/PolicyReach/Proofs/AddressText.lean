import PolicyReach.Address
import PolicyReach.Proofs.Compilation
import PolicyReach.Proofs.Digits

/-!
# Reading addresses back

The text of an address is read as that address in every grammar, and what the strict grammar reads
every other one reads as the same address.
-/
namespace PolicyReach

namespace Address

variable {g : Grammar} {cs : List Char}

/-! ### Numbers by their parts -/

theorem length_parts (base count v : ℕ) : (parts base count v).length = count := by
  induction count generalizing v with
  | zero => rfl
  | succ count ih => rw [parts, List.length_append, ih, List.length_singleton]

theorem lt_of_mem_parts {base count v p : ℕ} (hbase : 0 < base) (h : p ∈ parts base count v) :
    p < base := by
  induction count generalizing v with
  | zero => cases h
  | succ count ih =>
    rcases List.mem_append.mp h with h | h
    · exact ih h
    · obtain rfl := List.mem_singleton.mp h
      exact Nat.mod_lt _ hbase

theorem ofParts_parts {base count v : ℕ} (h : v < base ^ count) :
    ofParts base (parts base count v) = v := by
  induction count generalizing v with
  | zero => exact (Nat.lt_one_iff.mp h).symm
  | succ count ih =>
    have hbase : 0 < base := Nat.pos_of_ne_zero (by rintro rfl; simp at h)
    have hhigh : v / base < base ^ count := (Nat.div_lt_iff_lt_mul hbase).mpr h
    rw [parts, ofParts, List.foldl_append]
    change ofParts base (parts base count (v / base)) * base + v % base = v
    rw [ih hhigh, Nat.div_add_mod']

/-! ### Four octets -/

theorem octet?_eq_some_iff {n : ℕ} : octet? g cs = some n ↔ Text.decimal? cs = some n ∧
    cs.length ≤ 3 ∧ n < 256 ∧
      (g.leadingZeros = true ∨ cs.length = 1 ∨ cs.head? ≠ some '0') := by
  rw [octet?]
  cases Text.decimal? cs with
  | none => simp
  | some m =>
    simp only [Option.bind_eq_bind, Option.bind_some, Option.ite_none_right_eq_some,
      Option.some.injEq, Bool.and_eq_true, Bool.or_eq_true, decide_eq_true_eq, or_assoc, and_assoc]
    constructor
    · rintro ⟨hlength, hsmall, hzeros, rfl⟩
      exact ⟨rfl, hlength, hsmall, hzeros⟩
    · rintro ⟨rfl, hlength, hsmall, hzeros⟩
      exact ⟨hlength, hsmall, hzeros, rfl⟩

theorem octet?_toDigits (g : Grammar) {n : ℕ} (h : n < 256) :
    octet? g (Nat.toDigits 10 n) = some n := by
  have hlength : (Nat.toDigits 10 n).length ≤ 3 :=
    (Nat.length_toDigits_le_iff (by decide) (by decide)).mpr (by omega)
  have hzero : (Nat.toDigits 10 n).length = 1 ∨ (Nat.toDigits 10 n).head? ≠ some '0' := by
    obtain ⟨d, ds, hds⟩ := List.exists_cons_of_ne_nil (Nat.toDigits_ne_nil (n := n) (b := 10))
    rw [hds]
    by_cases hd : d = '0'
    · subst hd
      rw [Text.tail_toDigits_of_head_zero hds]
      exact .inl rfl
    · exact .inr fun heq => hd (Option.some.inj heq)
  exact octet?_eq_some_iff.mpr ⟨Text.decimal?_toDigits n, hlength, h, .inr hzero⟩

theorem octets?_eq_some_iff {ps : List ℕ} : octets? g cs = some ps ↔
    ps.length = 4 ∧ (Text.pieces '.' cs).map (octet? g) = ps.map some := by
  have hsame : (Text.pieces '.' cs).map (octet? g) = ps.map some →
      ps.length = (Text.pieces '.' cs).length := by
    intro hmap
    have hlengths := congrArg List.length hmap
    rw [List.length_map, List.length_map] at hlengths
    exact hlengths.symm
  rw [octets?]
  split
  · rename_i a b c d hpieces
    rw [hpieces] at hsame ⊢
    rw [mapM_eq_some_iff]
    exact (and_iff_right_of_imp hsame).symm
  · rename_i hpieces
    refine iff_of_false nofun ?_
    rintro ⟨hlength, hmap⟩
    obtain ⟨a, b, c, d, hall⟩ := List.length_eq_four.mp ((hsame hmap).symm.trans hlength)
    exact hpieces a b c d hall

theorem exists_octet_of_mem {ps : List ℕ} {p : List Char} (h : octets? g cs = some ps)
    (hp : p ∈ Text.pieces '.' cs) : ∃ n, octet? g p = some n := by
  have hread : octet? g p ∈ ps.map some := (octets?_eq_some_iff.mp h).2 ▸ List.mem_map_of_mem hp
  obtain ⟨n, _, hn⟩ := List.mem_map.mp hread
  exact ⟨n, hn.symm⟩

theorem isAsciiDigit_of_octets? {ps : List ℕ} (h : octets? g cs = some ps) :
    ∀ c ∈ cs, Text.isAsciiDigit c = true ∨ c = '.' := by
  intro c hc
  by_cases hdot : c = '.'
  · exact .inr hdot
  · obtain ⟨p, hp, hcp⟩ := Text.exists_mem_pieces hc hdot
    obtain ⟨n, hn⟩ := exists_octet_of_mem h hp
    exact .inl (Text.isAsciiDigit_of_mem (octet?_eq_some_iff.mp hn).1 c hcp)

theorem octets?_eq_none (h : '.' ∉ cs) : octets? g cs = none := by
  rw [octets?, Text.pieces_eq_splitOn, List.splitOn_eq_singleton h]

theorem toList_dotted (v : ℕ) :
    (dotted v).toList = ['.'].intercalate ((parts 256 4 v).map (Nat.toDigits 10)) := by
  rw [dotted, String.toList_intercalate, List.map_map]
  congr 1
  refine List.map_congr_left fun n _ => ?_
  exact Nat.toList_repr

theorem octets?_dotted (g : Grammar) (v : ℕ) :
    octets? g (dotted v).toList = some (parts 256 4 v) := by
  have hdots : ∀ p ∈ (parts 256 4 v).map (Nat.toDigits 10), '.' ∉ p := by
    intro p hp hdot
    obtain ⟨n, _, rfl⟩ := List.mem_map.mp hp
    exact absurd (Text.isAsciiDigit_of_mem_toDigits hdot) (by decide)
  have hpieces : Text.pieces '.' (dotted v).toList = (parts 256 4 v).map (Nat.toDigits 10) := by
    rw [Text.pieces_eq_splitOn, toList_dotted]
    exact List.splitOn_intercalate '.' hdots (by simp [parts])
  rw [octets?_eq_some_iff, hpieces, List.map_map]
  refine ⟨length_parts 256 4 v, List.map_congr_left fun n hn => ?_⟩
  exact octet?_toDigits g (lt_of_mem_parts (by decide) hn)

/-! ### Groups -/

theorem isSome_hexValue?_of_group? {n : ℕ} (h : group? cs = some n) :
    ∀ c ∈ cs, (Text.hexValue? c).isSome = true := by
  rw [group?] at h
  split at h
  · exact Text.isSome_hexValue?_of_mem h
  · cases h

theorem group?_toDigits {n : ℕ} (h : n < 0x10000) : group? (Nat.toDigits 16 n) = some n := by
  have hlength : (Nat.toDigits 16 n).length ≤ 4 :=
    (Nat.length_toDigits_le_iff (by decide) (by decide)).mpr h
  rw [group?, if_pos hlength, Text.hex?_toDigits]

/-- What the pieces between colons are read as. -/
inductive Reads (g : Grammar) : List (List Char) → List ℕ → Prop where
  | nil : Reads g [] []
  | octets {p a b c d} (h : octets? g p = some [a, b, c, d]) :
      Reads g [p] [a * 256 + b, c * 256 + d]
  | cons {p ps n ns} (h : group? p = some n) (hrest : Reads g ps ns) : Reads g (p :: ps) (n :: ns)

theorem groups?_cons_of_ne_nil {p : List Char} {ps : List (List Char)} (h : ps ≠ []) :
    groups? g (p :: ps) = (group? p).bind fun n => (groups? g ps).map (n :: ·) := by
  obtain ⟨q, qs, rfl⟩ := List.exists_cons_of_ne_nil h
  rw [groups?]
  · cases group? p with
    | none => rfl
    | some n => cases groups? g (q :: qs) <;> rfl
  · exact nofun

theorem groups?_eq_some_iff {ps : List (List Char)} {ns : List ℕ} :
    groups? g ps = some ns ↔ Reads g ps ns := by
  constructor
  · intro h
    induction ps generalizing ns with
    | nil =>
      obtain rfl := Option.some.inj h
      exact .nil
    | cons p rest ih =>
      by_cases hrest : rest = []
      · subst hrest
        rw [groups?] at h
        split at h
        · rename_i a b c d hoctets
          obtain rfl := Option.some.inj h
          exact .octets hoctets
        · obtain ⟨n, hn, rfl⟩ := Option.map_eq_some_iff.mp h
          exact .cons hn .nil
      · rw [groups?_cons_of_ne_nil hrest] at h
        obtain ⟨n, hn, hmore⟩ := Option.bind_eq_some_iff.mp h
        obtain ⟨ns, hns, rfl⟩ := Option.map_eq_some_iff.mp hmore
        exact .cons hn (ih hns)
  · intro h
    induction h with
    | nil => rfl
    | octets h => rw [groups?, h]
    | @cons p ps n ns hn hrest ih =>
      by_cases hps : ps = []
      · subst hps
        cases hrest
        have hdot : '.' ∉ p := by
          intro hdot
          exact absurd (isSome_hexValue?_of_group? hn _ hdot) (by decide)
        rw [groups?, octets?_eq_none hdot, hn]
        rfl
      · rw [groups?_cons_of_ne_nil hps, hn, ih]
        rfl

theorem reads_toDigits {ns : List ℕ} (h : ∀ n ∈ ns, n < 0x10000) :
    Reads g (ns.map (Nat.toDigits 16)) ns := by
  induction ns with
  | nil => exact .nil
  | cons n rest ih =>
    obtain ⟨hn, hrest⟩ := List.forall_mem_cons.mp h
    exact .cons (group?_toDigits hn) (ih hrest)

/-! ### The double colon -/

theorem cutGap_cons_of_ne {c : Char} (h : c ≠ ':') (rest : List Char) :
    cutGap (c :: rest) = (cutGap rest).map fun cut => (c :: cut.1, cut.2) := by
  rw [cutGap]
  exact fun _ hc _ => h hc

theorem cutGap_colon {rest : List Char} (h : ∀ c ∈ rest.head?, c ≠ ':') :
    cutGap (':' :: rest) = (cutGap rest).map fun cut => (':' :: cut.1, cut.2) := by
  cases rest with
  | nil => rfl
  | cons c rest =>
    have hc : c ≠ ':' := h c rfl
    rw [cutGap]
    exact fun _ _ heq => hc (List.cons.inj heq).1

theorem cutGap_append {p : List Char} (h : ':' ∉ p) (rest : List Char) :
    cutGap (p ++ rest) = (cutGap rest).map fun cut => (p ++ cut.1, cut.2) := by
  induction p with
  | nil => simp
  | cons c p ih =>
    obtain ⟨hc, hp⟩ := not_or.mp (mt List.mem_cons.mpr h)
    rw [List.cons_append, cutGap_cons_of_ne (Ne.symm hc), ih hp, Option.map_map]
    rfl

theorem head?_intercalate (sep : List Char) (d : Char) (ds : List Char) (ps : List (List Char)) :
    (sep.intercalate ((d :: ds) :: ps)).head? = some d := by
  cases ps with
  | nil => rw [List.intercalate_singleton, List.head?_cons]
  | cons p ps => rw [List.intercalate_cons_cons, List.append_assoc, List.cons_append, List.head?_cons]

/-- There is no double colon among pieces that are joined by single ones. -/
theorem cutGap_intercalate {ps : List (List Char)} (h : ∀ p ∈ ps, p ≠ [] ∧ ':' ∉ p)
    (rest : List Char) :
    cutGap ([':'].intercalate ps ++ rest) =
      (cutGap rest).map fun cut => ([':'].intercalate ps ++ cut.1, cut.2) := by
  induction ps with
  | nil => simp
  | cons p ps ih =>
    obtain ⟨⟨_, hp⟩, hps⟩ := List.forall_mem_cons.mp h
    cases ps with
    | nil =>
      rw [List.intercalate_singleton]
      exact cutGap_append hp rest
    | cons q qs =>
      -- The colon before `q` is a single one, because `q` is not empty.
      have hhead : ∀ c ∈ ([':'].intercalate (q :: qs) ++ rest).head?, c ≠ ':' := by
        obtain ⟨hq, hcolon⟩ := hps q List.mem_cons_self
        obtain ⟨d, ds, rfl⟩ := List.exists_cons_of_ne_nil hq
        rw [List.head?_append, head?_intercalate]
        rintro c ⟨⟩ rfl
        exact hcolon List.mem_cons_self
      rw [List.intercalate_cons_cons, List.append_assoc, List.append_assoc, cutGap_append hp,
        List.singleton_append, cutGap_colon hhead, ih hps, Option.map_map, Option.map_map]
      simp [Function.comp_def]

theorem eq_of_cutGap {before after : List Char} (h : cutGap cs = some (before, after)) :
    cs = before ++ ':' :: ':' :: after := by
  fun_induction cutGap cs generalizing before with
  | case1 => cases h
  | case2 rest =>
    obtain ⟨rfl, rfl⟩ := Prod.mk.inj (Option.some.inj h)
    rfl
  | case3 c rest _ ih =>
    obtain ⟨⟨front, back⟩, hcut, heq⟩ := Option.map_eq_some_iff.mp h
    obtain ⟨rfl, rfl⟩ := Prod.mk.inj heq
    rw [ih hcut, List.cons_append]

/-! ### The texts of groups -/

theorem toList_groupsText (ns : List ℕ) :
    (groupsText ns).toList = [':'].intercalate (ns.map (Nat.toDigits 16)) := by
  rw [groupsText, String.toList_intercalate, List.map_map]
  congr 1
  refine List.map_congr_left fun n _ => ?_
  exact String.toList_ofList

theorem notMem_toDigits {c : Char} (h : Text.hexValue? c = none) (n : ℕ) :
    c ∉ Nat.toDigits 16 n := by
  intro hc
  have hsome := Text.isSome_hexValue?_of_mem (Text.hex?_toDigits n) c hc
  rw [h] at hsome
  cases hsome

theorem ne_nil_and_notMem_of_groups {ns : List ℕ} :
    ∀ p ∈ ns.map (Nat.toDigits 16), p ≠ [] ∧ ':' ∉ p := by
  intro p hp
  obtain ⟨n, _, rfl⟩ := List.mem_map.mp hp
  exact ⟨Nat.toDigits_ne_nil, notMem_toDigits (by decide) n⟩

theorem cutGap_groupsText (ns : List ℕ) (rest : List Char) :
    cutGap ((groupsText ns).toList ++ rest) =
      (cutGap rest).map fun cut => ((groupsText ns).toList ++ cut.1, cut.2) := by
  rw [toList_groupsText]
  exact cutGap_intercalate ne_nil_and_notMem_of_groups rest

theorem pieces_groupsText {ns : List ℕ} (h : ns ≠ []) :
    Text.pieces ':' (groupsText ns).toList = ns.map (Nat.toDigits 16) := by
  rw [Text.pieces_eq_splitOn, toList_groupsText]
  refine List.splitOn_intercalate ':' (fun p hp => ?_) ?_
  · exact (ne_nil_and_notMem_of_groups p hp).2
  · exact mt List.map_eq_nil_iff.mp h

theorem dot_notMem_groupsText (ns : List ℕ) : '.' ∉ (groupsText ns).toList := by
  by_cases h : ns = []
  · subst h
    decide
  · intro hdot
    obtain ⟨p, hp, hc⟩ := Text.exists_mem_pieces hdot (by decide : '.' ≠ ':')
    rw [pieces_groupsText h] at hp
    obtain ⟨n, _, rfl⟩ := List.mem_map.mp hp
    exact notMem_toDigits (by decide) n hc

theorem sideOfGap?_groupsText {ns : List ℕ} (h : ∀ n ∈ ns, n < 0x10000) :
    sideOfGap? g (groupsText ns).toList = some ns := by
  by_cases hne : ns = []
  · subst hne
    rfl
  · have hpieces := pieces_groupsText hne
    have hempty : (groupsText ns).toList ≠ [] := by
      intro hnil
      rw [hnil] at hpieces
      obtain ⟨n, rest, rfl⟩ := List.exists_cons_of_ne_nil hne
      exact Nat.toDigits_ne_nil (List.cons.inj hpieces).1.symm
    rw [sideOfGap?, if_neg (mt List.isEmpty_iff.mp hempty), hpieces]
    exact groups?_eq_some_iff.mpr (reads_toDigits h)

/-! ### Runs of zeros -/

theorem take_leadingZeros (ns : List ℕ) :
    ns.take (leadingZeros ns) = List.replicate (leadingZeros ns) 0 := by
  have hfront : (ns.takeWhile (· == 0) ++ ns.dropWhile (· == 0)).take (leadingZeros ns) =
      ns.takeWhile (· == 0) := List.take_left
  have hzero : ∀ n ∈ ns.takeWhile (· == 0), n = 0 := by
    intro n hn
    exact eq_of_beq (List.mem_takeWhile_imp (p := (· == 0)) hn)
  rw [List.takeWhile_append_dropWhile] at hfront
  rw [hfront]
  exact List.eq_replicate_of_mem hzero

theorem leadingZeros_le (ns : List ℕ) : leadingZeros ns ≤ ns.length :=
  (List.takeWhile_sublist _).length_le

/-- A run of zeros in a row of groups. -/
structure ZeroRun (ns : List ℕ) (run : ℕ × ℕ) : Prop where
  within : run.1 + run.2 ≤ ns.length
  zeros : (ns.drop run.1).take run.2 = List.replicate run.2 0

theorem zeroRun_longestZeros (ns : List ℕ) : ZeroRun ns (longestZeros ns) := by
  -- That the run is the longest one plays no part in reading it back.
  refine List.foldlRecOn (motive := ZeroRun ns) _ _ ⟨Nat.zero_le _, rfl⟩ ?_
  intro best hbest i hi
  by_cases hlonger : best.2 < leadingZeros (ns.drop i)
  · have hlength := leadingZeros_le (ns.drop i)
    rw [List.length_drop] at hlength
    have hstart := List.mem_range.mp hi
    simp only [if_pos hlonger]
    exact ⟨by omega, take_leadingZeros _⟩
  · simp only [if_neg hlonger]
    exact hbest

theorem ZeroRun.split {ns : List ℕ} {run : ℕ × ℕ} (h : ZeroRun ns run) :
    ns.take run.1 ++ List.replicate run.2 0 ++ ns.drop (run.1 + run.2) = ns := by
  rw [← h.zeros, ← List.drop_drop, List.append_assoc, List.take_append_drop, List.take_append_drop]

/-! ### Eight groups -/

/-- What a whole text is read as: eight groups, or the groups on both sides of a double colon. -/
inductive Spells (g : Grammar) (cs : List Char) : List ℕ → Prop where
  | eight {ns} (hcut : cutGap cs = none) (hgroups : groups? g (Text.pieces ':' cs) = some ns)
      (hlength : ns.length = 8) : Spells g cs ns
  | gap {before after head tail} (hcut : cutGap cs = some (before, after))
      (hhead : headOfGap? g before = some head) (htail : sideOfGap? g after = some tail)
      (hshort : head.length < 8)
      (hroom : head.length + tail.length ≤ if g.emptyGap then 8 else 7) :
      Spells g cs (head ++ List.replicate (8 - (head.length + tail.length)) 0 ++ tail)

theorem allGroups?_eq_some_iff {ns : List ℕ} : allGroups? g cs = some ns ↔ Spells g cs ns := by
  constructor
  · intro h
    rw [allGroups?] at h
    split at h
    · rename_i hcut
      obtain ⟨ms, hgroups, hms⟩ := Option.bind_eq_some_iff.mp h
      obtain ⟨hlength, hsome⟩ := Option.ite_none_right_eq_some.mp hms
      obtain rfl := Option.some.inj hsome
      exact .eight hcut hgroups hlength
    · rename_i before after hcut
      obtain ⟨head, hhead, hmore⟩ := Option.bind_eq_some_iff.mp h
      obtain ⟨tail, htail, hroom⟩ := Option.bind_eq_some_iff.mp hmore
      obtain ⟨hfits, hsome⟩ := Option.ite_none_right_eq_some.mp hroom
      obtain rfl := Option.some.inj hsome
      rw [Bool.and_eq_true, decide_eq_true_eq, decide_eq_true_eq] at hfits
      exact .gap hcut hhead htail hfits.1 hfits.2
  · intro h
    cases h with
    | eight hcut hgroups hlength => simp [allGroups?, hcut, hgroups, hlength]
    | gap hcut hhead htail hshort hroom => simp [allGroups?, hcut, hhead, htail, hshort, hroom]

theorem parts_of_isMapped {v : ℕ} (h : isMapped (parts 0x10000 8 v) = true) :
    parts 0x10000 8 v = [0, 0, 0, 0, 0, 0xFFFF, v / 0x10000 % 0x10000, v % 0x10000] := by
  have hsplit : parts 0x10000 8 v = parts 0x10000 6 (v / 0x10000 / 0x10000) ++
      [v / 0x10000 % 0x10000, v % 0x10000] := by
    change parts 0x10000 6 (v / 0x10000 / 0x10000) ++ _ ++ _ = _
    rw [List.append_assoc]
    rfl
  have hsix : (parts 0x10000 8 v).take 6 = [0, 0, 0, 0, 0, 0xFFFF] := eq_of_beq h
  rw [hsplit, List.take_left' (length_parts _ _ _)] at hsix
  rw [hsplit, hsix]
  rfl

theorem allGroups?_groupsText {ns : List ℕ} (hlength : ns.length = 8)
    (h : ∀ n ∈ ns, n < 0x10000) : allGroups? g (groupsText ns).toList = some ns := by
  have hne : ns ≠ [] := by
    rintro rfl
    cases hlength
  have hgap : cutGap (groupsText ns).toList = none := by
    have hcut := cutGap_groupsText ns []
    rwa [List.append_nil] at hcut
  have hgroups : groups? g (Text.pieces ':' (groupsText ns).toList) = some ns := by
    rw [pieces_groupsText hne]
    exact groups?_eq_some_iff.mpr (reads_toDigits h)
  exact allGroups?_eq_some_iff.mpr (.eight hgap hgroups hlength)

theorem allGroups?_gap {head tail : List ℕ} {before after : List Char}
    (hcut : cutGap cs = some (before, after)) (hhead : headOfGap? g before = some head)
    (htail : sideOfGap? g after = some tail) (hroom : head.length + tail.length ≤ 7) :
    allGroups? g cs =
      some (head ++ List.replicate (8 - (head.length + tail.length)) 0 ++ tail) := by
  have hfits : head.length + tail.length ≤ if g.emptyGap then 8 else 7 := by
    split <;> omega
  exact allGroups?_eq_some_iff.mpr (.gap hcut hhead htail (by omega) hfits)

theorem allGroups?_zeros {ns : List ℕ} {run : ℕ × ℕ} (hlength : ns.length = 8)
    (h : ∀ n ∈ ns, n < 0x10000) (hrun : ZeroRun ns run) (hzero : 0 < run.2) :
    allGroups? g ((groupsText (ns.take run.1)).toList ++ ':' :: ':' ::
      (groupsText (ns.drop (run.1 + run.2))).toList) = some ns := by
  have hwithin := hrun.within
  have hcut := cutGap_groupsText (ns.take run.1) (':' :: ':' ::
    (groupsText (ns.drop (run.1 + run.2))).toList)
  rw [cutGap, Option.map_some, List.append_nil] at hcut
  have hhead : headOfGap? g (groupsText (ns.take run.1)).toList = some (ns.take run.1) := by
    have hdot := dot_notMem_groupsText (ns.take run.1)
    rw [headOfGap?, if_neg (by simpa using hdot)]
    exact sideOfGap?_groupsText fun n hn => h n (List.mem_of_mem_take hn)
  have htail : sideOfGap? g (groupsText (ns.drop (run.1 + run.2))).toList =
      some (ns.drop (run.1 + run.2)) :=
    sideOfGap?_groupsText fun n hn => h n (List.mem_of_mem_drop hn)
  have hsum : (ns.take run.1).length + (ns.drop (run.1 + run.2)).length = 8 - run.2 := by
    rw [List.length_take, List.length_drop]
    omega
  rw [allGroups?_gap hcut hhead htail (by omega), hsum, Nat.sub_sub_self (by omega), hrun.split]

theorem colon_notMem_dotted (v : ℕ) : ':' ∉ (dotted v).toList := by
  intro hc
  rcases isAsciiDigit_of_octets? (octets?_dotted strict v) ':' hc with h | h <;> cases h

/-- Four octets are read as the last two of the groups. -/
theorem sideOfGap?_mapped (g : Grammar) (v : ℕ) :
    sideOfGap? g ("ffff".toList ++ ':' :: (dotted v).toList) =
      some [0xFFFF, v / 0x10000 % 0x10000, v % 0x10000] := by
  have hfirst : group? "ffff".toList = some 0xFFFF := by decide
  have hoctets : octets? g (dotted v).toList = some [v / 256 / 256 / 256 % 256,
    v / 256 / 256 % 256, v / 256 % 256, v % 256] := octets?_dotted g v
  have hpair : ∀ u, u / 256 % 256 * 256 + u % 256 = u % 0x10000 := by
    intro u
    rw [Nat.add_comm, Nat.mul_comm]
    exact (Nat.mod_mul (a := 256) (b := 256)).symm
  have hreads : Reads g ["ffff".toList, (dotted v).toList]
      [0xFFFF, v / 0x10000 % 0x10000, v % 0x10000] := by
    rw [← hpair v, ← Nat.div_div_eq_div_mul v 256 256, ← hpair (v / 256 / 256)]
    exact .cons hfirst (.octets hoctets)
  have hpieces : Text.pieces ':' ("ffff".toList ++ ':' :: (dotted v).toList) =
      ["ffff".toList, (dotted v).toList] := by
    rw [Text.pieces_eq_splitOn, List.splitOn_append_cons_self,
      List.splitOn_eq_singleton (colon_notMem_dotted v)]
    rfl
  rw [sideOfGap?, if_neg (by simp), hpieces]
  exact groups?_eq_some_iff.mpr hreads

theorem allGroups?_mapped {v : ℕ} (h : isMapped (parts 0x10000 8 v) = true) :
    allGroups? g ("::ffff:" ++ dotted v).toList = some (parts 0x10000 8 v) := by
  have hcut : cutGap ("::ffff:" ++ dotted v).toList =
      some ([], "ffff".toList ++ ':' :: (dotted v).toList) := by
    rw [String.toList_append]
    rfl
  rw [allGroups?_gap hcut rfl (sideOfGap?_mapped g v) (Nat.le_of_ble_eq_true rfl),
    parts_of_isMapped h]
  rfl

theorem allGroups?_colons (g : Grammar) (v : ℕ) :
    allGroups? g (colons v).toList = some (parts 0x10000 8 v) := by
  have hlength := length_parts 0x10000 8 v
  have hsmall : ∀ n ∈ parts 0x10000 8 v, n < 0x10000 := fun _ => lt_of_mem_parts (by decide)
  rw [colons]
  by_cases hmapped : isMapped (parts 0x10000 8 v) = true
  · rw [if_pos hmapped]
    exact allGroups?_mapped hmapped
  · rw [if_neg hmapped]
    by_cases hzero : 2 ≤ (longestZeros (parts 0x10000 8 v)).2
    · have hrun := zeroRun_longestZeros (parts 0x10000 8 v)
      simp only [if_pos hzero, String.toList_append, List.append_assoc]
      exact allGroups?_zeros hlength hsmall hrun (by omega)
    · simp only [if_neg hzero]
      exact allGroups?_groupsText hlength hsmall

/-! ### The characters of what is read -/

/-- What addresses are written with. -/
def Plain (c : Char) : Prop := (Text.hexValue? c).isSome = true ∨ c = '.' ∨ c = ':'

theorem plain_of_octets? {ps : List ℕ} (h : octets? g cs = some ps) : ∀ c ∈ cs, Plain c := by
  intro c hc
  rcases isAsciiDigit_of_octets? h c hc with hdigit | hdot
  · refine .inl ?_
    rw [Text.hexValue?, if_pos hdigit]
    rfl
  · exact .inr (.inl hdot)

theorem Reads.plain {ps : List (List Char)} {ns : List ℕ} (h : Reads g ps ns) :
    ∀ p ∈ ps, ∀ c ∈ p, Plain c := by
  induction h with
  | nil => exact fun _ hp => absurd hp List.not_mem_nil
  | octets h => exact List.forall_mem_singleton.mpr (plain_of_octets? h)
  | cons h _ ih =>
    exact List.forall_mem_cons.mpr ⟨fun c hc => .inl (isSome_hexValue?_of_group? h c hc), ih⟩

theorem plain_of_groups? {ns : List ℕ} (h : groups? g (Text.pieces ':' cs) = some ns) :
    ∀ c ∈ cs, Plain c := by
  intro c hc
  by_cases hcolon : c = ':'
  · exact .inr (.inr hcolon)
  · obtain ⟨p, hp, hcp⟩ := Text.exists_mem_pieces hc hcolon
    exact (groups?_eq_some_iff.mp h).plain p hp c hcp

theorem plain_of_sideOfGap? {ns : List ℕ} (h : sideOfGap? g cs = some ns) : ∀ c ∈ cs, Plain c := by
  rw [sideOfGap?] at h
  split at h
  · rename_i hempty
    rw [List.isEmpty_iff.mp hempty]
    exact fun _ hc => absurd hc List.not_mem_nil
  · exact plain_of_groups? h

theorem sideOfGap?_of_headOfGap? {ns : List ℕ} (h : headOfGap? g cs = some ns) :
    sideOfGap? g cs = some ns := by
  rw [headOfGap?] at h
  split at h
  · cases h
  · exact h

theorem plain_of_allGroups? {ns : List ℕ} (h : allGroups? g cs = some ns) :
    ∀ c ∈ cs, Plain c := by
  cases allGroups?_eq_some_iff.mp h with
  | eight _ hgroups _ => exact plain_of_groups? hgroups
  | gap hcut hhead htail _ _ =>
    rw [eq_of_cutGap hcut]
    refine List.forall_mem_append.mpr ⟨plain_of_sideOfGap? (sideOfGap?_of_headOfGap? hhead), ?_⟩
    have hcolon : Plain ':' := .inr (.inr rfl)
    exact List.forall_mem_cons.mpr ⟨hcolon, List.forall_mem_cons.mpr ⟨hcolon,
      plain_of_sideOfGap? htail⟩⟩

theorem read?_eq_some_iff {a : Address} : read? g cs = some a ↔
    read4? g cs = some a ∨ read4? g cs = none ∧ read6? g cs = some a := by
  rw [read?, Option.or_eq_some_iff]

theorem plain_of_read? {a : Address} (h : read? g cs = some a) : ∀ c ∈ cs, Plain c := by
  rcases read?_eq_some_iff.mp h with h4 | ⟨_, h6⟩
  · obtain ⟨ps, hoctets, _⟩ := Option.bind_eq_some_iff.mp h4
    exact plain_of_octets? hoctets
  · obtain ⟨ns, hgroups, _⟩ := Option.bind_eq_some_iff.mp h6
    exact plain_of_allGroups? hgroups

/-- One piece is read as two groups at most. -/
theorem Reads.length_le {p : List Char} {ns : List ℕ} (h : Reads g [p] ns) : ns.length ≤ 2 := by
  cases h with
  | octets _ => exact Nat.le_refl _
  | cons _ hrest =>
    cases hrest
    exact Nat.le_succ _

theorem colon_mem_of_allGroups? {ns : List ℕ} (h : allGroups? g cs = some ns) : ':' ∈ cs := by
  cases allGroups?_eq_some_iff.mp h with
  | eight _ hgroups hlength =>
    by_contra hcolon
    rw [Text.pieces_eq_splitOn, List.splitOn_eq_singleton hcolon] at hgroups
    have htwo := (groups?_eq_some_iff.mp hgroups).length_le
    omega
  | gap hcut _ _ _ _ =>
    rw [eq_of_cutGap hcut]
    exact List.mem_append_right _ List.mem_cons_self

/-- No text is an address of both families. -/
theorem read4?_eq_none {ns : List ℕ} (g' : Grammar) (h : allGroups? g cs = some ns) :
    read4? g' cs = none := by
  have hnone : octets? g' cs = none := by
    by_contra hsome
    obtain ⟨ps, hps⟩ := Option.ne_none_iff_exists'.mp hsome
    rcases isAsciiDigit_of_octets? hps ':' (colon_mem_of_allGroups? h) with hc | hc <;> cases hc
  rw [read4?, hnone]
  rfl

/-! ### Reading what was written -/

theorem read?_text (g : Grammar) (a : Address) : read? g a.text.toList = some a := by
  obtain ⟨family, value, inRange⟩ := a
  cases family with
  | v4 =>
    have hvalue : ofParts 256 (parts 256 4 value) = value := ofParts_parts inRange
    have hread : read4? g (dotted value).toList = some ⟨.v4, value, inRange⟩ := by
      rw [read4?, octets?_dotted, Option.bind_eq_bind, Option.bind_some, hvalue, ofNat?,
        dif_pos inRange]
    exact read?_eq_some_iff.mpr (.inl hread)
  | v6 =>
    have hvalue : ofParts 0x10000 (parts 0x10000 8 value) = value := ofParts_parts inRange
    have hgroups := allGroups?_colons g value
    have hread : read6? g (colons value).toList = some ⟨.v6, value, inRange⟩ := by
      rw [read6?, hgroups, Option.bind_eq_bind, Option.bind_some, hvalue, ofNat?, dif_pos inRange]
    exact read?_eq_some_iff.mpr (.inr ⟨read4?_eq_none g hgroups, hread⟩)

/-! ### The strict grammar -/

theorem octet?_of_strict {n : ℕ} (h : octet? strict cs = some n) : octet? g cs = some n := by
  obtain ⟨hvalue, hlength, hsmall, hzeros⟩ := octet?_eq_some_iff.mp h
  have hzeros' := hzeros.resolve_left (by decide)
  exact octet?_eq_some_iff.mpr ⟨hvalue, hlength, hsmall, .inr hzeros'⟩

theorem octets?_of_strict {ps : List ℕ} (h : octets? strict cs = some ps) :
    octets? g cs = some ps := by
  obtain ⟨hlength, hmap⟩ := octets?_eq_some_iff.mp h
  refine octets?_eq_some_iff.mpr ⟨hlength, ?_⟩
  rw [← hmap]
  refine List.map_congr_left fun p hp => ?_
  obtain ⟨n, hn⟩ := exists_octet_of_mem h hp
  rw [hn, octet?_of_strict hn]

theorem Reads.of_strict {ps : List (List Char)} {ns : List ℕ} (h : Reads strict ps ns) :
    Reads g ps ns := by
  induction h with
  | nil => exact .nil
  | octets h => exact .octets (octets?_of_strict h)
  | cons h _ ih => exact .cons h ih

theorem groups?_of_strict {ps : List (List Char)} {ns : List ℕ} (h : groups? strict ps = some ns) :
    groups? g ps = some ns :=
  groups?_eq_some_iff.mpr (groups?_eq_some_iff.mp h).of_strict

theorem sideOfGap?_of_strict {ns : List ℕ} (h : sideOfGap? strict cs = some ns) :
    sideOfGap? g cs = some ns := by
  rw [sideOfGap?] at h ⊢
  split
  · rwa [if_pos ‹_›] at h
  · rw [if_neg ‹_›] at h
    exact groups?_of_strict h

theorem headOfGap?_of_strict {ns : List ℕ} (h : headOfGap? strict cs = some ns) :
    headOfGap? g cs = some ns := by
  rw [headOfGap?] at h ⊢
  split
  · rwa [if_pos ‹_›] at h
  · rw [if_neg ‹_›] at h
    exact sideOfGap?_of_strict h

theorem allGroups?_of_strict {ns : List ℕ} (h : allGroups? strict cs = some ns) :
    allGroups? g cs = some ns := by
  rw [allGroups?_eq_some_iff] at h ⊢
  cases h with
  | eight hcut hgroups hlength => exact .eight hcut (groups?_of_strict hgroups) hlength
  | gap hcut hhead htail hshort hroom =>
    have hseven : 7 ≤ if g.emptyGap then 8 else 7 := by split <;> omega
    exact .gap hcut (headOfGap?_of_strict hhead) (sideOfGap?_of_strict htail) hshort
      (Nat.le_trans hroom hseven)

/-- An address that is read by the strict grammar is read by any other as the same one. -/
theorem read?_of_strict {a : Address} (h : read? strict cs = some a) : read? g cs = some a := by
  rcases read?_eq_some_iff.mp h with h4 | ⟨_, h6⟩
  · obtain ⟨ps, hoctets, haddress⟩ := Option.bind_eq_some_iff.mp h4
    refine read?_eq_some_iff.mpr (.inl ?_)
    exact Option.bind_eq_some_iff.mpr ⟨ps, octets?_of_strict hoctets, haddress⟩
  · obtain ⟨ns, hgroups, haddress⟩ := Option.bind_eq_some_iff.mp h6
    refine read?_eq_some_iff.mpr (.inr ⟨read4?_eq_none g hgroups, ?_⟩)
    exact Option.bind_eq_some_iff.mpr ⟨ns, allGroups?_of_strict hgroups, haddress⟩

end Address

end PolicyReach
