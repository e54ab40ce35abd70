import Mathlib.Data.List.TakeDrop
import PolicyReach.Json.Print
import PolicyReach.Json.Read
import PolicyReach.Proofs.Digits

/-!
# Reading what was written

The text that is written for a value is read as that value, whatever follows it. Numbers with a
fraction or an exponent are left out: which of them can be read is a matter of double arithmetic.
-/
namespace PolicyReach

/-! ### Decimal digits -/

namespace Text

theorem le_ofDigitChars (ds : List Char) (n : Nat) : n ≤ Nat.ofDigitChars 10 ds n := by
  induction ds generalizing n with
  | nil => exact Nat.le_refl n
  | cons d rest ih =>
    have h := ih (10 * n + (d.toNat - '0'.toNat))
    rw [Nat.ofDigitChars_cons]
    omega

end Text

namespace Json

/-! ### Numbers -/

theorem pushDigits_eq {ds : List Char} {n : Nat}
    (h : Nat.ofDigitChars 10 ds n < UInt64.size) :
    pushDigits n ds = (Nat.ofDigitChars 10 ds n, []) := by
  induction ds generalizing n with
  | nil => rfl
  | cons d rest ih =>
    have hnext : n * 10 + Text.decimalValue [d] = 10 * n + (d.toNat - '0'.toNat) := by
      simp [Text.decimalValue, Nat.mul_comm]
    rw [Nat.ofDigitChars_cons, ← hnext] at h
    have hroom := Nat.lt_of_le_of_lt (Text.le_ofDigitChars rest _) h
    rw [pushDigits, if_pos hroom, ih h, Nat.ofDigitChars_cons, hnext]

/-- What may follow a number without being read as a part of it. -/
def Ends (cs : List Char) : Prop :=
  ∀ c ∈ cs.head?, Text.isAsciiDigit c = false ∧ c ≠ '.' ∧ c ≠ 'e' ∧ c ≠ 'E'

theorem ends_nil : Ends [] := by simp [Ends]

theorem span_digits {ds rest : List Char} (hds : ∀ d ∈ ds, Text.isAsciiDigit d = true)
    (hrest : Ends rest) : (ds ++ rest).span Text.isAsciiDigit = (ds, rest) := by
  have hstop : rest.takeWhile Text.isAsciiDigit = [] ∧ rest.dropWhile Text.isAsciiDigit = rest := by
    cases rest with
    | nil => simp
    | cons c rest => simp [(hrest c rfl).1]
  rw [List.span_eq_takeWhile_dropWhile, List.takeWhile_append_of_pos hds,
    List.dropWhile_append_of_pos hds, hstop.1, hstop.2, List.append_nil]

theorem readFraction_of_ends {rest : List Char} (h : Ends rest) :
    readFraction rest = some ([], rest) := by
  cases rest with
  | nil => rfl
  | cons c rest =>
    rw [readFraction]
    rintro tail heq
    exact (h c rfl).2.1 (List.cons.inj heq).1

theorem readExponent_of_ends {rest : List Char} (h : Ends rest) :
    readExponent rest = some (none, rest) := by
  cases rest with
  | nil => rfl
  | cons c rest =>
    obtain ⟨-, -, he, hE⟩ := h c rfl
    simp [readExponent, he, hE]

/-- The integers that fit into 64 bits, with or without a sign. -/
def Holds64 (i : Int) : Prop := -0x8000000000000000 ≤ i ∧ i < 0x10000000000000000

theorem readNumber_digits (negative : Bool) {n : Nat} {rest : List Char} (hrest : Ends rest) :
    readNumber ((if negative then ['-'] else []) ++ (Nat.toDigits 10 n ++ rest)) =
      some (ofNumber negative (Nat.toDigits 10 n) [] none, rest) := by
  have hspan : (Nat.toDigits 10 n ++ rest).span Text.isAsciiDigit = (Nat.toDigits 10 n, rest) :=
    span_digits (fun _ => Text.isAsciiDigit_of_mem_toDigits) hrest
  obtain ⟨d, more, hds⟩ := List.exists_cons_of_ne_nil (Nat.toDigits_ne_nil (n := n) (b := 10))
  have hd : Text.isAsciiDigit d = true :=
    Text.isAsciiDigit_of_mem_toDigits (hds ▸ List.mem_cons_self)
  have hzero : (d = '0' && !more.isEmpty) = false := by
    rw [Bool.and_eq_false_imp, decide_eq_true_iff]
    rintro rfl
    simp [Text.tail_toDigits_of_head_zero hds]
  rw [hds] at hspan ⊢
  have hminus : d ≠ '-' := by rintro rfl; cases hd
  have hpart : readNumber ((if negative then ['-'] else []) ++ (d :: more ++ rest)) =
      (readFraction rest).bind fun f => (readExponent f.2).bind fun e =>
        some (ofNumber negative (d :: more) f.1 e.1, e.2) := by
    cases negative with
    | true =>
      simp only [if_true, List.singleton_append, readNumber, hspan, hzero]
      rfl
    | false =>
      simp only [Bool.false_eq_true, if_false, List.nil_append]
      rw [readNumber]
      · simp only [hspan, hzero]
        rfl
      · exact fun _ heq => hminus (List.cons.inj heq).1
  rw [hpart, readFraction_of_ends hrest, Option.bind_some, readExponent_of_ends hrest,
    Option.bind_some]

theorem toList_toString_int (i : Int) :
    (toString i).toList = (if i < 0 then ['-'] else []) ++ Nat.toDigits 10 i.natAbs := by
  cases i with
  | ofNat n => simp [toString, Int.repr, Nat.repr_eq_ofList_toDigits]
  | negSucc n => simp [toString, Int.repr, Nat.repr_eq_ofList_toDigits, Int.negSucc_lt_zero]

theorem ofNumber_toDigits {i : Int} (h : Holds64 i) :
    ofNumber (i < 0) (Nat.toDigits 10 i.natAbs) [] none = .int i := by
  obtain ⟨hlow, hhigh⟩ := h
  have hvalue : Nat.ofDigitChars 10 (Nat.toDigits 10 i.natAbs) 0 = i.natAbs :=
    Nat.ofDigitChars_toDigits (by decide) (by decide)
  have hpush : pushDigits 0 (Nat.toDigits 10 i.natAbs) = (i.natAbs, []) := by
    rw [pushDigits_eq (by rw [hvalue, UInt64.size]; omega), hvalue]
  rw [ofNumber, hpush]
  simp only [List.isEmpty_nil, Option.isNone_none, Bool.and_self, if_true, Bool.not_true,
    Bool.false_eq_true, if_false]
  by_cases hneg : i < 0
  · have hfits : (decide (i.natAbs ≠ 0) && decide (2 * i.natAbs ≤ UInt64.size)) = true := by
      simp only [UInt64.size, Bool.and_eq_true, decide_eq_true_eq]
      omega
    rw [decide_eq_true hneg, hfits]
    simp only [Bool.not_true, Bool.false_eq_true, if_false, if_true, Json.int.injEq]
    omega
  · rw [decide_eq_false hneg]
    simp only [Bool.not_false, if_true, Json.int.injEq]
    omega

theorem readNumber_toString {i : Int} {rest : List Char} (h : Holds64 i) (hrest : Ends rest) :
    readNumber ((toString i).toList ++ rest) = some (.int i, rest) := by
  have hread := readNumber_digits (i < 0) (n := i.natAbs) hrest
  rw [ofNumber_toDigits h] at hread
  rw [toList_toString_int, List.append_assoc]
  simpa using hread

/-! ### Strings -/

theorem hexUnit?_hexByte :
    ∀ n < 0x20,
      hexUnit? '0' '0' (Nat.digitChar (n / 16 % 16)) (Nat.digitChar (n % 16)) = some n := by
  decide

theorem readUnits_escapeChar (c : Char) (rest : List Char) :
    readUnits (escapeChar c ++ rest) = (readUnits rest).map fun r => (c.toNat :: r.1, r.2) := by
  by_cases hshort : c ∈ ['"', '\\', '\n', '\r', '\t']
  · simp only [List.mem_cons, List.not_mem_nil, or_false] at hshort
    rcases hshort with rfl | rfl | rfl | rfl | rfl <;>
    · change ((readUnits rest).bind fun r => some (_, r.2)) = _
      cases readUnits rest <;> rfl
  · simp only [List.mem_cons, List.not_mem_nil, or_false, not_or] at hshort
    obtain ⟨hquote, hslash, hn, hr, ht⟩ := hshort
    rw [escapeChar]
    · split
      · next hlow =>
        simp only [hexByte, List.cons_append, List.nil_append, readUnits,
          hexUnit?_hexByte c.toNat hlow]
        cases readUnits rest <;> rfl
      · next hhigh =>
        rw [List.singleton_append, readUnits]
        · simp only [hhigh, hslash, decide_false, Bool.or_self, Bool.false_eq_true, if_false]
          cases readUnits rest <;> rfl
        all_goals grind
    all_goals assumption

theorem readUnits_flatMap (cs rest : List Char) :
    readUnits (cs.flatMap escapeChar ++ '"' :: rest) = some (cs.map Char.toNat, rest) := by
  induction cs with
  | nil => simp [readUnits]
  | cons c cs ih =>
    rw [List.flatMap_cons, List.append_assoc, readUnits_escapeChar, ih]
    rfl

/-- No character is half of a surrogate pair. -/
theorem not_isHalf (c : Char) : isHighHalf c.toNat = false ∧ isLowHalf c.toNat = false := by
  have h := c.valid
  simp only [UInt32.isValidChar, Nat.isValidChar] at h
  change c.toNat < 55296 ∨ 57343 < c.toNat ∧ c.toNat < 1114112 at h
  simp only [isHighHalf, isLowHalf, Bool.and_eq_false_imp, decide_eq_true_eq,
    decide_eq_false_iff_not]
  omega

theorem joinUnits_map (cs : List Char) : joinUnits (cs.map Char.toNat) = some cs := by
  match cs with
  | [] => rfl
  | [c] => simp [joinUnits, not_isHalf c, Char.ofNat_toNat]
  | c :: d :: rest =>
    have ih := joinUnits_map (d :: rest)
    rw [List.map_cons] at ih
    simp only [List.map_cons, joinUnits, not_isHalf c, Bool.false_eq_true, if_false, ih,
      Option.map_some, Char.ofNat_toNat]

/-- What stands after the opening quote of a written string is read as that string. -/
theorem readString_writeString (s : String) (rest : List Char) :
    ∃ cs, (writeString s).toList ++ rest = '"' :: cs ∧ readString cs = some (some s, rest) := by
  refine ⟨s.toList.flatMap escapeChar ++ '"' :: rest, by simp [writeString], ?_⟩
  simp [readString, readUnits_flatMap, joinUnits_map]

/-! ### Values -/

/-- Every item and every member is smaller than what it stands in. -/
@[elab_as_elim]
theorem nested {motive : Json → Prop} (null : motive .null) (bool : ∀ b, motive (.bool b))
    (int : ∀ i, motive (.int i)) (decimal : ∀ n s e, motive (.decimal n s e))
    (str : ∀ s, motive (.str s)) (arr : ∀ items, (∀ v ∈ items, motive v) → motive (.arr items))
    (obj : ∀ members, (∀ m ∈ members, motive m.2) → motive (.obj members))
    (unreadable : motive .unreadable) (v : Json) : motive v := by
  match v with
  | .null => exact null
  | .bool b => exact bool b
  | .int i => exact int i
  | .decimal n s e => exact decimal n s e
  | .str s => exact str s
  | .arr items =>
    exact arr items fun v hv =>
      nested null bool int decimal str arr obj unreadable v
  | .obj members =>
    exact obj members fun m hm =>
      nested null bool int decimal str arr obj unreadable m.2
  | .unreadable => exact unreadable
termination_by sizeOf v
decreasing_by
  · have := List.sizeOf_lt_of_mem hv
    simp only [Json.arr.sizeOf_spec]
    omega
  · have := List.sizeOf_lt_of_mem hm
    have : sizeOf m = 1 + sizeOf m.1 + sizeOf m.2 := by cases m; rfl
    simp only [Json.obj.sizeOf_spec]
    omega

mutual

/-- No number is beyond the integers of 64 bits and every part can be read. -/
def plain : Json → Bool
  | .arr items => plainItems items
  | .obj members => plainMembers members
  | .int i => -0x8000000000000000 ≤ i && i < 0x10000000000000000
  | .decimal .. => false
  | .unreadable => false
  | _ => true

def plainItems : List Json → Bool
  | [] => true
  | v :: rest => plain v && plainItems rest

def plainMembers : List (String × Json) → Bool
  | [] => true
  | m :: rest => plain m.2 && plainMembers rest

end

theorem plainItems_iff {items : List Json} : plainItems items ↔ ∀ v ∈ items, plain v := by
  induction items with
  | nil => simp [plainItems]
  | cons v rest ih => simp [plainItems, ih]

theorem plainMembers_iff {members : List (String × Json)} :
    plainMembers members ↔ ∀ m ∈ members, plain m.2 := by
  induction members with
  | nil => simp [plainMembers]
  | cons m rest ih => simp only [plainMembers, Bool.and_eq_true, ih, List.forall_mem_cons]

theorem readableItems_iff {items : List Json} :
    readableItems items ↔ ∀ v ∈ items, readable v := by
  induction items with
  | nil => simp [readableItems]
  | cons v rest ih => simp [readableItems, ih]

theorem readableMembers_iff {members : List (String × Json)} :
    readableMembers members ↔ ∀ m ∈ members, readable m.2 := by
  induction members with
  | nil => simp [readableMembers]
  | cons m rest ih => simp only [readableMembers, Bool.and_eq_true, ih, List.forall_mem_cons]

theorem readable_of_plain (v : Json) (h : plain v) : readable v := by
  induction v using nested with
  | arr items ih =>
    exact readableItems_iff.mpr fun w hw => ih w hw (plainItems_iff.mp h w hw)
  | obj members ih =>
    exact readableMembers_iff.mpr fun m hm => ih m hm (plainMembers_iff.mp h m hm)
  | unreadable => cases h
  | _ => rfl

theorem skipBlanks_cons {c : Char} {cs : List Char} (h : c ∉ [' ', '\t', '\n', '\r']) :
    skipBlanks (c :: cs) = c :: cs := by
  simp only [List.mem_cons, List.not_mem_nil, or_false, not_or] at h
  obtain ⟨hspace, htab, hline, hreturn⟩ := h
  simp [skipBlanks, List.dropWhile, hspace, htab, hline, hreturn]

/-- With enough fuel the text of the value is read as the value, whatever follows. -/
def ReadsBack (v : Json) : Prop :=
  ∀ (fuel : Nat) (rest : List Char), (compact v).toList.length < fuel → Ends rest →
    readValue fuel ((compact v).toList ++ rest) = some (v, rest)

theorem ends_cons (c : Char) (cs : List Char) (h : c ∈ [',', ']', '\x7d']) : Ends (c :: cs) := by
  simp only [List.mem_cons, List.not_mem_nil, or_false] at h
  simp only [Ends, List.head?_cons, Option.mem_some_iff, forall_eq']
  rcases h with rfl | rfl | rfl <;> decide

/-- The items of an array are read one after another up to its end. -/
theorem readItems_compact {v : Json} {vs : List Json} (hall : ∀ w ∈ v :: vs, ReadsBack w)
    (fuel : Nat) (rest : List Char)
    (hfuel : (compact v ++ compactItems vs).toList.length + 1 < fuel) :
    readItems fuel ((compact v ++ compactItems vs).toList ++ ']' :: rest) =
      some (v :: vs, rest) := by
  induction vs generalizing v fuel with
  | nil =>
    obtain ⟨fuel, rfl⟩ := Nat.exists_eq_succ_of_ne_zero (Nat.ne_zero_of_lt hfuel)
    rw [compactItems, String.append_empty] at hfuel ⊢
    have hread := hall v List.mem_cons_self fuel _ (by omega) (ends_cons ']' rest (by decide))
    rw [readItems, hread]
    simp [skipBlanks_cons]
  | cons w ws ih =>
    obtain ⟨fuel, rfl⟩ := Nat.exists_eq_succ_of_ne_zero (Nat.ne_zero_of_lt hfuel)
    have htext : (compact v ++ compactItems (w :: ws)).toList =
        (compact v).toList ++ ',' :: (compact w ++ compactItems ws).toList := by
      simp [compactItems]
    rw [htext, List.length_append, List.length_cons] at hfuel
    have hread := hall v List.mem_cons_self fuel _ (by omega)
      (ends_cons ',' ((compact w ++ compactItems ws).toList ++ ']' :: rest) (by decide))
    have hmore := ih (fun u hu => hall u (List.mem_cons_of_mem v hu)) fuel (by omega)
    rw [htext, List.append_assoc, List.cons_append]
    generalize (compact w ++ compactItems ws).toList ++ ']' :: rest = tail at hread hmore
    simp [readItems, hread, skipBlanks_cons, hmore]

theorem readName_writeString (s : String) (rest : List Char) :
    readName ((writeString s).toList ++ ':' :: rest) = some (some s, rest) := by
  obtain ⟨cs, htext, hread⟩ := readString_writeString s (':' :: rest)
  rw [htext]
  simp [readName, skipBlanks_cons, hread]

/-- The text of an object without its braces. -/
def membersText (m : String × Json) (ms : List (String × Json)) : List Char :=
  (writeString m.1 ++ ":" ++ compact m.2 ++ compactMembers ms).toList

theorem readMembers_compact {m : String × Json} {ms : List (String × Json)}
    (hall : ∀ n ∈ m :: ms, ReadsBack n.2) (fuel : Nat) (rest : List Char)
    (hfuel : (membersText m ms).length + 1 < fuel) :
    readMembers fuel (membersText m ms ++ '\x7d' :: rest) =
      some ((m :: ms).map fun n => (some n.1, n.2), rest) := by
  induction ms generalizing m fuel with
  | nil =>
    obtain ⟨fuel, rfl⟩ := Nat.exists_eq_succ_of_ne_zero (Nat.ne_zero_of_lt hfuel)
    have htext : membersText m [] =
        (writeString m.1).toList ++ ':' :: (compact m.2).toList := by
      simp [membersText, compactMembers]
    rw [htext, List.length_append, List.length_cons] at hfuel
    have hread := hall m List.mem_cons_self fuel _ (by omega) (ends_cons '\x7d' rest (by decide))
    rw [htext, List.append_assoc, List.cons_append]
    simp [readMembers, readName_writeString, hread, skipBlanks_cons]
  | cons n ns ih =>
    obtain ⟨fuel, rfl⟩ := Nat.exists_eq_succ_of_ne_zero (Nat.ne_zero_of_lt hfuel)
    have htext : membersText m (n :: ns) =
        (writeString m.1).toList ++ ':' :: ((compact m.2).toList ++ ',' :: membersText n ns) := by
      simp [membersText, compactMembers]
    rw [htext, List.length_append, List.length_cons, List.length_append, List.length_cons] at hfuel
    have hread := hall m List.mem_cons_self fuel _ (by omega)
      (ends_cons ',' (membersText n ns ++ '\x7d' :: rest) (by decide))
    have hmore := ih (fun u hu => hall u (List.mem_cons_of_mem m hu)) fuel (by omega)
    rw [htext, List.append_assoc, List.cons_append, List.append_assoc, List.cons_append]
    generalize membersText n ns ++ '\x7d' :: rest = tail at hread hmore
    simp [readMembers, readName_writeString, hread, skipBlanks_cons, hmore]

theorem toString_int_head (i : Int) :
    ∃ c cs, (toString i).toList = c :: cs ∧ (c = '-' ∨ Text.isAsciiDigit c = true) := by
  rw [toList_toString_int]
  split
  · exact ⟨'-', _, rfl, .inl rfl⟩
  · obtain ⟨d, ds, hds⟩ :=
      List.exists_cons_of_ne_nil (Nat.toDigits_ne_nil (n := i.natAbs) (b := 10))
    have hd : d ∈ Nat.toDigits 10 i.natAbs := hds ▸ List.mem_cons_self
    exact ⟨d, ds, hds, .inr (Text.isAsciiDigit_of_mem_toDigits hd)⟩

theorem not_mem_of_number {c : Char} {cs : List Char} (h : c = '-' ∨ Text.isAsciiDigit c = true)
    (hcs : ∀ d ∈ cs, d ≠ '-' ∧ Text.isAsciiDigit d = false) : c ∉ cs := by
  intro hmem
  obtain ⟨hne, hno⟩ := hcs c hmem
  rcases h with rfl | h
  · exact hne rfl
  · simp [hno] at h

theorem readValue_number {c : Char} {cs : List Char} {fuel : Nat}
    (h : c = '-' ∨ Text.isAsciiDigit c = true) :
    readValue (fuel + 1) (c :: cs) = readNumber (c :: cs) := by
  have hother : c ∉ [' ', '\t', '\n', '\r', 'n', 't', 'f', '"', '[', '\x7b'] :=
    not_mem_of_number h (by simp [Text.isAsciiDigit])
  simp only [List.mem_cons, List.not_mem_nil, or_false, not_or] at hother
  obtain ⟨hspace, htab, hline, hreturn, hn, ht, hf, hquote, hopen, hbrace⟩ := hother
  rw [readValue, skipBlanks_cons (by simp [hspace, htab, hline, hreturn])]
  split <;> simp_all

/-- The text of a value begins with a character that is no blank and does not end an array. -/
theorem compact_head {v : Json} (h : plain v) :
    ∃ c cs, (compact v).toList = c :: cs ∧ c ∉ [' ', '\t', '\n', '\r', ']'] := by
  match v with
  | .null => exact ⟨'n', _, rfl, by decide⟩
  | .bool true => exact ⟨'t', _, rfl, by decide⟩
  | .bool false => exact ⟨'f', _, rfl, by decide⟩
  | .int i =>
    obtain ⟨c, cs, htext, hc⟩ := toString_int_head i
    exact ⟨c, cs, by simpa [compact, writeLeaf] using htext,
      not_mem_of_number hc (by simp [Text.isAsciiDigit])⟩
  | .str s =>
    obtain ⟨cs, htext, _⟩ := readString_writeString s []
    exact ⟨'"', cs, by simpa [compact, writeLeaf] using htext, by decide⟩
  | .arr [] => exact ⟨'[', _, rfl, by decide⟩
  | .arr (v :: vs) => exact ⟨'[', _, by simp [compact]; rfl, by decide⟩
  | .obj [] => exact ⟨'\x7b', _, rfl, by decide⟩
  | .obj (m :: ms) => exact ⟨'\x7b', _, by simp [compact]; rfl, by decide⟩

theorem ofMembers_map (members : List (String × Json)) :
    ofMembers (members.map fun m => (some m.1, m.2)) = .obj members := by
  have h : (members.map fun m => (some m.1, m.2)).mapM (fun m => m.1.map (·, m.2)) =
      some members := by
    induction members with
    | nil => rfl
    | cons m rest ih => simp [ih]
  rw [ofMembers, h]

theorem readsBack_null : ReadsBack .null := by
  intro fuel rest hfuel _
  obtain ⟨fuel, rfl⟩ := Nat.exists_eq_succ_of_ne_zero (Nat.ne_zero_of_lt hfuel)
  rfl

theorem readsBack_bool (b : Bool) : ReadsBack (.bool b) := by
  intro fuel rest hfuel _
  obtain ⟨fuel, rfl⟩ := Nat.exists_eq_succ_of_ne_zero (Nat.ne_zero_of_lt hfuel)
  cases b <;> rfl

theorem readsBack_int {i : Int} (h : Holds64 i) : ReadsBack (.int i) := by
  intro fuel rest hfuel hrest
  obtain ⟨fuel, rfl⟩ := Nat.exists_eq_succ_of_ne_zero (Nat.ne_zero_of_lt hfuel)
  obtain ⟨c, cs, htext, hc⟩ := toString_int_head i
  have hread := readNumber_toString h hrest
  change readValue (fuel + 1) ((toString i).toList ++ rest) = _
  rw [htext, List.cons_append] at hread ⊢
  rw [readValue_number hc, hread]

theorem readsBack_str (s : String) : ReadsBack (.str s) := by
  intro fuel rest hfuel _
  obtain ⟨fuel, rfl⟩ := Nat.exists_eq_succ_of_ne_zero (Nat.ne_zero_of_lt hfuel)
  obtain ⟨cs, htext, hread⟩ := readString_writeString s rest
  change readValue (fuel + 1) ((writeString s).toList ++ rest) = _
  rw [htext, readValue, skipBlanks_cons (by decide)]
  simp [hread]

theorem readsBack_arr {items : List Json} (hplain : ∀ w ∈ items, plain w)
    (hall : ∀ w ∈ items, ReadsBack w) : ReadsBack (.arr items) := by
  intro fuel rest hfuel _
  obtain ⟨fuel, rfl⟩ := Nat.exists_eq_succ_of_ne_zero (Nat.ne_zero_of_lt hfuel)
  cases items with
  | nil => rfl
  | cons v vs =>
    obtain ⟨c, cs, hhead, hc⟩ := compact_head (hplain v List.mem_cons_self)
    have htext : (compact (.arr (v :: vs))).toList =
        '[' :: ((compact v ++ compactItems vs).toList ++ [']']) := by
      simp [compact]
    rw [htext, List.length_cons, List.length_append, List.length_singleton] at hfuel
    have hitems := readItems_compact hall fuel rest (by omega)
    have hbody : ∃ tail, (compact v ++ compactItems vs).toList ++ ']' :: rest = c :: tail := by
      exact ⟨cs ++ ((compactItems vs).toList ++ ']' :: rest), by simp [hhead]⟩
    obtain ⟨tail, htail⟩ := hbody
    rw [htext, List.cons_append, List.append_assoc, List.singleton_append, readValue,
      skipBlanks_cons (by decide)]
    rw [htail] at hitems ⊢
    simp only [List.mem_cons, List.not_mem_nil, or_false, not_or] at hc
    obtain ⟨hspace, htab, hline, hreturn, hclose⟩ := hc
    have hskip : skipBlanks (c :: tail) = c :: tail :=
      skipBlanks_cons (by simp [hspace, htab, hline, hreturn])
    simp only [hskip]
    split
    · next heq => exact absurd (List.cons.inj heq).1 hclose
    · rw [hitems]
      rfl

theorem readsBack_obj {members : List (String × Json)} (hall : ∀ m ∈ members, ReadsBack m.2) :
    ReadsBack (.obj members) := by
  intro fuel rest hfuel _
  obtain ⟨fuel, rfl⟩ := Nat.exists_eq_succ_of_ne_zero (Nat.ne_zero_of_lt hfuel)
  cases members with
  | nil => rfl
  | cons m ms =>
    have htext : (compact (.obj (m :: ms))).toList = '\x7b' :: (membersText m ms ++ ['\x7d']) := by
      simp [compact, membersText]
    rw [htext, List.length_cons, List.length_append, List.length_singleton] at hfuel
    have hmembers := readMembers_compact hall fuel rest (by omega)
    obtain ⟨cs, hname, _⟩ := readString_writeString m.1 []
    have hbody : ∃ tail, membersText m ms ++ '\x7d' :: rest = '"' :: tail := by
      rw [List.append_nil] at hname
      exact ⟨_, by simp [membersText, hname]; rfl⟩
    obtain ⟨tail, htail⟩ := hbody
    rw [htext, List.cons_append, List.append_assoc, List.singleton_append, readValue,
      skipBlanks_cons (by decide)]
    rw [htail] at hmembers ⊢
    have hskip : skipBlanks ('"' :: tail) = '"' :: tail := skipBlanks_cons (by decide)
    simp only [hskip]
    split
    · next heq => exact absurd (List.cons.inj heq).1 (by decide)
    · rw [hmembers]
      exact congrArg (fun v => some (v, rest)) (ofMembers_map (m :: ms))

theorem readsBack (v : Json) (h : plain v) : ReadsBack v := by
  induction v using nested with
  | null => exact readsBack_null
  | bool b => exact readsBack_bool b
  | int i => exact readsBack_int (by simpa [plain, Holds64] using h)
  | decimal => cases h
  | str s => exact readsBack_str s
  | arr items ih =>
    have hplain := plainItems_iff.mp h
    exact readsBack_arr hplain fun w hw => ih w hw (hplain w hw)
  | obj members ih =>
    have hplain := plainMembers_iff.mp h
    exact readsBack_obj fun m hm => ih m hm (hplain m hm)
  | unreadable => cases h

/-- The text that is written for a value denotes that value. -/
theorem parse?_compact {v : Json} (h : plain v) : parse? (compact v) = some v := by
  have hread := readsBack v h _ [] (Nat.lt_succ_self _) ends_nil
  rw [List.append_nil] at hread
  rw [parse?, hread]
  rfl

end Json

end PolicyReach
