import PolicyReach.Probe
import PolicyReach.Proofs.Compilation
import PolicyReach.Proofs.Digits

/-!
# Lists of ports and of protocols

The texts between commas are read one by one, without the blanks around them. A list is read if each
of these texts says something; the first that does not is to blame. What was read can be written
with commas again and is read as before.
-/
namespace PolicyReach

section Except

variable {ε α β : Type} {f : α → Except ε β} {a : α} {before after l : List α} {e : ε}

theorem mapM_of_failure (hbefore : ∀ b ∈ before, ∃ y, f b = .ok y) (ha : f a = .error e) :
    (before ++ a :: after).mapM f = .error e := by
  induction before with
  | nil =>
    rw [List.nil_append, List.mapM_cons, ha]
    rfl
  | cons b rest ih =>
    obtain ⟨⟨y, hy⟩, hrest⟩ := List.forall_mem_cons.mp hbefore
    rw [List.cons_append, List.mapM_cons, hy, ih hrest]
    rfl

/-- Checking a list stops at the first element that fails. -/
theorem mapM_eq_error_iff : l.mapM f = .error e ↔ ∃ before a after, l = before ++ a :: after ∧
    (∀ b ∈ before, ∃ y, f b = .ok y) ∧ f a = .error e := by
  constructor
  · intro h
    have hfails : ¬ ∃ ys, l.mapM f = .ok ys := by
      rintro ⟨ys, hys⟩
      cases h.symm.trans hys
    obtain ⟨before, a, after, rfl, ⟨ys, hys⟩, ha⟩ :=
      exists_first_failure (P := fun l => ∃ ys, l.mapM f = .ok ys) ⟨[], rfl⟩ hfails
    have hmap := mapM_eq_ok_iff.mp hys
    have hbefore : ∀ b ∈ before, ∃ y, f b = .ok y := by
      intro b hb
      obtain ⟨y, _, hy⟩ := List.mem_map.mp (hmap ▸ List.mem_map_of_mem hb)
      exact ⟨y, hy.symm⟩
    refine ⟨before, a, after, rfl, hbefore, ?_⟩
    cases hfa : f a with
    | ok y =>
      refine absurd ⟨ys ++ [y], mapM_eq_ok_iff.mpr ?_⟩ ha
      rw [List.map_append, List.map_append, hmap, List.map_singleton, List.map_singleton, hfa]
    | error e' =>
      rw [mapM_of_failure hbefore hfa] at h
      rw [Except.error.inj h]
  · rintro ⟨before, a, after, rfl, hbefore, ha⟩
    exact mapM_of_failure hbefore ha

end Except

/-! ### Blanks around a text -/

namespace Text

variable {cs ts : List Char}

/-- `ts` is `cs` without the blanks around it. -/
structure Trimmed (cs ts : List Char) : Prop where
  around : ∃ before after, cs = before ++ ts ++ after ∧ (∀ c ∈ before, isBlank c = true) ∧
    ∀ c ∈ after, isBlank c = true
  head : ∀ c ∈ ts.head?, isBlank c = false
  last : ∀ c ∈ ts.getLast?, isBlank c = false

theorem isBlank_of_head?_dropWhile {c : Char} (h : (cs.dropWhile isBlank).head? = some c) :
    isBlank c = false := by
  have hstop := List.head?_dropWhile_not isBlank cs
  rw [h] at hstop
  exact hstop

theorem trimmed_trimList (cs : List Char) : Trimmed cs (trimList cs) := by
  have hback : trimList cs ++ ((cs.dropWhile isBlank).reverse.takeWhile isBlank).reverse =
      cs.dropWhile isBlank := by
    rw [trimList, ← List.reverse_append, List.takeWhile_append_dropWhile, List.reverse_reverse]
  have hsplit : cs = cs.takeWhile isBlank ++ trimList cs ++
      ((cs.dropWhile isBlank).reverse.takeWhile isBlank).reverse := by
    rw [List.append_assoc, hback, List.takeWhile_append_dropWhile]
  refine ⟨⟨_, _, hsplit, fun c hc => List.mem_takeWhile_imp hc,
    fun c hc => List.mem_takeWhile_imp (List.mem_reverse.mp hc)⟩, ?_, ?_⟩
  · intro c hc
    obtain ⟨rest, hrest⟩ := List.head?_eq_some_iff.mp hc
    have hfront : (cs.dropWhile isBlank).head? = some c := by
      rw [← hback, hrest]
      rfl
    exact isBlank_of_head?_dropWhile hfront
  · intro c hc
    rw [trimList, List.getLast?_reverse] at hc
    exact isBlank_of_head?_dropWhile hc

theorem dropWhile_of_head (h : ∀ c ∈ cs.head?, isBlank c = false) : cs.dropWhile isBlank = cs := by
  cases cs with
  | nil => rfl
  | cons c rest => rw [List.dropWhile_cons_of_neg (by simp [h c rfl])]

theorem Trimmed.eq_trimList (h : Trimmed cs ts) : trimList cs = ts := by
  obtain ⟨⟨before, after, rfl, hbefore, hafter⟩, hhead, hlast⟩ := h
  have hlast' : ∀ c ∈ ts.reverse.head?, isBlank c = false := by
    rw [List.head?_reverse]
    exact hlast
  have hafter' : ∀ c ∈ after.reverse, isBlank c = true :=
    fun c hc => hafter c (List.mem_reverse.mp hc)
  rw [trimList, List.append_assoc, List.dropWhile_append_of_pos hbefore]
  cases ts with
  | nil =>
    rw [List.nil_append, List.dropWhile_eq_nil_iff.mpr hafter]
    rfl
  | cons c rest =>
    have hfront : (c :: rest ++ after).dropWhile isBlank = c :: rest ++ after :=
      dropWhile_of_head (by simpa using hhead)
    rw [hfront, List.reverse_append, List.dropWhile_append_of_pos hafter', dropWhile_of_head hlast',
      List.reverse_reverse]

theorem trimmed_iff : Trimmed cs ts ↔ trimList cs = ts :=
  ⟨Trimmed.eq_trimList, fun h => h ▸ trimmed_trimList cs⟩

/-- A text that is trimmed already stays as it is. -/
theorem Trimmed.again (h : Trimmed cs ts) : Trimmed ts ts :=
  ⟨⟨[], [], by simp, nofun, nofun⟩, h.head, h.last⟩

theorem Trimmed.subset (h : Trimmed cs ts) : ts ⊆ cs := by
  obtain ⟨⟨before, after, rfl, _, _⟩, _, _⟩ := h
  intro c hc
  exact List.mem_append_left _ (List.mem_append_right _ hc)

theorem trimmed_of_forall (h : ∀ c ∈ cs, isBlank c = false) : Trimmed cs cs :=
  ⟨⟨[], [], by simp, nofun, nofun⟩, fun c hc => h c (List.mem_of_mem_head? hc),
    fun c hc => h c (List.mem_of_mem_getLast? hc)⟩

/-- No character of ASCII that leaves a mark is a blank. -/
theorem isBlank_eq_false {c : Char} (h : 33 ≤ c.toNat ∧ c.toNat ≤ 126) : isBlank c = false := by
  have hgap : ∀ r ∈ blank, r.2 < 33 ∨ 126 < r.1 := by decide
  exact Ranges.has_eq_false hgap h

theorem isBlank_of_isAsciiDigit {c : Char} (h : isAsciiDigit c = true) : isBlank c = false := by
  have hrange : 48 ≤ c.toNat ∧ c.toNat ≤ 57 := by
    simpa [isAsciiDigit, Char.le_def, UInt32.le_iff_toNat_le] using h
  exact isBlank_eq_false (by omega)

/-! ### Lists between commas -/

section Lists

variable {ε α : Type} {Says : List Char → α → Prop} {fault : List Char → ε} {text : α → String}

/-- A parser reads lists of what single pieces say. It names the first piece that says nothing, and
reads the texts of what it has read as the same. -/
structure ReadsPieces (parse : String → Except ε (List α)) (Says : List Char → α → Prop)
    (fault : List Char → ε) (text : α → String) : Prop where
  ok_iff : ∀ s xs, parse s = .ok xs ↔ List.Forall₂ Says (s.toList.splitOn ',') xs
  error_iff : ∀ s e, parse s = .error e ↔ ∃ before piece after,
    s.toList.splitOn ',' = before ++ piece :: after ∧ (∀ p ∈ before, ∃ x, Says p x) ∧
      (∀ x, ¬ Says piece x) ∧ e = fault piece
  again : ∀ s xs, parse s = .ok xs → parse (String.intercalate "," (xs.map text)) = .ok xs

theorem commaPieces_eq (s : String) : commaPieces s = (s.toList.splitOn ',').map String.ofList := by
  rw [commaPieces, pieces_eq_splitOn]

/-- A list is read as its pieces are, if what a piece says can be written without a comma so that it
is read again. -/
theorem readsPieces_of_piece {parsePiece : String → Except ε α}
    (hok : ∀ cs x, parsePiece (String.ofList cs) = .ok x ↔ Says cs x)
    (herror : ∀ cs e, parsePiece (String.ofList cs) = .error e → e = fault cs)
    (hagain : ∀ cs x, ',' ∉ cs → Says cs x → ',' ∉ (text x).toList ∧ Says (text x).toList x) :
    ReadsPieces (fun s => (commaPieces s).mapM parsePiece) Says fault text := by
  have hread : ∀ s xs, (commaPieces s).mapM parsePiece = .ok xs ↔
      List.Forall₂ Says (s.toList.splitOn ',') xs := by
    intro s xs
    rw [mapM_eq_ok_iff, ← List.forall₂_eq_eq_eq, List.forall₂_map_right_iff,
      List.forall₂_map_left_iff, commaPieces_eq, List.forall₂_map_left_iff]
    simp only [hok]
  have hrefuse : ∀ cs e, parsePiece (String.ofList cs) = .error e ↔
      (∀ x, ¬ Says cs x) ∧ e = fault cs := by
    intro cs e
    constructor
    · intro h
      refine ⟨fun x hx => ?_, herror cs e h⟩
      cases h.symm.trans ((hok cs x).mpr hx)
    · rintro ⟨hno, rfl⟩
      cases h : parsePiece (String.ofList cs) with
      | ok x => exact absurd ((hok cs x).mp h) (hno x)
      | error e => rw [herror cs e h]
  refine ⟨hread, ?_, ?_⟩
  · intro s e
    rw [commaPieces_eq, List.mapM_map, mapM_eq_error_iff]
    simp only [Function.comp_apply, hok, hrefuse]
  · intro s xs h
    have hwrites : ∀ x ∈ xs, ',' ∉ (text x).toList ∧ Says (text x).toList x := by
      intro x hx
      obtain ⟨p, hp, hparse⟩ := exists_of_mem_mapM h hx
      obtain ⟨piece, hpiece, rfl⟩ := List.mem_map.mp hp
      exact hagain piece x (notMem_of_mem_pieces hpiece) ((hok piece x).mp hparse)
    have hne : xs ≠ [] := by
      rintro rfl
      exact List.splitOn_ne_nil _ _ (List.forall₂_nil_right_iff.mp ((hread s []).mp h))
    have hcommas : ∀ l ∈ (xs.map text).map String.toList, ',' ∉ l := by
      simpa using fun x hx => (hwrites x hx).1
    refine (hread _ _).mpr ?_
    rw [String.toList_intercalate]
    change List.Forall₂ Says (List.splitOn ',' ([','].intercalate _)) xs
    rw [List.splitOn_intercalate _ hcommas (by simpa using hne), List.map_map,
      List.forall₂_map_left_iff, List.forall₂_same]
    exact fun x hx => (hwrites x hx).2

end Lists

end Text

/-! ### Ports -/

namespace ProbePort

open Text

variable {cs : List Char} {p : ProbePort}

/-- A piece that is a row of digits says their number, if that is a port, and any other piece says
itself. Blanks around it do not count. -/
inductive Says (cs : List Char) : ProbePort → Prop where
  | number {ds : List Char} (trimmed : Trimmed cs ds) (digits : ∀ c ∈ ds, isAsciiDigit c = true)
    (one_le : 1 ≤ Nat.ofDigitChars 10 ds 0) (le : Nat.ofDigitChars 10 ds 0 ≤ 65535) :
    Says cs (.number (.ofNat (Nat.ofDigitChars 10 ds 0)))
  | name {ts : List Char} (trimmed : Trimmed cs ts) (nonempty : ts ≠ [])
    (other : ¬ ∀ c ∈ ts, isAsciiDigit c = true) : Says cs (.name (String.ofList ts))

/-- What is wrong with a piece that says nothing: it is blank, or a number that is no port. -/
theorem exists_says_iff : (∃ p, Says cs p) ↔ trimList cs ≠ [] ∧
    ((∀ c ∈ trimList cs, isAsciiDigit c = true) →
      1 ≤ Nat.ofDigitChars 10 (trimList cs) 0 ∧ Nat.ofDigitChars 10 (trimList cs) 0 ≤ 65535) := by
  constructor
  · rintro ⟨p, h⟩
    cases h with
    | number trimmed digits one_le le =>
      rw [trimmed.eq_trimList]
      refine ⟨?_, fun _ => ⟨one_le, le⟩⟩
      rintro rfl
      exact absurd one_le (by decide)
    | name trimmed nonempty other =>
      rw [trimmed.eq_trimList]
      exact ⟨nonempty, fun digits => absurd digits other⟩
  · rintro ⟨nonempty, hport⟩
    by_cases digits : ∀ c ∈ trimList cs, isAsciiDigit c = true
    · obtain ⟨one_le, le⟩ := hport digits
      exact ⟨_, .number (trimmed_trimList cs) digits one_le le⟩
    · exact ⟨_, .name (trimmed_trimList cs) nonempty digits⟩

theorem decimal?_of_digits {ds : List Char} (nonempty : ds ≠ [])
    (digits : ∀ c ∈ ds, isAsciiDigit c = true) : decimal? ds = some (Nat.ofDigitChars 10 ds 0) := by
  have hempty : ds.isEmpty = false := List.isEmpty_eq_false_iff.mpr nonempty
  rw [decimal?, hempty, List.all_eq_true.mpr digits, decimalValue_eq]
  rfl

theorem decimal?_of_other {ts : List Char} (other : ¬ ∀ c ∈ ts, isAsciiDigit c = true) :
    decimal? ts = none := by
  cases h : decimal? ts with
  | none => rfl
  | some n => exact absurd (isAsciiDigit_of_mem h) other

theorem parse_ofList (cs : List Char) : parse (String.ofList cs) =
    if trimList cs = [] then .error ⟨String.ofList (trimList cs)⟩
    else match decimal? (trimList cs) with
      | some n =>
        if 0 < n && n < 0x10000 then .ok (.number (.ofNat n))
        else .error ⟨String.ofList (trimList cs)⟩
      | none => .ok (.name (String.ofList (trimList cs))) := by
  have htrim : trim (String.ofList cs) = String.ofList (trimList cs) := by
    rw [trim, String.toList_ofList]
  cases hdecimal : decimal? (trimList cs) <;>
    simp only [parse, htrim, String.toList_ofList, String.isEmpty_iff,
      String.ofList_eq_empty_iff, hdecimal]

theorem parse_eq_ok_iff : parse (String.ofList cs) = .ok p ↔ Says cs p := by
  rw [parse_ofList]
  constructor
  · intro h
    split at h
    · cases h
    · next nonempty =>
      by_cases digits : ∀ c ∈ trimList cs, isAsciiDigit c = true
      · rw [decimal?_of_digits nonempty digits] at h
        simp only at h
        split at h
        · next hport =>
          obtain rfl := Except.ok.inj h
          rw [Bool.and_eq_true, decide_eq_true_eq, decide_eq_true_eq] at hport
          exact .number (trimmed_trimList cs) digits (by omega) (by omega)
        · cases h
      · rw [decimal?_of_other digits] at h
        obtain rfl := Except.ok.inj h
        exact .name (trimmed_trimList cs) nonempty digits
  · intro h
    cases h with
    | @number ds trimmed digits one_le le =>
      have nonempty : ds ≠ [] := by
        rintro rfl
        exact absurd one_le (by decide)
      have hport : (0 < Nat.ofDigitChars 10 ds 0 && Nat.ofDigitChars 10 ds 0 < 0x10000) = true := by
        rw [Bool.and_eq_true, decide_eq_true_eq, decide_eq_true_eq]
        omega
      rw [trimmed.eq_trimList, if_neg nonempty, decimal?_of_digits nonempty digits]
      exact if_pos hport
    | name trimmed nonempty other =>
      rw [trimmed.eq_trimList, if_neg nonempty, decimal?_of_other other]

theorem parse_eq_error {e : ProbePortError} (h : parse (String.ofList cs) = .error e) :
    e = ⟨String.ofList (trimList cs)⟩ := by
  rw [parse_ofList] at h
  split at h
  · exact (Except.error.inj h).symm
  · split at h
    · split at h
      · cases h
      · exact (Except.error.inj h).symm
    · cases h

theorem says_toDigits {n : ℕ} (one_le : 1 ≤ n) (le : n ≤ 65535) :
    Says (Nat.toDigits 10 n) (.number (.ofNat n)) := by
  have hvalue : Nat.ofDigitChars 10 (Nat.toDigits 10 n) 0 = n := Nat.ofDigitChars_ten_toDigits
  have hdigits : ∀ c ∈ Nat.toDigits 10 n, isAsciiDigit c = true :=
    fun _ => isAsciiDigit_of_mem_toDigits
  have h : Says (Nat.toDigits 10 n)
      (.number (.ofNat (Nat.ofDigitChars 10 (Nat.toDigits 10 n) 0))) :=
    .number (trimmed_of_forall fun c hc => isBlank_of_isAsciiDigit (hdigits c hc)) hdigits
      (by rw [hvalue]; exact one_le) (by rw [hvalue]; exact le)
  rwa [hvalue] at h

/-- What a piece says is written without a comma, and the text says the same. -/
theorem says_text (hcomma : ',' ∉ cs) (h : Says cs p) :
    ',' ∉ p.text.toList ∧ Says p.text.toList p := by
  cases h with
  | @number ds trimmed digits one_le le =>
    have hn : (UInt16.ofNat (Nat.ofDigitChars 10 ds 0)).toNat = Nat.ofDigitChars 10 ds 0 :=
      UInt16.toNat_ofNat_of_lt' (by simp only [UInt16.size]; omega)
    have htext : (ProbePort.number (.ofNat (Nat.ofDigitChars 10 ds 0))).text.toList =
        Nat.toDigits 10 (Nat.ofDigitChars 10 ds 0) := by
      rw [text, hn]
      exact Nat.toList_repr
    rw [htext]
    refine ⟨fun hmem => ?_, says_toDigits one_le le⟩
    cases isAsciiDigit_of_mem_toDigits hmem
  | @name ts trimmed nonempty other =>
    rw [text, String.toList_ofList]
    exact ⟨fun hmem => hcomma (trimmed.subset hmem), .name trimmed.again nonempty other⟩

end ProbePort

/-! ### Protocols -/

namespace Protocol

open Text

variable {cs : List Char} {p : Protocol}

/-- A piece says a protocol by its name in capital letters, small ones or both. Blanks around it do
not count. -/
def Says (cs : List Char) (p : Protocol) : Prop :=
  ∃ ts, Trimmed cs ts ∧ ts.map Char.toLower = p.name.toList.map Char.toLower

theorem ofName?_eq_some_iff {s : String} : ofName? s = some p ↔ p.name = s := by
  constructor
  · intro h
    simpa using List.find?_some h
  · rintro rfl
    cases p <;> decide

/-- Texts are the same but for capital letters if they are the same in capital letters. -/
theorem map_toUpper_eq_iff {ts ds : List Char} (h : ds.map Char.toUpper = ds) :
    ts.map Char.toUpper = ds ↔ ts.map Char.toLower = ds.map Char.toLower := by
  constructor
  · rintro rfl
    simp
  · intro hlower
    have hupper := congrArg (List.map Char.toUpper) hlower
    rw [List.map_map, List.map_map] at hupper
    simpa [Function.comp_def, h] using hupper

theorem parse_trim_eq_ok_iff : Protocol.parse (trim (String.ofList cs)) = .ok p ↔ Says cs p := by
  have hname : p.name.toList.map Char.toUpper = p.name.toList := by cases p <;> decide
  have hsaid : Says cs p ↔ ofName? ((trim (String.ofList cs)).map Char.toUpper) = some p := by
    rw [Says, ofName?_eq_some_iff, eq_comm, ← String.toList_inj, String.toList_map, trim,
      String.toList_ofList, String.toList_ofList, map_toUpper_eq_iff hname]
    simp only [trimmed_iff, exists_eq_left']
  rw [hsaid, Protocol.parse]
  cases ofName? ((trim (String.ofList cs)).map Char.toUpper) <;> simp

theorem parse_trim_eq_error {e : ProtocolError}
    (h : Protocol.parse (trim (String.ofList cs)) = .error e) :
    e = ⟨String.ofList (trimList cs)⟩ := by
  rw [Protocol.parse] at h
  split at h
  · cases h
  · rw [← Except.error.inj h, trim, String.toList_ofList]

theorem says_name (p : Protocol) : ',' ∉ p.name.toList ∧ Says p.name.toList p := by
  have hcomma : ',' ∉ p.name.toList := by cases p <;> decide
  have hrange : ∀ c ∈ p.name.toList, 33 ≤ c.toNat ∧ c.toNat ≤ 126 := by
    cases p <;> simp [name]
  exact ⟨hcomma, _, trimmed_of_forall fun c hc => isBlank_eq_false (hrange c hc), rfl⟩

end Protocol

/-- Lists of ports and lists of protocols are read by their grammars, which leave no doubt what a
text says, and what is wrong is told of the first piece that is wrong. -/
theorem commaLists_read_by_grammar :
    Text.ReadsPieces ProbePort.parseList ProbePort.Says
      (fun piece => ⟨String.ofList (Text.trimList piece)⟩) ProbePort.text ∧
    (∀ piece, (∃ p, ProbePort.Says piece p) ↔ Text.trimList piece ≠ [] ∧
      ((∀ c ∈ Text.trimList piece, Text.isAsciiDigit c = true) →
        1 ≤ Nat.ofDigitChars 10 (Text.trimList piece) 0 ∧
          Nat.ofDigitChars 10 (Text.trimList piece) 0 ≤ 65535)) ∧
    Text.ReadsPieces Protocol.parseList Protocol.Says
      (fun piece => ⟨String.ofList (Text.trimList piece)⟩) Protocol.name := by
  refine ⟨?_, fun piece => ProbePort.exists_says_iff, ?_⟩
  · exact Text.readsPieces_of_piece (fun _ _ => ProbePort.parse_eq_ok_iff)
      (fun _ _ => ProbePort.parse_eq_error) fun _ _ => ProbePort.says_text
  · exact Text.readsPieces_of_piece (fun _ _ => Protocol.parse_trim_eq_ok_iff)
      (fun _ _ => Protocol.parse_trim_eq_error) fun _ p _ _ => p.says_name

/-- Zeros may lead a number, a sign makes a name. -/
example : ProbePort.parseList "0000080, http ,+80" =
    .ok [.number 80, .name "http", .name "+80"] := by decide +kernel

end PolicyReach
