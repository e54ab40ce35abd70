import Mathlib
import PolicyReach.Kubectl

/-!
# Markers in what a program leaves behind

Output is read as text before markers are looked for in it. The reader keeps every ASCII byte and
writes other characters for the bytes between two of them, if there are any. So a marker stands in
the text of both streams exactly if its bytes stand together in one of them.
-/
namespace PolicyReach

namespace Text

/-- The bytes of a text in UTF-8. -/
def bytes (s : String) : List UInt8 := s.toUTF8.data.toList

theorem bytes_eq_flatMap (s : String) : bytes s = s.toList.flatMap String.utf8EncodeChar := by
  conv_lhs => rw [bytes, String.toUTF8, ← String.ofList_toList (s := s), String.toByteArray_ofList]
  rw [List.utf8Encode, List.toList_data_toByteArray]

/-- The only byte of an ASCII character. -/
def byte (c : Char) : UInt8 := .ofNat c.toNat

/-! ### Looking for a text -/

section Infix

variable {α : Type} {needle xs ys : List α} {sep : α}

theorem occurs_iff {needle cs : List Char} : occurs needle cs = true ↔ needle <:+: cs := by
  induction cs with
  | nil => rw [occurs, List.isEmpty_iff, List.infix_nil]
  | cons c rest ih =>
    rw [occurs, Bool.or_eq_true, List.isPrefixOf_iff_prefix, ih, List.infix_cons_iff]

/-- What has nothing in common with the needle can be passed over. -/
theorem infix_append_of_disjoint (ys : List α) (hne : needle ≠ []) (h : ∀ a ∈ xs, a ∉ needle) :
    needle <:+: xs ++ ys ↔ needle <:+: ys := by
  refine ⟨?_, List.infix_append_of_infix_right⟩
  intro hall
  rcases List.infix_append_iff.mp hall with hxs | hys | ⟨l, r, rfl, hl, hr⟩
  · obtain ⟨a, ha⟩ := List.exists_mem_of_ne_nil needle hne
    exact absurd ha (h a (hxs.subset ha))
  · exact hys
  · cases l with
    | nil => exact hr.isInfix
    | cons a l =>
      have ha : a ∉ a :: l ++ r := h a (hl.subset List.mem_cons_self)
      exact absurd List.mem_cons_self ha

/-- A needle without the separator lies on one side of it. -/
theorem infix_separated_iff (h : sep ∉ needle) :
    needle <:+: xs ++ sep :: ys ↔ needle <:+: xs ∨ needle <:+: ys := by
  have hbehind : ∀ l : List α, sep ∉ l → l <+: sep :: ys → l = [] := by
    intro l hl hstart
    rcases List.prefix_cons_iff.mp hstart with hnil | ⟨t, rfl, _⟩
    · exact hnil
    · exact absurd List.mem_cons_self hl
  constructor
  · intro hall
    rcases List.infix_append_iff.mp hall with hxs | hys | ⟨l, r, rfl, hl, hr⟩
    · exact .inl hxs
    · rcases List.infix_cons_iff.mp hys with hstart | hrest
      · rw [hbehind needle h hstart]
        exact .inl (List.nil_infix)
      · exact .inr hrest
    · have hnil := hbehind r (fun hr' => h (List.mem_append_right l hr')) hr
      rw [hnil, List.append_nil]
      exact .inl hl.isInfix
  · rintro (hxs | hys)
    · exact List.infix_append_of_infix_left hxs
    · exact List.infix_append_of_infix_right (List.infix_cons hys)

end Infix

/-! ### ASCII -/

section Ascii

variable {c : Char} {b : UInt8}

theorem toNat_byte (h : c.toNat < 0x80) : (byte c).toNat = c.toNat := by
  rw [byte, UInt8.toNat_ofNat']
  exact Nat.mod_eq_of_lt (Nat.lt_trans h (by decide))

theorem toNat_charOfNat {n : ℕ} (h : n < 0x80) : (Char.ofNat n).toNat = n := by
  rw [Char.toNat_ofNat, if_pos (.inl (by omega))]

theorem byte_eq_iff (hc : c.toNat < 0x80) (hb : b.toNat < 0x80) :
    byte c = b ↔ c = Char.ofNat b.toNat := by
  constructor
  · rintro rfl
    rw [toNat_byte hc, Char.ofNat_toNat]
  · rintro rfl
    apply UInt8.toNat_inj.mp
    rw [toNat_byte hc, toNat_charOfNat hb]

theorem bytes_of_ascii {s : String} (h : ∀ c ∈ s.toList, c.toNat < 0x80) :
    bytes s = s.toList.map byte := by
  have hencode : ∀ c ∈ s.toList, String.utf8EncodeChar c = [byte c] := by
    intro c hc
    rw [String.utf8EncodeChar]
    exact if_pos (Nat.le_of_lt_succ (h c hc))
  rw [bytes_eq_flatMap, List.map_eq_flatMap]
  exact List.flatMap_congr hencode

end Ascii

/-! ### The reader -/

namespace Utf8

/-- The least and the greatest character that may come of the bytes read so far. -/
def State.least (value owed low : ℕ) : ℕ := value * 64 ^ owed + (low - 0x80) * 64 ^ (owed - 1)

def State.most (value owed high : ℕ) : ℕ :=
  value * 64 ^ owed + (high - 0x80) * 64 ^ (owed - 1) + (64 ^ (owed - 1) - 1)

/-- Whatever comes of the bytes read so far is a character beyond ASCII. -/
def State.Foreign : State → Prop
  | .start => True
  | .within value owed low high =>
    (owed = 1 ∨ owed = 2 ∨ owed = 3) ∧ 0x80 ≤ low ∧ high ≤ 0xBF ∧
      0x80 ≤ least value owed low ∧
      (most value owed high < 0xD800 ∨
        0xDFFF < least value owed low ∧ most value owed high < 0x110000)

/-- What a step writes for a byte that is not ASCII. There is always something that stands for the
byte, be it written now or later. -/
structure Departs (out : List Char × State) : Prop where
  chars : ∀ c ∈ out.1, 0x80 ≤ c.toNat
  state : out.2.Foreign
  stands : out.1 = [] → out.2 ≠ .start

variable {value owed low high : ℕ}

theorem foreign_replacement : 0x80 ≤ replacement.toNat := by decide

theorem lead_ascii {b : ℕ} (h : b < 0x80) : lead b = ([Char.ofNat b], .start) := if_pos h

theorem lead_departs {b : ℕ} (h : 0x80 ≤ b) : Departs (lead b) := by
  rw [lead, if_neg (Nat.not_lt.mpr h)]
  split_ifs <;> refine ⟨?_, ?_, ?_⟩ <;>
    simp [State.Foreign, State.least, State.most, foreign_replacement] <;> omega

section Within

variable {b : ℕ}

theorem step_last (hb : low ≤ b ∧ b ≤ high) : step (.within value 1 low high) b =
    ([Char.ofNat (value * 64 + (b - 0x80))], .start) := by
  simp [step, hb]

theorem step_more (hb : low ≤ b ∧ b ≤ high) (howed : 2 ≤ owed) :
    step (.within value owed low high) b =
      ([], .within (value * 64 + (b - 0x80)) (owed - 1) 0x80 0xBF) := by
  simp [step, hb, Nat.not_le.mpr howed]

/-- A character that is broken off is replaced, and the byte read as the first of another. -/
theorem step_broken (hb : ¬ (low ≤ b ∧ b ≤ high)) : step (.within value owed low high) b =
    (replacement :: (lead b).1, (lead b).2) := if_neg hb

theorem toNat_completed (h : (State.within value 1 low high).Foreign)
    (hb : low ≤ b ∧ b ≤ high) : 0x80 ≤ (Char.ofNat (value * 64 + (b - 0x80))).toNat := by
  obtain ⟨_, hlow, hhigh, hleast, hmost⟩ := h
  simp only [State.least, State.most] at hleast hmost
  have hvalid : (value * 64 + (b - 0x80)).isValidChar := by
    rcases hmost with hmost | ⟨hleast, hmost⟩
    · exact .inl (by omega)
    · exact .inr ⟨by omega, by omega⟩
  rw [Char.toNat_ofNat, if_pos hvalid]
  omega

theorem step_departs (h : (State.within value owed low high).Foreign)
    (hb : low ≤ b ∧ b ≤ high) : Departs (step (.within value owed low high) b) := by
  by_cases hlast : owed = 1
  · subst hlast
    rw [step_last hb]
    exact ⟨List.forall_mem_singleton.mpr (toNat_completed h hb), trivial, nofun⟩
  · obtain ⟨howed, hlow, hhigh, hleast, hmost⟩ := h
    rw [step_more hb (by omega)]
    refine ⟨nofun, ?_, nofun⟩
    rcases howed with rfl | rfl | rfl
    · exact absurd rfl hlast
    · simp only [State.Foreign, State.least, State.most, Nat.reduceSub, Nat.reducePow, true_or,
        true_and] at hleast hmost ⊢
      omega
    · simp only [State.Foreign, State.least, State.most, Nat.reduceSub, Nat.reducePow, true_or,
        or_true, true_and] at hleast hmost ⊢
      omega

end Within

/-! ### ASCII in what was read -/

variable {needle : List Char} {bytes : List UInt8} {state : State} {out : List Char × State}
  {b : UInt8}

theorem decodeFrom_cons (state : State) (b : UInt8) (bytes : List UInt8) :
    decodeFrom state (b :: bytes) =
      (step state b.toNat).1 ++ decodeFrom (step state b.toNat).2 bytes := rfl

theorem decodeFrom_ascii (h : b.toNat < 0x80) (bytes : List UInt8) :
    decodeFrom .start (b :: bytes) = Char.ofNat b.toNat :: decodeFrom .start bytes := by
  rw [decodeFrom_cons, step, lead_ascii h]
  rfl

theorem decodeFrom_broken (h : ¬ (low ≤ b.toNat ∧ b.toNat ≤ high)) (bytes : List UInt8) :
    decodeFrom (.within value owed low high) (b :: bytes) =
      replacement :: decodeFrom .start (b :: bytes) := by
  rw [decodeFrom_cons, step_broken h]
  rfl

/-- After a byte that is not ASCII the text goes on with a character that is not ASCII. -/
theorem Departs.exists_foreign (h : Departs out) (bytes : List UInt8) :
    ∃ c cs, out.1 ++ decodeFrom out.2 bytes = c :: cs ∧ 0x80 ≤ c.toNat := by
  induction bytes generalizing out with
  | nil =>
    obtain ⟨chars, state⟩ := out
    cases chars with
    | cons c cs => exact ⟨c, _, rfl, h.chars c List.mem_cons_self⟩
    | nil =>
      cases state with
      | start => exact absurd rfl (h.stands rfl)
      | within => exact ⟨replacement, [], rfl, foreign_replacement⟩
  | cons b bytes ih =>
    obtain ⟨chars, state⟩ := out
    cases chars with
    | cons c cs => exact ⟨c, _, rfl, h.chars c List.mem_cons_self⟩
    | nil =>
      cases state with
      | start => exact absurd rfl (h.stands rfl)
      | within value owed low high =>
        by_cases hb : low ≤ b.toNat ∧ b.toNat ≤ high
        · exact ih (step_departs h.state hb)
        · refine ⟨replacement, decodeFrom .start (b :: bytes), ?_, foreign_replacement⟩
          exact decodeFrom_broken hb bytes

/-- Where a character begins, ASCII characters are read off the bytes that they have. -/
theorem prefix_decodeFrom_iff (bytes : List UInt8) (hascii : ∀ c ∈ needle, c.toNat < 0x80) :
    needle <+: decodeFrom .start bytes ↔ needle.map byte <+: bytes := by
  induction bytes generalizing needle with
  | nil => rw [decodeFrom, finish, List.prefix_nil, List.prefix_nil, List.map_eq_nil_iff]
  | cons b bytes ih =>
    cases needle with
    | nil => exact iff_of_true List.nil_prefix List.nil_prefix
    | cons c cs =>
      obtain ⟨hc, hcs⟩ := List.forall_mem_cons.mp hascii
      rw [List.map_cons, List.cons_prefix_cons]
      by_cases hb : b.toNat < 0x80
      · rw [decodeFrom_ascii hb, List.cons_prefix_cons, ih hcs, byte_eq_iff hc hb]
      · obtain ⟨d, ds, hd, hforeign⟩ :=
          (lead_departs (Nat.not_lt.mp hb)).exists_foreign bytes
        rw [decodeFrom_cons, step, hd, List.cons_prefix_cons]
        refine iff_of_false ?_ ?_
        · rintro ⟨rfl, _⟩
          omega
        · rintro ⟨rfl, _⟩
          rw [toNat_byte hc] at hb
          exact hb hc

/-- Bytes that are not ASCII, and what is written for them, are no part of a text in ASCII. -/
theorem Departs.infix_iff (h : Departs out) (hb : 0x80 ≤ b.toNat) (hne : needle ≠ [])
    (hascii : ∀ c ∈ needle, c.toNat < 0x80)
    (hrest : needle <:+: decodeFrom out.2 bytes ↔ needle.map byte <:+: bytes) :
    needle <:+: out.1 ++ decodeFrom out.2 bytes ↔ needle.map byte <:+: b :: bytes := by
  have hchars : ∀ c ∈ out.1, c ∉ needle := by
    intro c hc hneedle
    exact Nat.not_lt.mpr (h.chars c hc) (hascii c hneedle)
  have hbyte : ∀ a ∈ [b], a ∉ needle.map byte := by
    rintro a ha hneedle
    obtain ⟨c, hc, rfl⟩ := List.mem_map.mp hneedle
    obtain rfl := List.mem_singleton.mp ha
    rw [toNat_byte (hascii c hc)] at hb
    exact Nat.not_lt.mpr hb (hascii c hc)
  have hne' : needle.map byte ≠ [] := mt List.map_eq_nil_iff.mp hne
  rw [infix_append_of_disjoint _ hne hchars, hrest, ← List.singleton_append,
    infix_append_of_disjoint _ hne' hbyte]

theorem infix_decodeFrom_iff (hstate : state.Foreign) (hne : needle ≠ [])
    (hascii : ∀ c ∈ needle, c.toNat < 0x80) :
    needle <:+: decodeFrom state bytes ↔ needle.map byte <:+: bytes := by
  have hreplacement : ∀ c ∈ [replacement], c ∉ needle := by
    intro c hc hneedle
    obtain rfl := List.mem_singleton.mp hc
    exact Nat.not_lt.mpr foreign_replacement (hascii _ hneedle)
  induction bytes generalizing state with
  | nil =>
    have hnone : ¬ needle <:+: [] := mt List.infix_nil.mp hne
    rw [List.infix_nil, List.map_eq_nil_iff]
    refine iff_of_false ?_ hne
    cases state with
    | start => exact hnone
    | within => exact mt (infix_append_of_disjoint [] hne hreplacement).mp hnone
  | cons b bytes ih =>
    have hstart : needle <:+: decodeFrom .start (b :: bytes) ↔ needle.map byte <:+: b :: bytes := by
      by_cases hb : b.toNat < 0x80
      · have hfront := prefix_decodeFrom_iff (b :: bytes) hascii
        have hinfix : needle <:+: decodeFrom .start bytes ↔ needle.map byte <:+: bytes :=
          ih trivial
        rw [decodeFrom_ascii hb] at hfront ⊢
        rw [List.infix_cons_iff, List.infix_cons_iff, hfront, hinfix]
      · have hlead := lead_departs (Nat.not_lt.mp hb)
        exact hlead.infix_iff (Nat.not_lt.mp hb) hne hascii (ih hlead.state)
    cases state with
    | start => exact hstart
    | within value owed low high =>
      by_cases hb : low ≤ b.toNat ∧ b.toNat ≤ high
      · have hstep := step_departs hstate hb
        exact hstep.infix_iff (Nat.le_trans hstate.2.1 hb.1) hne hascii (ih hstep.state)
      · rw [decodeFrom_broken hb, ← hstart]
        exact infix_append_of_disjoint _ hne hreplacement

/-- A text in ASCII is found in what was read exactly if its bytes are found in the bytes. -/
theorem infix_decode_iff {s : String} (hascii : ∀ c ∈ s.toList, c.toNat < 0x80) :
    s.toList <:+: (decode bytes).toList ↔ Text.bytes s <:+: bytes := by
  rw [decode, String.toList_ofList, bytes_of_ascii hascii]
  by_cases hne : s.toList = []
  · rw [hne]
    exact iff_of_true List.nil_infix List.nil_infix
  · exact infix_decodeFrom_iff trivial hne hascii

end Utf8

end Text

/-- The bytes of a text stand together in one of the streams. -/
def Exit.Shows (exit : Exit) (marker : String) : Prop :=
  Text.bytes marker <:+: exit.stdout ∨ Text.bytes marker <:+: exit.stderr

instance (exit : Exit) (marker : String) : Decidable (exit.Shows marker) :=
  inferInstanceAs (Decidable (_ ∨ _))

/-- What was found out about a connection. -/
inductive Finding where
  | connected
  | refused
  | timedOut
  | workloadNotFound (id : WorkloadId)
  | unreachable
  | failed
  /-- The program did not end, or could not be run. -/
  | noOutput
  deriving DecidableEq

namespace Finding

/-- What a reply says, details apart. -/
def ofReply : Reply → Finding
  | .ok a =>
    match a.outcome with
    | .connected => .connected
    | .refused => .refused
    | .timedOut => .timedOut
  | .error (.workloadNotFound id) => .workloadNotFound id
  | .error (.unreachable _) => .unreachable
  | .error (.failed _) => .failed
  | .error (.timeout _) | .error (.io _) => .noOutput

/-- What the bytes of an output say about a connection from the source. -/
def ofExit (source : WorkloadId) (exit : Exit) : Finding :=
  if exit.success then .connected
  else if exit.Shows "REFUSED" then .refused
  else if exit.Shows "TIMEOUT" then .timedOut
  else if exit.Shows "NotFound" ∨ exit.Shows "not found" then .workloadNotFound source
  else if exit.Shows "Unable to connect to the server" then .unreachable
  else .failed

theorem eq_of_denied {reply : Reply} (h : (Cell.ofReply reply).verdict = .denied) :
    ofReply reply = .refused ∨ ofReply reply = .timedOut := by
  cases reply with
  | error e => cases h
  | ok a =>
    obtain ⟨outcome, _, _⟩ := a
    cases outcome with
    | connected => cases h
    | refused => exact .inl rfl
    | timedOut => exact .inr rfl

theorem shows_of_ofExit (source : WorkloadId) {exit : Exit}
    (h : ofExit source exit = .refused ∨ ofExit source exit = .timedOut) :
    exit.success = false ∧ (exit.Shows "REFUSED" ∨ exit.Shows "TIMEOUT") := by
  by_cases hsuccess : exit.success = true
  · rw [ofExit, if_pos hsuccess] at h
    rcases h with h | h <;> cases h
  · refine ⟨Bool.eq_false_iff.mpr hsuccess, ?_⟩
    by_contra hnone
    obtain ⟨hrefused, htimeout⟩ := not_or.mp hnone
    rw [ofExit, if_neg hsuccess, if_neg hrefused, if_neg htimeout] at h
    split_ifs at h
    all_goals rcases h with h | h <;> cases h

end Finding

namespace Kubectl

/-- A text in ASCII that fills a part of one line. -/
def IsMarker (s : String) : Prop := ∀ c ∈ s.toList, c.toNat < 0x80 ∧ c ≠ '\n'

instance (s : String) : Decidable (IsMarker s) := inferInstanceAs (Decidable (∀ c ∈ s.toList, _))

theorem mentions_iff (exit : Exit) (marker : String) (h : IsMarker marker) :
    mentions (Text.Utf8.decode exit.stdout ++ "\n" ++ Text.Utf8.decode exit.stderr) marker = true ↔
      exit.Shows marker := by
  have hascii : ∀ c ∈ marker.toList, c.toNat < 0x80 := fun c hc => (h c hc).1
  have hline : '\n' ∉ marker.toList := fun hc => (h _ hc).2 rfl
  have hjoined : (Text.Utf8.decode exit.stdout ++ "\n" ++ Text.Utf8.decode exit.stderr).toList =
      (Text.Utf8.decode exit.stdout).toList ++ '\n' :: (Text.Utf8.decode exit.stderr).toList := by
    simp
  rw [mentions, Text.occurs_iff, hjoined, Text.infix_separated_iff hline,
    Text.Utf8.infix_decode_iff hascii, Text.Utf8.infix_decode_iff hascii]
  rfl

theorem ofReply_interpret (job : Job) (latency : Span) (exit : Exit) :
    Finding.ofReply (interpret job latency exit) = Finding.ofExit job.source exit := by
  have hrefused := mentions_iff exit "REFUSED" (by simp [IsMarker])
  have htimeout := mentions_iff exit "TIMEOUT" (by simp [IsMarker])
  have hmissing := mentions_iff exit "NotFound" (by simp [IsMarker])
  have hmissing' := mentions_iff exit "not found" (by simp [IsMarker])
  have hserver := mentions_iff exit "Unable to connect to the server" (by simp [IsMarker])
  rw [interpret, classify, Finding.ofExit]
  simp only [hrefused, htimeout, hmissing, hmissing', hserver, Bool.or_eq_true]
  split_ifs <;> rfl

/-- The outcome of an attempt is told by the bytes that kubectl leaves behind, whether they are
UTF-8 or not, and a cell becomes denied only by one of the two markers for that. -/
theorem connect_tells_output (k : Kubectl) (start : Launcher) (job : Job) (exit : Exit)
    (h : launch start k.program (k.arguments job) = .ok exit) :
    Finding.ofReply (k.connect start job) = Finding.ofExit job.source exit ∧
    ((Cell.ofReply (k.connect start job)).verdict = .denied →
      exit.success = false ∧ (exit.Shows "REFUSED" ∨ exit.Shows "TIMEOUT")) := by
  have hconnect : k.connect start job = interpret job 0 exit := by
    rw [connect, h]
  have hfinding : Finding.ofReply (k.connect start job) = Finding.ofExit job.source exit := by
    rw [hconnect]
    exact ofReply_interpret job 0 exit
  refine ⟨hfinding, ?_⟩
  intro hdenied
  apply Finding.shows_of_ofExit job.source
  rw [← hfinding]
  exact Finding.eq_of_denied hdenied

end Kubectl

namespace Sample

/-- One marker is broken by a byte that is no text and another by the end of a stream; the third
one follows a character that was cut off. -/
def garbled : Exit where
  success := false
  stdout := Text.bytes "REF" ++ [0xFF] ++ Text.bytes "USED REFU"
  stderr := Text.bytes "SED not found " ++ [0xE2, 0x82] ++ Text.bytes "TIMEOUT"

def jobToB : Job := ⟨⟨"x", "a"⟩, ⟨"x", "b"⟩, "0.0.0.2", 80, .tcp⟩

def plainKubectl : Kubectl := ⟨"kubectl", none, 1000⟩

theorem connect_garbled :
    Finding.ofReply (plainKubectl.connect (fun _ _ => .ok garbled) jobToB) = .timedOut ∧
      ¬ garbled.Shows "REFUSED" ∧ garbled.Shows "TIMEOUT" := by
  have htarget : jobToB.target = "0.0.0.2:80" := by cbv
  have harguments : plainKubectl.arguments jobToB =
      ["exec", "--namespace", "x", "a", "--", "/agnhost", "connect", "0.0.0.2:80",
        "--timeout=1000ms", "--protocol=tcp"] := by
    rw [Kubectl.arguments, htarget]
    cbv
  have hlaunch : Kubectl.launch (fun _ _ => .ok garbled) plainKubectl.program
      (plainKubectl.arguments jobToB) = .ok garbled := by
    rw [harguments, Kubectl.launch]
    simp [plainKubectl]
  have hrefused : ¬ garbled.Shows "REFUSED" := by decide +kernel
  have htimeout : garbled.Shows "TIMEOUT" := by decide +kernel
  obtain ⟨hfinding, _⟩ :=
    Kubectl.connect_tells_output plainKubectl (fun _ _ => .ok garbled) jobToB garbled hlaunch
  refine ⟨?_, hrefused, htimeout⟩
  rw [hfinding, Finding.ofExit, if_neg hrefused, if_pos htimeout]
  rfl

end Sample

end PolicyReach
