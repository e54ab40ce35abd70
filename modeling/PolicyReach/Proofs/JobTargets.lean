import PolicyReach.Job
import PolicyReach.Proofs.AddressText
import PolicyReach.Proofs.Prediction

/-!
# Where jobs connect to

What a job connects to is written as a host and a port. If the host is the address of the
destination, the whole is read as that address with that port. No name of a service is an address,
so it stands before the port as it is.
-/
namespace PolicyReach

/-- An address with a port; an address of the newer family may be meant in a zone. -/
structure Endpoint where
  address : Address
  port : UInt16
  zone : UInt32
  deriving DecidableEq

namespace Endpoint

/-- A port may be written with any number of digits. -/
def port? (cs : List Char) : Option UInt16 := do
  let n ← Text.decimal? cs
  if n < UInt16.size then some (.ofNat n) else none

def zone? (cs : List Char) : Option UInt32 := do
  let n ← Text.decimal? cs
  if n < UInt32.size then some (.ofNat n) else none

/-- What stands between brackets: an address, and its zone after a percent sign. -/
def zoned? (cs : List Char) : Option (Address × UInt32) :=
  match Text.pieces '%' cs with
  | [a] => do return (← Address.read6? Address.strict a, 0)
  | [a, zone] => do return (← Address.read6? Address.strict a, ← zone? zone)
  | _ => none

def read4? (cs : List Char) : Option Endpoint :=
  match Text.pieces ':' cs with
  | [a, port] => do return ⟨← Address.read4? Address.strict a, ← port? port, 0⟩
  | _ => none

def read6? (cs : List Char) : Option Endpoint :=
  match cs with
  | '[' :: rest =>
    match Text.pieces ']' rest with
    | [inside, ':' :: port] => do
      let (a, zone) ← zoned? inside
      return ⟨a, ← port? port, zone⟩
    | _ => none
  | _ => none

def read? (cs : List Char) : Option Endpoint := (read4? cs).or (read6? cs)

def parse? (s : String) : Option Endpoint := read? s.toList

end Endpoint

/-- The job reaches for an address. -/
structure Job.ByAddress (j : Job) (a : Address) : Prop where
  host : Address.parse? j.host = some a
  target : Endpoint.parse? j.target = some ⟨a, j.port, 0⟩
  bare : a.family = .v4 → j.target = a.text ++ ":" ++ toString j.port.toNat
  bracketed : a.family = .v6 → j.target = "[" ++ a.text ++ "]:" ++ toString j.port.toNat
  brackets : ∀ c ∈ ['[', ']'], c ∈ j.target.toList ↔ a.family = .v6

/-- The job reaches for a name, which nobody takes for an address. -/
structure Job.ByName (j : Job) (name : String) : Prop where
  host : j.host = name
  noAddress : Address.parse? j.host = none
  target : j.target = name ++ ":" ++ toString j.port.toNat

/-! ### Reading endpoints -/

namespace Endpoint

variable {cs : List Char} {a : Address}

theorem port?_toDigits (port : UInt16) : port? (Nat.toDigits 10 port.toNat) = some port := by
  have hsmall : port.toNat < UInt16.size := port.toNat_lt
  rw [port?, Text.decimal?_toDigits]
  change (if _ then _ else none) = _
  rw [if_pos hsmall, UInt16.ofNat_toNat]

/-- No digit is one of the signs that endpoints are cut at. -/
theorem notMem_toDigits {c : Char} (h : Text.isAsciiDigit c = false) (n : ℕ) :
    c ∉ Nat.toDigits 10 n := by
  intro hc
  rw [Text.isAsciiDigit_of_mem_toDigits hc] at h
  cases h

/-- Neither what stands around an address nor the first letter of a service stands in one. -/
theorem not_plain : ∀ c ∈ ['[', ']', '%', 's'], ¬ Address.Plain c := by
  simp only [Address.Plain, List.forall_mem_cons, not_or]
  refine ⟨?_, ?_, ?_, ?_, nofun⟩ <;> decide

theorem notMem_text {c : Char} (h : c ∈ ['[', ']', '%', 's']) (a : Address) :
    c ∉ a.text.toList :=
  fun hc => not_plain c h (Address.plain_of_read? (a.read?_text Address.strict) c hc)

theorem zoned?_of_read6 (h : Address.read6? Address.strict cs = some a) (hzone : '%' ∉ cs) :
    zoned? cs = some (a, 0) := by
  rw [zoned?, Text.pieces_eq_splitOn, List.splitOn_eq_singleton hzone]
  simp [h]

theorem read4?_of_address (h : Address.read4? Address.strict cs = some a) (hcolon : ':' ∉ cs)
    (port : UInt16) :
    read4? (cs ++ ':' :: Nat.toDigits 10 port.toNat) = some ⟨a, port, 0⟩ := by
  have hdigits : ':' ∉ Nat.toDigits 10 port.toNat := notMem_toDigits (by decide) _
  have hpieces : Text.pieces ':' (cs ++ ':' :: Nat.toDigits 10 port.toNat) =
      [cs, Nat.toDigits 10 port.toNat] := by
    rw [Text.pieces_eq_splitOn, List.splitOn_append_cons_self, List.splitOn_eq_singleton hcolon,
      List.splitOn_eq_singleton hdigits]
    rfl
  simp [read4?, hpieces, h, port?_toDigits]

/-- No address of the older family begins with a bracket. -/
theorem read4?_bracket (cs : List Char) : read4? ('[' :: cs) = none := by
  have hnone : ∀ p, Address.read4? Address.strict ('[' :: p) = none := by
    intro p
    have hoctets : Address.octets? Address.strict ('[' :: p) = none := by
      by_contra hsome
      obtain ⟨ps, hps⟩ := Option.ne_none_iff_exists'.mp hsome
      rcases Address.isAsciiDigit_of_octets? hps '[' List.mem_cons_self with hc | hc <;> cases hc
    rw [Address.read4?, hoctets]
    rfl
  obtain ⟨p, ps, hps⟩ := List.exists_cons_of_ne_nil (Text.pieces_ne_nil ':' cs)
  have hpieces : Text.pieces ':' ('[' :: cs) = ('[' :: p) :: ps := by
    simp [Text.pieces, hps]
  rw [read4?, hpieces]
  split
  · rename_i heq
    obtain ⟨rfl, -⟩ := List.cons.inj heq
    rw [hnone]
    rfl
  · rfl

theorem read6?_of_address (h : Address.read6? Address.strict cs = some a) (hclose : ']' ∉ cs)
    (hzone : '%' ∉ cs) (port : UInt16) :
    read6? ('[' :: (cs ++ ']' :: ':' :: Nat.toDigits 10 port.toNat)) = some ⟨a, port, 0⟩ := by
  have hdigits : ']' ∉ ':' :: Nat.toDigits 10 port.toNat := by
    rw [List.mem_cons, not_or]
    exact ⟨by decide, notMem_toDigits (by decide) _⟩
  have hpieces : Text.pieces ']' (cs ++ ']' :: ':' :: Nat.toDigits 10 port.toNat) =
      [cs, ':' :: Nat.toDigits 10 port.toNat] := by
    rw [Text.pieces_eq_splitOn, List.splitOn_append_cons_self, List.splitOn_eq_singleton hclose,
      List.splitOn_eq_singleton hdigits]
    rfl
  simp [read6?, hpieces, zoned?_of_read6 h hzone, port?_toDigits]

end Endpoint

/-! ### Families -/

namespace Address

variable {g : Grammar} {cs : List Char} {a : Address}

theorem family_of_ofNat? {family : Family} {v : ℕ} (h : ofNat? family v = some a) :
    a.family = family := by
  rw [ofNat?] at h
  split at h
  · obtain rfl := Option.some.inj h
    rfl
  · cases h

theorem family_of_read4? (h : read4? g cs = some a) : a.family = .v4 := by
  obtain ⟨_, _, hvalue⟩ := Option.bind_eq_some_iff.mp h
  exact family_of_ofNat? hvalue

theorem family_of_read6? (h : read6? g cs = some a) : a.family = .v6 := by
  obtain ⟨_, _, hvalue⟩ := Option.bind_eq_some_iff.mp h
  exact family_of_ofNat? hvalue

theorem read4?_text (h : a.family = .v4) : read4? g a.text.toList = some a := by
  rcases read?_eq_some_iff.mp (a.read?_text g) with h4 | ⟨_, h6⟩
  · exact h4
  · cases (family_of_read6? h6).symm.trans h

theorem read6?_text (h : a.family = .v6) : read6? g a.text.toList = some a := by
  rcases read?_eq_some_iff.mp (a.read?_text g) with h4 | ⟨_, h6⟩
  · cases (family_of_read4? h4).symm.trans h
  · exact h6

end Address

/-! ### What jobs are written as -/

namespace Job

variable {domain : String} {source destination : Workload} {probe : Probe} {j : Job}

theorem toList_endpoint4 {a : Address} (h : a.family = .v4) (port : UInt16) :
    (endpoint a port).toList = a.text.toList ++ ':' :: Nat.toDigits 10 port.toNat := by
  simp [endpoint, h, Nat.toList_repr]

theorem toList_endpoint6 {a : Address} (h : a.family = .v6) (port : UInt16) :
    (endpoint a port).toList =
      '[' :: (a.text.toList ++ ']' :: ':' :: Nat.toDigits 10 port.toNat) := by
  simp [endpoint, h, Nat.toList_repr]

theorem parse?_endpoint (a : Address) (port : UInt16) :
    Endpoint.parse? (endpoint a port) = some ⟨a, port, 0⟩ := by
  rw [Endpoint.parse?, Endpoint.read?]
  cases h : a.family with
  | v4 =>
    have hcolon : ':' ∉ a.text.toList := by
      rw [Address.text, h]
      exact Address.colon_notMem_dotted a.value
    rw [toList_endpoint4 h, Endpoint.read4?_of_address (Address.read4?_text h) hcolon,
      Option.some_or]
  | v6 =>
    have hclose : ']' ∉ a.text.toList := Endpoint.notMem_text (by decide) a
    have hzone : '%' ∉ a.text.toList := Endpoint.notMem_text (by decide) a
    rw [toList_endpoint6 h, Endpoint.read4?_bracket, Option.none_or,
      Endpoint.read6?_of_address (Address.read6?_text h) hclose hzone]

theorem mem_endpoint_iff {c : Char} (hc : c ∈ ['[', ']']) (a : Address) (port : UInt16) :
    c ∈ (endpoint a port).toList ↔ a.family = .v6 := by
  have hdigits : c ∉ Nat.toDigits 10 port.toNat := by
    rcases List.mem_pair.mp hc with rfl | rfl
    · exact Endpoint.notMem_toDigits (by decide) _
    · exact Endpoint.notMem_toDigits (by decide) _
  cases h : a.family with
  | v4 =>
    have htext : c ∉ a.text.toList := Endpoint.notMem_text (List.mem_append_left _ hc) a
    have hcolon : c ≠ ':' := by
      rintro rfl
      revert hc
      decide
    simp [toList_endpoint4 h, htext, hcolon, hdigits]
  | v6 =>
    rcases List.mem_pair.mp hc with rfl | rfl
    · simp [toList_endpoint6 h]
    · simp [toList_endpoint6 h]

/-- The name of a service begins with a letter that no address has. -/
theorem parse?_serviceName (domain : String) (w : Workload) :
    Address.parse? (serviceName domain w) = none := by
  by_contra hsome
  obtain ⟨a, ha⟩ := Option.ne_none_iff_exists'.mp hsome
  have hs : 's' ∈ (serviceName domain w).toList := by simp [serviceName]
  exact Endpoint.not_plain 's' (by decide) (Address.plain_of_read? ha 's' hs)

theorem target_of_parse {a : Address} (h : Address.parse? j.host = some a) :
    j.target = endpoint a j.port := by
  rw [target, h]

theorem target_of_parse_none (h : Address.parse? j.host = none) :
    j.target = j.host ++ ":" ++ toString j.port.toNat := by
  rw [target, h]

theorem byAddress_of_host {a : Address} (h : j.host = a.text) : j.ByAddress a := by
  have hread : Address.parse? j.host = some a := by
    rw [h]
    exact a.read?_text Address.strict
  have htarget := target_of_parse hread
  refine ⟨hread, ?_, ?_, ?_, ?_⟩
  · rw [htarget]
    exact parse?_endpoint a j.port
  · intro hfamily
    rw [htarget, endpoint, hfamily]
  · intro hfamily
    rw [htarget, endpoint, hfamily]
  · intro c hc
    rw [htarget]
    exact mem_endpoint_iff hc a j.port

theorem byName_of_host {w : Workload} (h : j.host = serviceName domain w) :
    j.ByName (serviceName domain w) := by
  have hnone : Address.parse? j.host = none := by
    rw [h]
    exact parse?_serviceName domain w
  refine ⟨h, hnone, ?_⟩
  rw [target_of_parse_none hnone, h]

theorem build?_eq_some_iff : build? domain source destination probe = some j ↔
    ∃ port, probe.Reaches destination port ∧
      j = ⟨source.id, destination.id, hostFor domain probe.mode destination, port,
        probe.protocol⟩ := by
  rw [build?, Option.map_eq_some_iff]
  refine exists_congr fun port => ?_
  rw [Probe.resolve_eq_some_iff, eq_comm (b := j)]

theorem build?_eq_none_iff : build? domain source destination probe = none ↔
    ∃ name, probe.port = .name name ∧
      ∀ p ∈ destination.ports, ¬ (p.name = some name ∧ p.protocol = probe.protocol) := by
  rw [build?, Option.map_eq_none_iff, Probe.resolve]
  cases probe.port with
  | number n => simp [ProbePort.resolve]
  | name s =>
    simp only [ProbePort.resolve, Workload.resolvePort, Option.map_eq_none_iff,
      List.find?_eq_none, ProbePort.name.injEq, exists_eq_left']
    refine forall₂_congr fun p _ => not_congr ?_
    rw [Bool.and_eq_true, decide_eq_true_eq, decide_eq_true_eq, and_comm]

/-- Every job connects to its destination, at the port that the probe is about there. There is none
only for want of a port with the probed name. -/
theorem build?_reaches_destination (domain : String) (source destination : Workload)
    (probe : Probe) :
    (build? domain source destination probe = none ↔ ∃ name, probe.port = .name name ∧
      ∀ p ∈ destination.ports, ¬ (p.name = some name ∧ p.protocol = probe.protocol)) ∧
    ∀ j, build? domain source destination probe = some j →
      probe.Reaches destination j.port ∧
      (probe.mode = .podIp → j.ByAddress destination.ip) ∧
      (probe.mode = .serviceName → j.ByName (serviceName domain destination)) := by
  refine ⟨build?_eq_none_iff, ?_⟩
  intro j h
  obtain ⟨port, hport, rfl⟩ := build?_eq_some_iff.mp h
  refine ⟨hport, ?_, ?_⟩
  · intro hmode
    apply byAddress_of_host
    rw [hmode]
    rfl
  · intro hmode
    apply byName_of_host
    rw [hmode]
    rfl

end Job

namespace Sample

/-- A workload with an address of the older family inside the newer one. -/
def mapped : Workload :=
  ⟨"fe80", "::1", .empty, ⟨.v6, 0xFFFF0A000001, by decide⟩, [⟨some "dns", 53, .udp⟩]⟩

/-- Zeros are left out in front of the last groups, and brackets tell the port from them. -/
theorem build?_mapped :
    (∃ j, Job.build? "[::1]" a mapped ⟨.name "dns", .udp, .podIp⟩ = some j ∧
      j.target = "[::ffff:10.0.0.1]:53" ∧
      Endpoint.parse? j.target = some ⟨mapped.ip, 53, 0⟩) ∧
    (∃ j, Job.build? "[::1]" a mapped ⟨.number 8080, .tcp, .serviceName⟩ = some j ∧
      Address.parse? j.host = none ∧ j.target = "s-fe80-::1.fe80.svc.[::1]:8080") ∧
    Job.build? "[::1]" a mapped ⟨.name "dns", .tcp, .podIp⟩ = none := by
  obtain ⟨_, hip⟩ :=
    Job.build?_reaches_destination "[::1]" a mapped ⟨.name "dns", .udp, .podIp⟩
  obtain ⟨_, hname⟩ :=
    Job.build?_reaches_destination "[::1]" a mapped ⟨.number 8080, .tcp, .serviceName⟩
  obtain ⟨hnone, _⟩ :=
    Job.build?_reaches_destination "[::1]" a mapped ⟨.name "dns", .tcp, .podIp⟩
  have hj : Job.build? "[::1]" a mapped ⟨.name "dns", .udp, .podIp⟩ =
      some ⟨a.id, mapped.id, "::ffff:10.0.0.1", 53, .udp⟩ := by cbv
  have hj' : Job.build? "[::1]" a mapped ⟨.number 8080, .tcp, .serviceName⟩ =
      some ⟨a.id, mapped.id, "s-fe80-::1.fe80.svc.[::1]", 8080, .tcp⟩ := by cbv
  refine ⟨⟨_, hj, by cbv, ?_⟩, ⟨_, hj', ?_, ?_⟩, ?_⟩
  · exact ((hip _ hj).2.1 rfl).target
  · exact ((hname _ hj').2.2 rfl).noAddress
  · exact ((hname _ hj').2.2 rfl).target
  · exact hnone.mpr ⟨"dns", rfl, by decide⟩

end Sample

end PolicyReach
