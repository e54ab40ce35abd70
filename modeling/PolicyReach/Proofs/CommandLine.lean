import PolicyReach.CommandLine
import PolicyReach.Proofs.Compilation

/-!
# What a command line says

The words of a command are its options in any order, each of them at most once, with their values. A
command that is read has each of its settings from the option of that name, or its standard one.
-/
namespace PolicyReach.CommandLine

/-- The option has the value in the words, behind an equals sign or as the next word. -/
def Given (name value : String) (words : List String) : Prop :=
  "--" ++ name ++ "=" ++ value ∈ words ∨ ["--" ++ name, value] <:+: words

/-- The option that its name stands for. -/
def Spec.Has (spec : Spec) (o : OptionSpec) : Prop :=
  spec.options.find? (·.name == o.name) = some o

def Dashed (word : String) : Prop := ∃ name, word = "--" ++ name

/-- The words give the option the setting. -/
inductive OptionSpec.Stands (o : OptionSpec) : List String → Setting → Prop where
  | flag {setting} (arity : o.arity = .flag setting) : o.Stands ["--" ++ o.name] setting
  | joined {value setting} (read : o.read value = .ok setting) :
      o.Stands ["--" ++ o.name ++ "=" ++ value] setting
  | spaced {value setting} (plain : ¬ Dashed value) (read : o.read value = .ok setting) :
      o.Stands ["--" ++ o.name, value] setting

/-- Words that are options, between what is given before them and with them. -/
inductive Reads (spec : Spec) :
    List (String × Setting) → List String → List (String × Setting) → Prop where
  | nil {given} : Reads spec given [] given
  | dashes {given} : Reads spec given ["--"] given
  | option {given given' front rest o setting} (has : spec.Has o) (proper : '=' ∉ o.name.toList)
      (stands : o.Stands front setting) (fresh : o.name ∉ given.map (·.1))
      (tail : Reads spec (given ++ [(o.name, setting)]) rest given') :
      Reads spec given (front ++ rest) given'

variable {spec : Spec} {s s' f : Scan} {o : OptionSpec} {name value word : String}
  {words rest : List String} {given given' : List (String × Setting)} {setting : Setting}
  {sub : Option (String × List String)} {long : List Char} {front : List String}

/-! ### Scanning -/

theorem add_eq_ok_iff {v : Except UsageError Setting} : s.add name v = .ok s' ↔
    name ∉ s.given.map (·.1) ∧
      ∃ setting, v = .ok setting ∧ ⟨none, s.given ++ [(name, setting)]⟩ = s' := by
  have htaken : s.given.any (·.1 == name) = true ↔ name ∈ s.given.map (·.1) := by
    simp [List.any_eq_true]
  rw [Scan.add]
  split
  · next hany => simp [htaken.mp hany]
  · next hany =>
    have hfresh : name ∉ s.given.map (·.1) := fun hmem => hany (htaken.mpr hmem)
    rw [map_eq_ok_iff, iff_true_intro hfresh, true_and]

theorem eq_of_toList (h : word.toList = '-' :: '-' :: long) :
    word = "--" ++ String.ofList long := by
  rw [← String.toList_inj, h]
  simp

theorem toList_of_dashed (h : Dashed word) : ∃ long, word.toList = '-' :: '-' :: long := by
  obtain ⟨name, rfl⟩ := h
  exact ⟨name.toList, String.toList_append ..⟩

theorem not_mem_of_cutValue {v : Option String} (h : cutValue long = (name, v)) :
    '=' ∉ name.toList := by
  have hname : String.ofList (long.takeWhile (· != '=')) = name := by
    rw [← show (cutValue long).1 = name from congrArg Prod.fst h, cutValue]
    split <;> rfl
  intro hmem
  rw [← hname, String.toList_ofList] at hmem
  have := List.mem_takeWhile_imp hmem
  simp at this

theorem cutValue_eq (h : cutValue long = (name, none)) : String.ofList long = name := by
  unfold cutValue at h
  split at h
  · next hrest =>
    have hsplit := List.takeWhile_append_dropWhile (p := (· != '=')) (l := long)
    rw [hrest, List.append_nil] at hsplit
    rw [← (Prod.mk.inj h).1, hsplit]
  · cases (Prod.mk.inj h).2

theorem cutValue_eq_some (h : cutValue long = (name, some value)) :
    String.ofList long = name ++ "=" ++ value := by
  unfold cutValue at h
  split at h
  · cases (Prod.mk.inj h).2
  · next c chars hrest =>
    obtain ⟨rfl, hvalue⟩ := Prod.mk.inj h
    obtain rfl := Option.some.inj hvalue
    have hc : c = '=' := by
      have hhead := List.head?_dropWhile_not (· != '=') long
      rw [hrest] at hhead
      simpa using hhead
    have hsplit := List.takeWhile_append_dropWhile (p := (· != '=')) (l := long)
    rw [hrest, hc] at hsplit
    generalize long.takeWhile (· != '=') = front at hsplit ⊢
    rw [← String.toList_inj, ← hsplit]
    simp

theorem cutValue_append (h : '=' ∉ name.toList) (value : String) :
    cutValue (name ++ "=" ++ value).toList = (name, some value) := by
  have hplain : ∀ c ∈ name.toList, (c != '=') = true := by
    intro c hc
    rw [bne_iff_ne]
    rintro rfl
    exact h hc
  simp [cutValue, List.takeWhile_append_of_pos hplain, List.dropWhile_append_of_pos hplain]

/-- What the rest of the words has to be for a scan that has come so far. -/
def Scan.Ends (spec : Spec) (s : Scan) (words : List String)
    (given : List (String × Setting)) : Prop :=
  match s.pending with
  | none => Reads spec s.given words given
  | some (o, none) => ∃ value rest setting, words = value :: rest ∧ ¬ Dashed value ∧
      o.read value = .ok setting ∧ o.name ∉ s.given.map (·.1) ∧
      Reads spec (s.given ++ [(o.name, setting)]) rest given
  | some (o, some value) => ∃ setting, o.read value = .ok setting ∧
      o.name ∉ s.given.map (·.1) ∧ Reads spec (s.given ++ [(o.name, setting)]) words given

theorem ends_of_settle (h : s.settle = .ok s') (hreads : Reads spec s'.given words given) :
    s.Ends spec words given := by
  obtain ⟨pending, before⟩ := s
  cases pending with
  | none =>
    obtain rfl := Except.ok.inj h
    exact hreads
  | some p =>
    obtain ⟨o, value⟩ := p
    cases value with
    | none => cases h
    | some value =>
      obtain ⟨hfresh, setting, hread, rfl⟩ := add_eq_ok_iff.mp h
      exact ⟨setting, hread, hfresh, hreads⟩

theorem ends_of_long (h : s.long spec long = .ok s') (hends : s'.Ends spec rest given) :
    s.Ends spec (("--" ++ String.ofList long) :: rest) given := by
  unfold Scan.long at h
  obtain ⟨name, value, hcut⟩ : ∃ name value, cutValue long = (name, value) := ⟨_, _, rfl⟩
  rw [hcut] at h
  dsimp only at h
  split at h
  · split at h
    · cases h
    · obtain ⟨_, _, h⟩ := bind_eq_ok_iff.mp h
      cases h
  · split at h
    · cases h
    · next o hfound =>
      have hname := List.find?_some hfound
      obtain rfl := eq_of_beq hname
      have hproper := not_mem_of_cutValue hcut
      split at h
      · cases h
      · next setting harity =>
        obtain ⟨s₁, hsettle, hadd⟩ := bind_eq_ok_iff.mp h
        obtain ⟨hfresh, _, hok, rfl⟩ := add_eq_ok_iff.mp hadd
        obtain rfl := Except.ok.inj hok
        rw [cutValue_eq hcut]
        exact ends_of_settle hsettle (.option hfound hproper (.flag harity) hfresh hends)
      · next read value harity =>
        obtain ⟨s₁, hsettle, hadd⟩ := bind_eq_ok_iff.mp h
        obtain ⟨hfresh, setting, hread, rfl⟩ := add_eq_ok_iff.mp hadd
        have hread : o.read value = .ok setting := by
          rw [OptionSpec.read, harity]
          exact hread
        rw [cutValue_eq_some hcut, ← String.append_assoc, ← String.append_assoc]
        exact ends_of_settle hsettle (.option hfound hproper (.joined hread) hfresh hends)
      · next read harity =>
        obtain ⟨s₁, hsettle, rfl⟩ := map_eq_ok_iff.mp h
        obtain ⟨value, tail, setting, rfl, hplain, hread, hfresh, htail⟩ := hends
        rw [cutValue_eq hcut]
        exact ends_of_settle hsettle
          (.option hfound hproper (.spaced hplain hread) hfresh htail)

theorem short_ne_ok {chars : List Char} : s.short chars ≠ .ok s' := by
  intro h
  unfold Scan.short at h
  split at h
  · obtain ⟨_, _, h⟩ := bind_eq_ok_iff.mp h
    cases h
  · cases h

theorem scan_reads (h : scan spec s words = .ok (s', sub)) (hsettle : s'.settle = .ok f) :
    ∃ read, words = read ++ (sub.elim [] fun p => p.1 :: p.2) ∧ s.Ends spec read f.given ∧
      ∀ p ∈ sub, p.1 ∈ spec.subcommands := by
  induction words generalizing s with
  | nil =>
    obtain ⟨rfl, rfl⟩ := Prod.mk.inj (Except.ok.inj h)
    exact ⟨[], rfl, ends_of_settle hsettle .nil, nofun⟩
  | cons word rest ih =>
    unfold scan at h
    split at h
    · next hcommand =>
      obtain ⟨rfl, rfl⟩ := Prod.mk.inj (Except.ok.inj h)
      refine ⟨[], rfl, ends_of_settle hsettle .nil, ?_⟩
      intro p hp
      obtain rfl := Option.some.inj hp
      exact List.contains_iff_mem.mp (Bool.and_eq_true_iff.mp hcommand).2
    · split at h
      · next hword =>
        split at h
        · obtain ⟨rfl, rfl⟩ := Prod.mk.inj (Except.ok.inj h)
          obtain rfl : word = "--" := by rw [← String.toList_inj, hword]; rfl
          exact ⟨["--"], rfl, ends_of_settle hsettle .dashes, nofun⟩
        · cases h
      · next long _ hword =>
        obtain ⟨s₁, hlong, hscan⟩ := bind_eq_ok_iff.mp h
        obtain ⟨read, rfl, hends, hsub⟩ := ih hscan
        rw [eq_of_toList hword]
        exact ⟨_ :: read, rfl, ends_of_long hlong hends, hsub⟩
      · obtain ⟨_, hshort, _⟩ := bind_eq_ok_iff.mp h
        exact absurd hshort short_ne_ok
      · next hdashed _ =>
        split at h
        · next o hpending =>
          obtain ⟨read, rfl, ⟨setting, hread, hfresh, htail⟩, hsub⟩ := ih h
          refine ⟨word :: read, rfl, ?_, hsub⟩
          rw [Scan.Ends, hpending]
          refine ⟨word, read, setting, rfl, fun hdash => ?_, hread, hfresh, htail⟩
          obtain ⟨long, hlong⟩ := toList_of_dashed hdash
          exact hdashed _ hlong
        · cases h

/-! ### What was read -/

theorem Given.append_left (h : Given name value words) (front : List String) :
    Given name value (front ++ words) :=
  h.imp (List.mem_append_right front) fun hinfix =>
    hinfix.trans (List.suffix_append front words).isInfix

theorem Given.append_right (h : Given name value words) (rest : List String) :
    Given name value (words ++ rest) :=
  h.imp (List.mem_append_left rest) fun hinfix =>
    hinfix.trans (List.prefix_append words rest).isInfix

theorem not_given_nil : ¬ Given name value [] := by
  rintro (hmem | hinfix)
  · cases hmem
  · cases List.eq_nil_of_infix_nil hinfix

theorem given_cons_iff : Given name value (word :: rest) ↔
    word = "--" ++ name ++ "=" ++ value ∨ (word = "--" ++ name ∧ [value] <+: rest) ∨
      Given name value rest := by
  rw [Given, Given, List.mem_cons, List.infix_cons_iff, List.cons_prefix_cons]
  rw [eq_comm (a := word), eq_comm (a := word)]
  tauto

theorem dashes_inj {a b : String} (h : "--" ++ a = "--" ++ b) : a = b := by
  rw [← String.toList_inj] at h ⊢
  simpa using h

theorem joined_ne {a b value : String} (h : '=' ∉ a.toList) :
    "--" ++ a ≠ "--" ++ b ++ "=" ++ value := by
  intro heq
  rw [String.append_assoc, String.append_assoc] at heq
  rw [dashes_inj heq] at h
  simp at h

theorem joined_inj {a b value value' : String} (ha : '=' ∉ a.toList) (hb : '=' ∉ b.toList)
    (h : "--" ++ a ++ "=" ++ value = "--" ++ b ++ "=" ++ value') : a = b ∧ value = value' := by
  have hsame : a ++ "=" ++ value = b ++ "=" ++ value' := by
    refine dashes_inj ?_
    simpa only [String.append_assoc] using h
  have hcut := cutValue_append ha value
  rw [hsame, cutValue_append hb, Prod.mk.injEq, Option.some.injEq] at hcut
  exact ⟨hcut.1.symm, hcut.2.symm⟩

theorem OptionSpec.Stands.sets (h : o.Stands front setting) : o.arity = .flag setting ∨
    ∃ value, Given o.name value front ∧ o.read value = .ok setting := by
  cases h with
  | flag arity => exact .inl arity
  | joined read => exact .inr ⟨_, .inl (List.mem_singleton_self _), read⟩
  | spaced _ read => exact .inr ⟨_, .inr List.infix_rfl, read⟩

theorem eq_of_has {p : OptionSpec} (h : spec.Has o) (h' : spec.Has p) (hname : o.name = p.name) :
    o = p := by
  rw [Spec.Has, hname] at h
  exact Option.some.inj (h.symm.trans h')

namespace Reads

theorem subset (h : Reads spec given words given') : given ⊆ given' := by
  induction h with
  | nil => exact List.Subset.refl _
  | dashes => exact List.Subset.refl _
  | option _ _ _ _ _ ih => exact fun _ hg => ih (List.mem_append_left _ hg)

theorem nodup (h : Reads spec given words given') (hnodup : (given.map (·.1)).Nodup) :
    (given'.map (·.1)).Nodup := by
  induction h with
  | nil => exact hnodup
  | dashes => exact hnodup
  | option _ _ _ fresh _ ih =>
    refine ih ?_
    rw [List.map_append]
    exact hnodup.append (List.nodup_singleton _) (List.disjoint_singleton.mpr fresh)

/-- Every setting is that of an option, and stands in the words unless it is a flag's. -/
theorem sound (h : Reads spec given words given') {g : String × Setting} (hg : g ∈ given') :
    g ∈ given ∨ ∃ o, spec.Has o ∧ o.name = g.1 ∧
      (o.arity = .flag g.2 ∨ ∃ value, Given o.name value words ∧ o.read value = .ok g.2) := by
  induction h with
  | nil => exact .inl hg
  | dashes => exact .inl hg
  | option has _ stands _ _ ih =>
    rcases ih hg with hbefore | ⟨o, ho, hname, hsetting⟩
    · rcases List.mem_append.mp hbefore with hbefore | hnow
      · exact .inl hbefore
      · obtain rfl := List.mem_singleton.mp hnow
        refine .inr ⟨_, has, rfl, stands.sets.imp_right ?_⟩
        rintro ⟨value, hgiven, hread⟩
        exact ⟨value, hgiven.append_right _, hread⟩
    · refine .inr ⟨o, ho, hname, hsetting.imp_right ?_⟩
      rintro ⟨value, hgiven, hread⟩
      exact ⟨value, hgiven.append_left _, hread⟩

/-- An option that is given a value has the setting for it, or comes behind the words. -/
theorem complete (h : Reads spec given words given') (hname : name ≠ "")
    (hproper : '=' ∉ name.toList) (hgiven : Given name value (words ++ rest)) :
    (∃ o, spec.Has o ∧ o.name = name ∧ ((∃ setting, o.arity = .flag setting) ∨
      ∃ setting, (name, setting) ∈ given' ∧ o.read value = .ok setting)) ∨
        Given name value rest := by
  induction h with
  | nil => exact .inr hgiven
  | dashes =>
    rcases given_cons_iff.mp hgiven with h | ⟨h, _⟩ | hnext
    · have hplain : '=' ∉ "".toList := by simp
      exact absurd (String.append_empty.trans h) (joined_ne hplain)
    · exact absurd (dashes_inj (String.append_empty.trans h)).symm hname
    · exact .inr hnext
  | option has proper stands _ tail ih =>
    cases stands with
    | flag arity =>
      rcases given_cons_iff.mp hgiven with h | ⟨h, _⟩ | hnext
      · exact absurd h (joined_ne proper)
      · exact .inl ⟨_, has, dashes_inj h, .inl ⟨_, arity⟩⟩
      · exact ih hnext
    | joined hread =>
      rcases given_cons_iff.mp hgiven with h | ⟨h, _⟩ | hnext
      · obtain ⟨rfl, rfl⟩ := joined_inj proper hproper h
        have hmem := tail.subset (List.mem_append_right _ (List.mem_singleton_self _))
        exact .inl ⟨_, has, rfl, .inr ⟨_, hmem, hread⟩⟩
      · exact absurd h.symm (joined_ne hproper)
      · exact ih hnext
    | spaced plain hread =>
      rcases given_cons_iff.mp hgiven with h | ⟨h, hnext⟩ | hnext
      · exact absurd h (joined_ne proper)
      · obtain rfl := dashes_inj h
        obtain rfl := (List.cons_prefix_cons.mp hnext).1
        have hmem := tail.subset (List.mem_append_right _ (List.mem_singleton_self _))
        exact .inl ⟨_, has, rfl, .inr ⟨_, hmem, hread⟩⟩
      · rcases given_cons_iff.mp hnext with h | ⟨h, _⟩ | hnext
        · exact absurd ⟨name ++ "=" ++ value, h.trans (by simp only [String.append_assoc])⟩ plain
        · exact absurd ⟨_, h⟩ plain
        · exact ih hnext

end Reads

/-! ### Commands -/

theorem foldl_apply_eq {α : Type} {field : Settings → α} {pick? : Setting → Option α}
    (hfield : ∀ s v, field (s.apply v) = (pick? v).getD (field s))
    (given : List (String × Setting)) (s : Settings) :
    field (given.foldl (fun s g => s.apply g.2) s) =
      (given.filterMap fun g => pick? g.2).getLast?.getD (field s) := by
  induction given generalizing s with
  | nil => rfl
  | cons g rest ih =>
    rw [List.foldl_cons, ih, hfield, List.filterMap_cons]
    cases hg : pick? g.2 with
    | none => rfl
    | some a =>
      rw [List.getLast?_cons]
      cases (rest.filterMap fun g => pick? g.2).getLast? <;> rfl

theorem getLast?_eq_of_forall {α : Type} {l : List α} {a : α} (hmem : a ∈ l)
    (hall : ∀ b ∈ l, b = a) : l.getLast? = some a := by
  cases hlast : l.getLast? with
  | none => exact absurd (List.getLast?_eq_none_iff.mp hlast) (List.ne_nil_of_mem hmem)
  | some b => rw [hall b (List.mem_of_getLast? hlast)]

theorem eq_of_command {s : Settings} {o : ProbeOptions} (h : s.command name = .ok (.probe o)) :
    name = "probe" := by
  unfold Settings.command at h
  split at h
  · cases h
  · cases h
  · obtain ⟨_, _, h⟩ := bind_eq_ok_iff.mp h
    cases h
  · rfl
  · cases h

/-- A probe has its ports and protocols from the settings. -/
theorem inputs_of_command {s : Settings} {o : ProbeOptions}
    (h : s.command "probe" = .ok (.probe o)) :
    o.inputs.ports = s.ports ∧ o.inputs.protocols = s.protocols := by
  obtain ⟨inputs, hinputs, h⟩ := bind_eq_ok_iff.mp h
  obtain rfl := Command.probe.inj (pure_eq_ok_iff.mp h)
  rw [Settings.inputs?] at hinputs
  split at hinputs
  · cases hinputs
  · obtain rfl := Except.ok.inj hinputs
    exact ⟨rfl, rfl⟩

theorem reads_of_scan (h : scan spec .start words = .ok (s, sub)) (hsettle : s.settle = .ok f) :
    ∃ read, words = read ++ (sub.elim [] fun p => p.1 :: p.2) ∧ Reads spec [] read f.given ∧
      ∀ p ∈ sub, p.1 ∈ spec.subcommands :=
  scan_reads h hsettle

/-- The words of a probe, and what they say. -/
theorem parse_probe {i : Invocation} {o : ProbeOptions} (h : parse words = .ok i)
    (hcommand : i.command = .probe o) :
    ∃ front rest root sub, words = front ++ "probe" :: rest ∧
      Reads rootSpec [] front root ∧ Reads (subSpec "probe") [] rest sub ∧
      ((root ++ sub).foldl (fun s g => s.apply g.2) Settings.standard).command "probe" =
        .ok (.probe o) := by
  obtain ⟨⟨root, next⟩, hscan, h⟩ := bind_eq_ok_iff.mp h
  cases next with
  | none =>
    obtain ⟨_, _, h⟩ := bind_eq_ok_iff.mp h
    cases h
  | some next =>
    obtain ⟨name, rest⟩ := next
    by_cases hhelp : name = "help"
    · subst hhelp
      cases h
    · simp only at h
      obtain ⟨⟨sub, tail⟩, hscan', h⟩ := bind_eq_ok_iff.mp h
      obtain ⟨sub, hsub, h⟩ := bind_eq_ok_iff.mp h
      obtain ⟨_, _, h⟩ := bind_eq_ok_iff.mp h
      obtain ⟨root, hroot, h⟩ := bind_eq_ok_iff.mp h
      obtain ⟨_, hprobe, h⟩ := bind_eq_ok_iff.mp h
      obtain rfl := pure_eq_ok_iff.mp h
      obtain rfl : _ = Command.probe o := hcommand
      obtain rfl := eq_of_command hprobe
      obtain ⟨front, rfl, hfront, _⟩ := reads_of_scan hscan hroot
      obtain ⟨read, rfl, hread, hnone⟩ := reads_of_scan hscan' hsub
      have htail : tail = none := by
        refine Option.eq_none_iff_forall_not_mem.mpr fun p hp => ?_
        exact absurd (hnone p hp) List.not_mem_nil
      subst htail
      refine ⟨front, _, root.given, sub.given, rfl, hfront, ?_, hprobe⟩
      rw [Option.elim_none, List.append_nil]
      exact hread

theorem checked_eq_ok_iff {α ε : Type} {parseValue : String → Except ε α} {make : α → Setting} :
    checked parseValue make value = .ok setting ↔
      ∃ a, parseValue value = .ok a ∧ make a = setting := by
  rw [checked]
  cases parseValue value <;> simp

/-- Whether the option can come to the setting. -/
def OptionSpec.Sets (o : OptionSpec) (setting : Setting) : Prop :=
  o.arity = .flag setting ∨ ∃ value, o.read value = .ok setting

/-- The name of the option that a setting is for. -/
def Setting.option : Setting → String
  | .logLevel _ => "log-level"
  | .logFormat _ => "log-format"
  | .resources _ => "resources"
  | .policies _ => "policies"
  | .ports _ => "port"
  | .protocols _ => "protocol"
  | .ignoreLoopback => "ignore-loopback"
  | .explain => "explain"
  | .directions => "directions"
  | .noisy => "noisy"
  | .mode _ => "mode"
  | .concurrency _ => "concurrency"
  | .jobTimeoutMs _ => "job-timeout-ms"
  | .connectTimeoutMs _ => "connect-timeout-ms"
  | .retries _ => "retries"
  | .retryBackoffMs _ => "retry-backoff-ms"
  | .kubectl _ => "kubectl"
  | .kubeContext _ => "kube-context"
  | .clusterDomain _ => "cluster-domain"

/-- All settings of the option are for the name of the option. -/
def OptionSpec.Own (o : OptionSpec) : Prop := ∀ setting, o.Sets setting → setting.option = o.name

theorem own_flag (h : setting.option = name) : OptionSpec.Own ⟨name, .flag setting⟩ := by
  rintro _ (hflag | ⟨_, hread⟩)
  · rw [← Arity.flag.inj hflag]
    exact h
  · cases hread

theorem own_value {read : String → Except UsageError Setting}
    (h : ∀ value setting, read value = .ok setting → setting.option = name) :
    OptionSpec.Own ⟨name, .value read⟩ := by
  rintro setting (hflag | ⟨value, hread⟩)
  · cases hflag
  · exact h value setting hread

theorem own_checked {α ε : Type} {parseValue : String → Except ε α} {make : α → Setting}
    (h : ∀ a, (make a).option = name) :
    OptionSpec.Own ⟨name, .value (checked parseValue make)⟩ := by
  refine own_value fun value setting hread => ?_
  obtain ⟨a, _, rfl⟩ := checked_eq_ok_iff.mp hread
  exact h a

theorem own_numeric {α : Type} {parseValue : String → Option α} {make : α → Setting}
    (h : ∀ a, (make a).option = name) :
    OptionSpec.Own ⟨name, .value (numeric parseValue make)⟩ := by
  refine own_value fun value setting hread => ?_
  rw [numeric] at hread
  split at hread
  · rw [← Except.ok.inj hread]
    exact h _
  · cases hread

theorem own_path {make : String → Setting} (h : ∀ s, (make s).option = name) :
    OptionSpec.Own ⟨name, .value (path make)⟩ := by
  refine own_value fun value setting hread => ?_
  rw [path] at hread
  split at hread
  · cases hread
  · rw [← Except.ok.inj hread]
    exact h _

theorem own_text {make : String → Setting} (h : ∀ s, (make s).option = name) :
    OptionSpec.Own ⟨name, .value fun s => .ok (make s)⟩ := by
  refine own_value fun value setting hread => ?_
  rw [← Except.ok.inj hread]
  exact h value

theorem own_of_mem : ∀ o ∈ (subSpec "probe").options, o.Own := by
  simp only [subSpec, probeOptions, inputOptions, globalOptions, List.cons_append, List.nil_append,
    List.forall_mem_cons]
  exact ⟨own_path fun _ => rfl, own_path fun _ => rfl, own_checked fun _ => rfl,
    own_checked fun _ => rfl, own_flag rfl, own_checked fun _ => rfl, own_numeric fun _ => rfl,
    own_numeric fun _ => rfl, own_numeric fun _ => rfl, own_numeric fun _ => rfl,
    own_numeric fun _ => rfl, own_path fun _ => rfl, own_text fun _ => rfl, own_text fun _ => rfl,
    own_flag rfl, own_text fun _ => rfl, own_checked fun _ => rfl, List.forall_mem_nil _⟩

/-- The option of a probe with that name, and no other, decides about the field. -/
structure Decides {α ε : Type} (name : String) (parseValue : String → Except ε α)
    (make : α → Setting) (pick? : Setting → Option α) (field : Settings → α) : Prop where
  named : name ≠ "" ∧ '=' ∉ name.toList
  foreign : ∀ o ∈ rootSpec.options, o.name ≠ name
  has : (subSpec "probe").Has ⟨name, .value (checked parseValue make)⟩
  only : ∀ v a, pick? v = some a → v.option = name
  pick_make : ∀ a, pick? (make a) = some a
  field_apply : ∀ s v, field (s.apply v) = (pick? v).getD (field s)

section Decides

variable {α ε : Type} {parseValue : String → Except ε α} {make : α → Setting}
  {pick? : Setting → Option α} {field : Settings → α} {front : List String}
  {root : List (String × Setting)} {g : String × Setting} {a : α}

theorem Spec.Has.mem (h : spec.Has o) : o ∈ spec.options := List.mem_of_find?_eq_some h

/-- A setting that decides about the field comes from a value in the words behind the command. -/
theorem Decides.value_of_mem (h : Decides name parseValue make pick? field)
    (hroot : Reads rootSpec [] front root) (hsub : Reads (subSpec "probe") [] rest given)
    (hg : g ∈ root ++ given) (ha : pick? g.2 = some a) :
    g ∈ given ∧ g.1 = name ∧ ∃ value, Given name value rest ∧ parseValue value = .ok a := by
  rcases List.mem_append.mp hg with hg | hg
  · rcases hroot.sound hg with hnil | ⟨o, ho, _, hset⟩
    · cases hnil
    · have hsets : o.Sets g.2 := hset.imp_right fun ⟨value, _, hread⟩ => ⟨value, hread⟩
      have hown := own_of_mem o (List.mem_append_right _ ho.mem) g.2 hsets
      exact absurd (hown.symm.trans (h.only g.2 a ha)) (h.foreign o ho.mem)
  · rcases hsub.sound hg with hnil | ⟨o, ho, hname, hset⟩
    · cases hnil
    · have hsets : o.Sets g.2 := hset.imp_right fun ⟨value, _, hread⟩ => ⟨value, hread⟩
      have hown := own_of_mem o ho.mem g.2 hsets
      obtain rfl := eq_of_has ho h.has (hown.symm.trans (h.only g.2 a ha))
      refine ⟨hg, hname.symm, ?_⟩
      rcases hset with hflag | ⟨value, hgiven, hread⟩
      · cases hflag
      · obtain ⟨b, hb, hmake⟩ := checked_eq_ok_iff.mp hread
        rw [← hmake, h.pick_make] at ha
        exact ⟨value, hgiven, hb.trans (congrArg _ (Option.some.inj ha))⟩

theorem Decides.mem_of_given (h : Decides name parseValue make pick? field)
    (hsub : Reads (subSpec "probe") [] rest given) (hgiven : Given name value rest) :
    ∃ a, parseValue value = .ok a ∧ (name, make a) ∈ given := by
  have hwords : Given name value (rest ++ []) := hgiven.append_right []
  rcases hsub.complete h.named.1 h.named.2 hwords with ⟨o, ho, hname, hset⟩ | hnil
  · obtain rfl := eq_of_has ho h.has hname
    rcases hset with ⟨setting, hflag⟩ | ⟨setting, hmem, hread⟩
    · cases hflag
    · obtain ⟨a, ha, rfl⟩ := checked_eq_ok_iff.mp hread
      exact ⟨a, ha, hmem⟩
  · exact absurd hnil not_given_nil

theorem given_of_command (h : Given name value ("probe" :: rest)) : Given name value rest := by
  have hplain : ∀ tail, "probe" ≠ "--" ++ tail := by
    intro tail htail
    have hlist := congrArg String.toList htail
    simp at hlist
  rcases given_cons_iff.mp h with h | ⟨h, _⟩ | h
  · exact absurd (h.trans (by simp only [String.append_assoc])) (hplain (name ++ "=" ++ value))
  · exact absurd h (hplain name)
  · exact h

/-- What the words say of the field, if they say anything. -/
theorem Decides.field_eq (h : Decides name parseValue make pick? field) {i : Invocation}
    {o : ProbeOptions} (hparse : parse words = .ok i) (hcommand : i.command = .probe o) :
    ∃ settings : Settings, settings.command "probe" = .ok (.probe o) ∧
      (∀ s, Given name s words → parseValue s = .ok (field settings)) ∧
      ((∀ s, ¬ Given name s words) → field settings = field Settings.standard) := by
  obtain ⟨front, rest, root, sub, rfl, hroot, hsub, hprobe⟩ := parse_probe hparse hcommand
  refine ⟨_, hprobe, fun s hs => ?_, fun hno => ?_⟩
  · rw [foldl_apply_eq h.field_apply]
    have hrest : Given name s rest := by
      rcases hroot.complete h.named.1 h.named.2 hs with ⟨o, ho, hname, _⟩ | hnext
      · exact absurd hname (h.foreign o ho.mem)
      · exact given_of_command hnext
    obtain ⟨a, ha, hmem⟩ := h.mem_of_given hsub hrest
    have hall : ∀ b ∈ (root ++ sub).filterMap fun g => pick? g.2, b = a := by
      intro b hb
      obtain ⟨g, hg, hpick⟩ := List.mem_filterMap.mp hb
      obtain ⟨hg, hname, _⟩ := h.value_of_mem hroot hsub hg hpick
      have hsame := List.inj_on_of_nodup_map (hsub.nodup List.nodup_nil) hg hmem hname
      rw [hsame, h.pick_make] at hpick
      exact (Option.some.inj hpick).symm
    have hlisted : a ∈ (root ++ sub).filterMap fun g => pick? g.2 :=
      List.mem_filterMap.mpr ⟨_, List.mem_append_right _ hmem, h.pick_make a⟩
    rw [getLast?_eq_of_forall hlisted hall]
    exact ha
  · rw [foldl_apply_eq h.field_apply, List.filterMap_eq_nil_iff.mpr ?_]
    · rfl
    · intro g hg
      cases ha : pick? g.2 with
      | none => rfl
      | some a =>
        obtain ⟨_, _, value, hgiven, _⟩ := h.value_of_mem hroot hsub hg ha
        have hwords := (hgiven.append_left ["probe"]).append_left front
        exact absurd hwords (hno value)

end Decides

def Setting.ports? : Setting → Option (List ProbePort)
  | .ports ps => some ps
  | _ => none

def Setting.protocols? : Setting → Option (List Protocol)
  | .protocols ps => some ps
  | _ => none

theorem decides_ports :
    Decides "port" ProbePort.parseList .ports Setting.ports? Settings.ports := by
  refine ⟨⟨by decide, by decide⟩, by decide, rfl, ?_, fun _ => rfl, ?_⟩
  · intro v ps hpick
    cases v with
    | ports => rfl
    | _ => cases hpick
  · intro s v
    cases v <;> rfl

theorem decides_protocols :
    Decides "protocol" Protocol.parseList .protocols Setting.protocols? Settings.protocols := by
  refine ⟨⟨by decide, by decide⟩, by decide, rfl, ?_, fun _ => rfl, ?_⟩
  · intro v ps hpick
    cases v with
    | protocols => rfl
    | _ => cases hpick
  · intro s v
    cases v <;> rfl

end PolicyReach.CommandLine
