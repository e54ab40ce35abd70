/-!
# Finite sets and maps in canonical form

Elements and keys are kept strictly ascending, so that equal sets are equal lists and a set has one
rendering. Strings compare by code point, which is also the order of their UTF-8 bytes.
-/
namespace PolicyReach

structure SortedSet (α : Type) [Ord α] where
  toList : List α
  ascending : toList.Pairwise fun a b => compare a b = .lt

structure SortedMap (α β : Type) [Ord α] where
  toList : List (α × β)
  ascending : toList.Pairwise fun a b => compare a.1 b.1 = .lt

namespace SortedSet

variable {α : Type} [Ord α]

def insertList (a : α) : List α → List α
  | [] => [a]
  | b :: rest =>
    match compare a b with
    | .lt => a :: b :: rest
    | .eq => b :: rest
    | .gt => b :: insertList a rest

theorem mem_of_mem_insertList {a b : α} {l : List α} (h : b ∈ insertList a l) : b = a ∨ b ∈ l := by
  induction l with
  | nil => simpa [insertList] using h
  | cons c rest ih =>
    simp only [insertList] at h
    split at h
    · simpa using h
    · exact .inr h
    · rcases List.mem_cons.mp h with rfl | h
      · simp
      · exact (ih h).imp id (List.mem_cons_of_mem c)

theorem ascending_insertList [Std.TransOrd α] (a : α) {l : List α}
    (h : l.Pairwise fun a b => compare a b = .lt) :
    (insertList a l).Pairwise fun a b => compare a b = .lt := by
  induction l with
  | nil => simp [insertList]
  | cons b rest ih =>
    have ⟨hb, hrest⟩ := List.pairwise_cons.mp h
    simp only [insertList]
    split
    · next hab =>
      refine List.pairwise_cons.mpr ⟨fun c hc => ?_, h⟩
      rcases List.mem_cons.mp hc with rfl | hc
      · exact hab
      · exact Std.TransCmp.lt_trans hab (hb c hc)
    · exact h
    · next hab =>
      refine List.pairwise_cons.mpr ⟨fun c hc => ?_, ih hrest⟩
      rcases mem_of_mem_insertList hc with rfl | hc
      · exact Std.OrientedCmp.lt_of_gt hab
      · exact hb c hc

def empty : SortedSet α := ⟨[], .nil⟩

instance : Inhabited (SortedSet α) := ⟨empty⟩

instance : Membership α (SortedSet α) := ⟨fun s a => a ∈ s.toList⟩

def isEmpty (s : SortedSet α) : Bool := s.toList.isEmpty

def contains [BEq α] (s : SortedSet α) (a : α) : Bool := s.toList.contains a

def insert [Std.TransOrd α] (s : SortedSet α) (a : α) : SortedSet α :=
  ⟨insertList a s.toList, ascending_insertList a s.ascending⟩

def ofList [Std.TransOrd α] (l : List α) : SortedSet α := l.foldl insert empty

def union [Std.TransOrd α] (s t : SortedSet α) : SortedSet α := t.toList.foldl insert s

@[ext]
theorem ext {s t : SortedSet α} (h : s.toList = t.toList) : s = t := by
  cases s; cases t; simp_all

instance [DecidableEq α] : DecidableEq (SortedSet α) := fun s t =>
  decidable_of_iff (s.toList = t.toList) ⟨ext, fun h => h ▸ rfl⟩

/-! ### Elements -/

theorem contains_iff [BEq α] [LawfulBEq α] {s : SortedSet α} {a : α} :
    s.contains a = true ↔ a ∈ s :=
  List.contains_iff_mem

@[simp] theorem not_mem_empty (a : α) : a ∉ (empty : SortedSet α) := List.not_mem_nil

theorem isEmpty_iff {s : SortedSet α} : s.isEmpty = true ↔ s = empty := by
  constructor
  · intro h
    exact ext (List.isEmpty_iff.mp h)
  · rintro rfl
    rfl

variable [Std.TransOrd α] [Std.LawfulEqOrd α]

omit [Std.TransOrd α] in
theorem mem_insertList {a b : α} {l : List α} : b ∈ insertList a l ↔ b = a ∨ b ∈ l := by
  refine ⟨mem_of_mem_insertList, fun h => ?_⟩
  induction l with
  | nil => simpa [insertList] using h
  | cons c rest ih =>
    simp only [insertList]
    split
    · simpa using h
    · next hac =>
      have hac : a = c := Std.LawfulEqOrd.eq_of_compare hac
      rcases h with rfl | h
      · simp [hac]
      · exact h
    · rcases h with h | h
      · exact List.mem_cons_of_mem c (ih (.inl h))
      · rcases List.mem_cons.mp h with rfl | h
        · exact List.mem_cons_self
        · exact List.mem_cons_of_mem c (ih (.inr h))

@[simp] theorem mem_insert {s : SortedSet α} {a b : α} : b ∈ s.insert a ↔ b = a ∨ b ∈ s :=
  mem_insertList

theorem mem_foldl_insert {l : List α} {s : SortedSet α} {a : α} :
    a ∈ l.foldl insert s ↔ a ∈ s ∨ a ∈ l := by
  induction l generalizing s with
  | nil => simp
  | cons b rest ih =>
    rw [List.foldl_cons, ih, mem_insert, List.mem_cons]
    constructor
    · rintro ((h | h) | h)
      · exact .inr (.inl h)
      · exact .inl h
      · exact .inr (.inr h)
    · rintro (h | h | h)
      · exact .inl (.inr h)
      · exact .inl (.inl h)
      · exact .inr h

@[simp] theorem mem_ofList {l : List α} {a : α} : a ∈ ofList l ↔ a ∈ l := by
  simp [ofList, mem_foldl_insert]

@[simp] theorem mem_union {s t : SortedSet α} {a : α} : a ∈ s.union t ↔ a ∈ s ∨ a ∈ t :=
  mem_foldl_insert

omit [Std.LawfulEqOrd α] in
theorem nodup (s : SortedSet α) : s.toList.Nodup :=
  s.ascending.imp fun h heq => by
    subst heq
    simp [Std.ReflCmp.compare_self] at h

omit [Std.LawfulEqOrd α] in
/-- A set has one representation: its elements determine it. -/
theorem ext_mem {s t : SortedSet α} (h : ∀ a, a ∈ s ↔ a ∈ t) : s = t := by
  apply ext
  have hperm : s.toList.Perm t.toList := (List.perm_ext_iff_of_nodup s.nodup t.nodup).mpr h
  refine hperm.eq_of_pairwise (fun a b _ _ hab hba => ?_) s.ascending t.ascending
  have := Std.OrientedCmp.gt_of_lt hab
  simp [hba] at this

omit [Std.LawfulEqOrd α] in
theorem eq_empty_iff {s : SortedSet α} : s = empty ↔ ∀ a, a ∉ s := by
  constructor
  · rintro rfl
    exact not_mem_empty
  · intro h
    exact ext_mem fun a => by simp [h a]

@[simp] theorem union_empty (s : SortedSet α) : s.union empty = s := ext_mem fun a => by simp

@[simp] theorem empty_union (s : SortedSet α) : empty.union s = s := ext_mem fun a => by simp

theorem isEmpty_union (s t : SortedSet α) : (s.union t).isEmpty = (s.isEmpty && t.isEmpty) := by
  rw [Bool.eq_iff_iff, Bool.and_eq_true, isEmpty_iff, isEmpty_iff, isEmpty_iff]
  simp only [eq_empty_iff, mem_union, not_or, forall_and]

end SortedSet

namespace SortedMap

variable {α β : Type} [Ord α]

def insertList (a : α) (v : β) : List (α × β) → List (α × β)
  | [] => [(a, v)]
  | b :: rest =>
    match compare a b.1 with
    | .lt => (a, v) :: b :: rest
    | .eq => (a, v) :: rest
    | .gt => b :: insertList a v rest

theorem mem_of_mem_insertList {a : α} {v : β} {b : α × β} {l : List (α × β)}
    (h : b ∈ insertList a v l) : b = (a, v) ∨ b ∈ l := by
  induction l with
  | nil => simpa [insertList] using h
  | cons c rest ih =>
    simp only [insertList] at h
    split at h
    · simpa using h
    · exact (List.mem_cons.mp h).imp id (List.mem_cons_of_mem c)
    · rcases List.mem_cons.mp h with rfl | h
      · simp
      · exact (ih h).imp id (List.mem_cons_of_mem c)

theorem ascending_insertList [Std.TransOrd α] [Std.LawfulEqOrd α] (a : α) (v : β)
    {l : List (α × β)} (h : l.Pairwise fun a b => compare a.1 b.1 = .lt) :
    (insertList a v l).Pairwise fun a b => compare a.1 b.1 = .lt := by
  induction l with
  | nil => simp [insertList]
  | cons b rest ih =>
    have ⟨hb, hrest⟩ := List.pairwise_cons.mp h
    simp only [insertList]
    split
    · next hab =>
      refine List.pairwise_cons.mpr ⟨fun c hc => ?_, h⟩
      rcases List.mem_cons.mp hc with rfl | hc
      · exact hab
      · exact Std.TransCmp.lt_trans hab (hb c hc)
    · next hab =>
      have hab : a = b.1 := Std.LawfulEqCmp.eq_of_compare hab
      exact List.pairwise_cons.mpr ⟨fun c hc => hab ▸ hb c hc, hrest⟩
    · next hab =>
      refine List.pairwise_cons.mpr ⟨fun c hc => ?_, ih hrest⟩
      rcases mem_of_mem_insertList hc with rfl | hc
      · exact Std.OrientedCmp.lt_of_gt hab
      · exact hb c hc

def empty : SortedMap α β := ⟨[], .nil⟩

instance : Inhabited (SortedMap α β) := ⟨empty⟩

def get? [BEq α] (m : SortedMap α β) (a : α) : Option β := m.toList.lookup a

def contains [BEq α] (m : SortedMap α β) (a : α) : Bool := (m.get? a).isSome

/-- The value inserted last under a key replaces the earlier ones. -/
def insert [Std.TransOrd α] [Std.LawfulEqOrd α] (m : SortedMap α β) (a : α) (v : β) :
    SortedMap α β :=
  ⟨insertList a v m.toList, ascending_insertList a v m.ascending⟩

def ofList [Std.TransOrd α] [Std.LawfulEqOrd α] (l : List (α × β)) : SortedMap α β :=
  l.foldl (fun m e => m.insert e.1 e.2) empty

@[ext]
theorem ext {m n : SortedMap α β} (h : m.toList = n.toList) : m = n := by
  cases m; cases n; simp_all

instance [DecidableEq α] [DecidableEq β] : DecidableEq (SortedMap α β) := fun m n =>
  decidable_of_iff (m.toList = n.toList) ⟨ext, fun h => h ▸ rfl⟩

/-! ### Lookup -/

variable [Std.TransOrd α] [Std.LawfulEqOrd α] [BEq α] [LawfulBEq α]

omit [Std.TransOrd α] in
theorem lookup_insertList {a b : α} {v : β} {l : List (α × β)} :
    (insertList a v l).lookup b = if b == a then some v else l.lookup b := by
  induction l with
  | nil => cases h : b == a <;> simp [insertList, List.lookup_cons, h]
  | cons c rest ih =>
    simp only [insertList]
    split
    · cases h : b == a <;> simp [List.lookup_cons, h]
    · next hac =>
      have hac : a = c.1 := Std.LawfulEqOrd.eq_of_compare hac
      subst hac
      rw [List.lookup_cons, List.lookup_cons]
      cases b == c.1 <;> simp
    · next hac =>
      have hne : a ≠ c.1 := by
        rintro rfl
        simp [Std.ReflCmp.compare_self] at hac
      rw [List.lookup_cons, ih, List.lookup_cons]
      cases h : b == a
      · simp
      · have : (b == c.1) = false := by simpa [eq_of_beq h] using hne
        simp [this]

@[simp] theorem get?_insert {m : SortedMap α β} {a b : α} {v : β} :
    (m.insert a v).get? b = if b == a then some v else m.get? b :=
  lookup_insertList

theorem get?_foldl_insert {l : List (α × β)} {m : SortedMap α β} {a : α}
    (hl : (l.map (·.1)).Nodup) :
    (l.foldl (fun m e => m.insert e.1 e.2) m).get? a = (l.lookup a).or (m.get? a) := by
  induction l generalizing m with
  | nil => simp
  | cons c rest ih =>
    have ⟨hc, hrest⟩ := List.nodup_cons.mp hl
    rw [List.foldl_cons, ih hrest, get?_insert, List.lookup_cons]
    cases h : a == c.1
    · simp
    · have hnone : rest.lookup a = none := by
        rw [List.lookup_eq_none_iff]
        intro e he
        have hne : c.1 ≠ e.1 := fun heq => hc (List.mem_map.mpr ⟨e, he, heq.symm⟩)
        simpa [eq_of_beq h] using hne
      simp [hnone]

/-- Entries with different keys are found as they are listed. -/
theorem get?_ofList {l : List (α × β)} (hl : (l.map (·.1)).Nodup) (a : α) :
    (ofList l).get? a = l.lookup a := by
  rw [ofList, get?_foldl_insert hl]
  simp [get?, empty]

end SortedMap

end PolicyReach
