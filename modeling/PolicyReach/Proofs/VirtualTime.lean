import Mathlib
import PolicyReach.Clock

/-!
# Runs in virtual time

A clock decides when attempts begin and end, but it changes the state of a live run by events only.
Whatever the agent does and whenever the run is cancelled, the state in which a run in virtual time
ends is one that the events of the run lead to.
-/
namespace PolicyReach

namespace Live

/-- Some event leads from one state to the other, whatever the agent replies. -/
def Leads (c : LiveConfig) (s u : State) : Prop := ∃ e, next c s e = some u

abbrev Reaches (c : LiveConfig) : State → State → Prop := Relation.ReflTransGen (Leads c)

namespace Clock

variable {c : LiveConfig} {agent : Agent} {cancelAt : Option ℕ} {s : State} {k k' : Clock}

/-- An event that cannot happen changes nothing. -/
theorem apply_reaches (h : Reaches c s k.state) (e : Event) :
    Reaches c s (k.apply c e).state := by
  rw [apply]
  cases hnext : next c k.state e with
  | none => exact h
  | some u => exact h.tail ⟨e, hnext⟩

/-- Waiting changes no state, and going on does what it does after the wait. -/
theorem wait_reaches {goOn : Clock → Clock}
    (hgoOn : ∀ k : Clock, Reaches c s k.state → Reaches c s (goOn k).state)
    (h : Reaches c s k.state) (task : Task) (endsAt : ℕ) :
    Reaches c s (k.wait task endsAt goOn).state := by
  rw [wait]
  cases k.credit with
  | zero => exact h
  | succ credit =>
    by_cases hnow : endsAt ≤ k.now
    · simp only [hnow, if_true]
      exact hgoOn _ h
    · simp only [hnow, if_false]
      exact h

theorem again_reaches (task : Task) (reply : Reply) (k : Clock) (h : Reaches c s k.state) :
    Reaches c s (again c task reply k).state :=
  apply_reaches h _

theorem leave_reaches (h : Reaches c s k.state) : Reaches c s (leave c k).state := by
  rw [leave]
  split
  · exact apply_reaches h .cancel
  · exact h

theorem answer_reaches (task : Task) (reply : Reply) (k : Clock) (h : Reaches c s k.state) :
    Reaches c s (answer c task reply k).state := by
  rw [answer]
  split
  · refine leave_reaches (apply_reaches ?_ _)
    exact h
  · refine wait_reaches (again_reaches task reply) ?_ _ _
    exact h

theorem call_reaches (task : Task) (h : Reaches c s k.state) :
    Reaches c s (call c agent k task).state := by
  rw [call]
  split
  · exact answer_reaches _ _ _ h
  · refine wait_reaches (answer_reaches task _) ?_ _ _
    exact h

theorem poll_reaches (task : Task) (h : Reaches c s k.state) :
    Reaches c s (poll c agent k task).state := by
  rw [poll]
  split
  · exact call_reaches task h
  · exact wait_reaches (answer_reaches task _) h _ _
  · exact wait_reaches (again_reaches task _) h _ _

theorem advance_reaches (h : Reaches c s k.state) (hadvance : advance c cancelAt k = some k') :
    Reaches c s k'.state := by
  obtain ⟨time, _, rfl⟩ := Option.map_eq_some_iff.mp hadvance
  split
  · exact apply_reaches h .cancel
  · exact h

theorem endTurn_reaches (h : Reaches c s k.state) (hend : endTurn c cancelAt k = some k') :
    Reaches c s k'.state := by
  rw [endTurn] at hend
  split at hend
  · obtain rfl := Option.some.inj hend
    exact apply_reaches h .cancel
  · split at hend
    · obtain rfl := Option.some.inj hend
      exact h
    · exact advance_reaches h hend

/-- One step of the clock is a step of the run, several or none. -/
theorem tick_reaches (h : Reaches c s k.state) (htick : tick c agent cancelAt k = some k') :
    Reaches c s k'.state := by
  rw [tick] at htick
  split at htick
  · cases htick
  · split at htick
    · exact endTurn_reaches h htick
    · split at htick
      · next hdispatch =>
        obtain rfl := Option.some.inj htick
        exact h.tail ⟨.dispatch, hdispatch⟩
      · split at htick
        · next task rest _ =>
          obtain rfl := Option.some.inj htick
          exact poll_reaches task h
        · exact endTurn_reaches h htick

theorem ticks_reaches (n : ℕ) (h : Reaches c s k.state) :
    Reaches c s (ticks c agent cancelAt n k).state := by
  induction n generalizing k with
  | zero => exact h
  | succ n ih =>
    rw [ticks]
    split
    · exact h
    · next k' htick => exact ih (tick_reaches h htick)

/-- The clock takes the run where its events may take it. -/
theorem run_reaches (c : LiveConfig) (agent : Agent) (cancelAfter : Option ℕ) (s : State) :
    Reaches c s (run c agent cancelAfter s).state :=
  ticks_reaches _ .refl

end Clock

end Live

end PolicyReach
