import BlogApi.Database.Segment

/-! The pool discipline a reader expects of `Database`: one live pool at a time, closed once. The
code guards `connect` and `disconnect` by a check of `self.pool` before an await, with no lock,
so two calls in flight at once break it; and a pool that falls out of `self.pool` unclosed is
never closed afterwards. -/

namespace BlogApi.Database
open World

variable {w w' : World} {i : Nat} {p : Nat}

def NoOrphan (w : World) : Prop := ∀ p < w.created, p ∉ w.closes → w.pool = some p

def Quiet (w : World) : Prop := ∀ t ∈ w.tasks, t.pc.suspended = false

def PoolDiscipline (w : World) : Prop := w.closes.Nodup ∧ (Quiet w → NoOrphan w)

instance (w : World) : Decidable (NoOrphan w) := inferInstanceAs (Decidable (∀ p < _, _))

instance (w : World) : Decidable (Quiet w) := inferInstanceAs (Decidable (∀ t ∈ _, _))

instance (w : World) : Decidable (PoolDiscipline w) := inferInstanceAs (Decidable (_ ∧ _))

/-- Two `connect`s in flight overwrite a pool; two `disconnect`s close one twice; a `connect` during
a `close()` stores a pool the close then clears; a raised `close()` is followed by a second one. -/
theorem pool_discipline_races :
    ¬ PoolDiscipline ((init [[.connect], [.connect]]).run
        [(0, .ok), (1, .ok), (0, .ok), (1, .ok)]) ∧
    ¬ PoolDiscipline ((init [[.connect], [.disconnect], [.disconnect]]).run
        [(0, .ok), (0, .ok), (1, .ok), (2, .ok), (1, .ok), (2, .ok)]) ∧
    ¬ PoolDiscipline ((init [[.connect], [.connect], [.disconnect]]).run
        [(0, .ok), (1, .ok), (0, .ok), (2, .ok), (1, .ok), (2, .ok)]) ∧
    ¬ PoolDiscipline ((init [lifespan, [.disconnect]]).run
        [(0, .ok), (0, .ok), (0, .ok), (0, .raise), (1, .ok), (1, .ok)]) := by
  decide

def Retired (p : Nat) (w : World) : Prop := p < w.created ∧ w.pool ≠ some p

theorem Retired.segment (hw : Retired p w) (h : Segment w i w') : Retired p w' := by
  obtain ⟨hlt, hne⟩ := hw
  cases h with
  | created => exact ⟨by simp; omega, by simp; omega⟩
  | closed => exact ⟨by simpa using hlt, by simp⟩
  | _ => simpa using And.intro hlt hne

def Orphaned (w : World) (p : Nat) : Prop := p < w.created ∧ p ∉ w.closes ∧ w.pool ≠ some p

instance (w : World) (p : Nat) : Decidable (Orphaned w p) := inferInstanceAs (Decidable (_ ∧ _))

theorem orphaned_segment (hp : Orphaned w p) (h : Segment w i w') : Orphaned w' p := by
  obtain ⟨hc, hcl, hs⟩ := hp
  obtain ⟨hc', hs'⟩ := Retired.segment ⟨hc, hs⟩ h
  refine ⟨hc', ?_, hs'⟩
  cases h with
  | beginClose _ hq => simpa using ⟨fun he => hs (he ▸ hq), hcl⟩
  | _ => simpa using hcl

/-- A leaked pool stays leaked: whatever runs next, no `close()` is ever called on it and
`self.pool` never holds it again. -/
theorem orphaned_run (sched : List (Nat × Outcome)) (hp : Orphaned w p) :
    Orphaned (w.run sched) p :=
  run_inv (P := (Orphaned · p)) (fun _ _ _ h hs => orphaned_segment h hs) w sched hp

theorem orphaned_run_race :
    Orphaned ((init [[.connect], [.connect], lifespan]).run
      [(0, .ok), (1, .ok), (0, .ok), (1, .ok)]) 0 ∧
    Orphaned (((init [[.connect], [.connect], lifespan]).run
      [(0, .ok), (1, .ok), (0, .ok), (1, .ok)]).run [(2, .ok), (2, .ok), (2, .ok)]) 0 :=
  ⟨by decide, orphaned_run [(2, .ok), (2, .ok), (2, .ok)] (by decide)⟩

end BlogApi.Database
