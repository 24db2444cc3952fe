import BlogApi.Database.World

/-! What one step of the event loop can do, said once. `Segment w i w'` lists the paths through
`connect`, `disconnect` and `connection` between two awaits; `step_segment` unfolds `World.step`
into them, and `run_inv`, `run_inv_along` lift a property kept by every segment to every run. -/

namespace BlogApi.Database
open World

variable {w w' : World} {i j : Nat} {t : Task}

/-- One atomic segment of coroutine `i`, from `w` to the world after it. -/
inductive Segment (w : World) (i : Nat) : World → Prop
  | beginCreate {c rest} (ht : w.tasks[i]? = some ⟨.ready, c :: rest⟩) (hc : c ≠ .disconnect)
      (hp : w.pool = none) : Segment w i (w.setTask i ⟨.awaitCreate c, rest⟩)
  | connected {c rest p} (ht : w.tasks[i]? = some ⟨.ready, c :: rest⟩) (hc : c ≠ .disconnect)
      (hp : w.pool = some p) :
      Segment w i ((w.finish c (connectedResult c (some p))).setTask i ⟨.ready, rest⟩)
  | beginClose {rest p} (ht : w.tasks[i]? = some ⟨.ready, .disconnect :: rest⟩)
      (hp : w.pool = some p) :
      Segment w i ({ w with closes := p :: w.closes }.setTask i ⟨.awaitClose p, rest⟩)
  | noPool {rest} (ht : w.tasks[i]? = some ⟨.ready, .disconnect :: rest⟩) (hp : w.pool = none) :
      Segment w i ((w.finish .disconnect .returned).setTask i ⟨.ready, rest⟩)
  | created {c rest} (ht : w.tasks[i]? = some ⟨.awaitCreate c, rest⟩) :
      Segment w i (({ w with pool := some w.created, created := w.created + 1 }.finish c
        (connectedResult c (some w.created))).setTask i ⟨.ready, rest⟩)
  | createRaised {c rest} (ht : w.tasks[i]? = some ⟨.awaitCreate c, rest⟩) :
      Segment w i ((w.finish c .createRaised).setTask i ⟨.raised, []⟩)
  | closed {p rest} (ht : w.tasks[i]? = some ⟨.awaitClose p, rest⟩) :
      Segment w i (({ w with pool := none }.finish .disconnect .returned).setTask i ⟨.ready, rest⟩)
  | closeRaised {p rest} (ht : w.tasks[i]? = some ⟨.awaitClose p, rest⟩) :
      Segment w i ((w.finish .disconnect (.closeRaised p)).setTask i ⟨.raised, []⟩)

theorem step_segment (w : World) (i : Nat) (o : Outcome) :
    w.step i o = w ∨ Segment w i (w.step i o) := by
  cases ht : w.tasks[i]? with
  | none => exact .inl (by simp [step, ht])
  | some t =>
    obtain ⟨pc, todo⟩ := t
    cases pc with
    | ready =>
      cases todo with
      | nil => exact .inl (by simp [step, ht])
      | cons c rest =>
        refine .inr ?_
        by_cases hc : c = .disconnect
        · subst hc
          rw [step_disconnect ht]
          cases hp : w.pool with
          | none => simpa only [disconnect, hp] using Segment.noPool ht hp
          | some p => simpa only [disconnect, hp] using Segment.beginClose ht hp
        · rw [step_start ht hc]
          cases hp : w.pool with
          | none => simpa only [connect, hp] using Segment.beginCreate ht hc hp
          | some p => simpa only [connect, afterConnect, hp] using Segment.connected ht hc hp
    | awaitCreate c =>
      rw [step_awaitCreate ht]
      cases o
      exacts [.inr (.created ht), .inr (.createRaised ht)]
    | awaitClose p =>
      rw [step_awaitClose ht]
      cases o
      exacts [.inr (.closed ht), .inr (.closeRaised ht)]
    | raised => exact .inl (by simp [step, ht])

theorem Segment.lt_length (h : Segment w i w') : i < w.tasks.length := by
  cases h <;> exact (List.getElem?_eq_some_iff.mp ‹_›).1

theorem Segment.pcAt_ne (h : Segment w i w') (hj : j ≠ i) : w'.pcAt j = w.pcAt j := by
  cases h <;> simp [pcAt, List.getElem?_set_ne (Ne.symm hj)]

@[simp]
theorem pcAt_setTask_self (hi : i < w.tasks.length) (t : Task) : (w.setTask i t).pcAt i = t.pc := by
  simp [pcAt, hi]

theorem pcAt_of_getElem? (ht : w.tasks[i]? = some t) : w.pcAt i = t.pc := by
  simp [pcAt, ht]

theorem Segment.length_eq (h : Segment w i w') : w'.tasks.length = w.tasks.length := by
  cases h <;> simp

theorem Segment.closes_mono (h : Segment w i w') {p : Nat} (hp : p ∈ w.closes) : p ∈ w'.closes := by
  cases h <;> simp [hp]

theorem Segment.stored_lt (h : Segment w i w') (hs : ∀ p, w.pool = some p → p < w.created) :
    ∀ p, w'.pool = some p → p < w'.created := by
  cases h with
  | created | closed => simp
  | _ => simpa using hs

theorem Segment.closes_lt (h : Segment w i w') (hs : ∀ p, w.pool = some p → p < w.created)
    (hl : ∀ p ∈ w.closes, p < w.created) : ∀ p ∈ w'.closes, p < w'.created := by
  cases h with
  | beginClose _ hp => simpa [hs _ hp] using hl
  | created => exact fun p hp => Nat.lt_succ_of_lt (hl p (by simpa using hp))
  | _ => simpa using hl

theorem run_inv {P : World → Prop} (hstep : ∀ w i w', P w → Segment w i w' → P w') :
    ∀ (w : World) (sched : List (Nat × Outcome)), P w → P (w.run sched)
  | _, [], hw => hw
  | w, (i, o) :: s, hw => by
    refine run_inv hstep (w.step i o) s ?_
    rcases step_segment w i o with h | h
    · rwa [h]
    · exact hstep w i _ hw h

theorem run_inv_along {P Q : World → Prop}
    (hstep : ∀ w i w', Q w → Q w' → P w → Segment w i w' → P w') :
    ∀ (w : World) (sched : List (Nat × Outcome)), (∀ v ∈ w.trace sched, Q v) → P w →
      P (w.run sched)
  | _, [], _, hw => hw
  | w, (i, o) :: s, hQ, hw => by
    have hQ' : ∀ v ∈ (w.step i o).trace s, Q v := fun v hv => hQ v (List.mem_cons_of_mem _ hv)
    refine run_inv_along hstep (w.step i o) s hQ' ?_
    rcases step_segment w i o with h | h
    · rwa [h]
    · exact hstep w i _ (hQ w (by simp [trace])) (hQ' _ (List.mem_of_mem_head? (head?_trace _ s))) hw h

theorem run_append : ∀ (w : World) (s s' : List (Nat × Outcome)), w.run (s ++ s') = (w.run s).run s'
  | _, [], _ => rfl
  | w, (i, o) :: s, s' => run_append (w.step i o) s s'

theorem run_take_succ {sched : List (Nat × Outcome)} {k : Nat} {o : Outcome} (w : World)
    (hk : sched[k]? = some (i, o)) : w.run (sched.take (k + 1)) = (w.run (sched.take k)).step i o := by
  rw [List.take_succ, hk, run_append]
  rfl

theorem run_becomes {P : World → Prop} : ∀ (w : World) (sched : List (Nat × Outcome)),
    ¬ P w → P (w.run sched) →
      ∃ k i o, sched[k]? = some (i, o) ∧ ¬ P (w.run (sched.take k)) ∧ P ((w.run (sched.take k)).step i o)
  | _, [], hw, h => absurd h hw
  | w, (i, o) :: s, hw, h => by
    by_cases hs : P (w.step i o)
    · exact ⟨0, i, o, by simp, hw, hs⟩
    · obtain ⟨k, j, o', hk, h1, h2⟩ := run_becomes (w.step i o) s hs h
      exact ⟨k + 1, j, o', by simpa using hk, h1, h2⟩

theorem run_of_step {P : World → Prop} (hstep : ∀ w i w', P w → Segment w i w' → P w')
    {sched : List (Nat × Outcome)} {k : Nat} {o : Outcome} (hk : sched[k]? = some (i, o))
    (h : P ((w.run (sched.take k)).step i o)) : P (w.run sched) := by
  rw [← List.take_append_drop (k + 1) sched, run_append, run_take_succ w hk]
  exact run_inv hstep _ _ h

end BlogApi.Database
