import BlogApi.Database.Serial

/-! What `Database` is for, said without coroutines: one pool at a time, opened and closed in turn.
`Phase.Step` is that lifecycle, each move labelled by what the code does (`Move`): a `connect` or a
`disconnect` starts, or the await of `create_pool` or of `close()` ends with its outcome.
`World.phase` reads the lifecycle off a world and `World.move` the label off the coroutine that
runs; in a run with at most one call in flight, every step is the move its label names. `stale p`
is a pool left in `self.pool` by a raised `close()`. -/

namespace BlogApi.Database
open World

variable {w w' : World} {i j : Nat} {o : Outcome}

inductive Phase
  | idle
  | opening
  | live (p : Nat)
  | stale (p : Nat)
  | closing (p : Nat)
  deriving DecidableEq, Repr

def Phase.stored : Phase → Option Nat
  | .idle | .opening => none
  | .live p | .stale p | .closing p => some p

inductive Move
  | connect
  | disconnect
  | created (o : Outcome)
  | closed (o : Outcome)
  | skip
  deriving DecidableEq, Repr

inductive Phase.Step : Phase → Move → Phase → Prop
  | open : Step .idle .connect .opening
  | reuse {ph p} (h : ph.stored = some p) : Step ph .connect ph
  | close (p : Nat) : Step (.live p) .disconnect (.closing p)
  | reclose (p : Nat) : Step (.stale p) .disconnect (.closing p)
  | noPool {ph} (h : ph.stored = none) : Step ph .disconnect ph
  | opened (p : Nat) : Step .opening (.created .ok) (.live p)
  | openRaised : Step .opening (.created .raise) .idle
  | closed (p : Nat) : Step (.closing p) (.closed .ok) .idle
  | closeRaised (p : Nat) : Step (.closing p) (.closed .raise) (.stale p)
  | skip {ph} : Step ph .skip ph

def World.move (w : World) (i : Nat) (o : Outcome) : Move :=
  match w.tasks[i]? with
  | some ⟨.ready, .disconnect :: _⟩ => .disconnect
  | some ⟨.ready, _ :: _⟩ => .connect
  | some ⟨.awaitCreate _, _⟩ => .created o
  | some ⟨.awaitClose _, _⟩ => .closed o
  | _ => .skip

def World.inFlight (w : World) : Option Pc := (w.tasks.map Task.pc).find? Pc.suspended

def poolPhase : Option Nat → List Nat → Phase
  | none, _ => .idle
  | some p, closes => if p ∈ closes then .stale p else .live p

def World.phase (w : World) : Phase :=
  match w.inFlight with
  | some (.awaitCreate _) => .opening
  | some (.awaitClose p) => .closing p
  | _ => poolPhase w.pool w.closes

theorem inFlight_of_suspended (hs : Serial w) (hj : (w.pcAt j).suspended) :
    w.inFlight = some (w.pcAt j) := by
  have hmem : w.pcAt j ∈ w.tasks.map Task.pc := by
    have hl := lt_length_of_suspended hj
    simp only [List.mem_map]
    exact ⟨w.tasks[j], List.getElem_mem hl, by simp [pcAt, hl]⟩
  cases hf : w.inFlight with
  | none => exact absurd (List.find?_eq_none.mp hf _ hmem) (by simpa using hj)
  | some pc =>
    have hsus : pc.suspended := List.find?_some hf
    obtain ⟨k, hk⟩ := List.mem_iff_getElem?.mp (List.mem_of_find?_eq_some hf)
    have hpk : w.pcAt k = pc := by simpa [pcAt, List.getElem?_map] using congrArg (·.getD .ready) hk
    have hkj : k = j := hs.eq (by rwa [hpk]) hj
    rw [← hpk, hkj]

theorem inFlight_of_quiet (hq : ∀ j, (w.pcAt j).suspended = false) : w.inFlight = none := by
  simp only [inFlight, List.find?_eq_none, List.mem_map]
  rintro _ ⟨t, ht, rfl⟩
  obtain ⟨k, hk⟩ := List.mem_iff_getElem?.mp ht
  simpa [pcAt_of_getElem? hk] using hq k

theorem inFlight_congr (hs : Serial w) (hs' : Serial w') (h : ∀ j, w'.pcAt j = w.pcAt j) :
    w'.inFlight = w.inFlight := by
  by_cases hq : ∃ j, (w.pcAt j).suspended
  · obtain ⟨j, hj⟩ := hq
    rw [inFlight_of_suspended hs hj, inFlight_of_suspended hs' (by rwa [h]), h]
  · simp only [not_exists, Bool.not_eq_true] at hq
    rw [inFlight_of_quiet hq, inFlight_of_quiet (by simpa [h] using hq)]

theorem quiet_of_only {u v : World} (hs : Serial u) (hu : (u.pcAt i).suspended)
    (hv : (v.pcAt i).suspended = false) (hframe : ∀ j ≠ i, v.pcAt j = u.pcAt j) :
    ∀ j, (v.pcAt j).suspended = false := by
  intro j
  rcases eq_or_ne j i with rfl | hji
  · exact hv
  · rw [hframe j hji]
    cases hj : (u.pcAt j).suspended
    · rfl
    · exact absurd (hs.eq hj hu) hji

theorem phase_of_awaitCreate (hs : Serial w) {c : Call} (hj : w.pcAt j = .awaitCreate c) :
    w.phase = .opening := by
  simp [phase, inFlight_of_suspended hs (by simp [hj] : (w.pcAt j).suspended), hj]

theorem phase_of_awaitClose (hs : Serial w) {p : Nat} (hj : w.pcAt j = .awaitClose p) :
    w.phase = .closing p := by
  simp [phase, inFlight_of_suspended hs (by simp [hj] : (w.pcAt j).suspended), hj]

theorem phase_of_quiet (hq : ∀ j, (w.pcAt j).suspended = false) :
    w.phase = poolPhase w.pool w.closes := by
  simp [phase, inFlight_of_quiet hq]

theorem stored_phase (hs : Serial w) (hw : OneLivePool w) : w.phase.stored = w.pool := by
  by_cases hq : ∃ j, (w.pcAt j).suspended
  · obtain ⟨j, hj⟩ := hq
    cases hpc : w.pcAt j with
    | awaitCreate c => rw [phase_of_awaitCreate hs hpc, hw.creating j c hpc]; rfl
    | awaitClose p => rw [phase_of_awaitClose hs hpc, (hw.closing j p hpc).1]; rfl
    | ready | raised => simp [hpc] at hj
  · simp only [not_exists, Bool.not_eq_true] at hq
    rw [phase_of_quiet hq]
    cases w.pool with
    | none => rfl
    | some p => simp only [poolPhase]; split <;> rfl

theorem phase_of_start (h : Segment w i w') (hs' : Serial w') (hu : (w'.pcAt i).suspended)
    (hv : (w.pcAt i).suspended = false) : w.phase = poolPhase w.pool w.closes :=
  phase_of_quiet (quiet_of_only hs' hu hv fun _ hj => (h.pcAt_ne hj).symm)

section Step
variable (hs : Serial w) (hw : OneLivePool w)
include hs

theorem phase_of_resume (h : Segment w i w') (hu : (w.pcAt i).suspended)
    (hv : (w'.pcAt i).suspended = false) : w'.phase = poolPhase w'.pool w'.closes :=
  phase_of_quiet (quiet_of_only hs hu hv fun _ hj => h.pcAt_ne hj)

theorem phase_of_keep (h : Segment w i w') (hs' : Serial w') (he : w'.pcAt i = w.pcAt i)
    (hp : w'.pool = w.pool) (hc : w'.closes = w.closes) : w'.phase = w.phase := by
  have hall : ∀ j, w'.pcAt j = w.pcAt j := fun j => by
    rcases eq_or_ne j i with rfl | hji
    exacts [he, h.pcAt_ne hji]
  simp only [phase, inFlight_congr hs hs' hall, hp, hc]

include hw

theorem phase_step (hs' : Serial (w.step i o)) :
    Phase.Step w.phase (w.move i o) (w.step i o).phase := by
  cases ht : w.tasks[i]? with
  | none => simpa [World.move, step, ht] using Phase.Step.skip
  | some t =>
    obtain ⟨pc, todo⟩ := t
    have hi : i < w.tasks.length := (List.getElem?_eq_some_iff.mp ht).1
    have hpc : w.pcAt i = pc := pcAt_of_getElem? ht
    cases pc with
    | ready =>
      cases todo with
      | nil => simpa [World.move, step, ht] using Phase.Step.skip
      | cons c rest =>
        by_cases hc : c = .disconnect
        · subst hc
          rw [show w.move i o = .disconnect by simp [World.move, ht], step_disconnect ht] at *
          cases hp : w.pool with
          | none =>
            simp only [disconnect, hp] at hs' ⊢
            rw [phase_of_keep hs (.noPool ht hp) hs' (by simp [hi, hpc]) (by simp) (by simp)]
            exact .noPool (by rw [stored_phase hs hw, hp])
          | some p =>
            simp only [disconnect, hp] at hs' ⊢
            rw [phase_of_start (.beginClose ht hp) hs' (by simp [hi]) (by simp [hpc]), hp,
              phase_of_awaitClose hs' (pcAt_setTask_self hi _), poolPhase]
            split
            exacts [.reclose p, .close p]
        · rw [show w.move i o = .connect by cases c <;> simp_all [World.move], step_start ht hc] at *
          cases hp : w.pool with
          | none =>
            simp only [connect, hp] at hs' ⊢
            rw [phase_of_start (.beginCreate ht hc hp) hs' (by simp [hi]) (by simp [hpc]), hp,
              phase_of_awaitCreate hs' (pcAt_setTask_self hi _)]
            exact .open
          | some p =>
            simp only [connect, afterConnect, hp] at hs' ⊢
            rw [phase_of_keep hs (.connected ht hc hp) hs' (by simp [hi, hpc]) (by simp) (by simp)]
            exact .reuse (by rw [stored_phase hs hw, hp])
    | awaitCreate c =>
      rw [show w.move i o = .created o by simp [World.move, ht], step_awaitCreate ht,
        phase_of_awaitCreate hs hpc]
      cases o with
      | ok =>
        have h : Segment w i (w.resumeCreate i c todo .ok) := .created ht
        rw [phase_of_resume hs h (by simp [hpc]) (by simp [resumeCreate, afterConnect, hi])]
        have hfresh : w.created ∉ w.closes := fun hm => lt_irrefl _ (hw.closes_lt _ hm)
        simp only [resumeCreate, afterConnect, setTask_pool, finish_pool, setTask_closes,
          finish_closes, poolPhase, hfresh, if_false]
        exact .opened _
      | raise =>
        have h : Segment w i (w.resumeCreate i c todo .raise) := .createRaised ht
        rw [phase_of_resume hs h (by simp [hpc]) (by simp [resumeCreate, hi])]
        simp only [resumeCreate, setTask_pool, finish_pool, hw.creating i c hpc, poolPhase]
        exact .openRaised
    | awaitClose p =>
      rw [show w.move i o = .closed o by simp [World.move, ht], step_awaitClose ht,
        phase_of_awaitClose hs hpc]
      cases o with
      | ok =>
        have h : Segment w i (w.resumeClose i p todo .ok) := .closed ht
        rw [phase_of_resume hs h (by simp [hpc]) (by simp [resumeClose, hi])]
        exact .closed p
      | raise =>
        have h : Segment w i (w.resumeClose i p todo .raise) := .closeRaised ht
        rw [phase_of_resume hs h (by simp [hpc]) (by simp [resumeClose, hi])]
        obtain ⟨hp, hm⟩ := hw.closing i p hpc
        simp only [resumeClose, setTask_pool, finish_pool, setTask_closes, finish_closes, hp,
          poolPhase, hm, if_true]
        exact .closeRaised p
    | raised => simpa [World.move, step, ht] using Phase.Step.skip

end Step

theorem OneLivePool.step (hs : Serial w) (hs' : Serial (w.step i o)) (hw : OneLivePool w) :
    OneLivePool (w.step i o) := by
  rcases step_segment w i o with h | h
  · rwa [h]
  · exact oneLivePool_segment hs hs' hw h

theorem trace_phase_step : ∀ (w : World) (sched : List (Nat × Outcome)),
    (∀ v ∈ w.trace sched, Serial v) → OneLivePool w → ∀ k i o, sched[k]? = some (i, o) →
      Phase.Step (w.run (sched.take k)).phase ((w.run (sched.take k)).move i o)
        ((w.run (sched.take k)).step i o).phase
  | _, [], _, _, _, _, _, hk => by simp at hk
  | w, (j, o') :: s, hQ, hw, k, i, o, hk => by
    have hs : Serial w := hQ w (by simp [trace])
    have hQ' : ∀ v ∈ (w.step j o').trace s, Serial v := fun v hv => hQ v (List.mem_cons_of_mem _ hv)
    have hs' : Serial (w.step j o') := hQ' _ (List.mem_of_mem_head? (head?_trace _ s))
    cases k with
    | zero =>
      obtain ⟨rfl, rfl⟩ : j = i ∧ o' = o := by simpa using hk
      exact phase_step hs hw hs'
    | succ k => exact trace_phase_step _ s hQ' (hw.step hs hs') k i o (by simpa using hk)

/-- With at most one call of `connect` or `disconnect` in flight at a time, a run is a run of the
lifecycle from `idle`, each step the move its label names. -/
theorem serial_run_lifecycle (clients : List (List Call)) (sched : List (Nat × Outcome))
    (hserial : ∀ v ∈ (init clients).trace sched, Serial v) :
    (init clients).phase = .idle ∧
      ∀ k i o, sched[k]? = some (i, o) →
        Phase.Step ((init clients).run (sched.take k)).phase (((init clients).run (sched.take k)).move i o)
          (((init clients).run (sched.take k)).step i o).phase :=
  ⟨phase_of_quiet (by simp), trace_phase_step _ sched hserial (oneLivePool_init clients)⟩

theorem serial_run_lifecycle_app :
    (∀ v ∈ (init [lifespan, getDbConnection, [.disconnect]]).trace
        [(0, .ok), (0, .ok), (1, .ok), (0, .ok), (0, .raise), (2, .ok), (2, .ok)], Serial v) ∧
    ((init [lifespan, getDbConnection, [.disconnect]]).phase = .idle ∧
      ∀ k i o, [(0, .ok), (0, .ok), (1, .ok), (0, .ok), (0, .raise), (2, .ok), (2, .ok)][k]? = some (i, o) →
        Phase.Step ((init [lifespan, getDbConnection, [.disconnect]]).run
            ([(0, .ok), (0, .ok), (1, .ok), (0, .ok), (0, .raise), (2, .ok), (2, .ok)].take k)).phase
          (((init [lifespan, getDbConnection, [.disconnect]]).run
            ([(0, .ok), (0, .ok), (1, .ok), (0, .ok), (0, .raise), (2, .ok), (2, .ok)].take k)).move i o)
          (((init [lifespan, getDbConnection, [.disconnect]]).run
            ([(0, .ok), (0, .ok), (1, .ok), (0, .ok), (0, .raise), (2, .ok), (2, .ok)].take k)).step i o).phase) :=
  ⟨by decide, serial_run_lifecycle _ _ (by decide)⟩

end BlogApi.Database
