import BlogApi.Database.Race

/-! When calls of `connect` and `disconnect` never overlap (at most one of them suspended at a
time, as `lifespan` has them at startup and shutdown), no pool is orphaned at any point of the
run, and `close()` is called twice on a pool only after a `close()` on it raised and left it in
`self.pool`. `OneLivePool` is the invariant such runs keep. -/

namespace BlogApi.Database
open World

variable {w w' : World} {i j k p : Nat}

def Serial (w : World) : Prop :=
  ∀ j < w.tasks.length, ∀ k < w.tasks.length, (w.pcAt j).suspended → (w.pcAt k).suspended → j = k

instance (w : World) : Decidable (Serial w) := inferInstanceAs (Decidable (∀ j < _, _))

theorem lt_length_of_suspended (h : (w.pcAt j).suspended) : j < w.tasks.length := by
  by_contra hj
  simp [pcAt, List.getElem?_eq_none (Nat.le_of_not_lt hj)] at h

theorem Serial.eq (hs : Serial w) (hj : (w.pcAt j).suspended) (hk : (w.pcAt k).suspended) :
    j = k :=
  hs j (lt_length_of_suspended hj) k (lt_length_of_suspended hk) hj hk

structure OneLivePool (w : World) : Prop where
  stored_lt : ∀ p, w.pool = some p → p < w.created
  closes_lt : ∀ p ∈ w.closes, p < w.created
  noOrphan : NoOrphan w
  creating : ∀ j c, w.pcAt j = .awaitCreate c → w.pool = none
  closing : ∀ j p, w.pcAt j = .awaitClose p → w.pool = some p ∧ p ∈ w.closes
  closedOnce : ∀ p, (.disconnect, .closeRaised p) ∉ w.results →
    w.closes.count p ≤ 1 ∧ (w.pool = some p → p ∈ w.closes → ∃ j, w.pcAt j = .awaitClose p)

theorem oneLivePool_init (clients : List (List Call)) : OneLivePool (init clients) where
  stored_lt := by simp [init]
  closes_lt := by simp [init]
  noOrphan _ h := by simp [init] at h
  creating := by simp
  closing := by simp
  closedOnce := by simp [init]

section Segment
variable (hs : Serial w) (hs' : Serial w') (hw : OneLivePool w) (h : Segment w i w')
include hw h

theorem OneLivePool.stored_lt_segment : ∀ p, w'.pool = some p → p < w'.created :=
  h.stored_lt hw.stored_lt

theorem OneLivePool.closes_lt_segment : ∀ p ∈ w'.closes, p < w'.created :=
  h.closes_lt hw.stored_lt hw.closes_lt

theorem OneLivePool.noOrphan_segment : NoOrphan w' := by
  have hn := hw.noOrphan
  cases h with
  | beginClose =>
    intro q hq hcl
    simp only [setTask_closes, List.mem_cons, not_or] at hcl
    simpa using hn q hq hcl.2
  | created ht =>
    intro q hq hcl
    have hnone := hw.creating i _ (pcAt_of_getElem? ht)
    simp only [setTask_created, finish_created, setTask_closes, finish_closes] at hq hcl
    rcases Nat.lt_succ_iff_lt_or_eq.mp hq with hq | rfl
    · simp [hn q hq hcl] at hnone
    · simp
  | closed ht =>
    intro q hq hcl
    obtain ⟨hp, hmem⟩ := hw.closing i _ (pcAt_of_getElem? ht)
    simp only [setTask_created, finish_created, setTask_closes, finish_closes] at hq hcl
    have hq' := hn q hq hcl
    rw [hp, Option.some.injEq] at hq'
    exact absurd (hq' ▸ hmem) hcl
  | _ => simpa [NoOrphan] using hn

include hs in
theorem OneLivePool.creating_segment : ∀ j c, w'.pcAt j = .awaitCreate c → w'.pool = none := by
  have hi := h.lt_length
  have hframe : ∀ j ≠ i, w'.pcAt j = w.pcAt j := fun j hj => h.pcAt_ne hj
  intro j c hj
  rcases eq_or_ne j i with rfl | hji
  · cases h <;> simp_all
  · rw [hframe j hji] at hj
    have hp := hw.creating j c hj
    cases h with
    | created ht | closed ht =>
      exact absurd (hs.eq (by simp [hj]) (by simp [pcAt_of_getElem? ht])) hji
    | beginClose _ hq => simp_all
    | _ => simpa

include hs in
theorem OneLivePool.closing_segment : ∀ j p, w'.pcAt j = .awaitClose p → w'.pool = some p ∧ p ∈ w'.closes := by
  have hi := h.lt_length
  have hframe : ∀ j ≠ i, w'.pcAt j = w.pcAt j := fun j hj => h.pcAt_ne hj
  intro j p hj
  rcases eq_or_ne j i with rfl | hji
  · cases h <;> simp_all
  · rw [hframe j hji] at hj
    have hp := hw.closing j p hj
    cases h with
    | created ht | closed ht =>
      exact absurd (hs.eq (by simp [hj]) (by simp [pcAt_of_getElem? ht])) hji
    | _ => simp_all

include hs' in
theorem OneLivePool.closedOnce_segment : ∀ p, (.disconnect, .closeRaised p) ∉ w'.results →
    w'.closes.count p ≤ 1 ∧ (w'.pool = some p → p ∈ w'.closes → ∃ j, w'.pcAt j = .awaitClose p) := by
  have hi := h.lt_length
  have hframe : ∀ j ≠ i, w'.pcAt j = w.pcAt j := fun j hj => h.pcAt_ne hj
  intro q hr
  cases h with
  | @beginClose _ p ht hp =>
    obtain ⟨hc, hre⟩ := hw.closedOnce q (by simpa using hr)
    rcases eq_or_ne q p with rfl | hqp
    · have hnot : q ∉ w.closes := by
        intro hmem
        obtain ⟨j, hj⟩ := hre hp hmem
        have hji : j ≠ i := by rintro rfl; simp [pcAt_of_getElem? ht] at hj
        exact hji (hs'.eq (by rw [hframe j hji, hj]; rfl) (by simp [hi]))
      exact ⟨by simp [List.count_eq_zero.mpr hnot], fun _ _ => ⟨i, by simp [hi]⟩⟩
    · refine ⟨by simpa [List.count_cons, hqp] using hc, fun hq => ?_⟩
      simp [hp] at hq
      exact absurd hq.symm hqp
  | created ht =>
    obtain ⟨hc, -⟩ := hw.closedOnce q (fun hm => hr (by simp [hm]))
    refine ⟨by simpa using hc, fun hq hmem => ?_⟩
    simp only [setTask_pool, finish_pool, Option.some.injEq, setTask_closes, finish_closes] at hq hmem
    exact absurd (hw.closes_lt _ (hq ▸ hmem)) (lt_irrefl _)
  | closed ht =>
    obtain ⟨hc, -⟩ := hw.closedOnce q (fun hm => hr (by simp [hm]))
    exact ⟨by simpa using hc, by simp⟩
  | closeRaised ht =>
    simp only [setTask_results, finish_results, List.mem_cons, Prod.mk.injEq, Result.closeRaised.injEq,
      true_and, not_or] at hr
    obtain ⟨hc, -⟩ := hw.closedOnce q hr.2
    refine ⟨by simpa using hc, fun hq _ => ?_⟩
    rw [setTask_pool, finish_pool, (hw.closing i _ (pcAt_of_getElem? ht)).1, Option.some.injEq] at hq
    exact absurd hq.symm hr.1
  | _ =>
    obtain ⟨hc, hre⟩ := hw.closedOnce q (fun hm => hr (by simp [hm]))
    refine ⟨by simpa using hc, fun hq hmem => ?_⟩
    obtain ⟨j, hj⟩ := hre (by simpa using hq) (by simpa using hmem)
    refine ⟨j, ?_⟩
    rw [hframe j ?_, hj]
    rintro rfl
    simp_all [pcAt]

end Segment

theorem oneLivePool_segment (hs : Serial w) (hs' : Serial w') (hw : OneLivePool w) (h : Segment w i w') :
    OneLivePool w' :=
  ⟨hw.stored_lt_segment h, hw.closes_lt_segment h, hw.noOrphan_segment h,
    hw.creating_segment hs h, hw.closing_segment hs h, hw.closedOnce_segment hs' h⟩

/-- With at most one call of `connect` or `disconnect` in flight at a time, no pool is orphaned,
and `close()` is called at most once on every pool whose `close()` never raised. -/
theorem serial_pool_discipline (clients : List (List Call)) (sched : List (Nat × Outcome))
    (hserial : ∀ v ∈ (init clients).trace sched, Serial v) :
    NoOrphan ((init clients).run sched) ∧
      ∀ p, (.disconnect, .closeRaised p) ∉ ((init clients).run sched).results →
        ((init clients).run sched).closes.count p ≤ 1 := by
  have ht := run_inv_along (fun _ _ _ hs hs' hw h => oneLivePool_segment hs hs' hw h) _ sched hserial
    (oneLivePool_init clients)
  exact ⟨ht.noOrphan, fun p hp => (ht.closedOnce p hp).1⟩

theorem serial_pool_discipline_app :
    (∀ v ∈ (init [lifespan, getDbConnection]).trace
        [(0, .ok), (0, .ok), (1, .ok), (0, .ok), (0, .ok)], Serial v) ∧
    (NoOrphan ((init [lifespan, getDbConnection]).run
        [(0, .ok), (0, .ok), (1, .ok), (0, .ok), (0, .ok)]) ∧
      ∀ p, (.disconnect, .closeRaised p) ∉ ((init [lifespan, getDbConnection]).run
          [(0, .ok), (0, .ok), (1, .ok), (0, .ok), (0, .ok)]).results →
        ((init [lifespan, getDbConnection]).run
          [(0, .ok), (0, .ok), (1, .ok), (0, .ok), (0, .ok)]).closes.count p ≤ 1) :=
  ⟨by decide, serial_pool_discipline _ _ (by decide)⟩

end BlogApi.Database
