import BlogApi.Database.Race

/-! Facts of every interleaving. `connection` reads `self.pool` for `acquire()` in the segment
where `connect` stored it, so it never acquires from `None`. Every run keeps `PoolLedger`: stored
and closed pools were created, suspended and raised closes are recorded, and a stored pool whose
`close()` was called has that close pending (`ClosePending`: in flight, or raised). From it, a pool
ends up orphaned exactly when a step took it out of `self.pool` unclosed (`Displaces`: a
`create_pool`, or a `close()` of another pool, returned), `close()` runs twice on a pool exactly
when a `disconnect` starts while a close of it is pending, and a request is handed a pool on which
`close()` was called exactly when its `connection` starts while a close of it is pending; once a
`close()` of a pool has returned, no request is handed that pool again. -/

namespace BlogApi.Database
open World

variable {w w' : World} {i j p : Nat} {o : Outcome}

def World.startsCall (w : World) (i : Nat) : Option Call :=
  match w.tasks[i]? with
  | some ⟨.ready, c :: _⟩ => some c
  | _ => none

theorem startsCall_eq_some {c : Call} :
    w.startsCall i = some c ↔ ∃ rest, w.tasks[i]? = some ⟨.ready, c :: rest⟩ := by
  unfold startsCall
  split <;> simp_all

theorem getElem?_of_pcAt {pc : Pc} (hs : pc.suspended) (h : w.pcAt i = pc) :
    ∃ rest, w.tasks[i]? = some ⟨pc, rest⟩ := by
  unfold pcAt at h
  cases ht : w.tasks[i]? with
  | none => simp [ht, ← h] at hs
  | some t =>
    obtain ⟨pc', rest⟩ := t
    simp only [ht, Option.map_some', Option.getD_some] at h
    exact ⟨rest, by rw [h]⟩

def ConnectionEnds (w : World) : Prop :=
  ∀ r ∈ w.results, r.1 = .connection → r.2 = .createRaised ∨ ∃ p, r.2 = .acquired (some p)

theorem connectionEnds_segment (hw : ConnectionEnds w) (h : Segment w i w') : ConnectionEnds w' := by
  have keep : ∀ c r, (c = .connection → r = .createRaised ∨ ∃ p, r = .acquired (some p)) →
      ConnectionEnds (w.finish c r) := by
    intro c r hr
    simpa only [ConnectionEnds, finish_results, List.forall_mem_cons] using And.intro hr hw
  cases h with
  | beginCreate | beginClose => exact hw
  | connected | created => exact keep _ _ fun hc => hc ▸ .inr ⟨_, rfl⟩
  | createRaised => exact keep _ _ fun _ => .inl rfl
  | noPool | closed | closeRaised => exact keep _ _ (by simp)

/-- Under every interleaving, `connection` never calls `acquire()` on `None`: a call that starts
acquires the stored pool at once or waits in `create_pool`, and it resumes with the new pool or
raises. -/
theorem connection_acquires_some (clients : List (List Call)) (sched : List (Nat × Outcome))
    (i : Nat) (o : Outcome) :
    let w := (init clients).run sched
    (∀ r ∈ w.results, r.1 = .connection → r.2 = .createRaised ∨ ∃ p, r.2 = .acquired (some p)) ∧
    (w.startsCall i = some .connection →
      (∀ p, w.pool = some p → (w.step i o).results = (.connection, .acquired (some p)) :: w.results) ∧
      (w.pool = none → (w.step i o).pcAt i = .awaitCreate .connection)) ∧
    (w.pcAt i = .awaitCreate .connection →
      (w.step i o).results = (.connection, match o with
        | .ok => .acquired (some w.created)
        | .raise => .createRaised) :: w.results) := by
  intro w
  refine ⟨run_inv (fun _ _ _ hw h => connectionEnds_segment hw h) _ sched
    (by simp [ConnectionEnds, init]), fun hst => ?_, fun hpc => ?_⟩
  · obtain ⟨rest, ht⟩ := startsCall_eq_some.mp hst
    rw [step_start ht (by decide)]
    refine ⟨fun p hp => by simp [connect, afterConnect, connectedResult, hp], fun hp => ?_⟩
    simp [connect, hp, (List.getElem?_eq_some_iff.mp ht).1]
  · obtain ⟨rest, ht⟩ := getElem?_of_pcAt (by simp) hpc
    rw [step_awaitCreate ht]
    cases o <;> simp [resumeCreate, afterConnect, connectedResult]

theorem connection_acquires_some_race :
    (init [getDbConnection, [.connect], [.disconnect]]).startsCall 0 = some .connection ∧
    ((init [getDbConnection, [.connect], [.disconnect]]).step 0 .ok).pcAt 0 = .awaitCreate .connection ∧
    ((init [getDbConnection, [.connect], [.disconnect]]).run
        [(0, .ok), (1, .ok), (1, .ok), (2, .ok)]).pcAt 0 = .awaitCreate .connection ∧
    (((init [getDbConnection, [.connect], [.disconnect]]).run
        [(0, .ok), (1, .ok), (1, .ok), (2, .ok)]).step 0 .ok).results =
      (.connection, .acquired (some 1)) :: ((init [getDbConnection, [.connect], [.disconnect]]).run
        [(0, .ok), (1, .ok), (1, .ok), (2, .ok)]).results :=
  ⟨by decide, ((connection_acquires_some [getDbConnection, [.connect], [.disconnect]] [] 0 .ok).2.1
      (by decide)).2 (by decide), by decide,
    (connection_acquires_some [getDbConnection, [.connect], [.disconnect]]
      [(0, .ok), (1, .ok), (1, .ok), (2, .ok)] 0 .ok).2.2 (by decide)⟩

@[simp]
theorem closeRaised_ne_connectedResult {c : Call} {q : Option Nat} :
    Result.closeRaised p ≠ connectedResult c q := by
  cases c <;> simp [connectedResult]

def ClosePending (w : World) (p : Nat) : Prop :=
  (∃ j < w.tasks.length, w.pcAt j = .awaitClose p) ∨ (.disconnect, .closeRaised p) ∈ w.results

instance (w : World) (p : Nat) : Decidable (ClosePending w p) := inferInstanceAs (Decidable (_ ∨ _))

structure PoolLedger (w : World) : Prop where
  stored_lt : ∀ p, w.pool = some p → p < w.created
  closes_lt : ∀ p ∈ w.closes, p < w.created
  closing_mem : ∀ j p, w.pcAt j = .awaitClose p → p ∈ w.closes
  raised_mem : ∀ p, (.disconnect, .closeRaised p) ∈ w.results → p ∈ w.closes
  reclose : ∀ p, w.pool = some p → p ∈ w.closes → ClosePending w p

theorem PoolLedger.mem_of_pending (hw : PoolLedger w) (h : ClosePending w p) : p ∈ w.closes :=
  h.elim (fun ⟨j, _, hj⟩ => hw.closing_mem j p hj) (hw.raised_mem p)

theorem PoolLedger.created_fresh (hw : PoolLedger w) : w.created ∉ w.closes :=
  fun h => lt_irrefl _ (hw.closes_lt _ h)

theorem poolLedger_init (clients : List (List Call)) : PoolLedger (init clients) where
  stored_lt := by simp [init]
  closes_lt := by simp [init]
  closing_mem := by simp
  raised_mem := by simp [init]
  reclose := by simp [init]

section Segment
variable (hw : PoolLedger w) (h : Segment w i w')
include hw h

theorem PoolLedger.closing_mem_segment : ∀ j p, w'.pcAt j = .awaitClose p → p ∈ w'.closes := by
  have hi := h.lt_length
  intro j p hj
  rcases eq_or_ne j i with rfl | hji
  · cases h <;> simp_all
  · rw [h.pcAt_ne hji] at hj
    exact h.closes_mono (hw.closing_mem j p hj)

theorem PoolLedger.raised_mem_segment : ∀ p, (.disconnect, .closeRaised p) ∈ w'.results → p ∈ w'.closes := by
  intro p hp
  refine h.closes_mono ?_
  cases h with
  | closeRaised ht =>
    simp only [setTask_results, finish_results, List.mem_cons, Prod.mk.injEq, Result.closeRaised.injEq,
      true_and] at hp
    rcases hp with rfl | hp
    exacts [hw.closing_mem i _ (pcAt_of_getElem? ht), hw.raised_mem p hp]
  | _ => exact hw.raised_mem p (by simpa using hp)

theorem PoolLedger.reclose_segment : ∀ p, w'.pool = some p → p ∈ w'.closes → ClosePending w' p := by
  have hi := h.lt_length
  -- a close in flight in another coroutine is still in flight after the segment
  have other : ∀ p, ∀ j < w.tasks.length, w.pcAt j = .awaitClose p → j ≠ i →
      ∃ j < w'.tasks.length, w'.pcAt j = .awaitClose p :=
    fun p j hj hpj hji => ⟨j, h.length_eq ▸ hj, by rw [h.pcAt_ne hji, hpj]⟩
  intro p hp hm
  cases h with
  | beginClose _ hq =>
    simp only [setTask_pool, hq, Option.some.injEq] at hp
    subst hp
    exact .inl ⟨i, by simpa using hi, by simp [hi]⟩
  | created =>
    simp only [setTask_pool, finish_pool, Option.some.injEq, setTask_closes, finish_closes] at hp hm
    exact absurd (hw.closes_lt _ (hp ▸ hm)) (lt_irrefl _)
  | closed => simp at hp
  | closeRaised ht =>
    rcases hw.reclose p (by simpa using hp) (by simpa using hm) with ⟨j, hj, hpj⟩ | hr
    · rcases eq_or_ne j i with rfl | hji
      · simp only [pcAt_of_getElem? ht, Pc.awaitClose.injEq] at hpj
        exact .inr (by simp [hpj])
      · exact .inl (other p j hj hpj hji)
    · exact .inr (by simp [hr])
  | _ =>
    rcases hw.reclose p (by simpa using hp) (by simpa using hm) with ⟨j, hj, hpj⟩ | hr
    · refine .inl (other p j hj hpj ?_)
      rintro rfl
      simp [pcAt_of_getElem? ‹_›] at hpj
    · exact .inr (by simp [hr])

end Segment

theorem poolLedger_segment (hw : PoolLedger w) (h : Segment w i w') : PoolLedger w' :=
  ⟨h.stored_lt hw.stored_lt, h.closes_lt hw.stored_lt hw.closes_lt, hw.closing_mem_segment h,
    hw.raised_mem_segment h, hw.reclose_segment h⟩

theorem poolLedger_run (clients : List (List Call)) (sched : List (Nat × Outcome)) :
    PoolLedger ((init clients).run sched) :=
  run_inv (fun _ _ _ hw h => poolLedger_segment hw h) _ sched (poolLedger_init clients)

def Pc.displaces (p : Nat) : Pc → Bool
  | .awaitCreate _ => true
  | .awaitClose q => q != p
  | .ready | .raised => false

def Displaces (w : World) (i : Nat) (o : Outcome) (p : Nat) : Prop :=
  w.pool = some p ∧ p ∉ w.closes ∧ o = .ok ∧ (w.pcAt i).displaces p = true

instance (w : World) (i : Nat) (o : Outcome) (p : Nat) : Decidable (Displaces w i o p) :=
  inferInstanceAs (Decidable (_ ∧ _))

theorem Segment.orphaned_iff (h : Segment w i w') (hi : (w.pcAt i).suspended = false) :
    Orphaned w' p ↔ Orphaned w p := by
  cases h with
  | beginClose _ hq => simp [Orphaned, hq, eq_comm]; tauto
  | created ht | createRaised ht | closed ht | closeRaised ht => simp [pcAt_of_getElem? ht] at hi
  | _ => simp [Orphaned]

theorem orphaned_iff_of_vacate (hs : ∀ q, w.pool = some q → q < w.created)
    (hcl : w'.closes = w.closes) (hv : ∀ q, q < w'.created ∧ w'.pool ≠ some q ↔ q < w.created) :
    Orphaned w' p ↔ Orphaned w p ∨ (w.pool = some p ∧ p ∉ w.closes) := by
  simp only [Orphaned, hcl]
  constructor
  · rintro ⟨h1, h2, h3⟩
    by_cases hp : w.pool = some p
    exacts [.inr ⟨hp, h2⟩, .inl ⟨(hv p).1 ⟨h1, h3⟩, h2, hp⟩]
  · intro hor
    have hlt := (hv p).2 (hor.elim (·.1) (hs p ·.1))
    exact ⟨hlt.1, hor.elim (·.2.1) (·.2), hlt.2⟩

theorem orphaned_step_iff (hw : PoolLedger w) :
    Orphaned (w.step i o) p ↔ Orphaned w p ∨ Displaces w i o p := by
  cases hpc : w.pcAt i with
  | awaitCreate c =>
    obtain ⟨rest, ht⟩ := getElem?_of_pcAt (by simp) hpc
    rw [step_awaitCreate ht]
    cases o with
    | ok =>
      rw [orphaned_iff_of_vacate hw.stored_lt (by simp [resumeCreate, afterConnect])
        (fun q => by simp [resumeCreate, afterConnect]; omega)]
      simp [Displaces, hpc, Pc.displaces]
    | raise => simp [resumeCreate, Orphaned, Displaces]
  | awaitClose q =>
    obtain ⟨rest, ht⟩ := getElem?_of_pcAt (by simp) hpc
    rw [step_awaitClose ht]
    cases o with
    | ok =>
      rw [orphaned_iff_of_vacate hw.stored_lt (by simp [resumeClose]) (fun _ => by simp [resumeClose])]
      have hq := hw.closing_mem i q hpc
      simp only [Displaces, hpc, Pc.displaces, bne_iff_ne, ne_eq, true_and]
      exact or_congr_right ⟨fun ⟨h1, h2⟩ => ⟨h1, h2, fun he => h2 (he ▸ hq)⟩, fun ⟨h1, h2, _⟩ => ⟨h1, h2⟩⟩
    | raise => simp [resumeClose, Orphaned, Displaces]
  | ready | raised =>
    rw [or_iff_left (by simp [Displaces, hpc, Pc.displaces])]
    rcases step_segment w i o with h | h
    · rw [h]
    · exact h.orphaned_iff (by simp [hpc])

/-- Under every interleaving, a pool ends up orphaned exactly when some step resumed a
`create_pool`, or a `close()` of another pool, while that pool sat unclosed in `self.pool`. -/
theorem orphaned_iff_displaced (clients : List (List Call)) (sched : List (Nat × Outcome)) (p : Nat) :
    Orphaned ((init clients).run sched) p ↔
      ∃ k i o, sched[k]? = some (i, o) ∧ Displaces ((init clients).run (sched.take k)) i o p := by
  constructor
  · intro h
    obtain ⟨k, i, o, hk, hn, hs⟩ := run_becomes (P := (Orphaned · p)) _ sched (by simp [Orphaned, init]) h
    exact ⟨k, i, o, hk, ((orphaned_step_iff (poolLedger_run clients _)).mp hs).resolve_left hn⟩
  · rintro ⟨k, i, o, hk, hd⟩
    exact run_of_step (P := (Orphaned · p)) (fun _ _ _ h hs => orphaned_segment h hs) hk
      ((orphaned_step_iff (poolLedger_run clients _)).mpr (.inr hd))

def StartsDuringClose (c : Call) (w : World) (i p : Nat) : Prop :=
  w.startsCall i = some c ∧ w.pool = some p ∧ ClosePending w p

instance (c : Call) (w : World) (i p : Nat) : Decidable (StartsDuringClose c w i p) :=
  inferInstanceAs (Decidable (_ ∧ _))

theorem Segment.closes_eq (h : Segment w i w') :
    w'.closes = w.closes ∨
      ∃ q, w.startsCall i = some .disconnect ∧ w.pool = some q ∧ w'.closes = q :: w.closes := by
  cases h with
  | beginClose ht hq => exact .inr ⟨_, startsCall_eq_some.mpr ⟨_, ht⟩, hq, by simp⟩
  | _ => exact .inl (by simp)

theorem Segment.count_le (h : Segment w i w') : w.closes.count p ≤ w'.closes.count p := by
  rcases h.closes_eq with he | ⟨q, -, -, he⟩
  · rw [he]
  · rw [he, List.count_cons]
    omega

/-- Under every interleaving, `close()` is called twice on a pool exactly when some step starts a
`disconnect` while that pool is in `self.pool` and a `close()` of it is in flight or has raised. -/
theorem closed_twice_iff (clients : List (List Call)) (sched : List (Nat × Outcome)) (p : Nat) :
    2 ≤ ((init clients).run sched).closes.count p ↔
      ∃ k i o, sched[k]? = some (i, o) ∧
        StartsDuringClose .disconnect ((init clients).run (sched.take k)) i p := by
  constructor
  · intro h
    obtain ⟨k, i, o, hk, hn, hs⟩ :=
      run_becomes (P := (2 ≤ ·.closes.count p)) _ sched (by simp [init]) h
    refine ⟨k, i, o, hk, ?_⟩
    rcases step_segment ((init clients).run (sched.take k)) i o with he | hseg
    · exact absurd (he ▸ hs) hn
    rcases hseg.closes_eq with he | ⟨q, hst, hq, he⟩
    · exact absurd (he ▸ hs) hn
    have hqp : q = p := by
      by_contra hne
      rw [he, List.count_cons_of_ne (Ne.symm hne)] at hs
      exact hn hs
    subst hqp
    rw [he, List.count_cons_self] at hs
    exact ⟨hst, hq, (poolLedger_run clients _).reclose q hq (List.count_pos_iff.mp (by omega))⟩
  · rintro ⟨k, i, o, hk, hst, hp, hfl⟩
    have hm := (poolLedger_run clients (sched.take k)).mem_of_pending hfl
    obtain ⟨rest, ht⟩ := startsCall_eq_some.mp hst
    refine run_of_step (P := (2 ≤ ·.closes.count p)) (fun _ _ _ hc h => hc.trans h.count_le) hk ?_
    simp only [step_disconnect ht, disconnect, hp, setTask_closes, List.count_cons_self]
    have := List.count_pos_iff.mpr hm
    omega

def AcquiresClosed (w : World) (i : Nat) (o : Outcome) (p : Nat) : Prop :=
  (w.step i o).results = (.connection, .acquired (some p)) :: w.results ∧ p ∈ w.closes

theorem acquired_step (hr : (w.step i o).results = (.connection, .acquired (some p)) :: w.results) :
    (w.startsCall i = some .connection ∧ w.pool = some p) ∨ p = w.created := by
  rcases step_segment w i o with he | h
  · exact absurd (he ▸ hr) (List.cons_ne_self _ _).symm
  generalize w.step i o = w' at h hr
  cases h with
  | @connected c rest q ht _ hq =>
    simp only [setTask_results, finish_results, List.cons.injEq, Prod.mk.injEq, and_true] at hr
    obtain ⟨rfl, hcr⟩ := hr
    obtain rfl : q = p := by simpa [connectedResult] using hcr
    exact .inl ⟨startsCall_eq_some.mpr ⟨_, ht⟩, hq⟩
  | created =>
    simp only [setTask_results, finish_results, List.cons.injEq, Prod.mk.injEq, and_true] at hr
    obtain ⟨rfl, hcr⟩ := hr
    exact .inr (by simpa [connectedResult] using hcr.symm)
  | _ => simp at hr

/-- From every world a run reaches, the next step hands a request a pool on which `close()` was
called exactly when its `connection` starts while a close of that stored pool is pending. -/
theorem acquires_closed_iff (clients : List (List Call)) (sched : List (Nat × Outcome)) (i : Nat)
    (o : Outcome) (p : Nat) :
    AcquiresClosed ((init clients).run sched) i o p ↔
      StartsDuringClose .connection ((init clients).run sched) i p := by
  have hw := poolLedger_run clients sched
  constructor
  · rintro ⟨hr, hm⟩
    rcases acquired_step hr with ⟨hst, hp⟩ | rfl
    · exact ⟨hst, hp, hw.reclose p hp hm⟩
    · exact absurd hm hw.created_fresh
  · rintro ⟨hst, hp, hpend⟩
    obtain ⟨rest, ht⟩ := startsCall_eq_some.mp hst
    refine ⟨?_, hw.mem_of_pending hpend⟩
    simp [step_start ht (by decide), connect, hp, afterConnect, connectedResult]

theorem acquires_closed_iff_during_close :
    StartsDuringClose .connection
      ((init [[.connect, .disconnect], getDbConnection]).run [(0, .ok), (0, .ok), (0, .ok)]) 1 0 ∧
    AcquiresClosed
      ((init [[.connect, .disconnect], getDbConnection]).run [(0, .ok), (0, .ok), (0, .ok)]) 1 .ok 0 :=
  ⟨by decide, (acquires_closed_iff [[.connect, .disconnect], getDbConnection]
    [(0, .ok), (0, .ok), (0, .ok)] 1 .ok 0).mpr (by decide)⟩

/-- Once a `close()` of `p` has returned, no later step hands `p` to a request. -/
theorem close_returned_never_acquired (clients : List (List Call)) (sched : List (Nat × Outcome))
    (k i p : Nat) (hk : sched[k]? = some (i, .ok))
    (hc : ((init clients).run (sched.take k)).pcAt i = .awaitClose p) (j : Nat) (o : Outcome) :
    (((init clients).run sched).step j o).results ≠
      (.connection, .acquired (some p)) :: ((init clients).run sched).results := by
  have hw := poolLedger_run clients (sched.take k)
  have hret : Retired p (((init clients).run (sched.take k)).step i .ok) := by
    obtain ⟨rest, ht⟩ := getElem?_of_pcAt (by simp) hc
    rw [step_awaitClose ht]
    exact ⟨by simpa [resumeClose] using hw.closes_lt p (hw.closing_mem i p hc), by simp [resumeClose]⟩
  obtain ⟨hlt, hne⟩ := run_of_step (fun _ _ _ hv h => hv.segment h) hk hret
  intro hr
  rcases acquired_step hr with ⟨-, hp⟩ | rfl
  exacts [hne hp, lt_irrefl _ hlt]

theorem close_returned_never_acquired_restart :
    [(0, Outcome.ok), (0, .ok), (0, .ok), (0, .ok), (1, .ok)][3]? = some (0, .ok) ∧
    ((init [[.connect, .disconnect], getDbConnection]).run
      ([(0, .ok), (0, .ok), (0, .ok), (0, .ok), (1, .ok)].take 3)).pcAt 0 = .awaitClose 0 ∧
    (((init [[.connect, .disconnect], getDbConnection]).run
      [(0, .ok), (0, .ok), (0, .ok), (0, .ok), (1, .ok)]).step 1 .ok).results =
      (.connection, .acquired (some 1)) :: ((init [[.connect, .disconnect], getDbConnection]).run
        [(0, .ok), (0, .ok), (0, .ok), (0, .ok), (1, .ok)]).results ∧
    (((init [[.connect, .disconnect], getDbConnection]).run
      [(0, .ok), (0, .ok), (0, .ok), (0, .ok), (1, .ok)]).step 1 .ok).results ≠
      (.connection, .acquired (some 0)) :: ((init [[.connect, .disconnect], getDbConnection]).run
        [(0, .ok), (0, .ok), (0, .ok), (0, .ok), (1, .ok)]).results :=
  ⟨rfl, by decide, by decide, close_returned_never_acquired _ _ 3 0 0 rfl (by decide) 1 .ok⟩

end BlogApi.Database
