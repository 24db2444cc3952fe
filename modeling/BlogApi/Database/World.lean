import Mathlib.Data.List.Basic

/-! The pool manager `Database` of `app/database.py`, shared by any number of coroutines.
A coroutine runs calls of `connect`, `disconnect` and `connection` in turn; one step of the event
loop runs one coroutine from an await to the next, so a schedule is any interleaving. Beside the
instance's one attribute `self.pool`, the world records how many pools `create_pool` returned
(named `0, 1, ...` in that order), every `close()` call and how each call ended, newest first;
`acquired` keeps the value of `self.pool` that `connection` called `acquire()` on. -/

namespace BlogApi.Database

inductive Call
  | connect
  | disconnect
  | connection
  deriving DecidableEq, Repr

inductive Outcome
  | ok
  | raise
  deriving DecidableEq, Repr

inductive Result
  | returned
  | acquired (pool : Option Nat)
  | createRaised
  | closeRaised (p : Nat)
  deriving DecidableEq, Repr

inductive Pc
  | ready
  | awaitCreate (caller : Call)
  | awaitClose (p : Nat)
  | raised
  deriving DecidableEq, Repr

@[simp]
def Pc.suspended : Pc → Bool
  | .awaitCreate _ | .awaitClose _ => true
  | .ready | .raised => false

structure Task where
  pc : Pc
  todo : List Call
  deriving DecidableEq, Repr

structure World where
  pool : Option Nat
  created : Nat
  closes : List Nat
  results : List (Call × Result)
  tasks : List Task
  deriving DecidableEq, Repr

namespace World

@[simps]
def setTask (w : World) (i : Nat) (t : Task) : World := { w with tasks := w.tasks.set i t }

@[simps]
def finish (w : World) (c : Call) (r : Result) : World := { w with results := (c, r) :: w.results }

def pcAt (w : World) (j : Nat) : Pc := ((w.tasks[j]?).map Task.pc).getD .ready

def connectedResult (caller : Call) (pool : Option Nat) : Result :=
  match caller with
  | .connection => .acquired pool
  | _ => .returned

def afterConnect (w : World) (i : Nat) (caller : Call) (rest : List Call) : World :=
  (w.finish caller (connectedResult caller w.pool)).setTask i ⟨.ready, rest⟩

/-- `connect` up to its await: `if self.pool is None` it calls `asyncpg.create_pool` and waits. -/
def connect (w : World) (i : Nat) (caller : Call) (rest : List Call) : World :=
  match w.pool with
  | none => w.setTask i ⟨.awaitCreate caller, rest⟩
  | some _ => w.afterConnect i caller rest

/-- `disconnect` up to its await: `if self.pool is not None` it calls `self.pool.close()`. -/
def disconnect (w : World) (i : Nat) (rest : List Call) : World :=
  match w.pool with
  | some p => { w with closes := p :: w.closes }.setTask i ⟨.awaitClose p, rest⟩
  | none => (w.finish .disconnect .returned).setTask i ⟨.ready, rest⟩

/-- `connection` up to its first await: `await self.connect()` if `self.pool is None`. -/
def connection (w : World) (i : Nat) (rest : List Call) : World :=
  match w.pool with
  | none => w.connect i .connection rest
  | some _ => w.afterConnect i .connection rest

/-- `self.pool = await asyncpg.create_pool(...)` resumed, up to the caller's next await. -/
def resumeCreate (w : World) (i : Nat) (caller : Call) (rest : List Call) : Outcome → World
  | .ok => { w with pool := some w.created, created := w.created + 1 }.afterConnect i caller rest
  | .raise => (w.finish caller .createRaised).setTask i ⟨.raised, []⟩

def resumeClose (w : World) (i : Nat) (p : Nat) (rest : List Call) : Outcome → World
  | .ok => ({ w with pool := none }.finish .disconnect .returned).setTask i ⟨.ready, rest⟩
  | .raise => (w.finish .disconnect (.closeRaised p)).setTask i ⟨.raised, []⟩

def step (w : World) (i : Nat) (o : Outcome) : World :=
  match w.tasks[i]? with
  | some ⟨.ready, .connect :: rest⟩ => w.connect i .connect rest
  | some ⟨.ready, .disconnect :: rest⟩ => w.disconnect i rest
  | some ⟨.ready, .connection :: rest⟩ => w.connection i rest
  | some ⟨.awaitCreate caller, rest⟩ => w.resumeCreate i caller rest o
  | some ⟨.awaitClose p, rest⟩ => w.resumeClose i p rest o
  | _ => w

section Step
variable {w : World} {i : Nat} {o : Outcome} {rest : List Call}

theorem step_start {c : Call} (ht : w.tasks[i]? = some ⟨.ready, c :: rest⟩) (hc : c ≠ .disconnect) :
    w.step i o = w.connect i c rest := by
  cases c with
  | connect => simp only [step, ht]
  | disconnect => exact absurd rfl hc
  | connection => cases hp : w.pool <;> simp only [step, ht, connection, connect, hp]

theorem step_disconnect (ht : w.tasks[i]? = some ⟨.ready, .disconnect :: rest⟩) :
    w.step i o = w.disconnect i rest := by
  simp only [step, ht]

theorem step_awaitCreate {c : Call} (ht : w.tasks[i]? = some ⟨.awaitCreate c, rest⟩) :
    w.step i o = w.resumeCreate i c rest o := by
  simp only [step, ht]

theorem step_awaitClose {p : Nat} (ht : w.tasks[i]? = some ⟨.awaitClose p, rest⟩) :
    w.step i o = w.resumeClose i p rest o := by
  simp only [step, ht]

end Step

def run : World → List (Nat × Outcome) → World
  | w, [] => w
  | w, (i, o) :: s => (w.step i o).run s

def trace : World → List (Nat × Outcome) → List World
  | w, [] => [w]
  | w, (i, o) :: s => w :: (w.step i o).trace s

@[simp]
theorem head?_trace (w : World) (s : List (Nat × Outcome)) : (w.trace s).head? = some w := by
  cases s <;> rfl

def init (clients : List (List Call)) : World :=
  ⟨none, 0, [], [], clients.map fun cs => ⟨.ready, cs⟩⟩

@[simp]
theorem pcAt_init (clients : List (List Call)) (j : Nat) : (init clients).pcAt j = .ready := by
  simp only [init, pcAt, List.getElem?_map]
  cases clients[j]? <;> rfl

end World

/-- The app's `lifespan`: `await db.connect()` at startup, `await db.disconnect()` at shutdown. -/
def lifespan : List Call := [.connect, .disconnect]

def getDbConnection : List Call := [.connection]

end BlogApi.Database
