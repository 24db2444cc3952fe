import Mathlib.Data.List.Basic

/-! The `try`/`except` chains around the route bodies of `app/routers/`, and the response FastAPI
sends for what leaves a route. Python runs the first `except` clause whose class matches; its
body raises an `HTTPException` or re-raises, and an exception no clause matches leaves as it
is. -/

namespace BlogApi.Routers

/-- The exceptions a route body raises. `text` is what `str(exc)` gives; the generated code's
errors also carry `exc.message`. `cancelled` is `asyncio.CancelledError`, a `BaseException`. -/
inductive Exc
  | http (status : Nat) (detail : String)
  | uniqueViolation (text : String)
  | validation (message text : String)
  | notFound (message text : String)
  | other (text : String)
  | cancelled
  deriving DecidableEq, Repr

/-- `str(exc)`; for an `HTTPException` it is Starlette's `f"{status_code}: {detail}"`. -/
def Exc.str : Exc → String
  | .http status detail => s!"{status}: {detail}"
  | .uniqueViolation text | .validation _ text | .notFound _ text | .other text => text
  | .cancelled => ""

def Exc.message : Exc → String
  | .validation message _ | .notFound message _ => message
  | e => e.str

inductive Catch
  | http
  | uniqueViolation
  | validation
  | notFound
  | exception
  deriving DecidableEq, Repr

/-- Whether an `except` clause catches an exception; `except Exception` lets a cancellation through. -/
def Catch.matches : Catch → Exc → Bool
  | .http, .http _ _ | .uniqueViolation, .uniqueViolation _ | .validation, .validation _ _
  | .notFound, .notFound _ _ => true
  | .exception, e => e != .cancelled
  | _, _ => false

inductive Detail
  | text (s : String)
  | message
  | str
  deriving DecidableEq, Repr

def Detail.eval : Detail → Exc → String
  | .text s, _ => s
  | .message, e => e.message
  | .str, e => e.str

inductive Action
  | reraise
  | raiseHttp (status : Nat) (detail : Detail)
  deriving DecidableEq, Repr

def Action.run : Action → Exc → Exc
  | .reraise, e => e
  | .raiseHttp status detail, e => .http status (detail.eval e)

/-- The exception that leaves a `try` whose body raised `e`. -/
def handle : List (Catch × Action) → Exc → Exc
  | [], e => e
  | (c, a) :: cs, e => if c.matches e then a.run e else handle cs e

theorem handle_eq_find (cs : List (Catch × Action)) (e : Exc) :
    handle cs e = match cs.find? (fun c => c.1.matches e) with
      | some (_, a) => a.run e
      | none => e := by
  induction cs with
  | nil => rfl
  | cons c cs ih =>
    obtain ⟨c, a⟩ := c
    cases h : c.matches e <;> simp [handle, h, ih]

def Closed (cs : List (Catch × Action)) : Prop :=
  (∀ c ∈ cs, c.2 = .reraise → c.1 = .http) ∧ ∃ c ∈ cs, c.1 = .exception

instance : DecidablePred Closed := fun _ => inferInstanceAs (Decidable (_ ∧ _))

def raisedStatuses (cs : List (Catch × Action)) : List Nat :=
  cs.filterMap fun c => match c.2 with
    | .raiseHttp s _ => some s
    | .reraise => none

theorem handle_raised_or_self (cs : List (Catch × Action)) (e : Exc) :
    (∃ s d, handle cs e = .http s d ∧ s ∈ raisedStatuses cs) ∨
      (handle cs e = e ∧ ((∃ c ∈ cs, c.1.matches e ∧ c.2 = .reraise) ∨
        ∀ c ∈ cs, c.1.matches e = false)) := by
  induction cs with
  | nil => simp [handle]
  | cons c cs ih =>
    obtain ⟨c, a⟩ := c
    cases hm : c.matches e
    · rcases ih with ⟨s, d, h, hs⟩ | ⟨h, hr | hn⟩
      · exact .inl ⟨s, d, by simp [handle, hm, h], by simp [raisedStatuses] at hs ⊢; tauto⟩
      · exact .inr ⟨by simp [handle, hm, h], .inl (by simp at hr ⊢; tauto)⟩
      · exact .inr ⟨by simp [handle, hm, h], .inr (by simpa [hm] using hn)⟩
    · cases a with
      | reraise => exact .inr ⟨by simp [handle, hm, Action.run], .inl ⟨(c, .reraise), by simp, hm, rfl⟩⟩
      | raiseHttp s d => exact .inl ⟨s, d.eval e, by simp [handle, hm, Action.run], by simp [raisedStatuses]⟩

theorem handle_closed (h : Closed cs) {e : Exc} (he : e ≠ .cancelled) :
    ∃ s d, handle cs e = .http s d ∧
      (s ∈ raisedStatuses cs ∨ (e = .http s d ∧ (.http, .reraise) ∈ cs)) := by
  obtain ⟨hre, c, hc, hexc⟩ := h
  rcases handle_raised_or_self cs e with ⟨s, d, hh, hs⟩ | ⟨hh, ⟨c', hc', hm, ha⟩ | hn⟩
  · exact ⟨s, d, hh, .inl hs⟩
  · have hhttp := hre c' hc' ha
    obtain ⟨c₁, a₁⟩ := c'
    simp only at hhttp ha
    subst hhttp ha
    cases e <;> simp [Catch.matches] at hm
    exact ⟨_, _, hh, .inr ⟨rfl, hc'⟩⟩
  · have := hn c hc
    rw [hexc] at this
    simp [Catch.matches, he] at this

theorem handle_cancelled (cs : List (Catch × Action)) : handle cs .cancelled = .cancelled := by
  induction cs with
  | nil => rfl
  | cons c cs ih =>
    obtain ⟨c, a⟩ := c
    cases c <;> simpa [handle, Catch.matches] using ih

structure Response (α : Type) where
  status : Nat
  body : Except String α

/-- FastAPI answers an `HTTPException` with its status and detail; anything else that leaves a
route gets a plain 500, from Starlette for an `Exception` and from uvicorn for a cancellation. -/
def respond {α : Type} : Exc → Response α
  | .http status detail => ⟨status, .error detail⟩
  | _ => ⟨500, .error "Internal Server Error"⟩

structure Route where
  status : Nat
  clauses : List (Catch × Action)
  deriving DecidableEq, Repr

def Route.answer {α : Type} (r : Route) : Except Exc α → Response α
  | .ok a => ⟨r.status, .ok a⟩
  | .error e => respond (handle r.clauses e)

end BlogApi.Routers
