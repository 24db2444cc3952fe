import Mathlib.Data.Rat.Defs

/-! The request models of `app/models.py` as pydantic checks them in lax mode: each field's
annotation, default and `Field(...)` constraints. A present value is first converted to the
field's type, then the converted value is checked against the constraints; a missing field takes
its default unchecked, as pydantic does without `validate_default`, and the errors of all fields
are reported together. -/

namespace BlogApi.Models

inductive Value
  | str (s : String)
  | int (n : Int)
  | float (q : ℚ)
  | bool (b : Bool)
  | null
  deriving DecidableEq, Repr

inductive Kind
  | str
  | email
  | optStr
  | int
  | bool
  deriving DecidableEq, Repr

inductive Constraint
  | minLength (n : Nat)
  | maxLength (n : Nat)
  | ge (n : Int)
  | le (n : Int)
  deriving DecidableEq, Repr

/-- A declared field; `default` is `none` for a required one (`Field(...)` or no default). -/
structure FieldSpec where
  name : String
  kind : Kind
  default : Option Value
  constraints : List Constraint
  deriving DecidableEq, Repr

inductive Problem
  | missing
  | wrongType (kind : Kind)
  | invalidEmail
  | violates (c : Constraint)
  deriving DecidableEq, Repr

structure FieldError where
  field : String
  problem : Problem
  deriving DecidableEq, Repr

/-- pydantic's string parsers for `int` and `bool`, and `email-validator`'s normalised address. -/
structure Parsers where
  int : String → Option Int
  bool : String → Option Bool
  email : String → Option String

/-- pydantic's lax conversion of an input to a field's type. -/
def Kind.coerce (P : Parsers) : Kind → Value → Option Value
  | .str, .str s | .optStr, .str s => some (.str s)
  | .optStr, .null => some .null
  | .email, .str s => (P.email s).map .str
  | .int, .int n => some (.int n)
  | .int, .bool b => some (.int (if b then 1 else 0))
  | .int, .float q => if q.den = 1 then some (.int q.num) else none
  | .int, .str s => (P.int s).map .int
  | .bool, .bool b => some (.bool b)
  | .bool, .int n => if n = 0 then some (.bool false) else if n = 1 then some (.bool true) else none
  | .bool, .float q => if q = 0 then some (.bool false) else if q = 1 then some (.bool true) else none
  | .bool, .str s => (P.bool s).map .bool
  | _, _ => none

def Kind.problem : Kind → Value → Problem
  | .email, .str _ => .invalidEmail
  | k, _ => .wrongType k

def Constraint.holds : Constraint → Value → Bool
  | .minLength n, .str s => n ≤ s.length
  | .maxLength n, .str s => s.length ≤ n
  | .ge n, .int m => n ≤ m
  | .le n, .int m => m ≤ n
  | _, _ => true

theorem coerce_parsers {v : Value} (hv : (v matches .str _) = false) (P P' : Parsers) (k : Kind) :
    k.coerce P v = k.coerce P' v := by
  cases v with
  | str => simp at hv
  | _ => cases k <;> rfl

section Check
variable (P : Parsers)

/-- A present value: converted to the field's type, then the first constraint it breaks. -/
def FieldSpec.checkValue (f : FieldSpec) (v : Value) : Except FieldError Value :=
  match f.kind.coerce P v with
  | none => .error ⟨f.name, f.kind.problem v⟩
  | some u => match f.constraints.find? (fun c => !c.holds u) with
    | some c => .error ⟨f.name, .violates c⟩
    | none => .ok u

def FieldSpec.check (f : FieldSpec) : Option Value → Except FieldError Value
  | some v => f.checkValue P v
  | none => match f.default with
    | some d => .ok d
    | none => .error ⟨f.name, .missing⟩

def validate : List FieldSpec → List (String × Value) → Except (List FieldError) (List (String × Value))
  | [], _ => .ok []
  | f :: fs, input =>
    match f.check P (input.lookup f.name), validate fs input with
    | .ok v, .ok vs => .ok ((f.name, v) :: vs)
    | .ok _, .error es => .error es
    | .error e, .ok _ => .error [e]
    | .error e, .error es => .error (e :: es)

theorem checkValue_field {f : FieldSpec} {v : Value} {e : FieldError}
    (h : f.checkValue P v = .error e) : e.field = f.name := by
  unfold FieldSpec.checkValue at h
  split at h
  · cases h; rfl
  split at h <;> cases h
  rfl

theorem check_field {f : FieldSpec} {o : Option Value} {e : FieldError}
    (h : f.check P o = .error e) : e.field = f.name := by
  cases o with
  | some v => exact checkValue_field P h
  | none =>
    simp only [FieldSpec.check] at h
    split at h <;> cases h
    rfl

theorem validate_error_mem {fs : List FieldSpec} {input : List (String × Value)}
    {es : List FieldError} (h : validate P fs input = .error es) :
    ∀ e ∈ es, ∃ f ∈ fs, f.check P (input.lookup f.name) = .error e ∧ e.field = f.name := by
  induction fs generalizing es with
  | nil => cases h
  | cons f fs ih =>
    simp only [validate] at h
    split at h <;> cases h <;> intro e he
    · obtain ⟨g, hg, hc, hn⟩ := ih ‹_› e he
      exact ⟨g, List.mem_cons_of_mem _ hg, hc, hn⟩
    · rw [List.mem_singleton] at he
      subst he
      exact ⟨f, List.mem_cons_self _ _, ‹_›, check_field P ‹_›⟩
    · rcases List.mem_cons.mp he with rfl | he
      · exact ⟨f, List.mem_cons_self _ _, ‹_›, check_field P ‹_›⟩
      · obtain ⟨g, hg, hc, hn⟩ := ih ‹_› e he
        exact ⟨g, List.mem_cons_of_mem _ hg, hc, hn⟩

theorem validate_ok_iff (fs : List FieldSpec) (input : List (String × Value)) :
    (∃ vs, validate P fs input = .ok vs) ↔
      ∀ f ∈ fs, ∃ v, f.check P (input.lookup f.name) = .ok v := by
  induction fs with
  | nil => simp [validate]
  | cons f fs ih =>
    simp only [validate, List.mem_cons, forall_eq_or_imp, ← ih]
    split <;> simp_all

theorem checkValue_parsers {v : Value} (hv : (v matches .str _) = false) (P' : Parsers)
    (f : FieldSpec) : f.checkValue P v = f.checkValue P' v := by
  unfold FieldSpec.checkValue
  rw [coerce_parsers hv P P']

end Check

def userCreate : List FieldSpec :=
  [⟨"username", .str, none, [.minLength 3, .maxLength 50]⟩, ⟨"email", .email, none, []⟩,
    ⟨"full_name", .optStr, some .null, []⟩, ⟨"bio", .optStr, some .null, []⟩]

def userUpdate : List FieldSpec :=
  [⟨"email", .email, none, []⟩, ⟨"full_name", .optStr, some .null, []⟩,
    ⟨"bio", .optStr, some .null, []⟩]

def postCreate : List FieldSpec :=
  [⟨"title", .str, none, [.minLength 1, .maxLength 255]⟩, ⟨"content", .str, none, [.minLength 1]⟩,
    ⟨"published", .bool, some (.bool false), []⟩]

def postUpdate : List FieldSpec :=
  [⟨"title", .str, none, [.minLength 1, .maxLength 255]⟩, ⟨"content", .str, none, [.minLength 1]⟩,
    ⟨"published", .bool, none, []⟩]

def commentCreate : List FieldSpec :=
  [⟨"post_id", .int, none, []⟩, ⟨"content", .str, none, [.minLength 1]⟩]

def paginationParams : List FieldSpec :=
  [⟨"limit", .int, some (.int 20), [.ge 1, .le 100]⟩, ⟨"offset", .int, some (.int 0), [.ge 0]⟩]

def searchParams : List FieldSpec :=
  [⟨"query", .str, none, [.minLength 1]⟩, ⟨"limit", .int, some (.int 20), [.ge 1, .le 100]⟩]

def listPostsQuery : List FieldSpec :=
  [⟨"limit", .int, some (.int 20), [.ge 1, .le 100]⟩, ⟨"offset", .int, some (.int 0), [.ge 0]⟩]

def requestModels : List (List FieldSpec) :=
  [userCreate, userUpdate, postCreate, postUpdate, commentCreate, paginationParams, searchParams,
    listPostsQuery]

/-- Every default of the app's models passes its own field's check unchanged. -/
theorem defaults_pass_checks (P : Parsers) :
    ∀ m ∈ requestModels, ∀ f ∈ m, ∀ d ∈ f.default, f.checkValue P d = .ok d := by
  have hd : ∀ m ∈ requestModels, ∀ f ∈ m, ∀ d ∈ f.default, (d matches .str _) = false ∧
      (f.checkValue ⟨fun _ => none, fun _ => none, fun _ => none⟩ d).toOption = some d := by
    decide
  intro m hm f hf d hdm
  obtain ⟨hs, hc⟩ := hd m hm f hf d hdm
  rw [checkValue_parsers P hs ⟨fun _ => none, fun _ => none, fun _ => none⟩]
  revert hc
  cases f.checkValue _ d <;> simp [Except.toOption]

end BlogApi.Models
