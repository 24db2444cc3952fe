import BlogApi.Routers.Except
import BlogApi.Routers.Author
import Mathlib.Data.List.Forall2

/-! The thirteen routes of `app/routers/`: each one's decorator status and `except` chain, and the
bodies the code fixes itself (the insert check of `create_user` and the unfinished update and
delete routes). The other bodies call generated query functions and stand as inputs. -/

namespace BlogApi.Routers

def notImplemented : String := "Not implemented - run SnapSQL code generation first"

/-- The body of an unfinished route: `raise HTTPException(status_code=501, detail=...)`. -/
def notImplementedBody {α : Type} : Except Exc α := .error (.http 501 notImplemented)

/-- The loop of the list routes: `results = []`, then `async for` over a generator that yields
`items` and, if `raised`, raises after them, appending `build(item)` for each; `return results`. -/
def collect {α β : Type} (build : α → Except Exc β) : List α → Option Exc → Except Exc (List β)
  | [], none => .ok []
  | [], some e => .error e
  | x :: xs, raised => do
    let y ← build x
    let ys ← collect build xs raised
    return y :: ys

theorem collect_eq_ok {α β : Type} {build : α → Except Exc β} {xs : List α} {raised : Option Exc}
    {ys : List β} :
    collect build xs raised = .ok ys ↔ raised = none ∧ List.Forall₂ (fun x y => build x = .ok y) xs ys := by
  induction xs generalizing ys with
  | nil => cases raised <;> cases ys <;> simp [collect]
  | cons x xs ih =>
    cases ys with
    | nil =>
      cases hb : build x <;> cases hc : collect build xs raised <;>
        simp [collect, hb, hc, bind, Except.bind, pure, Except.pure]
    | cons y ys =>
      rw [List.forall₂_cons, ← and_assoc, and_comm (a := raised = none), and_assoc, ← ih]
      cases hb : build x <;> cases hc : collect build xs raised <;>
        simp [collect, hb, hc, bind, Except.bind, pure, Except.pure]

namespace Users

def createUser : Route :=
  ⟨201, [(.uniqueViolation, .raiseHttp 409 (.text "Username or email already exists")),
    (.exception, .raiseHttp 400 .str)]⟩

/-- The body of `create_user` after `conn.fetchrow(...)`: `if row is None` it raises a 500. -/
def createUserBody {α : Type} (fetchrow : Except Exc (Option α)) : Except Exc α :=
  fetchrow.bind fun
    | none => .error (.http 500 "Failed to insert user")
    | some row => .ok row

def getUser : Route :=
  ⟨200, [(.notFound, .raiseHttp 404 (.text "User not found")), (.exception, .raiseHttp 500 .str)]⟩

def listUsers : Route := ⟨200, [(.exception, .raiseHttp 500 .str)]⟩

/-- `userResponse` is `UserResponse(**item.to_dict())`, which may reject an item. -/
def listUsersBody {α β : Type} (userResponse : α → Except Exc β) (items : List α) (raised : Option Exc) :
    Except Exc (List β) :=
  collect userResponse items raised

def updateUser : Route := ⟨200, [(.http, .reraise), (.exception, .raiseHttp 500 .str)]⟩

def deleteUser : Route := ⟨204, [(.exception, .raiseHttp 500 .str)]⟩

end Users

namespace Posts

def createPost : Route :=
  ⟨201, [(.validation, .raiseHttp 400 .message),
    (.uniqueViolation, .raiseHttp 409 (.text "Post already exists")),
    (.exception, .raiseHttp 500 .str)]⟩

def getPost : Route :=
  ⟨200, [(.notFound, .raiseHttp 404 .message), (.validation, .raiseHttp 400 .message),
    (.exception, .raiseHttp 500 .str)]⟩

/-- The body of `get_post` after `post_get`: `build_post_with_author(result.to_dict())`. -/
def getPostBody {α : Type} (fetched : Except Exc (α × Option (Option (List AuthorEntry)))) :
    Except Exc (α × String × Option String) :=
  fetched.bind fun r => (buildPostWithAuthor r.1 r.2).mapError .other

def listPosts : Route :=
  ⟨200, [(.validation, .raiseHttp 400 .message), (.exception, .raiseHttp 500 .str)]⟩

/-- A record is its other fields and its `author` entry. -/
def listPostsBody {α : Type} (records : List (α × Option (Option (List AuthorEntry))))
    (raised : Option Exc) : Except Exc (List (α × String × Option String)) :=
  collect (fun r => (buildPostWithAuthor r.1 r.2).mapError .other) records raised

def updatePost : Route := ⟨200, [(.http, .reraise), (.exception, .raiseHttp 500 .str)]⟩

def deletePost : Route := ⟨204, [(.exception, .raiseHttp 500 .str)]⟩

end Posts

namespace Comments

def createComment : Route :=
  ⟨201, [(.validation, .raiseHttp 400 .message), (.exception, .raiseHttp 500 .str)]⟩

def listCommentsByPost : Route :=
  ⟨200, [(.validation, .raiseHttp 400 .message), (.exception, .raiseHttp 500 .str)]⟩

def listCommentsByPostBody {α : Type} (records : List (α × Option (Option (List AuthorEntry))))
    (raised : Option Exc) : Except Exc (List (α × String × Option String)) :=
  collect (fun r => (buildCommentWithAuthor r.1 r.2).mapError .other) records raised

def deleteComment : Route := ⟨204, [(.exception, .raiseHttp 500 .str)]⟩

end Comments

def routes : List Route :=
  [Users.createUser, Users.getUser, Users.listUsers, Users.updateUser, Users.deleteUser,
    Posts.createPost, Posts.getPost, Posts.listPosts, Posts.updatePost, Posts.deletePost,
    Comments.createComment, Comments.listCommentsByPost, Comments.deleteComment]

theorem routes_closed : ∀ r ∈ routes, Closed r.clauses := by decide

/-- Every route turns every `Exception` of its body into an `HTTPException`, answered with a
status its own `except` clauses raise or, in a route that re-raises `HTTPException`s, with the
one the body raised; a cancellation passes every chain and gets a plain 500. -/
theorem route_answer_error {α : Type} (r : Route) (hr : r ∈ routes) (e : Exc) :
    (e ≠ .cancelled → ∃ s d, handle r.clauses e = .http s d ∧
      r.answer (.error e : Except Exc α) = ⟨s, .error d⟩ ∧
      (s ∈ raisedStatuses r.clauses ∨ (e = .http s d ∧ (.http, .reraise) ∈ r.clauses))) ∧
    r.answer (.error .cancelled : Except Exc α) = ⟨500, .error "Internal Server Error"⟩ := by
  refine ⟨fun he => ?_, by simp [Route.answer, handle_cancelled, respond]⟩
  obtain ⟨s, d, hh, hs⟩ := handle_closed (routes_closed r hr) he
  exact ⟨s, d, hh, by simp [Route.answer, hh, respond], hs⟩

/-- `list_users` answers 200 or 500 whatever its body does: its `except Exception` turns even the
501 of an unfinished query into a 500. -/
theorem listUsers_status {α : Type} (body : Except Exc α) :
    (Users.listUsers.answer body).status = 200 ∨ (Users.listUsers.answer body).status = 500 := by
  rcases body with e | a
  · right
    obtain ⟨hexc, hcancel⟩ := route_answer_error (α := α) Users.listUsers (by decide) e
    by_cases he : e = .cancelled
    · rw [he, hcancel]
    · obtain ⟨s, d, -, ha, hs | ⟨-, hm⟩⟩ := hexc he
      · rw [ha]
        simpa [raisedStatuses, Users.listUsers] using hs
      · simp [Users.listUsers] at hm
  · exact .inl rfl

-- Only the update routes re-raise the 501 of an unfinished body; a delete route answers 500.
example : (Users.updateUser.answer (notImplementedBody : Except Exc Unit)).body =
    .error notImplemented := rfl

example : (Users.deleteUser.answer (notImplementedBody : Except Exc Unit)).status = 500 ∧
    (Users.deleteUser.answer (notImplementedBody : Except Exc Unit)).body =
      .error "501: Not implemented - run SnapSQL code generation first" := ⟨rfl, rfl⟩

example : (Users.createUser.answer (Users.createUserBody (.ok none : Except Exc (Option Unit)))).status
    = 400 := rfl

/-- A list route answers its status with a list exactly when the generator ends without raising
and every record builds, one built entry per record in order: no partial list is sent. -/
theorem list_answer_all_or_nothing {α β : Type} (r : Route) (build : α → Except Exc β) (xs : List α)
    (raised : Option Exc) (ys : List β) :
    r.answer (collect build xs raised) = ⟨r.status, .ok ys⟩ ↔
      raised = none ∧ List.Forall₂ (fun x y => build x = .ok y) xs ys := by
  rw [← collect_eq_ok]
  cases collect build xs raised with
  | ok zs => simp [Route.answer]
  | error e =>
    simp only [Route.answer, reduceCtorEq, iff_false]
    cases handle r.clauses e <;> simp [respond]

-- One record whose first author has a `None` username fails the whole page of `list_posts`.
example : (Posts.listPosts.answer (Posts.listPostsBody
    [((), some (some [⟨some (some "ann"), none⟩])), ((), some (some [⟨some none, none⟩]))] none)).status
      = 500 := rfl

end BlogApi.Routers
