import Mathlib.Data.List.Basic

/-! `build_post_with_author` and `build_comment_with_author` flatten the nested `author` list of a
generated result into `author_username` and `author_full_name`, reading the first entry only. Each
key of an entry is absent (`none`), `None` (`some none`) or a string. -/

namespace BlogApi.Routers

structure AuthorEntry where
  username : Option (Option String)
  fullName : Option (Option String)
  deriving DecidableEq, Repr

/-- The body of both builders: `payload.pop("author", []) or []`, then the first entry's keys; a
`None` username fails the response model on `author_username`. -/
def buildWithAuthor {α : Type} (payload : α) (author : Option (Option (List AuthorEntry))) :
    Except String (α × String × Option String) :=
  let entries := (author.getD (some [])).getD []
  let username := match entries with
    | a :: _ => a.username.getD (some "")
    | [] => some ""
  let fullName := match entries with
    | a :: _ => a.fullName.getD none
    | [] => none
  match username with
  | some u => .ok (payload, u, fullName)
  | none => .error "author_username"

def buildPostWithAuthor {α : Type} (payload : α) (author : Option (Option (List AuthorEntry))) :
    Except String (α × String × Option String) :=
  buildWithAuthor payload author

def buildCommentWithAuthor {α : Type} (payload : α) (author : Option (Option (List AuthorEntry))) :
    Except String (α × String × Option String) :=
  buildWithAuthor payload author

theorem buildWithAuthor_head {α : Type} (payload : α) (a : AuthorEntry) (as : List AuthorEntry) :
    buildWithAuthor payload (some (some (a :: as))) = buildWithAuthor payload (some (some [a])) :=
  rfl

theorem buildWithAuthor_no_entry {α : Type} (payload : α) (author : Option (Option (List AuthorEntry)))
    (h : (author.getD (some [])).getD [] = []) :
    buildWithAuthor payload author = .ok (payload, "", none) := by
  simp only [buildWithAuthor, h]

theorem buildWithAuthor_error_iff {α : Type} (payload : α) (author : Option (Option (List AuthorEntry)))
    (d : String) :
    buildWithAuthor payload author = .error d ↔
      d = "author_username" ∧ ((author.getD (some [])).getD []).head?.map (·.username) = some (some none) := by
  simp only [buildWithAuthor]
  rcases (author.getD (some [])).getD [] with _ | ⟨⟨_ | _ | u, f⟩, as⟩ <;> simp [eq_comm]

end BlogApi.Routers
