import Linkage.Repository.Session

/-!
Computations that look classes up as they go.

An inquiry is a result, or a class to look up and what to do with the answer. So it does not depend
on how classes are looked up: it can be answered by a loader, or by a repository that remembers.
-/

set_option autoImplicit false

namespace Linkage

/-- A computation that may look classes up. -/
inductive Inquiry (α : Type) where
  | done (result : Except CheckerError α)
  | lookUp (className : String) (next : ClassLookup → Inquiry α)

namespace Inquiry

/-- Continues with the result of an inquiry. -/
def bind {α β : Type} (inquiry : Inquiry α) (next : α → Inquiry β) : Inquiry β :=
  match inquiry with
  | done (.ok value) => next value
  | done (.error error) => done (.error error)
  | lookUp className continue_ => lookUp className fun lookup => (continue_ lookup).bind next

instance : Monad Inquiry where
  pure value := done (.ok value)
  bind := bind

/-- What is known of a class. -/
def find (className : String) : Inquiry ClassLookup := lookUp className fun lookup => pure lookup

/-- A result that needs no lookup. -/
def ofExcept {α : Type} (result : Except CheckerError α) : Inquiry α := done result

/-- The result when lookups are answered by a function. -/
def answer {α : Type} (look : String → Except CheckerError ClassLookup) :
    Inquiry α → Except CheckerError α
  | done result => result
  | lookUp className next =>
    match look className with
    | .ok lookup => (next lookup).answer look
    | .error error => .error error

/-- The result when lookups are answered by a repository, and the repository afterwards. -/
def run {α : Type} (fs : FileSystem) (repository : Repository) :
    Inquiry α → Except CheckerError α × Repository
  | done result => (result, repository)
  | lookUp className next =>
    match repository.find fs className with
    | (.ok lookup, repository) => (next lookup).run fs repository
    | (.error error, repository) => (.error error, repository)

end Inquiry

end Linkage
