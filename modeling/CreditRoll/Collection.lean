import CreditRoll.Credit.Order
import CreditRoll.Github.Error
import CreditRoll.Repository
import CreditRoll.Trace

namespace CreditRoll

/-- Where a repository's contributors are listed and their profiles are looked up. Every call may
change the directory's state, which also keeps a record of the steps taken. -/
structure Directory (σ : Type) where
  list : (owner name : String) → σ → Except Github.Error (List Entry) × σ
  profile : (login : String) → σ → Except Github.Error Profile × σ
  note : Event → σ → σ

namespace Collection

variable {σ : Type}

/-- Looks up the profile of every login that is not in `seen`, each once, in listing order. -/
def resolve (d : Directory σ) (seen : List String) :
    List Entry → σ → Except Github.Error (List Credit) × σ
  | [], s => (.ok [], s)
  | entry :: entries, s =>
    if seen.contains entry.login then
      resolve d seen entries (d.note (.duplicateSkipped entry.login) s)
    else
      match d.profile entry.login s with
      | (.error e, s) => (.error e, s)
      | (.ok profile, s) =>
        let credit := Credit.ofProfile entry profile
        let (credits, s) := resolve d (entry.login :: seen) entries (d.note (.resolved credit) s)
        (credits.map (credit :: ·), s)

def collect (d : Directory σ) (repository : Repository) (order : Order) (s : σ) :
    Except Github.Error (List Credit) × σ :=
  match d.list repository.owner repository.name s with
  | (.error e, s) => (.error e, s)
  | (.ok entries, s) =>
    let (credits, s) := resolve d [] entries (d.note (.listed repository.path entries.length) s)
    (credits.map order.arrange, s)

end Collection

end CreditRoll
