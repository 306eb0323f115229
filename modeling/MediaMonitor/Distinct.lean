/-!
# Elements of distinct keys

Of all elements of a list with one key, the monitor keeps the first.
-/

namespace MediaMonitor

/-- The elements that have a key not yet seen, the first of each key. -/
def distinctBy {α κ : Type} [DecidableEq κ] (f : α → κ) (seen : List κ) : List α → List α
  | [] => []
  | a :: rest =>
      if f a ∈ seen then distinctBy f seen rest else a :: distinctBy f (f a :: seen) rest

end MediaMonitor
