/-!
# Walks over lists

A list is gone through with the index of each element, up to the first element that is refused.
-/

namespace LineSieve

/-- Maps a list whose first element is at `index`, up to the first element that is refused. -/
def mapFrom {α β ε : Type} (f : Nat → α → Except ε β) (index : Nat) :
    List α → Except ε (List β)
  | [] => .ok []
  | x :: rest =>
    match f index x with
    | .error e => .error e
    | .ok y => (mapFrom f (index + 1) rest).map (y :: ·)

end LineSieve
