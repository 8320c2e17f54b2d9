/-!
# Sets of characters given by runs of code points

A property of the Unicode character database is a set of characters, and written out as runs of
consecutive code points it is short enough to be a literal.  The two case properties have one
regularity more: over long stretches they hold of every other code point, because an upper-case
letter stands beside its lower-case form.  A `CharSet` therefore lists two sorts of run.
-/

namespace DataContract.Text

/-- A set of characters: the code points from the first to the last of each run in `solid`, and
every other one of those in each run in `alternating`, starting with its first. -/
structure CharSet where
  solid : List (Nat × Nat)
  alternating : List (Nat × Nat) := []

namespace CharSet

/-- Whether the code point `n` lies in the set. -/
def containsCode (s : CharSet) (n : Nat) : Bool :=
  s.solid.any (fun run => run.1 ≤ n && n ≤ run.2) ||
    s.alternating.any (fun run => run.1 ≤ n && n ≤ run.2 && (n - run.1) % 2 == 0)

/-- Whether the character `c` lies in the set. -/
def contains (s : CharSet) (c : Char) : Bool := s.containsCode c.toNat

end CharSet

end DataContract.Text
