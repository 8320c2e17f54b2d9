/-!
# How alike two names are

When a name is unknown, a message may suggest the known name that it was probably meant to be.
Likeness is a number between 0 and 1.  Two characters *agree* if they are equal and stand at most
a window apart; each character of either text is used once, and the earliest free partner is
taken.  The likeness is the mean of three ratios: the agreeing characters in the first text, in
the second, and those of them that also come in the same order.  A common beginning of up to four
characters brings it nearer to 1, provided it is above seven tenths already.

The arithmetic is that of binary floating-point numbers in a fixed order of operations, because a
suggestion depends on a comparison with a threshold.
-/

namespace DataContract.Text

/-- The index of the first element of `b` at a position from `low` up to but not including `high`
that is free and equal to `c`, where `free` marks the positions still free and `i` is the position
of the head. -/
def partner (c : Char) (low high : Nat) : Nat → List Char → List Bool → Option Nat
  | i, x :: xs, f :: fs =>
    if high ≤ i then none
    else if low ≤ i && f && x == c then some i
    else partner c low high (i + 1) xs fs
  | _, _, _ => none

/-- For each character of the first text whether it has a partner, and the positions of the second
text that are still free at the end; `i` is the position of the head. -/
def pairUp (window : Nat) (b : List Char) : Nat → List Char → List Bool → List Bool × List Bool
  | _, [], free => ([], free)
  | i, c :: rest, free =>
    match partner c (i - window) (min b.length (i + window + 1)) 0 b free with
    | some j =>
      let (used, left) := pairUp window b (i + 1) rest (free.set j false)
      (true :: used, left)
    | none =>
      let (used, left) := pairUp window b (i + 1) rest free
      (false :: used, left)

/-- The characters at the marked positions. -/
def marked (cs : List Char) (marks : List Bool) : List Char :=
  (cs.zip marks).filterMap fun (c, m) => if m then some c else none

/-- The number of positions at which two lists differ. -/
def mismatches (xs ys : List Char) : Nat :=
  (xs.zip ys).countP fun (x, y) => x != y

/-- The mean of the three ratios of agreement. -/
def agreement (a b : List Char) : Float :=
  if a.isEmpty && b.isEmpty then 1.0
  else
    let window := max a.length b.length / 2 - 1
    let (used, free) := pairUp window b 0 a (b.map fun _ => true)
    let mine := marked a used
    let theirs := marked b (free.map (!·))
    let agreeing := mine.length
    let swaps := mismatches mine theirs / 2
    if agreeing == 0 then 0.0
    else
      (agreeing.toFloat / a.length.toFloat + agreeing.toFloat / b.length.toFloat
        + (agreeing - swaps).toFloat / agreeing.toFloat) / 3.0

/-- The length of the common beginning of two texts, counted up to four. -/
def commonStart (a b : List Char) : Nat :=
  (((a.take 4).zip b).takeWhile fun (x, y) => x == y).length

/-- The likeness of two texts. -/
def likeness (s t : String) : Float :=
  let a := s.toList
  let b := t.toList
  let base := agreement a b
  if base > 0.7 then base + 0.1 * (commonStart a b).toFloat * (1.0 - base) else base

/-- The known name most like `name`, if one is more than eight tenths alike; of two that are
equally alike the first. -/
def closest (name : String) (known : List String) : Option String :=
  let step (best : Option (Float × String)) (candidate : String) :=
    let score := likeness name candidate
    match best with
    | none => if score > 0.8 then some (score, candidate) else none
    | some (top, _) => if score > 0.8 && top < score then some (score, candidate) else best
  (known.foldl step none).map (·.2)

end DataContract.Text
