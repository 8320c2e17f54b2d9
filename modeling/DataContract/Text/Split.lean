/-!
# Cutting a text at separators

`splitWhere p` cuts a list of characters at every character that satisfies `p`.  It drops the
separators and keeps every piece between them, empty pieces included, so a list with `n`
separators gives `n + 1` pieces.
-/

namespace DataContract.Text

/-- Puts a character in front of the first piece. -/
def pushFirst (c : Char) : List (List Char) → List (List Char)
  | [] => [[c]]
  | piece :: rest => (c :: piece) :: rest

/-- The pieces between the characters that satisfy `p`. -/
def splitWhere (p : Char → Bool) : List Char → List (List Char)
  | [] => [[]]
  | c :: rest => if p c then [] :: splitWhere p rest else pushFirst c (splitWhere p rest)

@[simp] theorem splitWhere_nil (p : Char → Bool) : splitWhere p [] = [[]] := rfl

theorem splitWhere_cons (p : Char → Bool) (c : Char) (rest : List Char) :
    splitWhere p (c :: rest) =
      if p c then [] :: splitWhere p rest else pushFirst c (splitWhere p rest) := rfl

theorem splitWhere_ne_nil (p : Char → Bool) (cs : List Char) : splitWhere p cs ≠ [] := by
  cases cs with
  | nil => simp
  | cons c rest =>
    rw [splitWhere_cons]
    split
    · simp
    · cases splitWhere p rest <;> simp [pushFirst]

end DataContract.Text
