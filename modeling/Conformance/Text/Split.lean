/-!
# Splitting texts

A text is split at every occurrence of a separator, so that there is always one piece more than
there are separators.

## Main definitions

- `splitAll` — the pieces between separators
-/

namespace Conformance.Text

/-- Splits a text at every occurrence of a separator. -/
def splitAll (separator : Char → Bool) (cs : List Char) : List (List Char) :=
  cs.foldr
    (fun c pieces =>
      if separator c then [] :: pieces
      else
        match pieces with
        | piece :: others => (c :: piece) :: others
        | [] => [[c]])
    [[]]

theorem splitAll_ne_nil (separator : Char → Bool) (cs : List Char) :
    splitAll separator cs ≠ [] := by
  cases cs with
  | nil => simp [splitAll]
  | cons c cs =>
    unfold splitAll
    simp only [List.foldr_cons]
    split
    · simp
    · split <;> simp

end Conformance.Text
