/-!
# Computations that may fail

Where a computation ends well, so did each of its parts.
-/

namespace Conformance

variable {ε α β : Type}

theorem bind_eq_ok {first : Except ε α} {next : α → Except ε β} {b : β}
    (h : first >>= next = .ok b) : ∃ a, first = .ok a ∧ next a = .ok b := by
  cases first with
  | error e => cases h
  | ok a => exact ⟨a, rfl, h⟩

/-- What goes on behind a check has gone on. -/
theorem ok_of_guard {c : Prop} [Decidable c] {error : ε} {next : PUnit → Except ε α} {a : α}
    (h : (if c then throw error >>= next else next ⟨⟩) = .ok a) : next ⟨⟩ = .ok a := by
  split at h
  · cases h
  · exact h

end Conformance
