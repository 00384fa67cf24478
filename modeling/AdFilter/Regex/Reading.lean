import AdFilter.Regex.Error

/-! # Readers

A reader takes characters and gives what it has read and the characters that are left, or the
fault it has met. Readers are put together by `map` and `bind`; these lemmas say when the result
is a success.
-/

namespace AdFilter.Regex

@[grind =] theorem map_eq_ok {α β : Type} {f : α → β} {x : Except Fault α} {b : β} :
    Except.map f x = .ok b ↔ ∃ a, x = .ok a ∧ f a = b := by
  cases x <;> simp [Except.map]

@[grind =] theorem bind_eq_ok {α β : Type} {f : α → Except Fault β} {x : Except Fault α} {b : β} :
    (x >>= f) = .ok b ↔ ∃ a, x = .ok a ∧ f a = .ok b := by
  cases x <;> simp [bind, Except.bind]

end AdFilter.Regex
