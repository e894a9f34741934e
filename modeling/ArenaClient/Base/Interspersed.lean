/-! Lists with further elements put in at any positions. Folding over such a
list gives what the fold without them gives if each of them is neutral. The
elements, the predicate and the monad are arbitrary. -/
namespace ArenaClient
variable {α S : Type _} {extra : α → Prop}

/-- The second list is the first with elements of the kind `extra` between its own. -/
inductive Interspersed (extra : α → Prop) : List α → List α → Prop where
  | nil : Interspersed extra [] []
  | keep (x : α) : Interspersed extra xs ys → Interspersed extra (x :: xs) (x :: ys)
  | insert (x : α) : extra x → Interspersed extra xs ys → Interspersed extra xs (x :: ys)

namespace Interspersed

theorem refl (xs : List α) : Interspersed extra xs xs := by
  induction xs with
  | nil => exact .nil
  | cons x xs ih => exact .keep x ih

theorem foldlM_eq {m : Type _ → Type _} [Monad m] [LawfulMonad m] {f : S → α → m S}
    (neutral : ∀ x, extra x → ∀ s, f s x = pure s) (mixed : Interspersed extra xs ys) (s : S) :
    ys.foldlM f s = xs.foldlM f s := by
  induction mixed generalizing s with
  | nil => rfl
  | keep x mixed ih =>
    rw [List.foldlM_cons, List.foldlM_cons]
    exact bind_congr ih
  | insert x neutralX mixed ih => rw [List.foldlM_cons, neutral x neutralX, pure_bind, ih]

end Interspersed
end ArenaClient
