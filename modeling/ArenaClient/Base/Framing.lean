import Mathlib.Data.List.Infix

/-! Streams that are concatenations of encoded items, and the positions between
two items. The encoding is arbitrary. -/
namespace Framing
variable {α β : Type*} {encode : α → List β}

/-- `rest` is what is left of the stream after some of the items. -/
def AtBoundary (encode : α → List β) (items : List α) (rest : List β) : Prop :=
  ∃ tail, tail <:+ items ∧ rest = tail.flatMap encode

theorem AtBoundary.start (encode : α → List β) (items : List α) :
    AtBoundary encode items (items.flatMap encode) := ⟨items, List.suffix_refl items, rfl⟩

theorem length_flatMap_le_of_suffix (encode : α → List β) (inner : tail <:+ items) :
    (tail.flatMap encode).length ≤ (items.flatMap encode).length := by
  obtain ⟨before, rfl⟩ := inner
  rw [List.flatMap_append, List.length_append]
  exact Nat.le_add_left _ _

/-- A cut that leaves a proper part of an item is no boundary, whatever the
bytes of the items are. -/
theorem not_atBoundary_inside (inner : item :: tail <:+ items) (some : 0 < cut.length)
    (proper : cut.length < (encode item).length) :
    ¬ AtBoundary encode items (cut ++ tail.flatMap encode) := by
  rintro ⟨left, within, shape⟩
  have size := congrArg List.length shape
  rw [List.length_append] at size
  rcases List.suffix_or_suffix_of_suffix within inner with short | long
  · rcases List.suffix_cons_iff.mp short with rfl | shorter
    · rw [List.flatMap_cons, List.length_append] at size
      omega
    · have bound := length_flatMap_le_of_suffix encode shorter
      omega
  · have bound := length_flatMap_le_of_suffix encode long
    rw [List.flatMap_cons, List.length_append] at bound
    omega

/-! ### Pieces of items -/

/-- Some of the item, but not all of it. -/
def Torn (item bytes : List β) : Prop := bytes ≠ [] ∧ bytes ≠ item

instance [DecidableEq β] (item bytes : List β) : Decidable (Torn item bytes) :=
  inferInstanceAs (Decidable (_ ∧ _))

/-- The beginning of an item, without its end. -/
def Part (item cut : List β) : Prop := cut <+: item ∧ cut ≠ item

/-- Prefixes of items, of which nothing follows a torn one, are a stream of whole
items from the front, with at most a part of the item behind the front. -/
theorem flatten_pieces {γ : Type*} (item bytes : γ → List β) {pieces : List γ}
    (prefixes : ∀ piece ∈ pieces, bytes piece <+: item piece)
    (aligned : pieces.Pairwise fun earlier later =>
      Torn (item earlier) (bytes earlier) → bytes later = []) :
    ∃ (front back : List γ) (whole : List (List β)) (cut : List β), pieces = front ++ back ∧
      (pieces.map bytes).flatten = whole.flatten ++ cut ∧ whole.Sublist (front.map item) ∧
      (cut = [] ∨ ∃ piece ∈ back.head?, Part (item piece) cut) := by
  induction pieces with
  | nil => exact ⟨[], [], [], [], rfl, rfl, .refl _, .inl rfl⟩
  | cons piece pieces ih =>
    obtain ⟨first, rest⟩ := List.forall_mem_cons.mp prefixes
    obtain ⟨after, later⟩ := List.pairwise_cons.mp aligned
    obtain ⟨front, back, whole, cut, rfl, stream, inner, short⟩ := ih rest later
    rw [List.map_cons, List.flatten_cons]
    by_cases nothing : bytes piece = []
    · exact ⟨piece :: front, back, whole, cut, rfl, by rw [nothing, stream, List.nil_append],
        inner.cons _, short⟩
    by_cases all : bytes piece = item piece
    · refine ⟨piece :: front, back, item piece :: whole, cut, rfl, ?_, inner.cons_cons _, short⟩
      rw [stream, all, List.flatten_cons, List.append_assoc]
    · have none : ((front ++ back).map bytes).flatten = [] := by
        rw [List.flatten_eq_nil_iff]
        intro part member
        obtain ⟨other, among, rfl⟩ := List.mem_map.mp member
        exact after other among ⟨nothing, all⟩
      exact ⟨[], piece :: (front ++ back), [], bytes piece, rfl, by rw [none]; simp, List.nil_sublist _,
        .inr ⟨piece, rfl, first, all⟩⟩

end Framing
