import ArenaClient.Base.Transition

/-! Runs with a history variable: the labels that took effect, latest first. A
view of the state that moves with those labels, and with nothing else, is a
function of the history. States, labels and views are arbitrary. -/
namespace Transition
variable {S L A : Type*}

structure Recorded (S L : Type*) where
  state : S
  history : List L := []

/-- `counts` says in which state a label takes effect. -/
def Recording (step : S → L → S → Prop) (counts : S → L → Prop) (before : Recorded S L) (l : L)
    (after : Recorded S L) : Prop :=
  step before.state l after.state ∧
    (counts before.state l ∧ after.history = l :: before.history ∨
      ¬ counts before.state l ∧ after.history = before.history)

/-- A step moves the view as `receive` does if it counts and keeps it otherwise. -/
structure Follows (step : S → L → S → Prop) (counts : S → L → Prop) (view : S → A)
    (receive : L → A → A) : Prop where
  counted : ∀ ⦃s l t⦄, step s l t → counts s l → view t = receive l (view s)
  ignored : ∀ ⦃s l t⦄, step s l t → ¬ counts s l → view t = view s

variable {step : S → L → S → Prop} {counts : S → L → Prop} {view : S → A} {receive : L → A → A}
  {start last : S} {path : List (L × Recorded S L)} {l : L} {before after : Recorded S L}

theorem Follows.view_step (follows : Follows step counts view receive)
    (known : view before.state = before.history.foldr receive (view start))
    (taken : Recording step counts before l after) :
    view after.state = after.history.foldr receive (view start) := by
  obtain ⟨taken, ⟨counted, grown⟩ | ⟨ignored, same⟩⟩ := taken
  · rw [follows.counted taken counted, known, grown, List.foldr_cons]
  · rw [follows.ignored taken ignored, known, same]

/-- In every state of every run the view is what the history makes of the first. -/
theorem Follows.view_eq (follows : Follows step counts view receive)
    (reached : Reachable (Recording step counts) { state := start } after) :
    view after.state = after.history.foldr receive (view start) :=
  reached.invariant (P := fun recorded =>
      view recorded.state = recorded.history.foldr receive (view start))
    (fun _ _ _ known taken => follows.view_step known taken) rfl

end Transition
