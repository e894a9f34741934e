/-! Calls on an object, one after the other. A call gives an answer and the next
state, or has no defined outcome, after which nothing more is called. States,
calls and answers are arbitrary. -/
namespace Calls
variable {S L R : Type _}

/-- The answers in order and the last state, if every call has an outcome. -/
def run (call : S → L → Option (R × S)) : S → List L → Option (List R × S)
  | s, [] => some ([], s)
  | s, l :: calls => do
    let (answer, next) ← call s l
    let (answers, last) ← run call next calls
    return (answer :: answers, last)

/-- `P` at every call that is made, of the state before it and its outcome. -/
def EveryCall (call : S → L → Option (R × S)) (P : S → L → Option (R × S) → Prop) : S → List L → Prop
  | _, [] => True
  | s, l :: calls =>
    P s l (call s l) ∧ ∀ answer next, call s l = some (answer, next) → EveryCall call P next calls

variable {call : S → L → Option (R × S)} {P Q : S → L → Option (R × S) → Prop} {s next last : S}
  {answer : R} {answers : List R} {l : L} {calls : List L}

theorem run_cons (taken : call s l = some (answer, next)) (rest : run call next calls = some (answers, last)) :
    run call s (l :: calls) = some (answer :: answers, last) := by
  simp [run, taken, rest]

theorem run_cons_eq_some (ran : run call s (l :: calls) = some (answers, last)) :
    ∃ answer next rest, call s l = some (answer, next) ∧ run call next calls = some (rest, last) ∧
      answers = answer :: rest := by
  rw [run] at ran
  obtain ⟨⟨answer, next⟩, taken, ran⟩ := Option.bind_eq_some_iff.mp ran
  obtain ⟨⟨rest, ending⟩, later, ran⟩ := Option.bind_eq_some_iff.mp ran
  obtain ⟨rfl, rfl⟩ := Prod.mk.inj (Option.some.inj ran)
  exact ⟨answer, next, rest, taken, later, rfl⟩

instance decidableEveryCall [∀ s l outcome, Decidable (P s l outcome)] :
    (s : S) → (calls : List L) → Decidable (EveryCall call P s calls)
  | _, [] => .isTrue trivial
  | s, l :: calls =>
    match taken : call s l with
    | none =>
      decidable_of_iff (P s l none)
        ⟨fun holds => ⟨taken ▸ holds, fun _ _ later =>
            absurd (taken.symm.trans later) (Option.some_ne_none _).symm⟩,
          fun every => taken ▸ every.1⟩
    | some (answer, next) =>
      have : Decidable (EveryCall call P next calls) := decidableEveryCall next calls
      decidable_of_iff (P s l (some (answer, next)) ∧ EveryCall call P next calls)
        ⟨fun holds => ⟨taken ▸ holds.1, fun answer' next' later => by
            obtain ⟨rfl, rfl⟩ := Prod.mk.inj (Option.some.inj (taken.symm.trans later))
            exact holds.2⟩,
          fun every => ⟨taken ▸ every.1, every.2 answer next taken⟩⟩

/-- Where an invariant lets a condition on the state before a call decide the
property of its outcome, and the property passes the invariant on, the condition
at every call is exact for the property at every call. -/
theorem everyCall_iff {I : S → Prop} {C : S → L → Prop}
    (decides : ∀ s l, I s → (P s l (call s l) ↔ C s l))
    (keeps : ∀ s l answer next, I s → P s l (some (answer, next)) → I next)
    (initial : I s) (calls : List L) :
    EveryCall call P s calls ↔ EveryCall call (fun s l _ => C s l) s calls := by
  induction calls generalizing s with
  | nil => exact Iff.rfl
  | cons l calls ih =>
    have first : P s l (call s l) ↔ C s l := decides s l initial
    constructor
    · rintro ⟨holds, later⟩
      refine ⟨first.mp holds, fun answer next taken => ?_⟩
      exact (ih (keeps s l answer next initial (taken ▸ holds))).mp (later answer next taken)
    · rintro ⟨meets, later⟩
      have holds := first.mpr meets
      refine ⟨holds, fun answer next taken => ?_⟩
      exact (ih (keeps s l answer next initial (taken ▸ holds))).mpr (later answer next taken)

end Calls
