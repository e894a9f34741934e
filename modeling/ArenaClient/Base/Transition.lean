import Mathlib.Data.List.Induction
import Mathlib.Logic.Relation

/-! Finite labelled runs of a step relation. Histories are explicit, so a
property of every visited state and a condition on every taken step are both
read off the same run. States, labels and the relation are arbitrary. -/
namespace Transition
variable {S L : Type*}

/-- A run from a state: the label and the target of each step in turn. -/
def Run (step : S → L → S → Prop) : S → List (L × S) → Prop
  | _, [] => True
  | s, (l, t) :: rest => step s l t ∧ Run step t rest

def final : S → List (L × S) → S
  | s, [] => s
  | _, (_, t) :: rest => final t rest

def EveryState (P : S → Prop) : S → List (L × S) → Prop
  | s, [] => P s
  | s, (_, t) :: rest => P s ∧ EveryState P t rest

/-- The condition sees the state before a step and the label of the step. -/
def EveryStep (C : S → L → Prop) : S → List (L × S) → Prop
  | _, [] => True
  | s, (l, t) :: rest => C s l ∧ EveryStep C t rest

/-- The labels and states of a run as another system sees them. -/
def projected {S' L' : Type*} (view : S → S') (seen : S → L → S → L') : S → List (L × S) → List (L' × S')
  | _, [] => []
  | s, (l, t) :: rest => (seen s l t, view t) :: projected view seen t rest

def Reachable (step : S → L → S → Prop) (s t : S) : Prop :=
  ∃ path, Run step s path ∧ final s path = t

variable {step : S → L → S → Prop} {P Q : S → Prop} {C D : S → L → Prop}

theorem run_append : Run step s (path ++ rest) ↔ Run step s path ∧ Run step (final s path) rest := by
  induction path generalizing s with
  | nil => exact (and_iff_right trivial).symm
  | cons head tail ih => exact (and_congr_right fun _ => ih).trans and_assoc.symm

namespace Run

theorem append (first : Run step s path) (second : Run step (final s path) rest) :
    Run step s (path ++ rest) := run_append.mpr ⟨first, second⟩

/-- Induction from the last step backwards, for what speaks of the whole run. -/
theorem snoc_induction {P : List (L × S) → Prop} (run : Run step s path) (start : P [])
    (next : ∀ ⦃seen l t⦄, Run step s seen → P seen → step (final s seen) l t → P (seen ++ [(l, t)])) :
    P path := by
  induction path using List.reverseRecOn with
  | nil => exact start
  | append_singleton seen last ih =>
    obtain ⟨earlier, taken, _⟩ := run_append.mp run
    exact next earlier (ih earlier) taken

/-- The run as a coarser system sees it. -/
theorem project {S' L' : Type*} {coarse : S' → L' → S' → Prop} {view : S → S'} {seen : S → L → S → L'}
    (simulates : ∀ ⦃s l t⦄, step s l t → coarse (view s) (seen s l t) (view t))
    (run : Run step s path) : Run coarse (view s) (projected view seen s path) := by
  induction path generalizing s with
  | nil => trivial
  | cons head tail ih => exact ⟨simulates run.1, ih run.2⟩

theorem everyState (preserves : ∀ ⦃s l t⦄, P s → step s l t → P t)
    (run : Run step s path) (initial : P s) : EveryState P s path := by
  induction path generalizing s with
  | nil => exact initial
  | cons head tail ih => exact ⟨initial, ih run.2 (preserves initial run.1)⟩

/-- A run whose steps all meet a condition is a run of the steps that meet it. -/
theorem restrict (run : Run step s path) (every : EveryStep C s path) :
    Run (fun s l t => step s l t ∧ C s l) s path := by
  induction path generalizing s with
  | nil => trivial
  | cons head tail ih => exact ⟨⟨run.1, every.1⟩, ih run.2 every.2⟩

end Run

theorem EveryState.head (every : EveryState P s path) : P s := by
  cases path with
  | nil => exact every
  | cons head tail => exact every.1

theorem EveryState.mono (weaker : ∀ s, P s → Q s) (every : EveryState P s path) :
    EveryState Q s path := by
  induction path generalizing s with
  | nil => exact weaker s every
  | cons head tail ih => exact ⟨weaker s every.1, ih every.2⟩

theorem EveryState.last (every : EveryState P s path) : P (final s path) := by
  induction path generalizing s with
  | nil => exact every
  | cons head tail ih => exact ih every.2

/-- An invariant of the steps holds at the end of a run. -/
theorem Run.preserved (preserves : ∀ ⦃s l t⦄, P s → step s l t → P t) (run : Run step s path) (initial : P s) :
    P (final s path) := by
  have every : EveryState P s path := run.everyState preserves initial
  exact every.last

theorem everyStep_append : EveryStep C s (path ++ rest) ↔
    EveryStep C s path ∧ EveryStep C (final s path) rest := by
  induction path generalizing s with
  | nil => exact (and_iff_right trivial).symm
  | cons head tail ih => exact (and_congr_right fun _ => ih).trans and_assoc.symm

theorem final_append (s : S) (path rest : List (L × S)) :
    final s (path ++ rest) = final (final s path) rest := by
  induction path generalizing s with
  | nil => rfl
  | cons head tail ih => exact ih head.2

theorem final_projected {S' L' : Type*} (view : S → S') (seen : S → L → S → L') (s : S)
    (path : List (L × S)) : final (view s) (projected view seen s path) = view (final s path) := by
  induction path generalizing s with
  | nil => rfl
  | cons head tail ih => exact ih head.2

/-- What the steps of a run put out, each seen from the state before it. -/
def output (emits : S → L → List E) : S → List (L × S) → List E
  | _, [] => []
  | s, (l, t) :: rest => emits s l ++ output emits t rest

theorem output_append (emits : S → L → List E) (s : S) (path rest : List (L × S)) :
    output emits s (path ++ rest) = output emits s path ++ output emits (final s path) rest := by
  induction path generalizing s with
  | nil => rfl
  | cons head tail ih =>
    rw [List.cons_append, output, ih head.2, output, List.append_assoc]
    rfl

theorem output_snoc (emits : S → L → List E) (s : S) (path : List (L × S)) (last : L × S) :
    output emits s (path ++ [last]) = output emits s path ++ emits (final s path) last.1 := by
  rw [output_append, output, output, List.append_nil]

/-- A log that grows by what each step puts out. -/
theorem Run.log_eq (log : S → List E) (emits : S → L → List E)
    (invariant : ∀ ⦃s l t⦄, P s → step s l t → P t)
    (grows : ∀ ⦃s l t⦄, P s → step s l t → log t = log s ++ emits s l)
    (run : Run step s path) (initial : P s) : log (final s path) = log s ++ output emits s path := by
  induction path generalizing s with
  | nil => exact (List.append_nil _).symm
  | cons head tail ih =>
    rw [final, ih run.2 (invariant initial run.1), grows initial run.1, output, List.append_assoc]

/-- Where a sequence of computations succeeds, its first one has. -/
theorem bind_ok {E : Type*} {A B : Type u} {first : Except E A} {rest : A → Except E B} {result : B}
    (succeeded : first >>= rest = .ok result) : ∃ middle, first = .ok middle ∧ rest middle = .ok result := by
  cases first with
  | error fault => exact absurd succeeded (by simp [bind, Except.bind])
  | ok middle => exact ⟨middle, rfl, succeeded⟩

theorem foldlM_cons_ok {E : Type*} {f : S → L → Except E S} {l : L} {labels : List L} {s t : S}
    (ran : (l :: labels).foldlM f s = .ok t) : ∃ u, f s l = .ok u ∧ labels.foldlM f u = .ok t := by
  rw [List.foldlM_cons] at ran
  exact bind_ok ran

namespace Reachable

theorem refl (s : S) : Reachable step s s := ⟨[], trivial, rfl⟩

theorem next (reached : Reachable step s t) (taken : step t l u) : Reachable step s u := by
  obtain ⟨path, run, rfl⟩ := reached
  exact ⟨path ++ [(l, u)], run.append ⟨taken, trivial⟩, final_append s path [(l, u)]⟩

theorem trans (first : Reachable step s t) (second : Reachable step t u) : Reachable step s u := by
  obtain ⟨path, run, rfl⟩ := first
  obtain ⟨rest, run', rfl⟩ := second
  exact ⟨path ++ rest, run.append run', final_append s path rest⟩

theorem head (reached : Reachable step s t) :
    s = t ∨ ∃ l u, step s l u ∧ Reachable step u t := by
  obtain ⟨path, run, ending⟩ := reached
  cases path with
  | nil => exact .inl ending
  | cons first rest => exact .inr ⟨first.1, first.2, run.1, rest, run.2, ending⟩

theorem invariant (preserves : ∀ ⦃s l t⦄, P s → step s l t → P t)
    (reached : Reachable step s t) (initial : P s) : P t := by
  obtain ⟨path, run, rfl⟩ := reached
  exact run.preserved preserves initial

/-- The same when only reachable states keep the invariant. -/
theorem invariant_of_reached (preserves : ∀ ⦃u l v⦄, Reachable step s u → P u → step u l v → P v)
    (reached : Reachable step s t) (initial : P s) : P t := by
  have kept : Reachable step s t ∧ P t :=
    reached.invariant (P := fun u => Reachable step s u ∧ P u)
      (fun _ _ _ ⟨earlier, holds⟩ taken => ⟨earlier.next taken, preserves earlier holds taken⟩)
      ⟨.refl s, initial⟩
  exact kept.2

/-- For steps that a function computes: where it leads without an error. -/
theorem of_foldlM {E : Type*} {f : S → L → Except E S} {labels : List L}
    (ran : labels.foldlM f s = .ok t) : Reachable (fun s l t => f s l = .ok t) s t := by
  induction labels generalizing s with
  | nil =>
    obtain rfl := Except.ok.inj ran
    exact .refl s
  | cons l labels ih =>
    obtain ⟨u, taken, later⟩ := foldlM_cons_ok ran
    exact ((refl s).next taken).trans (ih later)

theorem mono {step finer : S → L → S → Prop} (implies : ∀ ⦃s l t⦄, finer s l t → step s l t)
    (reached : Reachable finer s t) : Reachable step s t :=
  reached.invariant (P := Reachable step s) (fun _ _ _ earlier taken => earlier.next (implies taken)) (refl s)

end Reachable

/-- Conditional safety: `Q` needs only hold along steps that meet `C`, while
the supporting invariant `P` is kept by every step. -/
theorem everyState_of_everyStep (invariant : ∀ ⦃s l t⦄, P s → step s l t → P t)
    (keeps : ∀ ⦃s l t⦄, P s → Q s → C s l → step s l t → Q t)
    (run : Run step s path) (initial : P s) (safe : Q s) (orderly : EveryStep C s path) :
    EveryState Q s path := by
  induction path generalizing s with
  | nil => exact safe
  | cons head tail ih =>
    have next := keeps initial safe orderly.1 run.1
    exact ⟨safe, ih run.2 (invariant initial run.1) next orderly.2⟩

/-- The same for what a step itself has to satisfy. -/
theorem everyStep_of_everyStep (invariant : ∀ ⦃s l t⦄, P s → step s l t → P t)
    (keeps : ∀ ⦃s l t⦄, P s → Q s → C s l → step s l t → Q t)
    (yields : ∀ ⦃s l t⦄, P s → Q s → step s l t → D s l)
    (run : Run step s path) (initial : P s) (safe : Q s) (orderly : EveryStep C s path) :
    EveryStep D s path := by
  induction path generalizing s with
  | nil => trivial
  | cons head tail ih =>
    have next := keeps initial safe orderly.1 run.1
    exact ⟨yields initial safe run.1, ih run.2 (invariant initial run.1) next orderly.2⟩

/-- The condition is exact as soon as each step that breaks it leads to a
state without `Q`. -/
theorem everyState_iff_everyStep (invariant : ∀ ⦃s l t⦄, P s → step s l t → P t)
    (keeps : ∀ ⦃s l t⦄, P s → Q s → C s l → step s l t → Q t)
    (breaks : ∀ ⦃s l t⦄, P s → step s l t → ¬ C s l → ¬ Q t)
    (run : Run step s path) (initial : P s) (safe : Q s) :
    EveryState Q s path ↔ EveryStep C s path := by
  constructor
  · intro every
    induction path generalizing s with
    | nil => trivial
    | cons head tail ih =>
      have next := invariant initial run.1
      refine ⟨?_, ih run.2 next every.2.head every.2⟩
      exact Classical.byContradiction fun broken => breaks initial run.1 broken every.2.head
  · exact everyState_of_everyStep invariant keeps run initial safe

/-- The same where the condition decides, from a state with `Q`, whether the
step leads to one. -/
theorem everyState_iff_of_step (invariant : ∀ ⦃s l t⦄, P s → step s l t → P t)
    (decides : ∀ ⦃s l t⦄, P s → Q s → step s l t → (Q t ↔ C s l))
    (run : Run step s path) (initial : P s) (safe : Q s) :
    EveryState Q s path ↔ EveryStep C s path := by
  induction path generalizing s with
  | nil => exact iff_of_true safe trivial
  | cons head tail ih =>
    have next := invariant initial run.1
    have decided := decides initial safe run.1
    constructor
    · intro every
      have safeNext : Q head.2 := every.2.head
      exact ⟨decided.mp safeNext, (ih run.2 next safeNext).mp every.2⟩
    · intro every
      have safeNext : Q head.2 := decided.mpr every.1
      exact ⟨safe, (ih run.2 next safeNext).mpr every.2⟩

end Transition
