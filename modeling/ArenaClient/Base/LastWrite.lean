/-! Runs of steps that are each addressed to one component of the state. What a
run makes of a component is the work of the steps addressed to it, and what it
makes of a field the work of the last step that writes it. All types are
arbitrary. -/
namespace LastWrite
variable {S E K C V : Type _}

/-- A step reaches the component that it is addressed to and no other. -/
structure Addressed [DecidableEq K] (step : S → E → S) (Inv : S → Prop) (addressee : E → K)
    (component : S → K → C) (update : C → E → C) : Prop where
  keeps : ∀ ⦃s⦄ e, Inv s → Inv (step s e)
  acts : ∀ ⦃s⦄ e k, Inv s → component (step s e) k =
    if addressee e = k then update (component s k) e else component s k

/-- The entries that are addressed to one component. -/
def sentTo [DecidableEq K] (addressee : E → K) (k : K) (entries : List E) : List E :=
  entries.filter fun e => addressee e = k

section
variable [DecidableEq K] {step : S → E → S} {Inv : S → Prop} {addressee : E → K} {component : S → K → C}
  {update : C → E → C} {s : S}

theorem Addressed.inv (addressed : Addressed step Inv addressee component update) (inv : Inv s)
    (entries : List E) : Inv (entries.foldl step s) := by
  induction entries generalizing s with
  | nil => exact inv
  | cons e entries ih => exact ih (addressed.keeps e inv)

/-- The steps addressed elsewhere make no difference. -/
theorem Addressed.component_foldl (addressed : Addressed step Inv addressee component update) (inv : Inv s)
    (entries : List E) (k : K) :
    component (entries.foldl step s) k = (sentTo addressee k entries).foldl update (component s k) := by
  induction entries generalizing s with
  | nil => rfl
  | cons e entries ih =>
    rw [List.foldl_cons, ih (addressed.keeps e inv), addressed.acts e k inv, sentTo, sentTo, List.filter_cons]
    by_cases own : addressee e = k
    · rw [if_pos own, if_pos (decide_eq_true own), List.foldl_cons]
    · rw [if_neg own, if_neg (mt of_decide_eq_true own)]

theorem sentTo_sentTo (addressee : E → K) (k : K) (entries : List E) :
    sentTo addressee k (sentTo addressee k entries) = sentTo addressee k entries := by
  simp only [sentTo, List.filter_filter, Bool.and_self]

end

/-- What the last entry with something to write writes. -/
def last (written : E → Option V) (entries : List E) : Option V :=
  entries.reverse.findSome? written

theorem last_append (written : E → Option V) (earlier later : List E) :
    last written (earlier ++ later) = (last written later).or (last written earlier) := by
  simp only [last, List.reverse_append, List.findSome?_append]

theorem last_singleton (written : E → Option V) (e : E) : last written [e] = written e := by
  cases found : written e <;> simp [last, found]

theorem last_cons (written : E → Option V) (e : E) (entries : List E) :
    last written (e :: entries) = (last written entries).or (written e) := by
  rw [← List.singleton_append, last_append, last_singleton]

/-- An entry puts what it writes into the field, and leaves the field alone if
it writes nothing. The field is given by what it means to hold a value. -/
structure Field (step : S → E → S) (Inv : S → Prop) (written : E → Option V) (Holds : S → V → Prop) :
    Prop where
  keeps : ∀ ⦃s⦄ e, Inv s → Inv (step s e)
  writes : ∀ ⦃s e v⦄, Inv s → written e = some v → Holds (step s e) v
  leaves : ∀ ⦃s e v⦄, Inv s → written e = none → Holds s v → Holds (step s e) v

variable {step : S → E → S} {Inv : S → Prop} {written : E → Option V} {Holds : S → V → Prop} {s : S} {v : V}

/-- After a run the field holds what was written last, and what it held before
if nothing was. -/
theorem Field.holds_foldl (field : Field step Inv written Holds) (inv : Inv s) (entries : List E)
    (decided : last written entries = some v ∨ last written entries = none ∧ Holds s v) :
    Holds (entries.foldl step s) v := by
  induction entries generalizing s with
  | nil =>
    obtain absent | ⟨_, holds⟩ := decided
    · exact absurd absent.symm (Option.some_ne_none v)
    · exact holds
  | cons e entries ih =>
    apply ih (field.keeps e inv)
    rw [last_cons] at decided
    cases later : last written entries with
    | some w =>
      rw [later, Option.some_or] at decided
      obtain same | ⟨absent, _⟩ := decided
      · exact .inl same
      · exact absurd absent (Option.some_ne_none w)
    | none =>
      rw [later, Option.none_or] at decided
      refine .inr ⟨rfl, ?_⟩
      obtain writes | ⟨silent, holds⟩ := decided
      · exact field.writes inv writes
      · exact field.leaves inv silent holds

end LastWrite
