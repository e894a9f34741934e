import ArenaClient.Base.FieldOrder

/-! What is accepted is well-formed: whatever the bytes are, all text of the
message is UTF-8, that of nested messages too. -/
namespace Protobuf.Schema
variable {schema : Schema} {M : Type} {name : schema.Name} {sub : schema.Reader} {depth : Nat}

/-- However deep one looks. -/
def WellFormed (name : schema.Name) (msg : schema.Carrier name) : Prop := ∀ levels, validUtf8 levels name msg

def valueUtf8 (sub : (name : schema.Name) → schema.Carrier name → Bool) :
    (kind : FieldKind schema.Carrier M) → kind.Value → Bool
  | .string _, text => Utf8.isStructurallyValidUTF8 text
  | .message name _, inner => Option.all (sub name) inner
  | .repeated name _, elements => List.all elements (sub name)
  | .bool _, _ | .uint64 _, _ | .uint32 _, _ | .int32 _, _ | .enum _, _ | .float _, _ => true

theorem fieldUtf8_eq (sub : (name : schema.Name) → schema.Carrier name → Bool)
    (field : FieldCase schema.Carrier M) (msg : M) :
    fieldUtf8 sub field msg = valueUtf8 sub field.kind (field.kind.slot.get msg) := by
  unfold fieldUtf8
  cases field.kind <;> rfl

theorem wellFormed_iff {msg : schema.Carrier name} : WellFormed name msg ↔
    ∀ field ∈ schema.cases name, ∀ levels, valueUtf8 (validUtf8 levels) field.kind (field.kind.slot.get msg) := by
  constructor
  · intro wellFormed field member levels
    rw [← fieldUtf8_eq]
    exact List.all_eq_true.mp (wellFormed (levels + 1)) field member
  · intro fields levels
    cases levels with
    | zero => rfl
    | succ levels =>
      refine List.all_eq_true.mpr fun field member => ?_
      rw [fieldUtf8_eq]
      exact fields field member levels

/-- A reader that only adds what is well-formed. -/
def Keeps (sub : schema.Reader) : Prop := ∀ name msg bytes msg', sub name msg bytes = some msg' →
  WellFormed name msg → WellFormed name msg'

variable (clear : ∀ name, WellFormed name (schema.empty name))
include clear

theorem received_keeps (keeps : Keeps sub) (kind : FieldKind schema.Carrier M) {old new : kind.Value}
    (read : received sub kind old payload = some new) (valid : ∀ levels, valueUtf8 (validUtf8 levels) kind old)
    (levels : Nat) : valueUtf8 (validUtf8 levels) kind new := by
  cases kind with
  | string slot =>
    cases payload with
    | delimited text =>
      obtain ⟨utf8, same⟩ := Option.ite_none_right_eq_some.mp (show (if _ then _ else _) = _ from read)
      obtain rfl := Option.some.inj same
      exact utf8
    | _ => exact Option.some.inj read ▸ valid levels
  | message inner slot =>
    cases payload with
    | delimited bytes =>
      obtain ⟨msg, decoded, rfl⟩ := Option.map_eq_some_iff.mp (show Option.map _ _ = _ from read)
      refine keeps _ _ _ _ decoded ?_ levels
      cases old with
      | none => exact clear inner
      | some old => exact fun levels => valid levels
    | _ => exact Option.some.inj read ▸ valid levels
  | «repeated» inner slot =>
    cases payload with
    | delimited bytes =>
      obtain ⟨msg, decoded, rfl⟩ := Option.map_eq_some_iff.mp (show Option.map _ _ = _ from read)
      have element := keeps _ _ _ _ decoded (clear inner) levels
      refine List.all_eq_true.mpr fun other member => ?_
      rcases List.mem_append.mp member with before | last
      · exact List.all_eq_true.mp (valid levels) other before
      · exact List.mem_singleton.mp last ▸ element
    | _ => exact Option.some.inj read ▸ valid levels
  | _ => rfl

theorem applyNumbered_keeps (independent : schema.Independent) (keeps : Keeps sub)
    {msg msg' : schema.Carrier name} (read : applyNumbered sub msg field = some msg')
    (wellFormed : WellFormed name msg) : WellFormed name msg' := by
  unfold applyNumbered at read
  cases found : schema.find name field.1 with
  | none =>
    rw [found] at read
    exact Option.some.inj read ▸ wellFormed
  | some one =>
    rw [found, Option.elim_some, applyField_eq] at read
    obtain ⟨value, accepted, rfl⟩ := Option.map_eq_some_iff.mp read
    have member := List.mem_of_find?_eq_some found
    have fields := wellFormed_iff.mp wellFormed
    refine wellFormed_iff.mpr fun other among levels => ?_
    by_cases same : one.number = other.number
    · have found' := find_of_mem among
      rw [← same, find_of_mem member] at found'
      obtain rfl := Option.some.inj found'
      rw [one.kind.slot.get_set]
      exact received_keeps clear keeps one.kind accepted (fields one member) levels
    · rw [(independent.apart member among same).get_set]
      exact fields other among levels

theorem step_keeps (independent : schema.Independent) (keeps : Keeps sub)
    {state next : List Nat × schema.Carrier name} (taken : step sub depth name state t = some next)
    (wellFormed : WellFormed name state.2) : WellFormed name next.2 := by
  obtain ⟨groups, msg⟩ := state
  cases t with
  | startGroup number =>
    obtain ⟨_, same⟩ := Option.ite_none_right_eq_some.mp (show (if _ then _ else _) = _ from taken)
    exact Option.some.inj same ▸ wellFormed
  | endGroup number =>
    cases groups with
    | nil => cases taken
    | cons group groups =>
      obtain ⟨_, same⟩ := Option.ite_none_right_eq_some.mp (show (if _ then _ else _) = _ from taken)
      exact Option.some.inj same ▸ wellFormed
  | field number payload =>
    cases groups with
    | nil =>
      rw [step_field (number, payload)] at taken
      obtain ⟨msg', read, rfl⟩ := Option.map_eq_some_iff.mp taken
      exact applyNumbered_keeps clear independent keeps read wellFormed
    | cons group groups => exact Option.some.inj taken ▸ wellFormed

theorem steps_keep (independent : schema.Independent) (keeps : Keeps sub) (tokens : List Token)
    {state last : List Nat × schema.Carrier name} (ran : tokens.foldlM (step sub depth name) state = some last)
    (wellFormed : WellFormed name state.2) : WellFormed name last.2 := by
  induction tokens generalizing state with
  | nil => exact Option.some.inj ran ▸ wellFormed
  | cons t tokens ih =>
    rw [List.foldlM_cons] at ran
    obtain ⟨next, taken, rest⟩ := Option.bind_eq_some_iff.mp ran
    exact ih rest (step_keeps clear independent keeps taken wellFormed)

theorem decodeWith_keeps (independent : schema.Independent) (keeps : Keeps sub) : Keeps (decodeWith sub depth) := by
  intro name msg bytes msg' decoded wellFormed
  obtain ⟨⟨groups, last⟩, ran, closed⟩ := Option.bind_eq_some_iff.mp decoded
  obtain ⟨tokens, _, steps⟩ := Option.bind_eq_some_iff.mp ran
  obtain ⟨_, same⟩ := Option.ite_none_right_eq_some.mp closed
  exact Option.some.inj same ▸ steps_keep clear independent keeps tokens steps wellFormed

/-- Decoding never lets anything else into a message. -/
theorem decode_keeps (independent : schema.Independent) (depth : Nat) : Keeps (decode depth : schema.Reader) := by
  induction depth with
  | zero => exact decodeWith_keeps clear independent fun _ _ _ _ read => by cases read
  | succ depth ih => exact decodeWith_keeps clear independent ih

end Protobuf.Schema
