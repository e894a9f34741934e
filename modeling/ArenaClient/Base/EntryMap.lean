import ArenaClient.Base.LastWrite
import Mathlib.Data.List.AList
import Mathlib.Data.List.Induction

/-! Association lists used as maps from keys to values of one type: which keys
an insertion adds, what is left of a list inserted entry by entry, and maps in
which no two keys have the same value, also by a record of the insertions. Keys,
values and entries are arbitrary. -/
namespace ArenaClient

abbrev EntryMap (K V : Type*) := AList fun _ : K => V

namespace EntryMap
variable {E K V : Type*} {map : EntryMap K V} {key other : K} {value : V}

theorem eq_empty_iff {map : EntryMap K V} : map = ∅ ↔ ∀ key, key ∉ map := by
  constructor
  · rintro rfl key
    exact AList.notMem_empty key
  · intro unlisted
    have keys : map.keys = [] := List.eq_nil_iff_forall_not_mem.mpr unlisted
    exact AList.ext (List.map_eq_nil_iff.mp keys)

variable [DecidableEq K]

theorem mem_iff_lookup : key ∈ map ↔ ∃ value, map.lookup key = some value := by
  rw [← AList.lookup_isSome, Option.isSome_iff_exists]

theorem lookup_insert_eq (map : EntryMap K V) (key other : K) (value : V) :
    (map.insert key value).lookup other = if other = key then some value else map.lookup other := by
  by_cases same : other = key
  · rw [same, AList.lookup_insert, if_pos rfl]
  · rw [AList.lookup_insert_ne same, if_neg same]

/-- A listed key gets a new value; the keys stay. -/
theorem mem_insert_of_mem (listed : key ∈ map) (value : V) (other : K) :
    other ∈ map.insert key value ↔ other ∈ map := by
  rw [AList.mem_insert, or_iff_right_iff_imp]
  rintro rfl
  exact listed

/-- Different keys have different values. -/
def OneToOne (map : EntryMap K V) : Prop :=
  ∀ ⦃key other value⦄, map.lookup key = some value → map.lookup other = some value → key = other

theorem OneToOne.insert (apart : OneToOne map)
    (fresh : ∀ other, map.lookup other = some value → other = key) : OneToOne (map.insert key value) := by
  intro first second found foundFirst foundSecond
  rw [lookup_insert_eq] at foundFirst foundSecond
  split at foundFirst
  · rename_i isKey
    split at foundSecond
    · rename_i isKey'
      exact isKey.trans isKey'.symm
    · rw [isKey]
      obtain rfl := Option.some.inj foundFirst
      exact (fresh second foundSecond).symm
  · split at foundSecond
    · rename_i isKey'
      rw [isKey']
      obtain rfl := Option.some.inj foundSecond
      exact fresh first foundFirst
    · exact apart foundFirst foundSecond

/-! ### Maps that can be read backwards -/

variable [DecidableEq V] {inserted : List (K × V)}

/-- The key that a value was last inserted under. -/
def lastKey (inserted : List (K × V)) (value : V) : Option K :=
  LastWrite.last (fun entry => if entry.2 = value then some entry.1 else none) inserted

omit [DecidableEq K] in
theorem lastKey_concat (inserted : List (K × V)) (key : K) (value other : V) :
    lastKey (inserted ++ [(key, value)]) other = if value = other then some key else lastKey inserted other := by
  rw [lastKey, LastWrite.last_append, LastWrite.last_singleton]
  split
  · rw [Option.some_or]
  · rw [Option.none_or, lastKey]

/-- What the map holds is where it was last inserted. -/
def Traced (inserted : List (K × V)) (map : EntryMap K V) : Prop :=
  ∀ ⦃key value⦄, map.lookup key = some value → lastKey inserted value = some key

theorem traced_empty (inserted : List (K × V)) : Traced inserted ∅ := by
  intro key value found
  exact absurd ((AList.lookup_empty key).symm.trans found).symm (Option.some_ne_none value)

theorem Traced.oneToOne (traced : Traced inserted map) : OneToOne map := by
  intro key other value found found'
  exact Option.some.inj ((traced found).symm.trans (traced found'))

/-- What was inserted before does not count for values inserted since. -/
theorem Traced.prepend (traced : Traced inserted map) (earlier : List (K × V)) :
    Traced (earlier ++ inserted) map := by
  intro key value found
  have here : LastWrite.last _ inserted = some key := traced found
  rw [lastKey, LastWrite.last_append, here, Option.some_or]

theorem Traced.insert (traced : Traced inserted map)
    (fresh : ∀ other, map.lookup other = some value → other = key) :
    Traced (inserted ++ [(key, value)]) (map.insert key value) := by
  intro other kept found
  rw [lookup_insert_eq] at found
  rw [lastKey_concat]
  split at found
  · rename_i same
    rw [if_pos (Option.some.inj found), same]
  · rename_i other_ne
    have elsewhere : value ≠ kept := by
      rintro rfl
      exact other_ne (fresh other found)
    rw [if_neg elsewhere]
    exact traced found

end EntryMap
end ArenaClient
