import ArenaClient.Base.EntryMap
import ArenaClient.Game.Actors

/-! What a match shows of its players, as a machine of its own: the states
received by id, the actors that stand for the ids, and the state each actor
shows. Two operations move it, a received state and an actor put in place. -/
namespace ArenaClient
open Protocol

@[ext]
structure Display where
  stored : EntryMap UInt64 MatchPlayerState
  players : EntryMap UInt64 ActorPtr
  myPlayer : ActorPtr
  localObjectId : UInt64
  /-- The state of an actor; none if there is no such actor. -/
  shown : ActorId → Option FMatchPlayerStateData

namespace Display
variable {display : Display} {ids : List UInt64} {objectId : UInt64} {actor : ActorId}
  {state : MatchPlayerState}

def receive (display : Display) (objectId : UInt64) (state : MatchPlayerState) : Display :=
  if objectId ∈ display.stored then
    { display with
      stored := display.stored.insert objectId state
      shown := fun actor =>
        if display.players.lookup objectId = some (some actor) then (display.shown actor).map fun _ => state.data
        else display.shown actor }
  else display

def place (display : Display) (objectId : UInt64) (actor : ActorId) (state : MatchPlayerState) : Display :=
  { display with
    players := display.players.insert objectId (some actor)
    myPlayer := if objectId = display.localObjectId then some actor else display.myPlayer
    shown := Function.update display.shown actor (some state.data) }

/-- An actor of its own for each id of a list, which shows the stored state. -/
structure UpToDate (ids : List UInt64) (display : Display) : Prop where
  players : ∀ objectId, objectId ∈ display.players ↔ objectId ∈ ids
  myPlayer : display.myPlayer = (display.players.lookup display.localObjectId).join
  apart : EntryMap.OneToOne display.players
  shown : ∀ objectId pointer, display.players.lookup objectId = some pointer →
    ∃ actor state, pointer = some actor ∧ display.stored.lookup objectId = some state ∧
      display.shown actor = some state.data

theorem UpToDate.receive (upToDate : display.UpToDate ids) (objectId : UInt64) (state : MatchPlayerState) :
    (display.receive objectId state).UpToDate ids := by
  rw [Display.receive]
  split
  · refine ⟨upToDate.players, upToDate.myPlayer, upToDate.apart, ?_⟩
    intro other pointer found
    obtain ⟨actor, earlier, rfl, stored, shows⟩ := upToDate.shown other pointer found
    dsimp only at found ⊢
    by_cases same : other = objectId
    · refine ⟨actor, state, rfl, ?_, ?_⟩
      · rw [EntryMap.lookup_insert_eq, if_pos same]
      · rw [if_pos (same ▸ found), shows, Option.map_some]
    · refine ⟨actor, earlier, rfl, ?_, ?_⟩
      · rw [EntryMap.lookup_insert_eq, if_neg same]
        exact stored
      · rw [if_neg fun also => same (upToDate.apart found also)]
        exact shows
  · exact upToDate

/-- The actor is fresh, or stood for the same id before. -/
theorem UpToDate.place (upToDate : display.UpToDate ids) (stored : display.stored.lookup objectId = some state)
    (fresh : ∀ other, display.players.lookup other = some (some actor) → other = objectId) :
    (display.place objectId actor state).UpToDate (ids ++ [objectId]) where
  players other := by
    rw [Display.place, AList.mem_insert, upToDate.players, List.mem_append, List.mem_singleton, or_comm]
  myPlayer := by
    dsimp only [Display.place]
    rw [EntryMap.lookup_insert_eq]
    by_cases isLocal : objectId = display.localObjectId
    · rw [if_pos isLocal, if_pos isLocal.symm, Option.join_some]
    · rw [if_neg isLocal, if_neg fun swapped => isLocal swapped.symm, upToDate.myPlayer]
  apart := upToDate.apart.insert fresh
  shown other pointer found := by
    dsimp only [Display.place] at found ⊢
    rw [EntryMap.lookup_insert_eq] at found
    split at found
    · rename_i same
      exact ⟨actor, state, (Option.some.inj found).symm, same ▸ stored, Function.update_self _ _ _⟩
    · rename_i other_ne
      obtain ⟨another, earlier, rfl, known, shows⟩ := upToDate.shown other pointer found
      have elsewhere : another ≠ actor := fun same => other_ne (fresh other (same ▸ found))
      exact ⟨another, earlier, rfl, known, (Function.update_of_ne elsewhere _ _).trans shows⟩

end Display
end ArenaClient
