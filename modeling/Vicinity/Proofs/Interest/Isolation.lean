import Vicinity.Interest.Policy
import Vicinity.Proofs.World.Square

/-! # Viewers and publishers of different worlds

A chunk carries no world. The chunk policy asks a viewer for its world and hands on a publisher's
chunk unasked, so what keeps a viewer from hearing another world is that publishers of other worlds
than the policy's stay away from the policy, or else speak in a chunk that the viewer cannot see.
-/

namespace Vicinity

/-- The world of a publisher that has one. -/
def Publisher.world? : Publisher → Option WorldId
  | block b => some b.world
  | entity e => some e.location.world
  | chunk _ | text _ | foreign _ => none

namespace ChunkPolicy

/-- Whatever a publisher's topics are, a viewer hears none of them. -/
def Separates (policy : ChunkPolicy) (viewer : Viewer) (publisher : Publisher) : Prop :=
  ∀ topics, targets publisher = .ok topics → ∀ topic ∈ topics, topic ∉ policy.interest viewer

/-- How far a viewer hears: the smaller of the two view distances. -/
def earshot (policy : ChunkPolicy) (viewer : Viewer) : Nat :=
  ChunkKey.reach (min policy.viewDistance viewer.viewDistance)

theorem mem_interest_iff (policy : ChunkPolicy) (viewer : Viewer) (chunk : ChunkKey) :
    chunk ∈ policy.interest viewer ↔ viewer.location.world = policy.world ∧
      (viewer.location.chunk.distance chunk).toNat ≤ policy.earshot viewer := by
  unfold interest
  split
  case isTrue here =>
    exact (ChunkKey.mem_square_iff _ _ _).trans (and_iff_right here).symm
  case isFalse away =>
    exact iff_of_false (TopicSet.not_mem_empty chunk) fun both => away both.1

/-- Whoever has a world stands in a chunk, and that chunk is its one topic. -/
theorem targets_of_world? {publisher : Publisher} {world : WorldId}
    (stands : publisher.world? = some world) :
    ∃ chunk, publisher.chunkOf = .ok chunk ∧ targets publisher = .ok [chunk] := by
  cases publisher with
  | block b => exact ⟨b.chunk, rfl, rfl⟩
  | entity e => exact ⟨e.chunk, rfl, rfl⟩
  | chunk | text | foreign => cases stands

theorem separates_iff_not_mem (policy : ChunkPolicy) (viewer : Viewer) {publisher : Publisher}
    {chunk : ChunkKey} (selected : targets publisher = .ok [chunk]) :
    policy.Separates viewer publisher ↔ chunk ∉ policy.interest viewer := by
  unfold Separates
  constructor
  · intro separates
    exact separates [chunk] selected chunk (List.mem_singleton_self chunk)
  · intro unheard topics selects topic listed
    obtain rfl : [chunk] = topics := Except.ok.inj (selected.symm.trans selects)
    rwa [List.mem_singleton.mp listed]

/-- A block or an entity of another world than a viewer's reaches its chunk and nothing else. The
viewer hears it only if the viewer, but not the publisher, is in the world that the policy serves
and the chunk of the same coordinates lies within the viewer's earshot there. -/
theorem separates_of_other_world (policy : ChunkPolicy) (viewer : Viewer) (publisher : Publisher)
    (world : WorldId) (stands : publisher.world? = some world)
    (apart : world ≠ viewer.location.world) :
    (world = policy.world → policy.Separates viewer publisher) ∧
    (viewer.location.world ≠ policy.world → policy.Separates viewer publisher) ∧
    ∃ chunk, publisher.chunkOf = .ok chunk ∧ targets publisher = .ok [chunk] ∧
      (viewer.location.world = policy.world →
        (policy.Separates viewer publisher ↔
          policy.earshot viewer < (viewer.location.chunk.distance chunk).toNat)) := by
  obtain ⟨chunk, found, selected⟩ := targets_of_world? stands
  have unheard : viewer.location.world ≠ policy.world → policy.Separates viewer publisher := by
    intro away
    rw [separates_iff_not_mem policy viewer selected, mem_interest_iff]
    exact fun both => away both.1
  refine ⟨?served, unheard, chunk, found, selected, ?within⟩
  case served =>
    rintro rfl
    exact unheard apart.symm
  case within =>
    intro here
    rw [separates_iff_not_mem policy viewer selected, mem_interest_iff, not_and, Nat.not_le]
    exact forall_prop_of_true here

/-- A block of the world that is served, at a place that a viewer of another world could see if it
were there. -/
theorem separates_served_block :
    let policy : ChunkPolicy := ⟨⟨1⟩, 8⟩
    let viewer : Viewer := ⟨7, ⟨⟨0⟩, 40, 64, -3⟩, 8⟩
    let block : Publisher := .block ⟨⟨1⟩, 40, 64, -3⟩
    block.world? = some ⟨1⟩ ∧ (⟨1⟩ : WorldId) ≠ viewer.location.world ∧
      targets block = .ok [⟨2, -1⟩] ∧ policy.Separates viewer block := by
  intro policy viewer block
  have stands : block.world? = some ⟨1⟩ := rfl
  have apart : (⟨1⟩ : WorldId) ≠ viewer.location.world := by decide
  have place : Block.chunk ⟨⟨1⟩, 40, 64, -3⟩ = ⟨2, -1⟩ := by decide
  obtain ⟨served, -, chunk, found, selected, -⟩ :=
    separates_of_other_world policy viewer block ⟨1⟩ stands apart
  obtain rfl : ⟨2, -1⟩ = chunk := place.symm.trans (Except.ok.inj found)
  exact ⟨stands, apart, selected, served rfl⟩

/-- A viewer and an entity have the same coordinates in two worlds, and the viewer's is served: the
viewer hears the entity. -/
theorem not_separates_same_coordinates :
    ¬ ∀ (policy : ChunkPolicy) (viewer : Viewer) (publisher : Publisher) (world : WorldId),
      publisher.world? = some world → world ≠ viewer.location.world →
        policy.Separates viewer publisher := by
  intro separate
  let policy : ChunkPolicy := ⟨⟨0⟩, 0⟩
  let viewer : Viewer := ⟨1, ⟨⟨0⟩, 0, 64, 0⟩, 0⟩
  let entity : Entity := ⟨9, ⟨⟨1⟩, 0, 64, 0⟩⟩
  have separates : policy.Separates viewer (.entity entity) :=
    separate policy viewer (.entity entity) ⟨1⟩ rfl (by decide)
  have same : entity.chunk = viewer.location.chunk := rfl
  have heard : entity.chunk ∈ policy.interest viewer := by
    rw [mem_interest_iff, same, ChunkKey.toNat_distance_self]
    exact ⟨rfl, Nat.zero_le _⟩
  exact separates [entity.chunk] rfl entity.chunk (List.mem_singleton_self _) heard

end ChunkPolicy

end Vicinity
