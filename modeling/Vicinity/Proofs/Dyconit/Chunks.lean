import Vicinity.Dyconit.Policies
import Vicinity.Proofs.Dyconit.Commands
import Vicinity.Proofs.World.Name

/-! # Chunks and their dyconits

A policy that gives each visible chunk a dyconit of its own goes through names and commands where the
chunk policy has the chunks themselves. Since a name belongs to one chunk, nothing is merged on the
way: viewers hear and publishers reach under names what they hear and reach under the chunk policy.
-/

namespace Vicinity

variable {V T U M : Type}

/-- Where some subscriber and some publisher are concerned, one policy is another whose topics go by
names. -/
structure Policy.Names (nameOf : T → U) (policy : Policy V T) (named : Policy V U) (subscriber : V)
    (publisher : Publisher) : Prop where
  interest : ∀ name, name ∈ named.interest subscriber ↔
    ∃ topic ∈ policy.interest subscriber, nameOf topic = name
  size : (named.interest subscriber).size = (policy.interest subscriber).size
  /-- The publisher has one target, which the subscriber hears by name if it hears it at all, or the
  same error comes of both. -/
  targets :
    match policy.targets publisher with
    | .ok targets => ∃ topic, targets = [topic] ∧ named.targets publisher = .ok [nameOf topic] ∧
      (nameOf topic ∈ named.interest subscriber ↔ topic ∈ policy.interest subscriber)
    | .error e => named.targets publisher = .error e

namespace Dyconit

/-- Each chunk in sight has its own bounds under its own name. -/
theorem entries_bounds_perChunk (name : String) (viewDistance : UInt32)
    (boundsOf : Viewer → ChunkKey → Bounds) (viewer : Viewer) :
    (Adapter.bounds (⟨perChunk name viewDistance boundsOf⟩ : Adapter Viewer M) viewer).entries =
      (viewer.visibleChunks viewDistance).map fun chunk => (chunk.name, boundsOf viewer chunk) := by
  have once : ((viewer.visibleChunks viewDistance).map ChunkKey.name).Nodup :=
    (ChunkKey.nodup_square _ _).map fun _ _ => ChunkKey.eq_of_name_eq
  exact entries_applyAll_subscriptions (boundsOf viewer) once

/-- What is visible is heard, each chunk by its name. -/
theorem toList_interest_perChunk (name : String) (viewDistance : UInt32)
    (boundsOf : Viewer → ChunkKey → Bounds) (viewer : Viewer) :
    (Adapter.interest (⟨perChunk name viewDistance boundsOf⟩ : Adapter Viewer M) viewer).toList =
      (viewer.visibleChunks viewDistance).map ChunkKey.name := by
  dsimp only [Adapter.interest, Table.keys]
  rw [entries_bounds_perChunk, List.map_map]
  rfl

/-- A policy with a dyconit for each chunk names the chunks of the world in which a viewer stands. -/
theorem names_perChunk (name : String) (viewDistance : UInt32)
    (boundsOf : Viewer → ChunkKey → Bounds) {world : WorldId} {viewer : Viewer}
    (here : viewer.location.world = world) (publisher : Publisher) :
    Policy.Names ChunkKey.name (ChunkPolicy.toPolicy ⟨world, viewDistance⟩)
      (Adapter.toPolicy (⟨perChunk name viewDistance boundsOf⟩ : Adapter Viewer M)) viewer
      publisher := by
  let chunks := (ChunkPolicy.toPolicy ⟨world, viewDistance⟩).interest viewer
  let dyconits := (Adapter.toPolicy (⟨perChunk name viewDistance boundsOf⟩ : Adapter Viewer M)).interest
    viewer
  have visible : chunks.toList = viewer.visibleChunks viewDistance :=
    congrArg TopicSet.toList (if_pos here)
  have heard : dyconits.toList = chunks.toList.map ChunkKey.name := by
    rw [visible]
    exact toList_interest_perChunk name viewDistance boundsOf viewer
  have mem_iff (dyconit : String) :
      dyconit ∈ dyconits ↔ ∃ chunk ∈ chunks, chunk.name = dyconit := by
    change dyconit ∈ dyconits.toList ↔ _
    rw [heard, List.mem_map]
    rfl
  refine ⟨mem_iff, ?size, ?targets⟩
  case size =>
    change dyconits.toList.length = chunks.toList.length
    rw [heard, List.length_map]
  case targets =>
    dsimp only [ChunkPolicy.toPolicy, ChunkPolicy.targets, Adapter.toPolicy, Adapter.targets, perChunk,
      chunkOf]
    cases publisher.chunkOf with
    | error e => rfl
    | ok chunk =>
      refine ⟨chunk, rfl, rfl, (mem_iff chunk.name).trans ?_⟩
      constructor
      · rintro ⟨other, member, same⟩
        rwa [← ChunkKey.eq_of_name_eq same]
      · intro member
        exact ⟨chunk, member, rfl⟩

/-- Both policies with a dyconit for each chunk name the chunks of a viewer's world: the viewer hears
the names of the chunks around it, as many as there are chunks, and a publisher reaches the name of
its chunk or cannot be placed by either. So a viewer hears a publisher by name exactly if it hears
the publisher's chunk. -/
theorem names_chunks (world : WorldId) (viewDistance : UInt32) (viewer : Viewer)
    (here : viewer.location.world = world) (publisher : Publisher) :
    ∀ policy ∈ [chunkPolicy viewDistance, (quadraticPolicy viewDistance : Policy Viewer M)],
      Policy.Names ChunkKey.name (ChunkPolicy.toPolicy ⟨world, viewDistance⟩)
        (Adapter.toPolicy ⟨policy⟩) viewer publisher := by
  intro policy listed
  rw [List.mem_pair] at listed
  rcases listed with rfl | rfl
  · exact names_perChunk _ viewDistance _ here publisher
  · exact names_perChunk _ viewDistance _ here publisher

/-- A block in the last column and the first row of its chunk, both coordinates below zero. -/
theorem names_chunks_corner :
    let viewer : Viewer := ⟨1, ⟨⟨3⟩, -0.5, 64, 15.9⟩, 1⟩
    let corner : Publisher := .block ⟨⟨3⟩, -1, 0, -16⟩
    let chunks : Vicinity.Policy Viewer ChunkKey := ChunkPolicy.toPolicy ⟨⟨3⟩, 2⟩
    let policy : Policy Viewer String := quadraticPolicy 2
    let dyconits : Vicinity.Policy Viewer String := Adapter.toPolicy ⟨policy⟩
    viewer.location.world = ⟨3⟩ ∧ policy ∈ [chunkPolicy 2, quadraticPolicy 2] ∧
    Policy.Names ChunkKey.name chunks dyconits viewer corner ∧
    dyconits.targets corner = .ok ["chunk:-1:-1"] ∧
    ("chunk:-1:-1" ∈ dyconits.interest viewer ↔ ⟨-1, -1⟩ ∈ chunks.interest viewer) := by
  intro viewer corner chunks policy dyconits
  have here : viewer.location.world = ⟨3⟩ := rfl
  have listed : policy ∈ [chunkPolicy 2, quadraticPolicy 2] :=
    List.mem_cons_of_mem _ (List.mem_cons_self ..)
  have names : Policy.Names ChunkKey.name chunks dyconits viewer corner :=
    names_chunks ⟨3⟩ 2 viewer here corner policy listed
  have written : ChunkKey.name ⟨-1, -1⟩ = "chunk:-1:-1" := by decide +kernel
  obtain ⟨topic, selected, target, heard⟩ := names.targets
  have stands : Block.chunk ⟨⟨3⟩, -1, 0, -16⟩ = ⟨-1, -1⟩ := by decide
  obtain rfl : ⟨-1, -1⟩ = topic := stands.symm.trans (List.singleton_inj.mp selected)
  rw [written] at target heard
  exact ⟨here, listed, names, target, heard⟩

end Dyconit

end Vicinity
