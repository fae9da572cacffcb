import Vicinity.Proofs.Dyconit.Chunks
import Vicinity.Proofs.World.Square

/-! # Bounds that grow with the distance

Under the quadratic policy a chunk may lag behind by the square of its distance from the viewer, as far
as a word can say it. Names belong to one chunk each, so the bounds of a chunk are found under its
name, and of two chunks in sight the nearer never lags behind by more.
-/

namespace Vicinity

/-- How many chunks a viewer sees in each direction. -/
def Viewer.sight (viewer : Viewer) (viewDistance : UInt32) : Nat :=
  min (min viewDistance.toNat viewer.viewDistance.toNat) (2 ^ 31 - 1)

theorem Viewer.mem_visibleChunks_iff (viewer : Viewer) (viewDistance : UInt32) (chunk : ChunkKey) :
    chunk ∈ viewer.visibleChunks viewDistance ↔
      (viewer.location.chunk.distance chunk).toNat ≤ viewer.sight viewDistance := by
  rw [visibleChunks, ChunkKey.mem_square_iff, ChunkKey.reach, ChunkKey.toNat_min]
  rfl

namespace Dyconit

variable {M : Type}

/-! ## Bounds at a distance -/

theorem toNat_staleness (distance : UInt32) :
    (quadraticBounds distance).staleness.toNat = min (distance.toNat ^ 2) (2 ^ 32 - 1) := by
  have most : Bounds.unlimited.toNat = 2 ^ 32 - 1 := rfl
  rw [quadraticBounds, UInt32.toNat_ofNat', most, Nat.pow_two]
  omega

/-- From 65536 chunks on the square is more than a word can say. -/
example : (quadraticBounds 65535).staleness = 4294836225 ∧
    quadraticBounds 65536 = Bounds.infinite := by
  decide

theorem quadraticBounds_eq_iff (distance : UInt32) (given : Bounds) :
    quadraticBounds distance = given ↔
      given.staleness.toNat = min (distance.toNat ^ 2) (2 ^ 32 - 1) ∧
        given.numerical.toNat = 2 ^ 32 - 1 := by
  constructor
  · rintro rfl
    exact ⟨toNat_staleness distance, rfl⟩
  · rintro ⟨stale, weight⟩
    obtain ⟨staleness, numerical⟩ := given
    have first : (quadraticBounds distance).staleness = staleness :=
      UInt32.toNat_inj.mp ((toNat_staleness distance).trans stale.symm)
    have second : Bounds.unlimited = numerical := UInt32.toNat_inj.mp weight.symm
    rw [← first, ← second]
    rfl

theorem staleness_le {near far : UInt32} (nearer : near ≤ far) :
    (quadraticBounds near).staleness ≤ (quadraticBounds far).staleness := by
  have squares : near.toNat ^ 2 ≤ far.toNat ^ 2 := Nat.pow_le_pow_left nearer 2
  rw [UInt32.le_iff_toNat_le, toNat_staleness, toNat_staleness]
  omega

theorem staleness_eq_zero_iff (distance : UInt32) :
    (quadraticBounds distance).staleness = 0 ↔ distance.toNat = 0 := by
  have square : min (distance.toNat ^ 2) (2 ^ 32 - 1) = 0 ↔ distance.toNat ^ 2 = 0 := by omega
  rw [← UInt32.toNat_inj, toNat_staleness, UInt32.toNat_zero, square, Nat.pow_eq_zero]
  exact and_iff_left (by decide)

/-! ## Bounds of what is in sight -/

theorem get?_bounds_perChunk (name : String) (viewDistance : UInt32)
    (boundsOf : Viewer → ChunkKey → Bounds) (viewer : Viewer) (dyconit : String) (bounds : Bounds) :
    (Adapter.bounds (⟨perChunk name viewDistance boundsOf⟩ : Adapter Viewer M) viewer).get? dyconit =
        some bounds ↔
      ∃ chunk, (viewer.location.chunk.distance chunk).toNat ≤ viewer.sight viewDistance ∧
        chunk.name = dyconit ∧ boundsOf viewer chunk = bounds := by
  simp only [← Table.mem_entries_iff, entries_bounds_perChunk, List.mem_map, Prod.mk.injEq,
    Viewer.mem_visibleChunks_iff]

/-- A chunk has the bounds that stand under its name. -/
theorem get?_bounds_perChunk_name (name : String) (viewDistance : UInt32)
    (boundsOf : Viewer → ChunkKey → Bounds) (viewer : Viewer) (chunk : ChunkKey) (bounds : Bounds) :
    (Adapter.bounds (⟨perChunk name viewDistance boundsOf⟩ : Adapter Viewer M) viewer).get?
        chunk.name = some bounds ↔
      (viewer.location.chunk.distance chunk).toNat ≤ viewer.sight viewDistance ∧
        boundsOf viewer chunk = bounds := by
  rw [get?_bounds_perChunk]
  constructor
  · rintro ⟨other, seen, same, given⟩
    obtain rfl := ChunkKey.eq_of_name_eq same
    exact ⟨seen, given⟩
  · rintro ⟨seen, given⟩
    exact ⟨chunk, seen, rfl, given⟩

/-- No two chunks in sight share an entry. -/
theorem encard_bounds_perChunk (name : String) (viewDistance : UInt32)
    (boundsOf : Viewer → ChunkKey → Bounds) (viewer : Viewer) :
    {chunk | (viewer.location.chunk.distance chunk).toNat ≤ viewer.sight viewDistance}.encard =
      (Adapter.bounds (⟨perChunk name viewDistance boundsOf⟩ : Adapter Viewer M) viewer).size := by
  have keys : {dyconit | (Adapter.bounds (⟨perChunk name viewDistance boundsOf⟩ : Adapter Viewer M)
      viewer).contains dyconit = true} = ChunkKey.name ''
        {chunk | (viewer.location.chunk.distance chunk).toNat ≤ viewer.sight viewDistance} := by
    refine Set.ext fun dyconit => ?_
    simp only [Set.mem_ofPred_eq, Set.mem_image, Table.contains, Option.isSome_iff_exists,
      get?_bounds_perChunk]
    constructor
    · rintro ⟨_, chunk, seen, same, _⟩
      exact ⟨chunk, seen, same⟩
    · rintro ⟨chunk, seen, same⟩
      exact ⟨_, chunk, seen, same, rfl⟩
  have apart : Function.Injective ChunkKey.name := fun _ _ => ChunkKey.eq_of_name_eq
  rw [← Table.encard_keys, keys, apart.encard_image]

/-- Bounds that grow with the square of the distance from a viewer's chunk, as far as it sees. -/
structure Gradient (center : ChunkKey) (sight : Nat) (held : Table String Bounds) : Prop where
  /-- What has bounds are the chunks in sight, by their names. -/
  bounds : ∀ dyconit given, held.get? dyconit = some given ↔
    ∃ chunk, (center.distance chunk).toNat ≤ sight ∧ chunk.name = dyconit ∧
      given.staleness.toNat = min ((center.distance chunk).toNat ^ 2) (2 ^ 32 - 1) ∧
      given.numerical.toNat = 2 ^ 32 - 1
  /-- No two chunks share an entry. -/
  separate : held.size = {chunk | (center.distance chunk).toNat ≤ sight}.encard
  nearer : ∀ near far nearBounds farBounds, held.get? (ChunkKey.name near) = some nearBounds →
    held.get? (ChunkKey.name far) = some farBounds → center.distance near ≤ center.distance far →
      nearBounds.staleness ≤ farBounds.staleness
  own : ∀ chunk given, held.get? (ChunkKey.name chunk) = some given →
    (given.staleness = 0 ↔ chunk = center)

/-- Chunks in sight, and nothing else, have bounds, each of them its own. Where two of them have
bounds, those of the nearer one are no looser, and only the viewer's own chunk may not lag at all. -/
theorem gradient_quadraticPolicy (viewDistance : UInt32) (viewer : Viewer) :
    Gradient viewer.location.chunk (viewer.sight viewDistance)
      (Adapter.bounds (⟨quadraticPolicy viewDistance⟩ : Adapter Viewer M) viewer) := by
  let boundsOf (viewer : Viewer) (chunk : ChunkKey) : Bounds :=
    quadraticBounds (viewer.location.chunk.distance chunk)
  have named (chunk : ChunkKey) (given : Bounds) :=
    get?_bounds_perChunk_name (M := M) Family.quadratic.name viewDistance boundsOf viewer chunk given
  have bounds (dyconit : String) (given : Bounds) :=
    get?_bounds_perChunk (M := M) Family.quadratic.name viewDistance boundsOf viewer dyconit given
  constructor
  case bounds =>
    intro dyconit given
    rw [quadraticPolicy, bounds]
    simp only [boundsOf, quadraticBounds_eq_iff]
  case separate => exact (encard_bounds_perChunk _ viewDistance boundsOf viewer).symm
  case nearer =>
    intro near far nearBounds farBounds foundNear foundFar nearer
    obtain ⟨-, rfl⟩ := (named near nearBounds).mp foundNear
    obtain ⟨-, rfl⟩ := (named far farBounds).mp foundFar
    exact staleness_le nearer
  case own =>
    intro chunk given found
    obtain ⟨-, rfl⟩ := (named chunk given).mp found
    rw [staleness_eq_zero_iff, ChunkKey.toNat_distance_eq_zero_iff, eq_comm]

end Dyconit

end Vicinity
