import Vicinity.Frame.Update
import Vicinity.Proofs.Json.Shape

/-! # Frames read back

A form is faithful if every message is encoded, and to a frame that is not empty and is decoded to
the message. The forms of texts, words, places, updates and events write integers and texts only,
each structure under distinct names, and are faithful.
-/

namespace Vicinity.Frame

open RawJson Json

namespace Form

variable {M : Type} {form : Form M}

/-- Every message is encoded to a frame that is decoded to it. -/
def Faithful (form : Form M) : Prop :=
  ∀ message, ∃ frame, form.toCodec.encode message = .ok frame ∧ frame.size ≠ 0 ∧
    form.toCodec.decode frame = .ok message

/-- It is enough to look at the values that are written and not at their bytes. -/
theorem faithful_of_read (integral : ∀ message, Integral (form.write message))
    (read : ∀ message, form.read (ofJson (form.write message)) = some message) :
    form.Faithful := by
  intro message
  have bytes : (form.encode message).toList = written (form.write message) :=
    Text.toList_toUTF8 _
  have size : (form.encode message).size ≠ 0 := by
    obtain ⟨b, front, shape, -⟩ := written_head (integral message)
    rw [← Text.length_toList, bytes, shape]
    exact Nat.succ_ne_zero _
  refine ⟨form.encode message, rfl, size, ?_⟩
  change form.decode (form.encode message) = .ok message
  rw [Form.decode, if_neg size, bytes, ofBytes?_written (integral message), Option.bind_some,
    read message]

/-- A structure is faithful if it is made from its fields, whatever value these were found in. -/
theorem faithful_of_members (members : M → List (String × Json))
    (writes : ∀ message, form.write message = .object (members message))
    (distinct : ∀ message, ((members message).map Prod.fst).Nodup)
    (integral : ∀ message, ∀ member ∈ members message, Integral member.2)
    (reads : ∀ message value, fields ((members message).map Prod.fst) value =
      some ((members message).map fun member => ofJson member.2) →
        form.read value = some message) : form.Faithful := by
  refine faithful_of_read ?_ ?_
  · intro message
    rw [writes]
    exact .object _ (integral message)
  · intro message
    rw [writes]
    exact reads message _ (fields_object (distinct message))

end Form

theorem integral_ofNat (n : Nat) : Integral (Json.ofNat n) := ofNat_eq_ofInt n ▸ .number n

theorem integral_coordinate (c : Int32) : Integral (coordinate c) := .number c.toInt

theorem readInt32_coordinate (c : Int32) : readInt32 (ofJson (coordinate c)) = some c :=
  readInt32_ofInt c

theorem faithful_text : text.Faithful := Form.faithful_of_read .string fun _ => rfl

theorem faithful_word : word.Faithful :=
  Form.faithful_of_read (fun n => integral_ofNat n.toNat) readUInt64_ofNat

theorem read_world (w : WorldId) : world.read (ofJson (world.write w)) = some w := by
  change (readUInt32 (ofJson (Json.ofNat w.index.toNat))).map WorldId.mk = some w
  rw [readUInt32_ofNat]
  rfl

theorem faithful_world : world.Faithful :=
  Form.faithful_of_read (fun w => integral_ofNat w.index.toNat) read_world

theorem faithful_chunk : chunk.Faithful := by
  refine Form.faithful_of_members (fun c => [("x", coordinate c.x), ("z", coordinate c.z)])
    (fun _ => rfl) (fun _ => by simp) ?_ ?_
  · intro c
    simp [integral_coordinate]
  · intro c value found
    simp only [List.map_cons, List.map_nil] at found
    simp [chunk, found, readInt32_coordinate]

theorem faithful_block : block.Faithful := by
  refine Form.faithful_of_members (fun b =>
    [("world", world.write b.world), ("x", coordinate b.x), ("y", coordinate b.y),
      ("z", coordinate b.z)]) (fun _ => rfl) (fun _ => by simp) ?_ ?_
  · intro b
    simp [integral_coordinate, world, integral_ofNat]
  · intro b value found
    simp only [List.map_cons, List.map_nil] at found
    simp [block, found, readInt32_coordinate, read_world]

theorem faithful_update : update.Faithful := by
  refine Form.faithful_of_members
    (fun u => [("topic", .string u.topic), ("seq", Json.ofNat u.sequence.toNat)])
    (fun _ => rfl) (fun _ => by simp) ?_ ?_
  · intro u
    simp [integral_ofNat, Integral.string]
  · intro u value found
    simp only [List.map_cons, List.map_nil] at found
    simp [update, found, readUInt32_ofNat, ofJson, readText]

/-! ## Events -/

theorem scalar_coordinate (c : Int32) : Scalar (coordinate c) := by
  have low := c.le_toInt
  have high := c.toInt_lt
  refine .number c.toInt ((Number.fitsWord_iff _).mpr ?_)
  omega

theorem scalar_stage (n : UInt8) : Scalar (Json.ofNat n.toNat) := by
  have high := n.toNat_lt
  rw [ofNat_eq_ofInt]
  refine .number _ ((Number.fitsWord_iff _).mpr ?_)
  omega

/-- The name of an event's sort. -/
def sort : WorldEvent → String
  | .blockChange .. => blockChangeTag
  | .blockBreakAnimation .. => blockBreakAnimationTag
  | .chunkGenerated .. => chunkGeneratedTag

/-- What is written of an event after its sort. -/
def details : WorldEvent → List (String × Json)
  | .blockChange x y z => [("x", coordinate x), ("y", coordinate y), ("z", coordinate z)]
  | .blockBreakAnimation x y z stage =>
    [("x", coordinate x), ("y", coordinate y), ("z", coordinate z),
      ("stage", Json.ofNat stage.toNat)]
  | .chunkGenerated x z => [("x", coordinate x), ("z", coordinate z)]

theorem write_event (e : WorldEvent) :
    event.write e = .object ((tag, .string (sort e)) :: details e) := by
  cases e <;> rfl

theorem scalar_details (e : WorldEvent) : ∀ member ∈ details e, Scalar member.2 := by
  cases e <;> simp [details, scalar_coordinate, scalar_stage]

theorem distinct_details (e : WorldEvent) : ((tag :: (details e).map Prod.fst)).Nodup := by
  cases e <;> simp [details, tag]

theorem read_event (e : WorldEvent) : event.read (ofJson (event.write e)) = some e := by
  obtain ⟨untagged, distinct⟩ := List.nodup_cons.mp (distinct_details e)
  have tagged := tagged_object (sort e) untagged (scalar_details e)
  have found := fields_object distinct
  have animated : blockBreakAnimationTag ≠ blockChangeTag := by decide
  have generated : chunkGeneratedTag ≠ blockChangeTag ∧
      chunkGeneratedTag ≠ blockBreakAnimationTag := by decide
  rw [write_event]
  cases e with
  | blockChange x y z =>
    simp only [details, sort, List.map_cons, List.map_nil] at tagged found ⊢
    simp [event, tagged, found, readInt32_coordinate]
  | blockBreakAnimation x y z stage =>
    simp only [details, sort, List.map_cons, List.map_nil] at tagged found ⊢
    simp [event, tagged, found, animated, readInt32_coordinate, readUInt8_ofNat]
  | chunkGenerated x z =>
    simp only [details, sort, List.map_cons, List.map_nil] at tagged found ⊢
    simp [event, tagged, found, generated, readInt32_coordinate]

theorem faithful_event : event.Faithful := by
  refine Form.faithful_of_read (fun e => ?_) read_event
  rw [write_event]
  refine .object _ ?_
  rintro member there
  rcases List.mem_cons.mp there with rfl | there
  · exact .string _
  · exact (scalar_details e member there).integral

/-- Texts, words, worlds, chunks, blocks, updates and events come through as they were sent. -/
theorem faithful_forms :
    text.Faithful ∧ word.Faithful ∧ world.Faithful ∧ chunk.Faithful ∧ block.Faithful ∧
      update.Faithful ∧ event.Faithful :=
  ⟨faithful_text, faithful_word, faithful_world, faithful_chunk, faithful_block, faithful_update,
    faithful_event⟩

end Vicinity.Frame
