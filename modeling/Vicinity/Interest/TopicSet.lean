/-! # Sets of topics

A finite set of topics, listed without repetition. Membership is the view; the order of the list is
only an order of visiting.
-/

namespace Vicinity

structure TopicSet (T : Type) where
  toList : List T
  nodup : toList.Nodup

namespace TopicSet

variable {T U : Type}

def empty : TopicSet T := ⟨[], List.nodup_nil⟩

instance : EmptyCollection (TopicSet T) := ⟨empty⟩
instance : Inhabited (TopicSet T) := ⟨empty⟩
instance : Membership T (TopicSet T) := ⟨fun set topic => topic ∈ set.toList⟩

def isEmpty (set : TopicSet T) : Bool := set.toList.isEmpty
def size (set : TopicSet T) : Nat := set.toList.length

theorem not_mem_empty (topic : T) : topic ∉ (∅ : TopicSet T) := List.not_mem_nil

theorem isEmpty_iff (set : TopicSet T) : set.isEmpty = true ↔ ∀ topic, topic ∉ set := by
  rw [isEmpty, List.isEmpty_iff, List.eq_nil_iff_forall_not_mem]
  rfl

theorem eq_empty_of_isEmpty {set : TopicSet T} (blank : set.isEmpty = true) : set = ∅ := by
  obtain ⟨topics, distinct⟩ := set
  obtain rfl : topics = [] := List.isEmpty_iff.mp blank
  rfl

variable [DecidableEq T]

instance (topic : T) (set : TopicSet T) : Decidable (topic ∈ set) :=
  inferInstanceAs (Decidable (topic ∈ set.toList))

def insert (set : TopicSet T) (topic : T) : TopicSet T :=
  if there : topic ∈ set.toList then set
  else ⟨topic :: set.toList, List.nodup_cons.2 ⟨there, set.nodup⟩⟩

/-- The set of the topics in a list, each listed where it first stands. -/
def ofList (topics : List T) : TopicSet T :=
  topics.foldr (fun topic set => ⟨topic :: set.toList.filter (· ≠ topic), by
    refine List.nodup_cons.2 ⟨by simp, set.nodup.sublist List.filter_sublist⟩⟩) empty

/-- The topics of one set that another does not have, in the order of the first. -/
def diff (set other : TopicSet T) : List T := set.toList.filter (· ∉ other)

theorem mem_ofList (topics : List T) (topic : T) : topic ∈ ofList topics ↔ topic ∈ topics := by
  change topic ∈ (ofList topics).toList ↔ _
  induction topics with
  | nil => simp [ofList, empty]
  | cons head rest ih =>
    have step : (ofList (head :: rest)).toList =
        head :: (ofList rest).toList.filter (· ≠ head) := rfl
    rw [step, List.mem_cons, List.mem_filter, ih, List.mem_cons]
    by_cases same : topic = head <;> simp [same]

theorem mem_diff (set other : TopicSet T) (topic : T) :
    topic ∈ set.diff other ↔ topic ∈ set ∧ topic ∉ other := by
  simp only [diff, List.mem_filter, decide_eq_true_eq]
  rfl

theorem diff_empty (set : TopicSet T) : set.diff ∅ = set.toList :=
  List.filter_eq_self.mpr fun topic _ => decide_eq_true (not_mem_empty topic)

theorem nodup_diff (set other : TopicSet T) : (set.diff other).Nodup :=
  set.nodup.sublist List.filter_sublist

end TopicSet

end Vicinity
