import Mathlib.Data.List.Induction
import Vicinity.Proofs.Latest
import Vicinity.System.Basic

/-! # Histories of interest

A history lists the updates that subscribers have made, the oldest first: who, what was wanted, and
with which callback. Two things are read off a history. What a subscriber wants is what its latest
update wanted. A topic that is wanted was entered by some update: the first of the unbroken stretch
of that subscriber's updates that ends with the latest and in which all want the topic.
-/

namespace Vicinity

/-- One update: a subscriber as it was, what it wanted then, and the callback it brought. -/
structure Update (V T U : Type) where
  subscriber : V
  wanted : TopicSet T
  callback : U

namespace Update

variable {V S T U : Type}

/-- What the broker is given by an update. -/
def registered (u : Update V T U) : Registered V U := ⟨u.subscriber, u.callback⟩

/-- The topics that an update leaves its subscriber with, if any. -/
def kept? (u : Update V T U) : Option (TopicSet T) :=
  if u.wanted.isEmpty then none else some u.wanted

variable [DecidableEq S] (keyOf : V → S)

/-- The latest update of a subscriber. -/
def latest? (past : List (Update V T U)) (s : S) : Option (Update V T U) :=
  (past.filter fun u => keyOf u.subscriber = s).getLast?

/-- A subscriber's latest update wanted a topic. -/
def Wants (past : List (Update V T U)) (s : S) (t : T) : Prop :=
  ∃ u, latest? keyOf past s = some u ∧ t ∈ u.wanted

/-- The update with which a topic came to the subscriber that still has it: the subscriber did not
want the topic before, and has wanted it in every update since. -/
def Entered (past : List (Update V T U)) (s : S) (t : T) (u : Update V T U) : Prop :=
  ∃ before after, past = before ++ u :: after ∧ keyOf u.subscriber = s ∧ t ∈ u.wanted ∧
    ¬ Wants keyOf before s t ∧ ∀ later ∈ after, keyOf later.subscriber = s → t ∈ later.wanted

variable {keyOf}

theorem latest?_concat (past : List (Update V T U)) (u : Update V T U) (s : S) :
    latest? keyOf (past ++ [u]) s =
      if keyOf u.subscriber = s then some u else latest? keyOf past s := by
  rw [latest?, getLast?_filter_concat, ← latest?]
  simp only [decide_eq_true_eq]

theorem not_wants_nil (s : S) (t : T) : ¬ Wants keyOf ([] : List (Update V T U)) s t := by
  rintro ⟨u, found, _⟩
  contradiction

theorem wants_concat (past : List (Update V T U)) (u : Update V T U) (s : S) (t : T) :
    Wants keyOf (past ++ [u]) s t ↔
      if keyOf u.subscriber = s then t ∈ u.wanted else Wants keyOf past s t := by
  rw [Wants, latest?_concat]
  split
  · simp
  · rfl

theorem not_entered_nil (s : S) (t : T) (v : Update V T U) :
    ¬ Entered keyOf ([] : List (Update V T U)) s t v := by
  rintro ⟨before, after, parts, _⟩
  exact List.append_ne_nil_of_right_ne_nil before (List.cons_ne_nil v after) parts.symm

/-- A topic is entered by the last update, or it was entered before and the last update, if it is
the subscriber's own, has kept it. -/
theorem entered_concat (past : List (Update V T U)) (u : Update V T U) (s : S) (t : T)
    (v : Update V T U) :
    Entered keyOf (past ++ [u]) s t v ↔
      (v = u ∧ keyOf u.subscriber = s ∧ t ∈ u.wanted ∧ ¬ Wants keyOf past s t) ∨
        (Entered keyOf past s t v ∧ (keyOf u.subscriber = s → t ∈ u.wanted)) := by
  constructor
  · rintro ⟨before, after, parts, own, wanted, fresh, since⟩
    rcases List.eq_nil_or_concat after with rfl | ⟨middle, last, rfl⟩
    · obtain ⟨rfl, same⟩ := List.append_inj' parts rfl
      obtain rfl := (List.cons.inj same).1
      exact .inl ⟨rfl, own, wanted, fresh⟩
    · rw [List.concat_eq_append, ← List.cons_append, ← List.append_assoc] at parts
      obtain ⟨rfl, same⟩ := List.append_inj' parts rfl
      obtain rfl := (List.cons.inj same).1
      refine .inr ⟨⟨before, middle, rfl, own, wanted, fresh, ?_⟩, since _ (by simp)⟩
      intro later member
      exact since later (by simp [member])
  · rintro (⟨rfl, own, wanted, fresh⟩ | ⟨⟨before, after, rfl, own, wanted, fresh, since⟩, keeps⟩)
    · exact ⟨past, [], rfl, own, wanted, fresh, by simp⟩
    · refine ⟨before, after ++ [u], by simp, own, wanted, fresh, ?_⟩
      intro later member
      rcases List.mem_append.mp member with earlier | last
      · exact since later earlier
      · obtain rfl := List.mem_singleton.mp last
        exact keeps

/-- What is wanted has been entered, and what has been entered is still wanted. -/
theorem wants_iff_entered (past : List (Update V T U)) (s : S) (t : T) :
    Wants keyOf past s t ↔ ∃ u, Entered keyOf past s t u := by
  induction past using List.reverseRecOn with
  | nil => simp [not_wants_nil, not_entered_nil]
  | append_singleton past u ih =>
    rw [wants_concat]
    simp only [entered_concat]
    by_cases own : keyOf u.subscriber = s
    · by_cases wanted : t ∈ u.wanted
      · by_cases before : Wants keyOf past s t
        · obtain ⟨v, entered⟩ := ih.mp before
          simp only [own, wanted, ↓reduceIte, true_iff]
          exact ⟨v, .inr ⟨entered, fun _ => trivial⟩⟩
        · simp only [own, wanted, ↓reduceIte, true_iff]
          exact ⟨u, .inl ⟨rfl, trivial, trivial, before⟩⟩
      · simp [own, wanted]
    · simp [own, ih]

/-- Only one update has entered a topic for a subscriber. -/
theorem Entered.unique {past : List (Update V T U)} {s : S} {t : T} {u v : Update V T U}
    (first : Entered keyOf past s t u) (second : Entered keyOf past s t v) : u = v := by
  induction past using List.reverseRecOn with
  | nil => exact (not_entered_nil s t u first).elim
  | append_singleton past last ih =>
    rw [entered_concat] at first second
    have wants {w : Update V T U} (entered : Entered keyOf past s t w) : Wants keyOf past s t :=
      (wants_iff_entered past s t).mpr ⟨w, entered⟩
    rcases first with ⟨rfl, _, _, fresh⟩ | ⟨first, _⟩
    · rcases second with ⟨rfl, _⟩ | ⟨second, _⟩
      · rfl
      · exact (fresh (wants second)).elim
    · rcases second with ⟨_, _, _, fresh⟩ | ⟨second, _⟩
      · exact (fresh (wants first)).elim
      · exact ih first second

end Update

end Vicinity
