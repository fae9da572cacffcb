import Vicinity.Channel.Basic

/-! # Maps that are shared with their readers

The map of a snapshot channel is changed where it stands as long as no one reads it. Someone who reads
it has it lent: then a change is made to a copy, which becomes the current map. A publication reads the
map that it was lent entry by entry, while the callbacks that it calls may go on changing the current
one. Since what is lent stays as it is, this is the same as calling the callbacks of the map that was
current when the publication began, and the channel is as well described by its current map alone.
-/

namespace Vicinity

variable {S C W : Type}

/-- The maps that were ever made, by their places in memory. -/
structure SharedTable (S C : Type) where
  made : List (Table S C)
  /-- The place of the current map. -/
  current : Nat
  /-- The places of the maps that are lent, each as often as it is. -/
  lent : List Nat
  there : current < made.length

namespace SharedTable

/-- The current map. -/
def table (m : SharedTable S C) : Table S C := m.made.get ⟨m.current, m.there⟩

/-- The channel of the current map. -/
def snapshot (m : SharedTable S C) : SnapshotChannel S C := ⟨m.table⟩

/-- Change the current map, or a copy of it if it is lent. -/
def write (m : SharedTable S C) (change : Table S C → Table S C) : SharedTable S C :=
  if m.current ∈ m.lent then
    { m with
      made := m.made ++ [change m.table]
      current := m.made.length
      there := by rw [List.length_append]; exact Nat.lt_succ_self _ }
  else
    { m with
      made := m.made.set m.current (change m.table)
      there := by rw [List.length_set]; exact m.there }

/-- Lend the current map. -/
def lend (m : SharedTable S C) : SharedTable S C := { m with lent := m.current :: m.lent }

/-- Give a map back. -/
def giveBack (m : SharedTable S C) (place : Nat) : SharedTable S C :=
  { m with lent := m.lent.erase place }

theorem table_write (m : SharedTable S C) (change : Table S C → Table S C) :
    (m.write change).table = change m.table := by
  rw [write]
  split
  · exact List.getElem_concat_length rfl _
  · exact List.getElem_set_self ..

/-- A map is lent and stays as it is. -/
structure Lends (m : SharedTable S C) (place : Nat) (t : Table S C) : Prop where
  lent : place ∈ m.lent
  found : m.made[place]? = some t

theorem lends_lend (m : SharedTable S C) : m.lend.Lends m.current m.table :=
  ⟨List.mem_cons_self .., List.getElem?_eq_getElem m.there⟩

/-- What is lent is not written to. -/
theorem Lends.write {m : SharedTable S C} {place : Nat} {t : Table S C} (lends : m.Lends place t)
    (change : Table S C → Table S C) : (m.write change).Lends place t := by
  rw [SharedTable.write]
  split
  · refine ⟨lends.lent, ?_⟩
    exact (List.getElem?_append_left (List.getElem?_eq_some_iff.mp lends.found).1).trans lends.found
  · next free =>
    refine ⟨lends.lent, (List.getElem?_set_ne ?_).trans lends.found⟩
    rintro rfl
    exact free lends.lent

theorem lent_write (m : SharedTable S C) (change : Table S C → Table S C) :
    (m.write change).lent = m.lent := by
  rw [write]
  split <;> rfl

variable [DecidableEq S]

/-- Register a subscriber, unless he is there already. -/
def subscribe (m : SharedTable S C) (s : S) (callback : C) : Bool × SharedTable S C :=
  if m.table.contains s then (false, m) else (true, m.write fun t => t.insert s callback)

/-- Remove a subscriber, unless he is missing already. -/
def unsubscribe (m : SharedTable S C) (s : S) : Bool × SharedTable S C :=
  if m.table.contains s then (true, m.write fun t => t.erase s) else (false, m)

theorem snapshot_subscribe (m : SharedTable S C) (s : S) (callback : C) :
    (m.subscribe s callback).map id snapshot = m.snapshot.subscribe s callback := by
  rw [subscribe, SnapshotChannel.subscribe]
  change _ = if m.table.contains s then _ else _
  split
  · rfl
  · rw [Prod.map_apply, snapshot, table_write]
    rfl

theorem snapshot_unsubscribe (m : SharedTable S C) (s : S) :
    (m.unsubscribe s).map id snapshot = m.snapshot.unsubscribe s := by
  rw [unsubscribe, SnapshotChannel.unsubscribe]
  change _ = if m.table.contains s then _ else _
  split
  · rw [Prod.map_apply, snapshot, table_write]
    rfl
  · rfl

/-! ## Reading what is lent -/

omit [DecidableEq S] in
/-- Call the callbacks of a map, looking up each one where it stands by then. There are `left` more,
the next of them at `i`. -/
def readFrom (peek : W → SharedTable S C) (call : C → W → Outcome × W) (place : Nat) :
    (left i : Nat) → DeliveryReport → W → DeliveryReport × W
  | 0, _, report, w => (report, w)
  | left + 1, i, report, w =>
    match (peek w).made[place]?.bind fun t => t.entries[i]? with
    | none => (report, w)
    | some (_, callback) =>
      let (outcome, next) := call callback w
      readFrom peek call place left (i + 1) (report.record outcome) next

omit [DecidableEq S] in
/-- While a map is lent, it makes no difference that its entries are only looked up when their turn
comes. -/
theorem readFrom_eq {peek : W → SharedTable S C} {call : C → W → Outcome × W} {place : Nat}
    {t : Table S C} (keeps : ∀ callback w, (peek w).Lends place t →
      (peek (call callback w).2).Lends place t)
    (before rest : List (S × C)) (listed : t.entries = before ++ rest) (report : DeliveryReport)
    {w : W} (lends : (peek w).Lends place t) :
    readFrom peek call place rest.length before.length report w =
      deliverFrom call report (rest.map Prod.snd) w := by
  -- By induction on what is left to be read; what has been read before only moves the place.
  induction rest generalizing before report w with
  | nil => rfl
  | cons entry rest ih =>
    have next : t.entries[before.length]? = some entry := by
      rw [listed, List.getElem?_append_right (Nat.le_refl _), Nat.sub_self, List.getElem?_cons_zero]
    have later := ih (before ++ [entry]) (by rw [listed, List.append_assoc]; rfl)
      (report.record (call entry.2 w).1) (keeps entry.2 w lends)
    rw [List.length_append, List.length_singleton] at later
    rw [List.length_cons, readFrom, lends.found, Option.bind_some, next]
    exact later

end SharedTable

end Vicinity
