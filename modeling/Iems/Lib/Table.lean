import Iems.Lib.Dict

/-! Tables with a serial primary key: ids are handed out once, in increasing order. -/
namespace Iems.Lib

structure Table (α : Type) where
  rows : List (Nat × α)
  nextId : Nat
  below : ∀ row ∈ rows, row.1 < nextId
  distinct : (rows.map Prod.fst).Nodup

namespace Table
variable {α : Type}

def empty : Table α := ⟨[], 1, by simp, by simp⟩

def find? (t : Table α) (id : Nat) : Option α := t.rows.lookup id

def values (t : Table α) : List α := t.rows.map Prod.snd

def insert (t : Table α) (a : α) : Table α where
  rows := t.rows ++ [(t.nextId, a)]
  nextId := t.nextId + 1
  below := by
    intro row member
    rcases List.mem_append.mp member with old | fresh
    · exact Nat.lt_succ_of_lt (t.below row old)
    · rw [List.mem_singleton.mp fresh]
      exact Nat.lt_succ_self _
  distinct := by
    rw [List.map_append, List.nodup_append]
    refine ⟨t.distinct, by simp, ?_⟩
    intro id old other fresh
    obtain ⟨row, member, rfl⟩ := List.mem_map.mp old
    have bound := t.below row member
    simp only [List.map_cons, List.map_nil, List.mem_singleton] at fresh
    omega

/-- Inserts the values in order; the new rows come with the ids they were given. -/
def insertAll (t : Table α) : List α → List (Nat × α) × Table α
  | [] => ([], t)
  | a :: rest =>
    let (rows, filled) := (t.insert a).insertAll rest
    ((t.nextId, a) :: rows, filled)

/-- `UPDATE ... WHERE id = ?`. -/
def update (t : Table α) (id : Nat) (f : α → α) : Table α where
  rows := t.rows.map fun row => if row.1 = id then (row.1, f row.2) else row
  nextId := t.nextId
  below := by
    intro row member
    obtain ⟨old, present, rfl⟩ := List.mem_map.mp member
    have bound := t.below old present
    split <;> exact bound
  distinct := by
    have keys : (t.rows.map fun row => if row.1 = id then (row.1, f row.2) else row).map Prod.fst =
        t.rows.map Prod.fst := by
      rw [List.map_map]
      apply List.map_congr_left
      intro row _
      simp only [Function.comp]
      split <;> rfl
    rw [keys]
    exact t.distinct

/-- An edit of every row. -/
def edit (t : Table α) (f : α → α) : Table α where
  rows := t.rows.map fun row => (row.1, f row.2)
  nextId := t.nextId
  below := by
    intro row member
    obtain ⟨old, present, rfl⟩ := List.mem_map.mp member
    exact t.below old present
  distinct := by
    rw [List.map_map]
    exact t.distinct

/-- An id that is drawn for a row and rolled back with it. -/
def draw (t : Table α) : Table α where
  rows := t.rows
  nextId := t.nextId + 1
  below := fun row member => Nat.lt_succ_of_lt (t.below row member)
  distinct := t.distinct

@[simp] theorem values_insert (t : Table α) (a : α) : (t.insert a).values = t.values ++ [a] := by
  simp [values, insert]

/-- A selection of the values gains an inserted one that it admits. -/
theorem filter_insert (t : Table α) (a : α) (admits : α → Prop) [DecidablePred admits] :
    (t.insert a).values.filter (admits ·) = t.values.filter (admits ·) ++ if admits a then [a] else [] := by
  rw [values_insert, List.filter_append]
  by_cases admitted : admits a <;> simp [admitted]

theorem find?_lt {t : Table α} {id : Nat} {a : α} (found : t.find? id = some a) :
    id < t.nextId :=
  t.below _ ((lookup_iff_mem t.distinct).mp found)

theorem find?_nextId (t : Table α) : t.find? t.nextId = none := by
  cases found : t.find? t.nextId with
  | none => rfl
  | some a => exact absurd (find?_lt found) (Nat.lt_irrefl _)

theorem mem_rows {t : Table α} {id : Nat} {a : α} : (id, a) ∈ t.rows ↔ t.find? id = some a :=
  (lookup_iff_mem t.distinct).symm

theorem find?_insert (t : Table α) (a : α) (id : Nat) :
    (t.insert a).find? id = if id = t.nextId then some a else t.find? id := by
  show (t.rows ++ [(t.nextId, a)]).lookup id = _
  rw [List.lookup_append]
  split
  · rename_i same
    subst same
    have absent : t.rows.lookup t.nextId = none := find?_nextId t
    simp [absent]
  · rename_i different
    have other : (id == t.nextId) = false := by simpa using different
    simp [find?, List.lookup_cons, other]

theorem rows_insertAll (t : Table α) (values : List α) :
    (t.insertAll values).2.rows = t.rows ++ (t.insertAll values).1 := by
  induction values generalizing t with
  | nil => simp [insertAll]
  | cons a rest ih =>
    show ((t.insert a).insertAll rest).2.rows = _
    rw [ih]
    show (t.rows ++ [(t.nextId, a)]) ++ _ = _
    rw [List.append_assoc]
    rfl

theorem new_insertAll (t : Table α) (values : List α) :
    (t.insertAll values).1.map Prod.snd = values := by
  induction values generalizing t with
  | nil => rfl
  | cons a rest ih => simp [insertAll, ih]

theorem values_insertAll (t : Table α) (values : List α) :
    (t.insertAll values).2.values = t.values ++ values := by
  unfold Table.values
  rw [rows_insertAll, List.map_append, new_insertAll]

theorem ids_insertAll (t : Table α) (values : List α) :
    (t.insertAll values).1.map Prod.fst = List.range' t.nextId values.length := by
  induction values generalizing t with
  | nil => rfl
  | cons a rest ih =>
    show t.nextId :: ((t.insert a).insertAll rest).1.map Prod.fst = _
    rw [ih, List.length_cons, List.range'_succ]
    rfl

theorem zipIdx_insertAll (t : Table α) (values : List α) :
    (t.insertAll values).1 = values.zipIdx.map fun slot => (t.nextId + slot.2, slot.1) := by
  induction values generalizing t with
  | nil => rfl
  | cons value rest ih =>
    show (t.nextId, value) :: ((t.insert value).insertAll rest).1 = _
    rw [ih, List.zipIdx_cons, List.map_cons, List.zipIdx_succ, List.map_map]
    refine congrArg₂ List.cons rfl (List.map_congr_left fun slot _ => ?_)
    show (t.nextId + 1 + slot.2, slot.1) = (t.nextId + (slot.2 + 1), slot.1)
    rw [Nat.add_assoc, Nat.add_comm 1]

theorem nextId_insertAll (t : Table α) (values : List α) :
    (t.insertAll values).2.nextId = t.nextId + values.length := by
  induction values generalizing t with
  | nil => rfl
  | cons a rest ih =>
    show ((t.insert a).insertAll rest).2.nextId = _
    rw [ih, List.length_cons]
    show t.nextId + 1 + rest.length = _
    omega

theorem find?_insertAll (t : Table α) (values : List α) (id : Nat) :
    (t.insertAll values).2.find? id = (t.find? id).or ((t.insertAll values).1.lookup id) := by
  unfold find?
  rw [rows_insertAll, List.lookup_append]

theorem distinct_insertAll (t : Table α) (values : List α) :
    ((t.insertAll values).1.map Prod.fst).Nodup := by
  have distinct := (t.insertAll values).2.distinct
  rw [rows_insertAll, List.map_append, List.nodup_append] at distinct
  exact distinct.2.1

theorem lookup_insertAll_old {t : Table α} {values : List α} {id : Nat} {a : α}
    (old : t.find? id = some a) : (t.insertAll values).1.lookup id = none := by
  rw [Option.eq_none_iff_forall_ne_some]
  intro b found
  have fresh := (lookup_iff_mem (distinct_insertAll t values)).mp found
  have distinct := (t.insertAll values).2.distinct
  rw [rows_insertAll, List.map_append, List.nodup_append] at distinct
  obtain ⟨_, _, apart⟩ := distinct
  exact apart id (List.mem_map.mpr ⟨_, mem_rows.mpr old, rfl⟩) id (List.mem_map.mpr ⟨_, fresh, rfl⟩) rfl

theorem find?_update (t : Table α) (id : Nat) (f : α → α) (other : Nat) :
    (t.update id f).find? other = if other = id then (t.find? other).map f else t.find? other := by
  show (t.rows.map _).lookup other = if other = id then (t.rows.lookup other).map f else t.rows.lookup other
  induction t.rows with
  | nil => simp
  | cons row rest ih =>
    obtain ⟨key, a⟩ := row
    simp only [List.map_cons]
    by_cases here : key = id <;> by_cases wanted : other = key
    · subst here; subst wanted
      simp
    · have missed : (other == key) = false := by simpa using wanted
      simp only [if_pos here, List.lookup_cons, missed, ih]
    · subst wanted
      simp [here]
    · have missed : (other == key) = false := by simpa using wanted
      simp only [if_neg here, List.lookup_cons, missed, ih]

@[simp] theorem values_edit (t : Table α) (f : α → α) : (t.edit f).values = t.values.map f := by
  simp [values, edit]

theorem find?_edit (t : Table α) (f : α → α) (id : Nat) : (t.edit f).find? id = (t.find? id).map f := by
  show (t.rows.map fun row => (row.1, f row.2)).lookup id = (t.rows.lookup id).map f
  induction t.rows with
  | nil => rfl
  | cons row rest ih =>
    rw [List.map_cons, List.lookup_cons, List.lookup_cons, ih]
    cases id == row.1 <;> rfl

/-- In any order, the rows with an id are the one that is found. -/
theorem filter_id {t : Table α} {id : Nat} {a : α} (found : t.find? id = some a) {rows : List (Nat × α)}
    (perm : rows.Perm t.rows) : (rows.filter fun row => row.1 = id) = [(id, a)] := by
  have one := @filter_key _ _ _ _ id t.distinct
  rw [show t.rows.lookup id = some a from found] at one
  have listed := perm.filter fun row => decide (row.1 = id)
  rw [one] at listed
  exact List.perm_singleton.mp listed

end Table
end Iems.Lib
