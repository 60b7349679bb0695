import Mathlib.Data.List.Nodup
import Mathlib.Data.List.Sort
import Mathlib.Data.List.TakeDrop

/-! The newest entries of a log, and which slices of its ascending order they are. -/
namespace Iems.Lib

variable {α : Type} (time : α → Int)

def Ascending (l : List α) : Prop := l.Pairwise fun a b => time a < time b

/-- The newest `count` entries of a log, oldest first. -/
structure Newest (count : Nat) (all kept : List α) : Prop where
  length : kept.length = min count all.length
  among : ∀ x ∈ kept, x ∈ all
  ascending : Ascending time kept
  latest : ∀ x ∈ kept, ∀ y ∈ all, y ∉ kept → time y < time x

variable {time} {all kept : List α} {count m : Nat}

theorem Ascending.sublist (ascending : Ascending time all) (part : kept.Sublist all) : Ascending time kept :=
  List.Pairwise.sublist part ascending

theorem Ascending.split {early late : List α} (ascending : Ascending time (early ++ late)) :
    ∀ x ∈ early, ∀ y ∈ late, time x < time y := (List.pairwise_append.mp ascending).2.2

theorem newest_drop (ascending : Ascending time all) (count : Nat) :
    Newest time count all (all.drop (all.length - count)) where
  length := by
    rw [List.length_drop]
    omega
  among := fun _ member => List.mem_of_mem_drop member
  ascending := ascending.sublist (List.drop_sublist _ _)
  latest := by
    intro x late y listed early
    rw [← List.take_append_drop (all.length - count) all] at ascending listed
    exact ascending.split y ((List.mem_append.mp listed).resolve_right early) x late

theorem not_newest_of_take (ascending : Ascending time all) (short : m < all.length) (some_ : kept ≠ [])
    (early : ∀ x ∈ kept, x ∈ all.take m) : ¬ Newest time count all kept := by
  intro newest
  obtain ⟨x, held⟩ := List.exists_mem_of_ne_nil kept some_
  rw [← List.take_append_drop m all] at ascending
  obtain ⟨y, late⟩ := List.exists_mem_of_ne_nil (all.drop m) (by simpa using short)
  have after := ascending.split x (early x held) y late
  have missing : y ∉ kept := fun member => lt_irrefl _ (ascending.split y (early y member) y late)
  exact lt_asymm after (newest.latest x held y (List.mem_of_mem_drop late) missing)

/-- The first entries of a log are its newest only where they are all of them, or none are asked for. -/
theorem newest_take_iff (ascending : Ascending time all) :
    Newest time count all (all.take count) ↔ all.length ≤ count ∨ count = 0 := by
  constructor
  · intro newest
    by_contra none
    obtain ⟨short, positive⟩ := not_or.mp none
    rw [not_le] at short
    refine not_newest_of_take ascending short ?_ (fun _ member => member) newest
    intro empty
    have length := congrArg List.length empty
    rw [List.length_take, List.length_nil] at length
    omega
  · rintro (whole | rfl)
    · have end_ := newest_drop ascending count
      rw [Nat.sub_eq_zero_of_le whole, List.drop_zero] at end_
      rwa [List.take_of_length_le whole]
    · simpa using newest_drop ascending 0

/-- The newest entries of a part that nothing outside is later than. -/
theorem newest_part_iff {part : List α} (sub : part.Subperm all) (older : ∀ y ∈ all, y ∉ part → ∀ x ∈ part, time y < time x)
    (inside : ∀ x ∈ kept, x ∈ part) (enough : count ≤ part.length) :
    Newest time count all kept ↔ Newest time count part kept := by
  have longer := sub.length_le
  constructor
  · intro newest
    refine ⟨?_, inside, newest.ascending, fun x held y listed => newest.latest x held y (sub.subset listed)⟩
    rw [newest.length]
    omega
  · intro newest
    refine ⟨?_, fun x held => sub.subset (inside x held), newest.ascending, ?_⟩
    · rw [newest.length]
      omega
    · intro x held y listed missing
      by_cases within : y ∈ part
      · exact newest.latest x held y within missing
      · exact older y listed within x (inside x held)

theorem Ascending.le_last {last x : α} (ascending : Ascending time all) (end_ : all.getLast? = some last) (listed : x ∈ all) :
    time x ≤ time last := by
  obtain ⟨before, rfl⟩ := List.getLast?_eq_some_iff.mp end_
  rcases List.mem_append.mp listed with early | same
  · exact (ascending.split x early last (List.mem_singleton_self last)).le
  · rw [List.mem_singleton.mp same]

/-- An ascending log is determined by its entries. -/
theorem Ascending.eq_of_mem_iff {other : List α} (first : Ascending time all) (second : Ascending time other)
    (same : ∀ x, x ∈ all ↔ x ∈ other) : all = other := by
  have nodup : ∀ {l : List α}, Ascending time l → l.Nodup := by
    intro l ascending
    refine List.Pairwise.imp ?_ ascending
    rintro a _ before rfl
    exact lt_irrefl _ before
  refine List.Perm.eq_of_pairwise (fun a b _ _ before after => (lt_asymm before after).elim) first second ?_
  exact (List.perm_ext_iff_of_nodup (nodup first) (nodup second)).mpr same

/-! ### Listings ordered by a column -/

/-- `ORDER BY key`. -/
def orderBy {β : Type} [LinearOrder β] (key : α → β) (rows : List α) : List α := rows.mergeSort fun x y => key x ≤ key y

variable {β : Type} [LinearOrder β] {key : α → β}

@[simp] theorem mem_orderBy {rows : List α} {x : α} : x ∈ orderBy key rows ↔ x ∈ rows := List.mem_mergeSort

@[simp] theorem length_orderBy (rows : List α) : (orderBy key rows).length = rows.length := List.length_mergeSort rows

theorem orderBy_perm (rows : List α) : (orderBy key rows).Perm rows := List.mergeSort_perm rows _

theorem orderBy_sorted (rows : List α) : (orderBy key rows).Pairwise fun x y => key x ≤ key y := by
  have transitive : ∀ x y z, decide (key x ≤ key y) = true → decide (key y ≤ key z) = true → decide (key x ≤ key z) = true := by
    intro x y z first second
    rw [decide_eq_true_iff] at first second ⊢
    exact first.trans second
  have total : ∀ x y, (decide (key x ≤ key y) || decide (key y ≤ key x)) = true := by
    intro x y
    simpa using le_total (key x) (key y)
  exact (List.pairwise_mergeSort transitive total rows).imp fun le => decide_eq_true_iff.mp le

theorem orderBy_head {rows : List α} {first : α} (found : (orderBy key rows).head? = some first) :
    first ∈ rows ∧ ∀ x ∈ rows, key first ≤ key x := by
  obtain ⟨rest, split⟩ := List.head?_eq_some_iff.mp found
  have sorted := @orderBy_sorted α β _ key rows
  rw [split, List.pairwise_cons] at sorted
  refine ⟨mem_orderBy.mp (List.mem_of_head? found), ?_⟩
  intro x member
  have listed : x ∈ orderBy key rows := mem_orderBy.mpr member
  rw [split] at listed
  rcases List.mem_cons.mp listed with rfl | later
  · exact le_refl _
  · exact sorted.1 x later

/-- Two cuts of one list where a test stops holding are the same cut. -/
theorem append_cut {test : α → Bool} {before after first last : List α} (early : ∀ x ∈ before, test x = true)
    (late : ∀ x ∈ after, test x = false) (early' : ∀ x ∈ first, test x = true) (late' : ∀ x ∈ last, test x = false)
    (same : before ++ after = first ++ last) : before = first ∧ after = last := by
  have cut : ∀ {pre post : List α}, (∀ x ∈ pre, test x = true) → (∀ x ∈ post, test x = false) →
      (pre ++ post).filter test = pre := by
    intro pre post holds fails
    rw [List.filter_append, List.filter_eq_self.mpr holds,
      List.filter_eq_nil_iff.mpr fun x member => by simp [fails x member], List.append_nil]
  have heads : before = first := by rw [← cut early late, same, cut early' late']
  subst heads
  exact ⟨rfl, List.append_cancel_left same⟩

/-- The sort is stable: leaving rows out before it or after it is the same. -/
theorem filter_orderBy (keep : α → Bool) (rows : List α) : (orderBy key rows).filter keep = orderBy key (rows.filter keep) := by
  have transitive : ∀ a b c : α, decide (key a ≤ key b) = true → decide (key b ≤ key c) = true →
      decide (key a ≤ key c) = true := by
    intro a b c first second
    rw [decide_eq_true_iff] at first second ⊢
    exact first.trans second
  have total : ∀ a b : α, (decide (key a ≤ key b) || decide (key b ≤ key a)) = true := by
    intro a b
    simpa using le_total (key a) (key b)
  induction rows with
  | nil => simp [orderBy]
  | cons row rest ih =>
    obtain ⟨before, after, whole, without, smaller⟩ := List.mergeSort_cons transitive total row rest
    have sortedWhole : orderBy key (row :: rest) = before ++ row :: after := whole
    have restSplit : orderBy key rest = before ++ after := without
    rw [restSplit, List.filter_append] at ih
    rw [sortedWhole, List.filter_append, List.filter_cons, List.filter_cons]
    split
    · rename_i kept
      obtain ⟨first, last, wholeKept, withoutKept, smallerKept⟩ :=
        List.mergeSort_cons transitive total row (rest.filter keep)
      have splitKept : orderBy key (row :: rest.filter keep) = first ++ row :: last := wholeKept
      have restKept : orderBy key (rest.filter keep) = first ++ last := withoutKept
      rw [restKept] at ih
      rw [splitKept]
      -- both halves are cut where the rows stop coming before the new one
      have sorted := @orderBy_sorted α β _ key (row :: rest)
      have sortedKept := @orderBy_sorted α β _ key (row :: rest.filter keep)
      rw [sortedWhole] at sorted
      rw [splitKept] at sortedKept
      have late : ∀ x ∈ after.filter keep, (!decide (key row ≤ key x)) = false := by
        intro x member
        have le := (List.pairwise_cons.mp (List.pairwise_append.mp sorted).2.1).1 x (List.mem_filter.mp member).1
        simpa using le
      have lateKept : ∀ x ∈ last, (!decide (key row ≤ key x)) = false := by
        intro x member
        have le := (List.pairwise_cons.mp (List.pairwise_append.mp sortedKept).2.1).1 x member
        simpa using le
      have early : ∀ x ∈ before.filter keep, (!decide (key row ≤ key x)) = true :=
        fun x member => smaller x (List.mem_filter.mp member).1
      obtain ⟨same, sameLast⟩ := append_cut early late smallerKept lateKept ih
      rw [same, sameLast]
    · exact ih

/-- A limited listing shows each row that few enough rows come before or beside. -/
theorem mem_take_orderBy {rows : List α} {x : α} {limit : ℕ} (listed : x ∈ rows)
    (few : rows.countP (fun y => decide (key y ≤ key x)) ≤ limit) : x ∈ (orderBy key rows).take limit := by
  have sorted := @orderBy_sorted α β _ key rows
  have present : x ∈ orderBy key rows := mem_orderBy.mpr listed
  have same : (orderBy key rows).Perm rows := orderBy_perm rows
  rw [← same.countP_eq] at few
  rw [← List.take_append_drop limit (orderBy key rows)] at sorted few present
  refine (List.mem_append.mp present).resolve_right fun late => ?_
  have full : ((orderBy key rows).take limit).length = limit := by
    rw [List.length_take]
    have some_ := List.length_pos_of_mem late
    rw [List.length_drop] at some_
    omega
  have before : ((orderBy key rows).take limit).countP (fun y => decide (key y ≤ key x)) = limit := by
    rw [List.countP_eq_length.mpr, full]
    intro y early
    exact decide_eq_true ((List.pairwise_append.mp sorted).2.2 y early x late)
  have own : 0 < ((orderBy key rows).drop limit).countP (fun y => decide (key y ≤ key x)) :=
    List.countP_pos_iff.mpr ⟨x, late, decide_eq_true le_rfl⟩
  rw [List.countP_append] at few
  omega

/-- A log that is kept in the order of the column is listed as it is. -/
theorem orderBy_of_sorted {rows : List α} (sorted : rows.Pairwise fun x y => key x ≤ key y) : orderBy key rows = rows :=
  List.mergeSort_of_pairwise (sorted.imp fun le => decide_eq_true le)

/-- A limited listing begins with the whole log exactly where the limit reaches and the column orders the log. -/
theorem prefix_listing_iff (rows : List α) (limit : ℕ) :
    rows <+: (orderBy key rows).take limit ↔ rows.length ≤ limit ∧ rows.Pairwise fun x y => key x ≤ key y := by
  constructor
  · intro listed
    have length := listed.length_le
    rw [List.length_take, length_orderBy] at length
    have reaches : rows.length ≤ limit := by omega
    rw [List.take_of_length_le (by rwa [length_orderBy])] at listed
    have same := listed.eq_of_length (length_orderBy rows).symm
    have sorted := @orderBy_sorted α β _ key rows
    rw [← same] at sorted
    exact ⟨reaches, sorted⟩
  · rintro ⟨reaches, sorted⟩
    have whole : (orderBy key rows).take limit = rows := by
      rw [orderBy_of_sorted sorted, List.take_of_length_le reaches]
    exact whole.symm ▸ List.prefix_rfl

end Iems.Lib
