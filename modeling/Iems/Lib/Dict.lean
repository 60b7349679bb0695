import Mathlib.Data.List.Induction
import Mathlib.Data.List.Nodup

/-! Insertion-ordered dictionaries: a list of items whose keys are distinct. -/
namespace Iems.Lib

variable {κ α : Type}

theorem lookup_iff_mem [DecidableEq κ] {items : List (κ × α)} {key : κ} {value : α}
    (distinct : (items.map Prod.fst).Nodup) : items.lookup key = some value ↔ (key, value) ∈ items := by
  induction items with
  | nil => simp
  | cons item rest ih =>
    obtain ⟨first, content⟩ := item
    simp only [List.map_cons, List.nodup_cons] at distinct
    rw [List.lookup_cons, List.mem_cons]
    by_cases same : key = first
    · subst same
      simp only [beq_self_eq_true]
      constructor
      · rintro ⟨⟩
        exact Or.inl rfl
      · rintro (equal | later)
        · rw [(Prod.mk.inj equal).2]
        · exact absurd (List.mem_map.mpr ⟨_, later, rfl⟩) distinct.1
    · have other : (key == first) = false := beq_false_of_ne same
      rw [other]
      simp only [ih distinct.2, Prod.mk.injEq, same, false_and, false_or]

theorem lookup_ne_none_iff [DecidableEq κ] {items : List (κ × α)} {key : κ} :
    items.lookup key ≠ none ↔ key ∈ items.map Prod.fst := by
  rw [Option.ne_none_iff_isSome, List.lookup_isSome_iff, List.mem_map]
  simp only [beq_iff_eq]
  exact ⟨fun ⟨item, member, same⟩ => ⟨item, member, same.symm⟩, fun ⟨item, member, same⟩ => ⟨item, member, same.symm⟩⟩

theorem filter_key [DecidableEq κ] {items : List (κ × α)} {key : κ}
    (distinct : (items.map Prod.fst).Nodup) : (items.filter fun item => item.1 = key) =
      (items.lookup key).toList.map fun value => (key, value) := by
  induction items with
  | nil => rfl
  | cons item rest ih =>
    obtain ⟨first, content⟩ := item
    simp only [List.map_cons, List.nodup_cons] at distinct
    rw [List.lookup_cons]
    by_cases same : first = key
    · subst same
      have others : (rest.filter fun item => item.1 = first) = [] := by
        rw [List.filter_eq_nil_iff]
        intro item member
        have apart : item.1 ≠ first := by
          intro equal
          exact distinct.1 (List.mem_map.mpr ⟨item, member, equal⟩)
        simpa using apart
      simp [others]
    · have other : (key == first) = false := beq_false_of_ne (Ne.symm same)
      rw [other]
      simpa [same] using ih distinct.2

theorem filterMap_keyed {get : κ → Option α} {keyOf : α → κ} {values : List α} {keys : List κ}
    (part : (values.map keyOf).Sublist keys) (distinct : keys.Nodup)
    (found : ∀ key ∈ keys, ∀ value, get key = some value ↔ value ∈ values ∧ keyOf value = key) :
    keys.filterMap get = values := by
  induction keys generalizing values with
  | nil =>
    rw [List.map_eq_nil_iff.mp (List.sublist_nil.mp part)]
    rfl
  | cons key rest ih =>
    obtain ⟨fresh, distinct⟩ := List.nodup_cons.mp distinct
    have later := fun other member => found other (List.mem_cons_of_mem key member)
    rcases List.sublist_cons_iff.mp part with skipped | ⟨tail, own, within⟩
    · -- no value has the key
      have none_ : get key = none := by
        refine Option.eq_none_iff_forall_not_mem.mpr fun value holds => ?_
        obtain ⟨member, same⟩ := (found key List.mem_cons_self value).mp holds
        exact fresh (skipped.subset (List.mem_map.mpr ⟨value, member, same⟩))
      rw [List.filterMap_cons_none none_]
      exact ih skipped distinct later
    · obtain ⟨first, values, rfl, keyed, rfl⟩ := List.map_eq_cons_iff.mp own
      have holds := (found key List.mem_cons_self first).mpr ⟨List.mem_cons_self, keyed⟩
      rw [List.filterMap_cons_some holds, ih within distinct]
      intro other member value
      have apart : value = first → keyOf value ≠ other := by
        rintro rfl same
        exact fresh (keyed ▸ same ▸ member)
      rw [later other member value, List.mem_cons]
      constructor
      · rintro ⟨same | inside, at_⟩
        · exact absurd at_ (apart same)
        · exact ⟨inside, at_⟩
      · exact fun both => ⟨.inr both.1, both.2⟩

structure Dict (κ α : Type) where
  items : List (κ × α)
  distinct : (items.map Prod.fst).Nodup
  deriving DecidableEq

namespace Dict

def keys (d : Dict κ α) : List κ := d.items.map Prod.fst

variable [DecidableEq κ]

def get? (d : Dict κ α) (key : κ) : Option α := d.items.lookup key

def filter (d : Dict κ α) (keep : κ × α → Bool) : Dict κ α where
  items := d.items.filter keep
  distinct := d.distinct.sublist (List.filter_sublist.map Prod.fst)

def mapValues (d : Dict κ α) {β : Type} (f : κ → α → β) : Dict κ β where
  items := d.items.map fun item => (item.1, f item.1 item.2)
  distinct := by
    rw [List.map_map]
    exact d.distinct

def values (d : Dict κ α) : List α := d.items.map Prod.snd

end Dict

variable [DecidableEq κ]

def upsert (key : κ) (value : α) : List (κ × α) → List (κ × α)
  | [] => [(key, value)]
  | item :: rest => if item.1 = key then (key, value) :: rest else item :: upsert key value rest

theorem mem_upsert_keys {items : List (κ × α)} {key other : κ} {value : α} :
    other ∈ (upsert key value items).map Prod.fst ↔ other = key ∨ other ∈ items.map Prod.fst := by
  induction items with
  | nil => simp [upsert]
  | cons item rest ih =>
    unfold upsert
    split
    · rename_i same
      subst same
      simp
    · simp only [List.map_cons, List.mem_cons, ih]
      exact or_left_comm

theorem upsert_distinct {items : List (κ × α)} {key : κ} {value : α}
    (distinct : (items.map Prod.fst).Nodup) : ((upsert key value items).map Prod.fst).Nodup := by
  induction items with
  | nil => simp [upsert]
  | cons item rest ih =>
    simp only [List.map_cons, List.nodup_cons] at distinct
    obtain ⟨fresh, distinct⟩ := distinct
    unfold upsert
    split
    · rename_i same
      subst same
      exact List.nodup_cons.mpr ⟨fresh, distinct⟩
    · rename_i other
      refine List.nodup_cons.mpr ⟨?_, ih distinct⟩
      intro again
      rcases mem_upsert_keys.mp again with equal | later
      · exact other equal
      · exact fresh later

theorem lookup_cons_ite {first key : κ} {content : α} {rest : List (κ × α)} :
    ((first, content) :: rest).lookup key = if key = first then some content else rest.lookup key := by
  rw [List.lookup_cons]
  by_cases same : key = first
  · rw [if_pos same, same, beq_self_eq_true]
  · rw [if_neg same, beq_false_of_ne same]

theorem lookup_upsert {items : List (κ × α)} {key other : κ} {value : α} :
    (upsert key value items).lookup other = if other = key then some value else items.lookup other := by
  induction items with
  | nil => rw [upsert, lookup_cons_ite]
  | cons item rest ih =>
    obtain ⟨first, content⟩ := item
    unfold upsert
    split
    · rename_i same
      have equal : first = key := same
      subst equal
      rw [lookup_cons_ite, lookup_cons_ite]
      split <;> rfl
    · rename_i apart
      rw [lookup_cons_ite, lookup_cons_ite, ih]
      by_cases head : other = first
      · have different : other ≠ key := fun same => apart (head ▸ same)
        rw [if_pos head, if_neg different, if_pos head]
      · rw [if_neg head, if_neg head]

namespace Dict

def empty : Dict κ α := ⟨[], List.nodup_nil⟩

/-- `d[key] = value`: a present key keeps its place. -/
def set (d : Dict κ α) (key : κ) (value : α) : Dict κ α := ⟨upsert key value d.items, upsert_distinct d.distinct⟩

def erase (d : Dict κ α) (key : κ) : Dict κ α := d.filter fun item => item.1 ≠ key

def setDefault (d : Dict κ α) (key : κ) (value : α) : Dict κ α :=
  if (d.get? key).isSome then d else d.set key value

@[simp] theorem get?_empty (key : κ) : (empty : Dict κ α).get? key = none := rfl

theorem get?_set (d : Dict κ α) (key other : κ) (value : α) :
    (d.set key value).get? other = if other = key then some value else d.get? other := lookup_upsert

@[simp] theorem get?_set_self (d : Dict κ α) (key : κ) (value : α) : (d.set key value).get? key = some value := by
  rw [get?_set, if_pos rfl]

theorem get?_set_other (d : Dict κ α) {key other : κ} (value : α) (apart : other ≠ key) :
    (d.set key value).get? other = d.get? other := by
  rw [get?_set, if_neg apart]

theorem present_set {d : Dict κ α} {key other : κ} {value : α} (present : (d.set key value).get? other ≠ none) :
    other = key ∨ d.get? other ≠ none := by
  rw [get?_set] at present
  split at present
  · exact Or.inl ‹_›
  · exact Or.inr present

theorem get?_setDefault (d : Dict κ α) (key other : κ) (value : α) :
    (d.setDefault key value).get? other =
      if other = key then some ((d.get? key).getD value) else d.get? other := by
  unfold setDefault
  cases found : d.get? key with
  | none => simp [get?_set]
  | some held =>
    by_cases same : other = key
    · subst same
      simp [found]
    · simp [same]

theorem get?_iff_mem (d : Dict κ α) {key : κ} {value : α} : d.get? key = some value ↔ (key, value) ∈ d.items :=
  lookup_iff_mem d.distinct

theorem get?_erase (d : Dict κ α) (key other : κ) :
    (d.erase key).get? other = if other = key then none else d.get? other := by
  apply Option.ext
  intro value
  rw [get?_iff_mem]
  have kept : (other, value) ∈ (d.erase key).items ↔ (other, value) ∈ d.items ∧ other ≠ key := by
    simp [erase, filter]
  rw [kept, ← get?_iff_mem]
  split <;> simp [*]

theorem mem_values (d : Dict κ α) {value : α} : value ∈ d.values ↔ ∃ key, d.get? key = some value := by
  unfold values
  simp only [get?_iff_mem, List.mem_map, Prod.exists]
  constructor
  · rintro ⟨key, held, member, rfl⟩
    exact ⟨key, member⟩
  · rintro ⟨key, member⟩
    exact ⟨key, value, member, rfl⟩

theorem upsert_fresh {items : List (κ × α)} {key : κ} {value : α} (fresh : key ∉ items.map Prod.fst) :
    upsert key value items = items ++ [(key, value)] := by
  induction items with
  | nil => rfl
  | cons item rest ih =>
    simp only [List.map_cons, List.mem_cons, not_or] at fresh
    rw [upsert, if_neg (Ne.symm fresh.1), ih fresh.2, List.cons_append]

theorem values_set_fresh {d : Dict κ α} {key : κ} (fresh : d.get? key = none) (value : α) :
    (d.set key value).values = d.values ++ [value] := by
  have absent : key ∉ d.items.map Prod.fst := fun member => lookup_ne_none_iff.mpr member fresh
  show (upsert key value d.items).map Prod.snd = _
  rw [upsert_fresh absent, List.map_append]
  rfl

theorem mem_values_set_fresh {d : Dict κ α} {key : κ} {value other : α} (fresh : d.get? key = none) :
    other ∈ (d.set key value).values ↔ other = value ∨ other ∈ d.values := by
  simp only [mem_values]
  constructor
  · rintro ⟨place, found⟩
    rw [get?_set] at found
    split at found
    · exact Or.inl (Option.some.inj found).symm
    · exact Or.inr ⟨place, found⟩
  · rintro (same | ⟨place, found⟩)
    · exact ⟨key, by rw [same, get?_set_self]⟩
    · have apart : place ≠ key := by
        intro same
        rw [same, fresh] at found
        cases found
      exact ⟨place, by rw [get?_set_other _ _ apart, found]⟩

@[simp] theorem get?_mapValues (d : Dict κ α) {β : Type} (f : κ → α → β) (key : κ) :
    (d.mapValues f).get? key = (d.get? key).map (f key) := by
  obtain ⟨items, distinct⟩ := d
  show (items.map fun item => (item.1, f item.1 item.2)).lookup key = (items.lookup key).map (f key)
  clear distinct
  induction items with
  | nil => rfl
  | cons item rest ih =>
    obtain ⟨first, content⟩ := item
    rw [List.map_cons, lookup_cons_ite, lookup_cons_ite, ih]
    by_cases same : key = first
    · subst same
      rw [if_pos rfl, if_pos rfl]
      rfl
    · rw [if_neg same, if_neg same]

def setSome (d : Dict κ α) (key : κ) : Option α → Dict κ α
  | none => d
  | some value => d.set key value

theorem get?_setSome (d : Dict κ α) (key other : κ) (value : Option α) :
    (d.setSome key value).get? other = if other = key then value.or (d.get? other) else d.get? other := by
  cases value with
  | none => by_cases same : other = key <;> simp [setSome, same]
  | some held => rw [setSome, get?_set, Option.or]

/-- Writes `f key` for each key in turn, where it has a value. -/
def collect (f : κ → Option α) (keys : List κ) (d : Dict κ α) : Dict κ α :=
  keys.foldl (fun d key => d.setSome key (f key)) d

theorem get?_collect (f : κ → Option α) (keys : List κ) (d : Dict κ α) (key : κ) :
    (collect f keys d).get? key = if key ∈ keys then (f key).or (d.get? key) else d.get? key := by
  unfold collect
  induction keys generalizing d with
  | nil => rfl
  | cons first rest ih =>
    rw [List.foldl_cons, ih, get?_setSome]
    by_cases same : key = first
    · subst same
      cases f key <;> simp
    · simp [same]

def setDefaults (keys : List κ) (value : α) (d : Dict κ α) : Dict κ α :=
  keys.foldl (fun d key => d.setDefault key value) d

theorem get?_setDefaults (keys : List κ) (value : α) (d : Dict κ α) (key : κ) :
    (setDefaults keys value d).get? key =
      if key ∈ keys then some ((d.get? key).getD value) else d.get? key := by
  unfold setDefaults
  induction keys generalizing d with
  | nil => rfl
  | cons first rest ih =>
    rw [List.foldl_cons, ih, get?_setDefault]
    by_cases same : key = first
    · subst same
      simp
    · simp [same]

/-- `d[key] = f key value` item by item; stops where `f` raises. -/
def build? {β : Type} (f : κ → α → Option β) : List (κ × α) → Dict κ β → Option (Dict κ β)
  | [], d => some d
  | (key, value) :: rest, d =>
    match f key value with
    | none => none
    | some made => build? f rest (d.set key made)

theorem build?_get? {β : Type} {f : κ → α → Option β} {items : List (κ × α)} {d made : Dict κ β}
    (built : build? f items d = some made) {key : κ} {content : β} (found : made.get? key = some content) :
    d.get? key = some content ∨ ∃ value, (key, value) ∈ items ∧ f key value = some content := by
  induction items generalizing d with
  | nil =>
    cases built
    exact Or.inl found
  | cons item rest ih =>
    obtain ⟨first, value⟩ := item
    unfold build? at built
    split at built
    · cases built
    · rename_i here accepted
      rcases ih built with before | ⟨value, member, accepted⟩
      · rw [get?_set] at before
        split at before
        · rename_i same
          cases before
          exact Or.inr ⟨value, by rw [same]; exact List.mem_cons_self, by rw [same]; exact accepted⟩
        · exact Or.inl before
      · exact Or.inr ⟨value, List.mem_cons_of_mem _ member, accepted⟩

theorem keys_set_present {d : Dict κ α} {key : κ} (value : α) (present : key ∈ d.keys) : (d.set key value).keys = d.keys := by
  obtain ⟨items, distinct⟩ := d
  show (upsert key value items).map Prod.fst = items.map Prod.fst
  have member : key ∈ items.map Prod.fst := present
  clear distinct present
  induction items with
  | nil => cases member
  | cons item rest ih =>
    unfold upsert
    split
    · rename_i same
      rw [List.map_cons, List.map_cons, same]
    · rename_i other
      rcases List.mem_cons.mp member with here | later
      · exact absurd here.symm other
      · rw [List.map_cons, List.map_cons, ih later]

theorem mem_keys_set {d : Dict κ α} {key other : κ} {value : α} : other ∈ (d.set key value).keys ↔ other = key ∨ other ∈ d.keys :=
  mem_upsert_keys

theorem ext_keys {d e : Dict κ α} (sameKeys : d.keys = e.keys) (sameValues : ∀ key, d.get? key = e.get? key) : d = e := by
  have items : ∀ (d e : List (κ × α)), d.map Prod.fst = e.map Prod.fst → (d.map Prod.fst).Nodup →
      (∀ key ∈ d.map Prod.fst, d.lookup key = e.lookup key) → d = e := by
    intro d
    induction d with
    | nil =>
      intro e same _ _
      exact (List.map_eq_nil_iff.mp same.symm).symm
    | cons first rest ih =>
      intro e same distinct values
      cases e with
      | nil => cases same
      | cons other more =>
        obtain ⟨key, value⟩ := first
        obtain ⟨keyAgain, valueAgain⟩ := other
        simp only [List.map_cons, List.cons.injEq, List.nodup_cons] at same distinct
        obtain ⟨rfl, sameRest⟩ := same
        have head := values key List.mem_cons_self
        rw [lookup_cons_ite, lookup_cons_ite, if_pos rfl, if_pos rfl] at head
        rw [Option.some.inj head]
        refine congrArg _ (ih more sameRest distinct.2 fun later member => ?_)
        have apart : later ≠ key := fun equal => distinct.1 (equal ▸ member)
        have tail := values later (List.mem_cons_of_mem _ member)
        rwa [lookup_cons_ite, lookup_cons_ite, if_neg apart, if_neg apart] at tail
  obtain ⟨left, distinct⟩ := d
  obtain ⟨right, distinctAgain⟩ := e
  have equal : left = right := items left right sameKeys distinct fun key _ => sameValues key
  subst equal
  rfl

/-! ### Dictionaries of pairs -/

/-- A comprehension over pairs: a later pair of a key replaces an earlier one. -/
def ofPairs (pairs : List (κ × α)) : Dict κ α := pairs.foldl (fun d pair => d.set pair.1 pair.2) .empty

theorem get?_ofPairs (pairs : List (κ × α)) (key : κ) : (ofPairs pairs).get? key = pairs.reverse.lookup key := by
  unfold ofPairs
  induction pairs using List.reverseRecOn with
  | nil => rfl
  | append_singleton before pair ih =>
    rw [List.foldl_append, List.foldl_cons, List.foldl_nil, get?_set, ih, List.reverse_append, List.reverse_singleton,
      List.singleton_append, lookup_cons_ite]

theorem get?_ofPairs_iff {pairs : List (κ × α)} (distinct : (pairs.map Prod.fst).Nodup) {key : κ} {value : α} :
    (ofPairs pairs).get? key = some value ↔ (key, value) ∈ pairs := by
  rw [get?_ofPairs, lookup_iff_mem (by rwa [List.map_reverse, List.nodup_reverse]), List.mem_reverse]

/-- Values that are asked for in the order of their keys come back in their order. -/
theorem filterMap_ofPairs {keyOf : α → κ} {values : List α} {keys : List κ} (part : (values.map keyOf).Sublist keys)
    (distinct : keys.Nodup) :
    keys.filterMap (ofPairs (values.map fun value => (keyOf value, value))).get? = values := by
  have own : ((values.map fun value => (keyOf value, value)).map Prod.fst).Nodup := by
    rw [List.map_map]
    exact part.nodup distinct
  refine filterMap_keyed part distinct fun key _ value => ?_
  rw [get?_ofPairs_iff own]
  simp only [List.mem_map, Prod.mk.injEq]
  constructor
  · rintro ⟨_, member, rfl, rfl⟩
    exact ⟨member, rfl⟩
  · rintro ⟨member, rfl⟩
    exact ⟨value, member, rfl, rfl⟩

/-! ### Values that carry their keys -/

def Keyed (d : Dict κ α) (keyOf : α → κ) : Prop := ∀ key value, d.get? key = some value → keyOf value = key

theorem Keyed.empty (keyOf : α → κ) : (Dict.empty : Dict κ α).Keyed keyOf := fun _ _ found => nomatch found

theorem Keyed.set {d : Dict κ α} {keyOf : α → κ} {key : κ} {value : α} (keyed : d.Keyed keyOf) (own : keyOf value = key) :
    (d.set key value).Keyed keyOf := by
  intro other held found
  rw [get?_set] at found
  split at found
  · rename_i here
    cases found
    rw [own, here]
  · exact keyed other held found

end Dict
end Iems.Lib
