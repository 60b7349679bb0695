import Iems.Lib.Dict
import Mathlib.Data.List.Induction

/-! Last-writer-wins logs: each message overwrites the row of its key. -/
namespace Iems.Lib

variable {K V M : Type} [DecidableEq K] {keyOf : M → Option K} {value : M → V}

/-- A message without a key leaves the table as it is. -/
def writeRow (keyOf : M → Option K) (value : M → V) (table : Dict K V) (message : M) : Dict K V :=
  match keyOf message with
  | none => table
  | some key => table.set key (value message)

def writeLog (keyOf : M → Option K) (value : M → V) (table : Dict K V) (log : List M) : Dict K V :=
  log.foldl (writeRow keyOf value) table

def lastFor (keyOf : M → Option K) (key : K) (log : List M) : Option M :=
  (log.filter fun message => keyOf message = some key).getLast?

theorem writeLog_append (table : Dict K V) (before after : List M) :
    writeLog keyOf value table (before ++ after) = writeLog keyOf value (writeLog keyOf value table before) after :=
  List.foldl_append

theorem lastFor_append (key : K) (before after : List M) :
    lastFor keyOf key (before ++ after) = (lastFor keyOf key after).or (lastFor keyOf key before) := by
  unfold lastFor
  rw [List.filter_append, List.getLast?_append]

theorem lastFor_singleton (key : K) (message : M) :
    lastFor keyOf key [message] = if keyOf message = some key then some message else none := by
  unfold lastFor
  by_cases same : keyOf message = some key <;> simp [same]

theorem get?_writeRow (table : Dict K V) (message : M) (key : K) :
    (writeRow keyOf value table message).get? key =
      if keyOf message = some key then some (value message) else table.get? key := by
  unfold writeRow
  split
  · rename_i absent
    rw [absent]
    rfl
  · rename_i held found
    rw [Dict.get?_set, found]
    simp only [Option.some.injEq, eq_comm]

/-- Each row holds the value of the last message with its key. -/
theorem get?_writeLog (table : Dict K V) (log : List M) (key : K) :
    (writeLog keyOf value table log).get? key =
      ((lastFor keyOf key log).map value).or (table.get? key) := by
  induction log using List.reverseRecOn with
  | nil => rfl
  | append_singleton before message ih =>
    rw [writeLog_append, lastFor_append, lastFor_singleton]
    show (writeRow keyOf value _ message).get? key = _
    rw [get?_writeRow, ih]
    split <;> rfl

/-- The last message with a key, wherever it stands in the log. -/
theorem get?_writeLog_last {table : Dict K V} {before after : List M} {message : M} {key : K}
    (own : keyOf message = some key) (last : ∀ later ∈ after, keyOf later ≠ some key) :
    (writeLog keyOf value table (before ++ message :: after)).get? key = some (value message) := by
  have silent : lastFor keyOf key after = none := by
    rw [lastFor, List.getLast?_eq_none_iff, List.filter_eq_nil_iff]
    simpa using last
  have found : lastFor keyOf key (before ++ message :: after) = some message := by
    rw [← List.singleton_append, lastFor_append, lastFor_append, silent, lastFor_singleton, if_pos own]
    rfl
  rw [get?_writeLog, found]
  rfl

theorem get?_writeLog_other {table : Dict K V} {log : List M} {key : K} (absent : ∀ message ∈ log, keyOf message ≠ some key) :
    (writeLog keyOf value table log).get? key = table.get? key := by
  have silent : lastFor keyOf key log = none := by
    rw [lastFor, List.getLast?_eq_none_iff, List.filter_eq_nil_iff]
    simpa using absent
  rw [get?_writeLog, silent]
  rfl

theorem mem_keys_writeRow {table : Dict K V} {message : M} {key : K} :
    key ∈ (writeRow keyOf value table message).keys ↔ keyOf message = some key ∨ key ∈ table.keys := by
  unfold writeRow
  split
  · rename_i absent
    simp [absent]
  · rename_i held found
    rw [Dict.mem_keys_set, found, Option.some.injEq]
    exact or_congr_left eq_comm

theorem mem_keys_writeLog {table : Dict K V} {log : List M} {key : K} :
    key ∈ (writeLog keyOf value table log).keys ↔ (∃ message ∈ log, keyOf message = some key) ∨ key ∈ table.keys := by
  induction log generalizing table with
  | nil => simp [writeLog]
  | cons message rest ih =>
    show key ∈ (writeLog keyOf value (writeRow keyOf value table message) rest).keys ↔ _
    rw [ih, mem_keys_writeRow]
    simp only [List.exists_mem_cons_iff, or_assoc]
    exact or_left_comm

theorem keys_writeLog {table : Dict K V} {log : List M}
    (present : ∀ message ∈ log, ∀ key, keyOf message = some key → key ∈ table.keys) :
    (writeLog keyOf value table log).keys = table.keys := by
  induction log generalizing table with
  | nil => rfl
  | cons message rest ih =>
    have kept : (writeRow keyOf value table message).keys = table.keys := by
      unfold writeRow
      split
      · rfl
      · rename_i key found
        exact Dict.keys_set_present _ (present message List.mem_cons_self key found)
    show (writeLog keyOf value (writeRow keyOf value table message) rest).keys = table.keys
    rw [ih, kept]
    intro later member key found
    rw [kept]
    exact present later (List.mem_cons_of_mem _ member) key found

/-- Redelivery of a suffix of the log changes nothing. -/
theorem writeLog_redelivered (table : Dict K V) {log suffix : List M} (redelivered : suffix <:+ log) :
    writeLog keyOf value table (log ++ suffix) = writeLog keyOf value table log := by
  obtain ⟨before, rfl⟩ := redelivered
  apply Dict.ext_keys
  · rw [writeLog_append]
    apply keys_writeLog
    intro message member key found
    exact mem_keys_writeLog.mpr (Or.inl ⟨message, List.mem_append_right _ member, found⟩)
  · intro key
    rw [get?_writeLog, get?_writeLog, lastFor_append, lastFor_append]
    cases lastFor keyOf key suffix <;> rfl

end Iems.Lib
