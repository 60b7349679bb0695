import Mathlib.Data.List.Basic
import Mathlib.Data.List.Nodup

/-! Comma-separated texts: a writer that quotes where it must, and a reader that takes one character at a time. -/
namespace Iems.Lib.Csv

variable {α : Type} [DecidableEq α]

/-- The four characters with a meaning of their own. -/
structure Dialect (α : Type) where
  delimiter : α
  quote : α
  cr : α
  lf : α
  distinct : [delimiter, quote, cr, lf].Nodup

/-! ### Writing -/

def special (d : Dialect α) (c : α) : Bool := c = d.delimiter || c = d.quote || c = d.cr || c = d.lf

/-- Each quote is doubled. -/
def doubled (d : Dialect α) (field : List α) : List α :=
  field.flatMap fun c => if c = d.quote then [d.quote, d.quote] else [c]

/-- A field is quoted for a special character, and an empty one for being alone in its row. -/
def writeField (d : Dialect α) (alone : Bool) (field : List α) : List α :=
  if field.any (special d) || (alone && field.isEmpty) then d.quote :: (doubled d field ++ [d.quote]) else field

def joinFields (d : Dialect α) (alone : Bool) : List (List α) → List α
  | [] => []
  | [field] => writeField d alone field
  | field :: rest => writeField d alone field ++ d.delimiter :: joinFields d alone rest

def writeRow (d : Dialect α) (row : List (List α)) : List α := joinFields d (row.length = 1) row ++ [d.cr, d.lf]

def write (d : Dialect α) (rows : List (List (List α))) : List α := rows.flatMap (writeRow d)

/-! ### Reading -/

inductive Phase where
  | startRecord | startField | inField | inQuoted | quoteInQuoted | afterCr
  deriving DecidableEq

/-- The field and the row that are being read, and the rows before. -/
structure Reader (α : Type) where
  phase : Phase := .startRecord
  field : List α := []
  row : List (List α) := []
  rows : List (List (List α)) := []

def Reader.save (r : Reader α) (phase : Phase) : Reader α :=
  { r with phase := phase, field := [], row := r.row ++ [r.field] }

def Reader.endRow (r : Reader α) (phase : Phase) : Reader α :=
  { r with phase := phase, row := [], rows := r.rows ++ [r.row] }

def Reader.add (r : Reader α) (phase : Phase) (c : α) : Reader α := { r with phase := phase, field := r.field ++ [c] }

/-- The phase after a line end; the second character of a pair belongs to the first. -/
def lineEnd (d : Dialect α) (c : α) : Option Phase :=
  if c = d.cr then some .afterCr else if c = d.lf then some .startRecord else none

/-- A character outside quotes that ends the field, or `other`. -/
def endField (d : Dialect α) (r : Reader α) (c : α) (other : Reader α) : Reader α :=
  match lineEnd d c with
  | some phase => (r.save phase).endRow phase
  | none => if c = d.delimiter then r.save .startField else other

def readStart (d : Dialect α) (r : Reader α) (c : α) : Reader α :=
  endField d r c (if c = d.quote then { r with phase := .inQuoted } else r.add .inField c)

def readRecord (d : Dialect α) (r : Reader α) (c : α) : Reader α :=
  match lineEnd d c with
  | some phase => r.endRow phase
  | none => readStart d r c

def readChar (d : Dialect α) (r : Reader α) (c : α) : Reader α :=
  match r.phase with
  | .startRecord => readRecord d r c
  | .afterCr => if c = d.lf then { r with phase := .startRecord } else readRecord d r c
  | .startField => readStart d r c
  | .inField => endField d r c (r.add .inField c)
  | .inQuoted => if c = d.quote then { r with phase := .quoteInQuoted } else r.add .inQuoted c
  | .quoteInQuoted => endField d r c (r.add (if c = d.quote then .inQuoted else .inField) c)

/-- At the end of the text, a row without a line end counts as well. -/
def Reader.finish (r : Reader α) : List (List (List α)) :=
  match r.phase with
  | .startRecord | .afterCr => r.rows
  | phase => ((r.save phase).endRow phase).rows

def read (d : Dialect α) (text : List α) : List (List (List α)) := (text.foldl (readChar d) {}).finish

/-! ### What is written is read back -/

omit [DecidableEq α] in
theorem Dialect.quote_ne (d : Dialect α) : d.quote ≠ d.delimiter ∧ d.quote ≠ d.cr ∧ d.quote ≠ d.lf := by
  have distinct := d.distinct
  simp only [List.nodup_cons, List.mem_cons, List.not_mem_nil, or_false, not_or] at distinct
  exact ⟨Ne.symm distinct.1.1, distinct.2.1.1, distinct.2.1.2⟩

omit [DecidableEq α] in
theorem Dialect.delimiter_ne (d : Dialect α) : d.delimiter ≠ d.cr ∧ d.delimiter ≠ d.lf := by
  have distinct := d.distinct
  simp only [List.nodup_cons, List.mem_cons, List.not_mem_nil, or_false, not_or] at distinct
  exact distinct.1.2

section
variable {d : Dialect α} {c : α}

theorem special_iff : special d c = true ↔ c = d.delimiter ∨ c = d.quote ∨ c = d.cr ∨ c = d.lf := by
  simp [special, or_assoc]

theorem lineEnd_none : lineEnd d c = none ↔ c ≠ d.cr ∧ c ≠ d.lf := by
  unfold lineEnd
  split
  · simp [*]
  · split <;> simp [*]

theorem lineEnd_cr : lineEnd d d.cr = some .afterCr := if_pos rfl

theorem lineEnd_delimiter : lineEnd d d.delimiter = none := lineEnd_none.mpr d.delimiter_ne

theorem endField_delimiter (r other : Reader α) : endField d r d.delimiter other = r.save .startField := by
  unfold endField
  rw [lineEnd_delimiter]
  exact if_pos rfl

theorem endField_cr (r other : Reader α) : endField d r d.cr other = (r.save .afterCr).endRow .afterCr := by
  unfold endField
  rw [lineEnd_cr]

theorem endField_other (r other : Reader α) (plain : c ≠ d.delimiter ∧ c ≠ d.cr ∧ c ≠ d.lf) :
    endField d r c other = other := by
  unfold endField
  rw [lineEnd_none.mpr plain.2]
  exact if_neg plain.1

/-- A character that is neither a quote nor the end of a field. -/
def Plain (d : Dialect α) (c : α) : Prop := c ≠ d.quote ∧ c ≠ d.delimiter ∧ c ≠ d.cr ∧ c ≠ d.lf

theorem plain_of_any {field : List α} (none_ : field.any (special d) = false) : ∀ c ∈ field, Plain d c := by
  intro c member
  have ordinary := List.any_eq_false.mp none_ c member
  rw [special_iff, not_or, not_or, not_or] at ordinary
  exact ⟨ordinary.2.1, ordinary.1, ordinary.2.2.1, ordinary.2.2.2⟩

theorem read_plain {r : Reader α} (within : r.phase = .inField) {field : List α} (plain : ∀ c ∈ field, Plain d c) :
    field.foldl (readChar d) r = { r with field := r.field ++ field } := by
  induction field generalizing r with
  | nil => rw [List.append_nil, List.foldl_nil]
  | cons c rest ih =>
    have next : readChar d r c = r.add .inField c := by
      unfold readChar
      rw [within]
      exact endField_other r _ (plain c List.mem_cons_self).2
    rw [List.foldl_cons, next, ih rfl fun c member => plain c (List.mem_cons_of_mem _ member)]
    simp [Reader.add, within]

theorem read_doubled {r : Reader α} (within : r.phase = .inQuoted) (field : List α) :
    (doubled d field).foldl (readChar d) r = { r with field := r.field ++ field } := by
  induction field generalizing r with
  | nil => rw [List.append_nil]; rfl
  | cons c rest ih =>
    have next : (if c = d.quote then [d.quote, d.quote] else [c]).foldl (readChar d) r = r.add .inQuoted c := by
      by_cases quoted : c = d.quote
      · have first : readChar d r d.quote = { r with phase := .quoteInQuoted } := by
          unfold readChar
          rw [within]
          exact if_pos rfl
        rw [if_pos quoted, List.foldl_cons, List.foldl_cons, List.foldl_nil, first, quoted]
        refine (endField_other _ _ d.quote_ne).trans ?_
        rw [if_pos rfl]
        rfl
      · rw [if_neg quoted, List.foldl_cons, List.foldl_nil]
        unfold readChar
        rw [within]
        exact if_neg quoted
    unfold doubled at ih ⊢
    rw [List.flatMap_cons, List.foldl_append, next, ih rfl]
    simp [Reader.add, within]

/-- The phases in which a field has been read, up to the character that ends it. -/
def Reader.Complete (r : Reader α) : Prop := r.phase = .inField ∨ r.phase = .quoteInQuoted ∨ r.phase = .startField

theorem complete_delimiter {r : Reader α} (complete : r.Complete) : readChar d r d.delimiter = r.save .startField := by
  unfold readChar
  rcases complete with phase | phase | phase <;> rw [phase]
  · exact endField_delimiter r _
  · exact endField_delimiter r _
  · exact endField_delimiter r _

theorem complete_cr {r : Reader α} (complete : r.Complete) :
    readChar d r d.cr = (r.save .afterCr).endRow .afterCr := by
  unfold readChar
  rcases complete with phase | phase | phase <;> rw [phase]
  · exact endField_cr r _
  · exact endField_cr r _
  · exact endField_cr r _

/-- A first character that starts a field does so at the start of a record as well. -/
theorem readChar_start {r : Reader α} (start : r.phase = .startField ∨ r.phase = .startRecord)
    (inside : c ≠ d.cr ∧ c ≠ d.lf) : readChar d r c = readStart d r c := by
  unfold readChar
  rcases start with phase | phase <;> rw [phase]
  unfold readRecord
  rw [lineEnd_none.mpr inside]

/-- A written field is read, where it has a first character. -/
theorem read_writeField {r : Reader α} {alone : Bool} {field : List α} (empty : r.field = [])
    (start : r.phase = .startField ∨ r.phase = .startRecord) (written : writeField d alone field ≠ []) :
    ∃ phase, (writeField d alone field).foldl (readChar d) r = { r with phase := phase, field := field } ∧
      (phase = .inField ∨ phase = .quoteInQuoted) := by
  unfold writeField at written ⊢
  split
  · have opened : readChar d r d.quote = { r with phase := .inQuoted } := by
      rw [readChar_start start d.quote_ne.2]
      unfold readStart
      rw [endField_other _ _ d.quote_ne, if_pos rfl]
    refine ⟨.quoteInQuoted, ?_, .inr rfl⟩
    rw [List.foldl_cons, opened, List.foldl_append, read_doubled rfl, List.foldl_cons, List.foldl_nil]
    unfold readChar
    rw [if_pos rfl, empty, List.nil_append]
  · rename_i unquoted
    rw [if_neg unquoted] at written
    rw [Bool.or_eq_true, not_or, Bool.not_eq_true] at unquoted
    have plain := plain_of_any unquoted.1
    cases field with
    | nil => exact absurd rfl written
    | cons c rest =>
      have own := plain c List.mem_cons_self
      have opened : readChar d r c = r.add .inField c := by
        rw [readChar_start start own.2.2]
        unfold readStart
        rw [endField_other _ _ own.2, if_neg own.1]
      refine ⟨.inField, ?_, .inl rfl⟩
      rw [List.foldl_cons, opened, read_plain rfl fun c member => plain c (List.mem_cons_of_mem _ member)]
      simp [Reader.add, empty]

theorem writeField_nil {alone : Bool} {field : List α} (blank : writeField d alone field = []) :
    field = [] ∧ alone = false := by
  unfold writeField at blank
  split at blank
  · exact nomatch blank
  · rename_i unquoted
    subst blank
    simpa using unquoted

theorem read_field_delimiter {r : Reader α} {field : List α} (empty : r.field = [])
    (start : r.phase = .startField ∨ r.phase = .startRecord) :
    (writeField d false field ++ [d.delimiter]).foldl (readChar d) r = { r with phase := .startField, row := r.row ++ [field] } := by
  rw [List.foldl_append, List.foldl_cons, List.foldl_nil]
  by_cases blank : writeField d false field = []
  · obtain ⟨rfl, _⟩ := writeField_nil blank
    rw [blank, List.foldl_nil, readChar_start start d.delimiter_ne]
    unfold readStart
    rw [endField_delimiter]
    simp [Reader.save, empty]
  · obtain ⟨phase, next, complete⟩ := read_writeField empty start blank
    rw [next, complete_delimiter (complete.imp_right .inl)]
    simp [Reader.save, empty]

/-- The last field of a row; at the start of a record it is the only one, and then not blank. -/
theorem read_field_end {r : Reader α} {alone : Bool} {field : List α} (empty : r.field = [])
    (start : r.phase = .startField ∨ r.phase = .startRecord ∧ alone = true) :
    (writeField d alone field ++ [d.cr, d.lf]).foldl (readChar d) r =
      { phase := .startRecord, field := [], row := [], rows := r.rows ++ [r.row ++ [field]] } := by
  have ended : ∀ next : Reader α, next.Complete → next.field = field → next.row = r.row → next.rows = r.rows →
      [d.cr, d.lf].foldl (readChar d) next =
        { phase := .startRecord, field := [], row := [], rows := r.rows ++ [r.row ++ [field]] } := by
    rintro next complete rfl row rows
    rw [List.foldl_cons, complete_cr complete, List.foldl_cons, List.foldl_nil]
    unfold readChar
    simp [Reader.endRow, Reader.save, row, rows]
  rw [List.foldl_append]
  by_cases blank : writeField d alone field = []
  · obtain ⟨rfl, many⟩ := writeField_nil blank
    rw [blank, List.foldl_nil]
    refine ended r (.inr (.inr (start.resolve_right fun both => ?_))) empty rfl rfl
    exact nomatch many.symm.trans both.2
  · obtain ⟨phase, next, complete⟩ := read_writeField empty (start.imp_right And.left) blank
    rw [next]
    exact ended _ (complete.imp_right .inl) rfl rfl rfl

theorem read_fields {row : List (List α)} (present : row ≠ []) {r : Reader α} (empty : r.field = [])
    (start : r.phase = .startField) :
    (joinFields d false row ++ [d.cr, d.lf]).foldl (readChar d) r =
      { phase := .startRecord, field := [], row := [], rows := r.rows ++ [r.row ++ row] } := by
  induction row generalizing r with
  | nil => exact absurd rfl present
  | cons field rest ih =>
    cases rest with
    | nil => exact read_field_end empty (.inl start)
    | cons next rest =>
      have split : joinFields d false (field :: next :: rest) ++ [d.cr, d.lf] =
          (writeField d false field ++ [d.delimiter]) ++ (joinFields d false (next :: rest) ++ [d.cr, d.lf]) := by
        simp [joinFields]
      rw [split, List.foldl_append, read_field_delimiter empty (.inl start)]
      refine (@ih (List.cons_ne_nil _ _) { r with phase := .startField, row := r.row ++ [field] } empty rfl).trans ?_
      simp

theorem read_writeRow (row : List (List α)) (rows : List (List (List α))) :
    (writeRow d row).foldl (readChar d) { rows := rows } = { rows := rows ++ [row] } := by
  unfold writeRow
  match row with
  | [] =>
    show [d.cr, d.lf].foldl (readChar d) { rows := rows } = _
    rw [List.foldl_cons, List.foldl_cons, List.foldl_nil]
    unfold readChar readRecord
    simp [lineEnd_cr, Reader.endRow]
  | [field] => exact read_field_end rfl (.inr ⟨rfl, rfl⟩)
  | field :: next :: rest =>
    have many : decide ((field :: next :: rest).length = 1) = false := by simp
    have split : joinFields d false (field :: next :: rest) ++ [d.cr, d.lf] =
        (writeField d false field ++ [d.delimiter]) ++ (joinFields d false (next :: rest) ++ [d.cr, d.lf]) := by
      simp [joinFields]
    rw [many, split, List.foldl_append, read_field_delimiter rfl (.inr rfl)]
    refine (read_fields (List.cons_ne_nil _ _) rfl rfl).trans ?_
    simp

end

/-- Every table is read back from its text. -/
theorem read_write (d : Dialect α) (rows : List (List (List α))) : read d (write d rows) = rows := by
  have from_ : ∀ done : List (List (List α)), (write d rows).foldl (readChar d) { rows := done } = { rows := done ++ rows } := by
    induction rows with
    | nil => simp [write]
    | cons row rest ih =>
      intro done
      have split : write d (row :: rest) = writeRow d row ++ write d rest := List.flatMap_cons
      rw [split, List.foldl_append, read_writeRow, ih, List.append_assoc]
      rfl
  unfold read
  rw [from_ []]
  rfl

end Iems.Lib.Csv
