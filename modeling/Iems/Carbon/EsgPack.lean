import Iems.Carbon.Published
import Iems.Core.Text
import Iems.Lib.Replace
import Iems.Lib.Split

/-! The table of an ESG pack: its rows as escaped markup, and the rows that are read back from it. -/
namespace Iems.Carbon
open Lib Iems.Core

def substitute (old new : String) (text : Text) : Text := replaceAll (Text.ofString old) (Text.ofString new) text

def esc (s : Text) : Text :=
  substitute "\"" "&quot;" (substitute ">" "&gt;" (substitute "<" "&lt;" (substitute "&" "&amp;" s)))

def tableRow (row : Text × Text) : Text :=
  Text.ofString "<tr><th>" ++ esc row.1 ++ Text.ofString "</th><td>" ++ esc row.2 ++ Text.ofString "</td></tr>"

def tableRows (rows : List (Text × Text)) : Text := rows.flatMap tableRow

def EsgPack.textRows (pack : EsgPack) : List (Text × Text) :=
  pack.rows.map fun row => (Text.ofString row.1, Text.ofString row.2)

/-! ### Reading the table -/

/-- The four replacements undone, the last one first. -/
def unesc (s : Text) : Text :=
  substitute "&amp;" "&" (substitute "&lt;" "<" (substitute "&gt;" ">" (substitute "&quot;" "\"" s)))

def lessThan : CodePoint := codePoint '<'

/-- The cell up to the next tag, and what follows it. -/
def readCell (text : Text) : Text × Text := (unesc (text.takeWhile (· ≠ lessThan)), text.dropWhile (· ≠ lessThan))

def readRow (text : Text) : Option ((Text × Text) × Text) := do
  let first ← text.dropPrefix? (Text.ofString "<tr><th>")
  let (field, rest) := readCell first
  let second ← rest.dropPrefix? (Text.ofString "</th><td>")
  let (value, rest) := readCell second
  let rest ← rest.dropPrefix? (Text.ofString "</td></tr>")
  return ((field, value), rest)

/-- At most `fuel` rows. -/
def readRows : ℕ → Text → Option (List (Text × Text))
  | _, [] => some []
  | 0, _ :: _ => none
  | fuel + 1, text => do
    let (row, rest) ← readRow text
    let rows ← readRows fuel rest
    return row :: rows

def readTable (text : Text) : Option (List (Text × Text)) := readRows text.length text

/-! ### Escaping -/

/-- Each entity is put back for its own character: no replacement before it has put that entity in. -/
theorem unesc_esc (s : Text) : unesc (esc s) = s := by
  have noLt : ¬Text.ofString "&lt;" <:+: substitute "&" "&amp;" s :=
    not_infix_replaceAll (by decide) (by decide) (by decide) (Or.inl rfl)
  have noGt : ¬Text.ofString "&gt;" <:+: substitute "<" "&lt;" (substitute "&" "&amp;" s) := by
    refine not_infix_replaceAll (by decide) (by decide) (by decide) (Or.inr ?_)
    exact not_infix_replaceAll (by decide) (by decide) (by decide) (Or.inl rfl)
  have noQuot : ¬Text.ofString "&quot;" <:+: substitute ">" "&gt;" (substitute "<" "&lt;" (substitute "&" "&amp;" s)) := by
    refine not_infix_replaceAll (by decide) (by decide) (by decide) (Or.inr ?_)
    refine not_infix_replaceAll (by decide) (by decide) (by decide) (Or.inr ?_)
    exact not_infix_replaceAll (by decide) (by decide) (by decide) (Or.inl rfl)
  have quot : ∀ t, ¬Text.ofString "&quot;" <:+: t → substitute "&quot;" "\"" (substitute "\"" "&quot;" t) = t :=
    fun t absent => replaceAll_back (by decide) (Or.inr absent)
  have gt : ∀ t, ¬Text.ofString "&gt;" <:+: t → substitute "&gt;" ">" (substitute ">" "&gt;" t) = t :=
    fun t absent => replaceAll_back (by decide) (Or.inr absent)
  have lt : ∀ t, ¬Text.ofString "&lt;" <:+: t → substitute "&lt;" "<" (substitute "<" "&lt;" t) = t :=
    fun t absent => replaceAll_back (by decide) (Or.inr absent)
  have amp : ∀ t, substitute "&amp;" "&" (substitute "&" "&amp;" t) = t :=
    fun t => replaceAll_back (by decide) (Or.inl rfl)
  unfold unesc esc
  rw [quot _ noQuot, gt _ noGt, lt _ noLt, amp]

example : esc (Text.ofString "<a & b>") = Text.ofString "&lt;a &amp; b&gt;" := by decide +kernel

theorem esc_injective : Function.Injective esc := Function.LeftInverse.injective unesc_esc

theorem esc_no_lessThan (s : Text) : codePoint '<' ∉ esc s := by
  refine not_mem_replaceAll_of (by decide) ?_
  refine not_mem_replaceAll_of (by decide) ?_
  exact not_mem_replaceAll (by decide)

theorem esc_no_greaterThan (s : Text) : codePoint '>' ∉ esc s := by
  refine not_mem_replaceAll_of (by decide) ?_
  exact not_mem_replaceAll (by decide)

theorem esc_no_quote (s : Text) : codePoint '"' ∉ esc s := not_mem_replaceAll (by decide)

/-! ### Rows -/

theorem readCell_esc (s rest : Text) : readCell (esc s ++ codePoint '<' :: rest) = (s, codePoint '<' :: rest) := by
  have free : lessThan ∉ esc s := esc_no_lessThan s
  unfold readCell
  rw [show codePoint '<' = lessThan from rfl, takeWhile_field free, dropWhile_field free, unesc_esc]

theorem dropPrefix?_own (tag rest : Text) : (tag ++ rest).dropPrefix? tag = some rest :=
  List.dropPrefix?_eq_some_iff.mpr ⟨tag, rfl, BEq.rfl⟩

theorem readRow_tableRow (row : Text × Text) (rest : Text) : readRow (tableRow row ++ rest) = some (row, rest) := by
  have first : readCell (esc row.1 ++ (Text.ofString "</th><td>" ++ (esc row.2 ++ (Text.ofString "</td></tr>" ++ rest)))) =
      (row.1, Text.ofString "</th><td>" ++ (esc row.2 ++ (Text.ofString "</td></tr>" ++ rest))) := readCell_esc row.1 _
  have second : readCell (esc row.2 ++ (Text.ofString "</td></tr>" ++ rest)) =
      (row.2, Text.ofString "</td></tr>" ++ rest) := readCell_esc row.2 _
  unfold tableRow readRow
  simp only [List.append_assoc, dropPrefix?_own, Option.bind_eq_bind, Option.bind_some, first, second]
  rfl

theorem readRows_tableRows {fuel : ℕ} {rows : List (Text × Text)} (enough : rows.length ≤ fuel) :
    readRows fuel (tableRows rows) = some rows := by
  induction rows generalizing fuel with
  | nil => cases fuel <;> rfl
  | cons row rest ih =>
    obtain ⟨fuel, rfl⟩ : ∃ less, fuel = less + 1 := ⟨fuel - 1, by simp at enough; omega⟩
    have later : readRows fuel (tableRows rest) = some rest := ih (by simpa using enough)
    have begins : tableRows (row :: rest) = tableRow row ++ tableRows rest := List.flatMap_cons
    have some_ : ∃ c more, tableRow row ++ tableRows rest = c :: more := ⟨_, _, rfl⟩
    obtain ⟨c, more, shape⟩ := some_
    rw [begins, shape, readRows, ← shape, readRow_tableRow]
    · simp only [Option.bind_eq_bind, Option.bind_some, later]
      rfl
    · exact List.cons_ne_nil c more

theorem length_tableRows (rows : List (Text × Text)) : rows.length ≤ (tableRows rows).length := by
  induction rows with
  | nil => exact Nat.zero_le _
  | cons row rest ih =>
    have begins : tableRows (row :: rest) = tableRow row ++ tableRows rest := List.flatMap_cons
    have some_ : 0 < (tableRow row).length := by
      unfold tableRow
      simp only [List.length_append]
      have tag : (Text.ofString "<tr><th>").length = 8 := by decide
      omega
    rw [begins, List.length_append, List.length_cons]
    omega

theorem readTable_tableRows (rows : List (Text × Text)) : readTable (tableRows rows) = some rows :=
  readRows_tableRows (length_tableRows rows)

/-- The table gives back the rows of the pack, and no cell of it can open or close a tag or an attribute. -/
theorem esgTable_faithful (cfg : Settings) (generated : String) (id : Nat) (report : CarbonReport) (plantCode : String) :
    readTable (tableRows (buildEsgPack cfg generated id report plantCode).textRows) =
        some (buildEsgPack cfg generated id report plantCode).textRows ∧
      (∀ rows, readTable (tableRows rows) = some rows) ∧ (∀ s, unesc (esc s) = s) ∧ Function.Injective esc ∧
        ∀ s, codePoint '<' ∉ esc s ∧ codePoint '>' ∉ esc s ∧ codePoint '"' ∉ esc s :=
  ⟨readTable_tableRows _, readTable_tableRows, unesc_esc, esc_injective,
    fun s => ⟨esc_no_lessThan s, esc_no_greaterThan s, esc_no_quote s⟩⟩

end Iems.Carbon
