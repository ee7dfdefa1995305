import Mathlib.Data.List.Basic

/-!
The reader of comma-separated values of Python's `csv` module, in its default dialect.

A text is read character by character. A field that begins with a quotation mark ends
at the next one that is not doubled; commas and line breaks in between belong to it.
Outside quotation marks a line break ends the record. Nothing is refused but a field
that is too long, and the end of the text closes what is open.

The text of a record is one that breaks no line outside quotation marks (`NoBreak`).
The record of a text that does not end inside quotation marks does not depend on what
follows (`read_row`); one that does takes the following lines into its last field.
-/

namespace Csv

inductive State where
  | startRecord
  | startField
  | inField
  | inQuotedField
  | quoteInQuotedField
deriving DecidableEq, Repr

/-- A record that is being read. -/
structure Reader where
  state : State
  field : List Char
  fields : List String
deriving DecidableEq, Repr

/-- No record is begun. -/
def Reader.start : Reader := ⟨.startRecord, [], []⟩

def Reader.saveField (r : Reader) (state : State) : Reader :=
  ⟨state, [], r.fields ++ [String.ofList r.field]⟩

/-- The record at a line break or the end of the text. -/
def Reader.record (r : Reader) : List String :=
  match r.state with
  | .startRecord => []
  | _ => (r.saveField .startRecord).fields

section Read

variable {E : Type} (limit : Nat) (tooLong : E)

def Reader.addChar (r : Reader) (c : Char) (state : State) : Except E Reader :=
  if r.field.length < limit then .ok { r with field := r.field ++ [c], state }
  else .error tooLong

/-- One character that does not end the record. -/
def Reader.process (r : Reader) (c : Char) : Except E Reader :=
  match r.state with
  | .startRecord | .startField =>
      if c = '"' then .ok { r with state := .inQuotedField }
      else if c = ',' then .ok (r.saveField .startField)
      else r.addChar limit tooLong c .inField
  | .inField =>
      if c = ',' then .ok (r.saveField .startField) else r.addChar limit tooLong c .inField
  | .inQuotedField =>
      if c = '"' then .ok { r with state := .quoteInQuotedField }
      else r.addChar limit tooLong c .inQuotedField
  | .quoteInQuotedField =>
      if c = '"' then r.addChar limit tooLong c .inQuotedField
      else if c = ',' then .ok (r.saveField .startField)
      else r.addChar limit tooLong c .inField

/-- The records of a text and what reading ends with, where `ending` is what the source
of the text ends with. -/
def read (ending : Option E) : Reader → List Char → List (List String) × Option E
  | r, [] =>
      match ending with
      | some e => ([], some e)
      | none => if r.state = .startRecord then ([], none) else ([r.record], none)
  | r, c :: cs =>
      if c = '\n' ∧ r.state ≠ .inQuotedField then
        let (records, outcome) := read ending .start cs
        (r.record :: records, outcome)
      else
        match r.process limit tooLong c with
        | .error e => ([], some e)
        | .ok r => read ending r cs

/-- The characters of one record. -/
def Reader.processAll : Reader → List Char → Except E Reader
  | r, [] => .ok r
  | r, c :: cs => do (← r.process limit tooLong c).processAll cs

end Read

/-! ### The state alone -/

/-- What a character does to the state. -/
def State.next : State → Char → State
  | .startRecord, c | .startField, c =>
      if c = '"' then .inQuotedField else if c = ',' then .startField else .inField
  | .inField, c => if c = ',' then .startField else .inField
  | .inQuotedField, c => if c = '"' then .quoteInQuotedField else .inQuotedField
  | .quoteInQuotedField, c =>
      if c = '"' then .inQuotedField else if c = ',' then .startField else .inField

def State.after (s : State) (cs : List Char) : State := cs.foldl State.next s

/-- No line is broken outside quotation marks. -/
def State.NoBreak : State → List Char → Prop
  | _, [] => True
  | s, c :: cs => (c = '\n' → s = .inQuotedField) ∧ (s.next c).NoBreak cs

instance State.decidableNoBreak : ∀ (s : State) (cs : List Char), Decidable (s.NoBreak cs)
  | _, [] => .isTrue trivial
  | s, c :: cs =>
      let _ := decidableNoBreak (s.next c) cs
      inferInstanceAs (Decidable ((c = '\n' → s = .inQuotedField) ∧ (s.next c).NoBreak cs))

/-- The text of a record. -/
def NoBreak (row : List Char) : Prop := State.startRecord.NoBreak row

/-- The text of a record that ends inside quotation marks. -/
def IsOpen (row : List Char) : Prop := State.startRecord.after row = .inQuotedField

instance (row : List Char) : Decidable (NoBreak row) :=
  inferInstanceAs (Decidable (State.startRecord.NoBreak row))

instance (row : List Char) : Decidable (IsOpen row) :=
  inferInstanceAs (Decidable (State.startRecord.after row = .inQuotedField))

section Process

variable {E : Type} {limit : Nat} {tooLong : E} {r r' : Reader}

theorem Reader.addChar_state {c : Char} {state : State}
    (added : r.addChar limit tooLong c state = .ok r') : r'.state = state := by
  unfold addChar at added
  split at added
  · cases added
    rfl
  · cases added

theorem Reader.process_state {c : Char} (processed : r.process limit tooLong c = .ok r') :
    r'.state = r.state.next c := by
  obtain ⟨state, field, fields⟩ := r
  unfold process at processed
  unfold State.next
  cases state with
  | startRecord | startField =>
      dsimp only at processed ⊢
      split at processed
      · rename_i quote
        cases processed
        exact (if_pos quote).symm
      · rename_i noQuote
        rw [if_neg noQuote]
        split at processed
        · rename_i comma
          cases processed
          exact (if_pos comma).symm
        · rename_i noComma
          rw [if_neg noComma]
          exact addChar_state processed
  | inField =>
      dsimp only at processed ⊢
      split at processed
      · rename_i comma
        cases processed
        exact (if_pos comma).symm
      · rename_i noComma
        rw [if_neg noComma]
        exact addChar_state processed
  | inQuotedField =>
      dsimp only at processed ⊢
      split at processed
      · rename_i quote
        cases processed
        exact (if_pos quote).symm
      · rename_i noQuote
        rw [if_neg noQuote]
        exact addChar_state processed
  | quoteInQuotedField =>
      dsimp only at processed ⊢
      split at processed
      · rename_i quote
        rw [if_pos quote]
        exact addChar_state processed
      · rename_i noQuote
        rw [if_neg noQuote]
        split at processed
        · rename_i comma
          cases processed
          exact (if_pos comma).symm
        · rename_i noComma
          rw [if_neg noComma]
          exact addChar_state processed

theorem Reader.processAll_state {cs : List Char}
    (processed : r.processAll limit tooLong cs = .ok r') : r'.state = r.state.after cs := by
  induction cs generalizing r with
  | nil =>
      cases processed
      rfl
  | cons c cs ih =>
      rw [processAll] at processed
      cases first : r.process limit tooLong c with
      | error e =>
          rw [first] at processed
          cases processed
      | ok middle =>
          rw [first] at processed
          rw [ih processed, process_state first]
          rfl

/-- The characters of one record are read one after another. -/
theorem read_append {ending : Option E} {row : List Char} (r : Reader)
    (noBreak : r.state.NoBreak row) (rest : List Char) :
    read limit tooLong ending r (row ++ rest) =
      match r.processAll limit tooLong row with
      | .error e => ([], some e)
      | .ok r => read limit tooLong ending r rest := by
  induction row generalizing r with
  | nil => rfl
  | cons c row ih =>
      obtain ⟨quoted, later⟩ := noBreak
      have inside : ¬ (c = '\n' ∧ r.state ≠ .inQuotedField) := fun broken =>
        broken.2 (quoted broken.1)
      rw [List.cons_append, read, if_neg inside, Reader.processAll]
      cases processed : r.process limit tooLong c with
      | error e => rfl
      | ok r' => exact ih r' (Reader.process_state processed ▸ later)

/-- What the source of the text ends with is what reading ends with, if nothing else
is. -/
theorem read_failing (e : E) (r : Reader) (text : List Char) :
    (read limit tooLong (some e) r text).2 ≠ none := by
  induction text generalizing r with
  | nil => simp [read]
  | cons c cs ih =>
      rw [read]
      split
      · exact ih .start
      · split
        · simp
        · exact ih _

end Process

/-! ### One row after another -/

/-- The rows after the first, each on a line of its own. -/
def furtherLines (rows : List (List Char)) : List Char := rows.flatMap fun row => '\n' :: row

section Rows

variable {E : Type} (limit : Nat) (tooLong : E)

/-- The record of a row on its own, if no field is too long. -/
def record? (row : List Char) : Option (List String) :=
  match Reader.start.processAll limit tooLong row with
  | .error _ => none
  | .ok r => some r.record

/-- The record of a row on its own. -/
def rowRecord (row : List Char) : List String := (record? limit tooLong row).getD []

variable {limit tooLong} {row : List Char} {rows : List (List Char)}

/-- A row that ends outside quotation marks is read as on its own. -/
theorem read_row {ending : Option E} (noBreak : NoBreak row) (closed : ¬ IsOpen row)
    {record : List String} (isRecord : record? limit tooLong row = some record) (rest : List Char) :
    read limit tooLong ending .start (row ++ '\n' :: rest) =
      (record :: (read limit tooLong ending .start rest).1,
        (read limit tooLong ending .start rest).2) := by
  rw [read_append .start noBreak]
  unfold record? at isRecord
  cases processed : Reader.start.processAll limit tooLong row with
  | error e =>
      rw [processed] at isRecord
      cases isRecord
  | ok r =>
      rw [processed] at isRecord
      cases isRecord
      have outside : r.state ≠ .inQuotedField := fun inside =>
        closed ((Reader.processAll_state processed).symm.trans inside)
      exact if_pos ⟨rfl, outside⟩

/-- So is the last row, which may be empty. -/
theorem read_last_row (noBreak : NoBreak row) {record : List String}
    (isRecord : record? limit tooLong row = some record) :
    (read limit tooLong none .start row).2 = none ∧
      (read limit tooLong none .start row).1.filter (fun record => !record.isEmpty) =
        [record].filter fun record => !record.isEmpty := by
  rw [← List.append_nil row, read_append .start noBreak]
  unfold record? at isRecord
  cases processed : Reader.start.processAll limit tooLong row with
  | error e =>
      rw [processed] at isRecord
      cases isRecord
  | ok r =>
      rw [processed] at isRecord
      cases isRecord
      dsimp only
      rw [read]
      by_cases empty : r.state = .startRecord
      · rw [if_pos empty]
        simp [Reader.record, empty]
      · rw [if_neg empty]
        exact ⟨rfl, rfl⟩

/-- A row with a field that is too long ends the reading. -/
theorem read_tooLong {ending : Option E} (noBreak : NoBreak row)
    (unread : record? limit tooLong row = none) (rest : List Char) :
    (read limit tooLong ending .start (row ++ rest)).2 ≠ none := by
  rw [read_append .start noBreak]
  unfold record? at unread
  split at unread
  · rename_i e _
    exact Option.some_ne_none e
  · cases unread

/-- Rows of which only the last may end inside quotation marks are read as on their
own. -/
theorem read_rows (noBreak : ∀ row' ∈ row :: rows, NoBreak row')
    (closed : ∀ row' ∈ (row :: rows).dropLast, ¬ IsOpen row')
    (short : ∀ row' ∈ row :: rows, (record? limit tooLong row').isSome = true) :
    (read limit tooLong none .start (row ++ furtherLines rows)).2 = none ∧
      (read limit tooLong none .start (row ++ furtherLines rows)).1.filter
          (fun record => !record.isEmpty) =
        ((row :: rows).map (rowRecord limit tooLong)).filter fun record => !record.isEmpty := by
  induction rows generalizing row with
  | nil =>
      obtain ⟨record, isRecord⟩ := Option.isSome_iff_exists.mp (short row List.mem_cons_self)
      rw [furtherLines, List.flatMap_nil, List.append_nil, List.map_cons, rowRecord, isRecord]
      exact read_last_row (noBreak row List.mem_cons_self) isRecord
  | cons next rest ih =>
      obtain ⟨record, isRecord⟩ := Option.isSome_iff_exists.mp (short row List.mem_cons_self)
      rw [List.dropLast_cons_cons] at closed
      have here := @read_row E limit tooLong row none (noBreak row List.mem_cons_self)
        (closed row List.mem_cons_self) record isRecord (next ++ furtherLines rest)
      have lines : row ++ furtherLines (next :: rest) =
          row ++ '\n' :: (next ++ furtherLines rest) := rfl
      obtain ⟨ended, records⟩ := ih (fun row' mem => noBreak row' (List.mem_cons_of_mem _ mem))
        (fun row' mem => closed row' (List.mem_cons_of_mem _ mem))
        (fun row' mem => short row' (List.mem_cons_of_mem _ mem))
      rw [lines, here]
      refine ⟨ended, ?_⟩
      rw [List.map_cons, rowRecord, isRecord, Option.getD_some, List.filter_cons, List.filter_cons,
        records]

/-- Then reading ends well only if no field is too long. -/
theorem short_of_read (noBreak : ∀ row' ∈ row :: rows, NoBreak row')
    (closed : ∀ row' ∈ (row :: rows).dropLast, ¬ IsOpen row') {ending : Option E}
    (ended : (read limit tooLong ending .start (row ++ furtherLines rows)).2 = none) :
    ∀ row' ∈ row :: rows, (record? limit tooLong row').isSome = true := by
  induction rows generalizing row with
  | nil =>
      intro row' mem
      rw [List.mem_singleton.mp mem]
      by_contra unread
      exact read_tooLong (noBreak row List.mem_cons_self) (by simpa using unread) _ ended
  | cons next rest ih =>
      rw [List.dropLast_cons_cons] at closed
      cases isRecord : record? limit tooLong row with
      | none => exact absurd ended (read_tooLong (noBreak row List.mem_cons_self) isRecord _)
      | some record =>
          have here := @read_row E limit tooLong row ending (noBreak row List.mem_cons_self)
            (closed row List.mem_cons_self) record isRecord (next ++ furtherLines rest)
          have lines : row ++ furtherLines (next :: rest) =
              row ++ '\n' :: (next ++ furtherLines rest) := rfl
          rw [lines, here] at ended
          have later := ih (fun row' mem => noBreak row' (List.mem_cons_of_mem _ mem))
            (fun row' mem => closed row' (List.mem_cons_of_mem _ mem)) ended
          intro row' mem
          rcases List.mem_cons.mp mem with rfl | mem
          · rw [isRecord]
            rfl
          · exact later row' mem

end Rows

end Csv
