import SmartTraffic.Lib.Text

/-!
# Comma-separated values

Rows as `csv.writer` writes them and as `csv.reader` reads them, both with the default
dialect: a field is quoted if it holds a comma, a quote or a line end, and a quote in it is
then doubled.

The reader goes through the text one character at a time. Whatever the fields hold, it
finds the rows that were written.
-/

namespace SmartTraffic.Lib

namespace Csv

/-! ## The writer -/

/-- A character for which a field is quoted. -/
def isSpecial (c : Char) : Bool := c = ',' || c = '"' || c = '\r' || c = '\n'

/-- The inside of a quoted field. -/
def doubled (field : Text) : Text := field.flatMap fun c => if c = '"' then ['"', '"'] else [c]

def quote (field : Text) : Text := '"' :: doubled field ++ ['"']

def writeField (field : Text) : Text := if field.any isSpecial then quote field else field

/-- `writerow`; a row that would leave no trace is written as an empty quoted field. -/
def writeRow (row : List Text) : Text :=
  (if row = [[]] then quote [] else List.intercalate [','] (row.map writeField)) ++ ['\r', '\n']

/-! ## The reader -/

inductive ReadState
  | startRecord
  /-- After a carriage return, which a line feed may follow. -/
  | afterReturn
  | startField
  | inField
  | inQuotedField
  | quoteInQuotedField
  deriving DecidableEq

structure Reader where
  state : ReadState := .startRecord
  field : Text := []
  row : List Text := []
  rows : List (List Text) := []

namespace Reader

/-- The field is complete. -/
def saveField (r : Reader) : Reader :=
  { r with state := .startField, field := [], row := r.row ++ [r.field] }

/-- The row is complete, at the line end `c`. -/
def endRow (r : Reader) (c : Char) : Reader :=
  { state := if c = '\r' then .afterReturn else .startRecord, rows := r.rows ++ [r.row] }

/-- A character that is not the first of a quoted field. -/
def feedPlain (r : Reader) (c : Char) : Reader :=
  if c = '\r' ∨ c = '\n' then r.saveField.endRow c
  else if c = ',' then r.saveField
  else { r with state := .inField, field := r.field ++ [c] }

/-- The first character of a field. -/
def feedStart (r : Reader) (c : Char) : Reader :=
  if c = '"' then { r with state := .inQuotedField } else r.feedPlain c

/-- The first character of a row; a line end makes the row empty. -/
def feedRecord (r : Reader) (c : Char) : Reader :=
  if c = '\r' ∨ c = '\n' then r.endRow c else r.feedStart c

def feed (r : Reader) (c : Char) : Reader :=
  match r.state with
  | .startRecord => r.feedRecord c
  | .afterReturn => if c = '\n' then { r with state := .startRecord } else r.feedRecord c
  | .startField => r.feedStart c
  | .inField => r.feedPlain c
  | .inQuotedField =>
      if c = '"' then { r with state := .quoteInQuotedField }
      else { r with field := r.field ++ [c] }
  | .quoteInQuotedField =>
      if c = '"' then { r with state := .inQuotedField, field := r.field ++ ['"'] }
      else r.feedPlain c

/-- The rows, with the one that the end of the text completes. -/
def finish (r : Reader) : List (List Text) :=
  match r.state with
  | .startRecord | .afterReturn => r.rows
  | _ => r.rows ++ [r.row ++ [r.field]]

end Reader

def read (text : Text) : List (List Text) := (text.foldl Reader.feed {}).finish

/-! ## What is written is read -/

/-- A field begins here; at the start of a row, only one that leaves a trace. -/
structure AtField (r : Reader) (row : List Text) (rows : List (List Text)) : Prop where
  state : r.state = .startField ∨ r.state = .startRecord
  field : r.field = []
  row : r.row = row
  rows : r.rows = rows

/-- The field `f` has been read, up to the character that ends it. -/
structure AfterField (r : Reader) (f : Text) (row : List Text) (rows : List (List Text)) :
    Prop where
  state : r.state = .startField ∨ r.state = .inField ∨ r.state = .quoteInQuotedField
  field : r.field = f
  row : r.row = row
  rows : r.rows = rows

theorem foldl_doubled (field : Text) (r : Reader) (h : r.state = .inQuotedField) :
    (doubled field).foldl Reader.feed r = { r with field := r.field ++ field } := by
  induction field generalizing r with
  | nil => simp [doubled]
  | cons c field ih =>
      have hsplit : doubled (c :: field)
          = (if c = '"' then ['"', '"'] else [c]) ++ doubled field := rfl
      rw [hsplit, List.foldl_append]
      by_cases hc : c = '"'
      · subst hc
        have htwo : ['"', '"'].foldl Reader.feed r = { r with field := r.field ++ ['"'] } := by
          simp [Reader.feed, h]
        rw [if_pos rfl, htwo, ih { r with field := r.field ++ ['"'] } h, List.append_assoc,
          List.singleton_append]
      · have hone : [c].foldl Reader.feed r = { r with field := r.field ++ [c] } := by
          simp [Reader.feed, h, hc]
        rw [if_neg hc, hone, ih { r with field := r.field ++ [c] } h, List.append_assoc,
          List.singleton_append]

/-- A quoted field is read, also at the start of a row. -/
theorem afterField_quote {r : Reader} {row : List Text} {rows : List (List Text)}
    (h : AtField r row rows) (field : Text) :
    AfterField ((quote field).foldl Reader.feed r) field row rows := by
  have hopen : Reader.feed r '"' = { r with state := .inQuotedField } := by
    rcases h.state with hs | hs <;>
      simp [Reader.feed, hs, Reader.feedRecord, Reader.feedStart]
  have hbody := foldl_doubled field { r with state := .inQuotedField } rfl
  unfold quote
  rw [List.cons_append, List.foldl_cons, hopen, List.foldl_append, hbody]
  refine ⟨Or.inr (Or.inr ?_), ?_, ?_, ?_⟩
  · simp [Reader.feed]
  · simp [Reader.feed, h.field]
  · simp [Reader.feed, h.row]
  · simp [Reader.feed, h.rows]

theorem foldl_plain {field : Text} (hplain : ∀ c ∈ field, isSpecial c = false) (r : Reader)
    (h : r.state = .inField) :
    field.foldl Reader.feed r = { r with field := r.field ++ field } := by
  induction field generalizing r with
  | nil => simp
  | cons c field ih =>
      have hc := hplain c List.mem_cons_self
      simp only [isSpecial, Bool.or_eq_false_iff, decide_eq_false_iff_not] at hc
      obtain ⟨⟨⟨hcomma, hquote⟩, hreturn⟩, hfeed⟩ := hc
      have hone : Reader.feed r c = { r with field := r.field ++ [c] } := by
        simp [Reader.feed, h, Reader.feedPlain, hcomma, hreturn, hfeed]
      rw [List.foldl_cons, hone, ih (fun c hc => hplain c (List.mem_cons_of_mem _ hc))
        { r with field := r.field ++ [c] } h, List.append_assoc, List.singleton_append]

/-- A field is read, where a row starts only if it is written with a character at least. -/
theorem afterField_writeField {r : Reader} {row : List Text} {rows : List (List Text)}
    (h : AtField r row rows) (field : Text) (htrace : r.state = .startRecord → field ≠ []) :
    AfterField ((writeField field).foldl Reader.feed r) field row rows := by
  unfold writeField
  by_cases hspecial : field.any isSpecial = true
  · rw [if_pos hspecial]
    exact afterField_quote h field
  · rw [if_neg hspecial]
    have hplain : ∀ c ∈ field, isSpecial c = false := by
      simpa using hspecial
    cases field with
    | nil =>
        refine ⟨Or.inl (h.state.resolve_right fun hs => htrace hs rfl), h.field, h.row, h.rows⟩
    | cons c field =>
        have hc := hplain c List.mem_cons_self
        simp only [isSpecial, Bool.or_eq_false_iff, decide_eq_false_iff_not] at hc
        obtain ⟨⟨⟨hcomma, hquote⟩, hreturn⟩, hfeed⟩ := hc
        have hfirst : Reader.feed r c = { r with state := .inField, field := r.field ++ [c] } := by
          rcases h.state with hs | hs <;>
            simp [Reader.feed, hs, Reader.feedRecord, Reader.feedStart, Reader.feedPlain, hcomma,
              hquote, hreturn, hfeed]
        have hrest := foldl_plain (fun c hc => hplain c (List.mem_cons_of_mem _ hc))
          { r with state := .inField, field := r.field ++ [c] } rfl
        rw [List.foldl_cons, hfirst, hrest]
        exact ⟨Or.inr (Or.inl rfl), by simp [h.field], h.row, h.rows⟩

theorem feed_comma {r : Reader} {f : Text} {row : List Text} {rows : List (List Text)}
    (h : AfterField r f row rows) : AtField (r.feed ',') (row ++ [f]) rows := by
  have hsave : r.feed ',' = r.saveField := by
    rcases h.state with hs | hs | hs <;>
      simp [Reader.feed, hs, Reader.feedStart, Reader.feedPlain]
  rw [hsave]
  exact ⟨Or.inl rfl, rfl, by simp [Reader.saveField, h.row, h.field], h.rows⟩

theorem feed_lineEnd {r : Reader} {f : Text} {row : List Text} {rows : List (List Text)}
    (h : AfterField r f row rows) :
    ['\r', '\n'].foldl Reader.feed r = { rows := rows ++ [row ++ [f]] } := by
  have hreturn : r.feed '\r' = r.saveField.endRow '\r' := by
    rcases h.state with hs | hs | hs <;>
      simp [Reader.feed, hs, Reader.feedStart, Reader.feedPlain]
  rw [List.foldl_cons, hreturn]
  simp [Reader.feed, Reader.endRow, Reader.saveField, h.row, h.field, h.rows]

/-- The fields after the first are read one after the other. -/
theorem foldl_fields {r : Reader} {f : Text} {row : List Text} {rows : List (List Text)}
    (h : AfterField r f row rows) (fields : List Text) :
    ((fields.flatMap fun field => ',' :: writeField field) ++ ['\r', '\n']).foldl Reader.feed r
      = { rows := rows ++ [row ++ f :: fields] } := by
  induction fields generalizing r f row with
  | nil => exact feed_lineEnd h
  | cons field fields ih =>
      have hat := feed_comma h
      have hnext := afterField_writeField hat field fun hs => by
        have hstart : (r.feed ',').state = .startField := by
          rcases h.state with hs' | hs' | hs' <;>
            simp [Reader.feed, hs', Reader.feedStart, Reader.feedPlain, Reader.saveField]
        rw [hstart] at hs
        cases hs
      rw [List.flatMap_cons, List.cons_append, List.cons_append, List.foldl_cons,
        List.append_assoc, List.foldl_append, ih hnext, List.append_assoc, List.singleton_append]

theorem intercalate_cons (x : Text) (xs : List Text) :
    List.intercalate [','] (x :: xs) = x ++ xs.flatMap fun y => ',' :: y := by
  induction xs generalizing x with
  | nil => simp
  | cons y ys ih =>
      rw [List.intercalate_cons_cons, ih, List.flatMap_cons]
      simp

/-- One row is read. -/
theorem foldl_writeRow (rows : List (List Text)) (row : List Text) :
    (writeRow row).foldl Reader.feed { rows := rows } = { rows := rows ++ [row] } := by
  have hat : AtField { rows := rows } [] rows := ⟨Or.inr rfl, rfl, rfl, rfl⟩
  unfold writeRow
  by_cases hempty : row = [[]]
  · subst hempty
    rw [if_pos rfl, List.foldl_append]
    exact feed_lineEnd (afterField_quote hat [])
  · rw [if_neg hempty]
    cases row with
    | nil => simp [Reader.feed, Reader.feedRecord, Reader.endRow]
    | cons f fields =>
        rw [List.map_cons, intercalate_cons, List.append_assoc, List.foldl_append,
          List.flatMap_map]
        cases fields with
        | nil =>
            have hne : f ≠ [] := fun hf => hempty (by rw [hf])
            exact foldl_fields (afterField_writeField hat f fun _ => hne) []
        | cons g fields =>
            by_cases hf : f = []
            · -- an empty first field is seen by its comma
              subst hf
              have hcomma : Reader.feed { rows := rows } ','
                  = { state := .startField, row := [[]], rows := rows } := by
                simp [Reader.feed, Reader.feedRecord, Reader.feedStart, Reader.feedPlain,
                  Reader.saveField]
              have hat' : AtField { state := .startField, row := [[]], rows := rows } [[]] rows :=
                ⟨Or.inl rfl, rfl, rfl, rfl⟩
              have hg := afterField_writeField hat' g fun hs => by cases hs
              have hrest := foldl_fields hg fields
              have hnone : writeField [] = [] := rfl
              rw [hnone, List.foldl_nil, List.flatMap_cons, List.cons_append, List.cons_append,
                List.foldl_cons, hcomma, List.append_assoc, List.foldl_append, hrest]
              rfl
            · exact foldl_fields (afterField_writeField hat f fun _ => hf) (g :: fields)

/-- **Whatever the fields hold, the rows that were written are read.** -/
theorem read_writeRows (rows : List (List Text)) : read (rows.flatMap writeRow) = rows := by
  have hrun : ∀ (before : List (List Text)), (rows.flatMap writeRow).foldl Reader.feed
      { rows := before } = { rows := before ++ rows } := by
    induction rows with
    | nil => intro before; simp
    | cons row rows ih =>
        intro before
        rw [List.flatMap_cons, List.foldl_append, foldl_writeRow, ih, List.append_assoc,
          List.singleton_append]
  unfold read
  rw [hrun []]
  rfl

end Csv

end SmartTraffic.Lib
