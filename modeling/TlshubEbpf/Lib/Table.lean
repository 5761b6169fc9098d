import Mathlib.Data.List.Basic
import Mathlib.Data.List.Nodup

/-! # Tables as text

A line for each row, commas between the fields of a row.  No field is in quotation
marks. -/

set_option autoImplicit false

namespace TlshubEbpf.Lib

/-- A line break ends a line and starts none. -/
def tableLines (text : List Char) : List (List Char) :=
  let lines := text.splitOn '\n'
  if lines.getLast? = some [] then lines.dropLast else lines

def tableRows (text : List Char) : List (List (List Char)) :=
  (tableLines text).map (·.splitOn ',')

def rowText (fields : List (List Char)) : List Char := [','].intercalate fields ++ ['\n']

theorem splitOn_lines (lines : List (List Char)) (unbroken : ∀ line ∈ lines, '\n' ∉ line) :
    (lines.flatMap (· ++ ['\n'])).splitOn '\n' = lines ++ [[]] := by
  induction lines with
  | nil => rfl
  | cons line rest ih =>
      rw [List.flatMap_cons, List.append_assoc, List.singleton_append,
        List.splitOn_append_cons_self_of_not_mem (unbroken line List.mem_cons_self),
        ih fun other later => unbroken other (List.mem_cons_of_mem line later), List.cons_append]

theorem tableLines_lines (lines : List (List Char)) (unbroken : ∀ line ∈ lines, '\n' ∉ line) :
    tableLines (lines.flatMap (· ++ ['\n'])) = lines := by
  rw [tableLines, splitOn_lines lines unbroken, List.getLast?_concat, if_pos rfl,
    List.dropLast_concat]

theorem not_mem_intercalate (c separator : Char) (other : c ≠ separator)
    (fields : List (List Char)) (free : ∀ field ∈ fields, c ∉ field) :
    c ∉ [separator].intercalate fields := by
  induction fields with
  | nil => exact List.not_mem_nil
  | cons field rest ih =>
      have restFree := ih fun other later => free other (List.mem_cons_of_mem field later)
      have here := free field List.mem_cons_self
      cases rest with
      | nil => rwa [List.intercalate_singleton]
      | cons next rest =>
          rw [List.intercalate_cons_cons, List.mem_append, List.mem_append, List.mem_singleton]
          exact fun among => among.elim (fun early => early.elim here other) restFree

theorem tableRows_rowText (rows : List (List (List Char))) (filled : ∀ row ∈ rows, row ≠ [])
    (free : ∀ row ∈ rows, ∀ field ∈ row, ',' ∉ field ∧ '\n' ∉ field) :
    tableRows (rows.flatMap rowText) = rows := by
  have lines : rows.flatMap rowText =
      (rows.map ([','].intercalate ·)).flatMap (· ++ ['\n']) := by
    rw [List.flatMap_map]
    rfl
  have unbroken : ∀ line ∈ rows.map ([','].intercalate ·), '\n' ∉ line := by
    intro line among
    obtain ⟨row, rowAmong, rfl⟩ := List.mem_map.mp among
    exact not_mem_intercalate '\n' ',' (by decide) row fun field inRow =>
      (free row rowAmong field inRow).2
  rw [tableRows, lines, tableLines_lines _ unbroken, List.map_map]
  conv_rhs => rw [← List.map_id rows]
  refine List.map_congr_left fun row among => ?_
  exact List.splitOn_intercalate ',' (fun field inRow => (free row among field inRow).1)
    (filled row among)

theorem lookup_map_of_mem {α β γ : Type} [BEq β] [LawfulBEq β] (name : α → β) (value : α → γ)
    (items : List α) (distinct : (items.map name).Nodup) (item : α) (among : item ∈ items) :
    (items.map fun item => (name item, value item)).lookup (name item) = some (value item) := by
  induction items with
  | nil => cases among
  | cons first rest ih =>
      rw [List.map_cons, List.nodup_cons] at distinct
      rw [List.map_cons, List.lookup_cons]
      rcases List.mem_cons.mp among with rfl | later
      · rw [beq_self_eq_true]
      · have other : name item ≠ name first := fun same =>
          distinct.1 (same ▸ List.mem_map_of_mem later)
        rw [beq_false_of_ne other]
        exact ih distinct.2 later

theorem lookup_map_eq_find {α β γ : Type} [BEq β] [LawfulBEq β] [DecidableEq β] (key : α → β)
    (value : α → γ) (items : List α) (wanted : β) :
    (items.map fun item => (key item, value item)).lookup wanted =
      (items.find? fun item => key item = wanted).map value := by
  induction items with
  | nil => rfl
  | cons item rest ih =>
      rw [List.map_cons, List.lookup_cons]
      by_cases here : key item = wanted
      · rw [List.find?_cons_of_pos (by simpa using here), here, beq_self_eq_true, Option.map_some]
      · rw [List.find?_cons_of_neg (by simpa using here), ih, beq_false_of_ne (Ne.symm here)]

theorem mapM_eq_some_map {α β : Type} (read : α → Option β) (value : α → β) (items : List α)
    (reads : ∀ item ∈ items, read item = some (value item)) :
    items.mapM read = some (items.map value) := by
  induction items with
  | nil => rfl
  | cons first rest ih =>
      obtain ⟨here, later⟩ := List.forall_mem_cons.mp reads
      rw [List.mapM_cons, here, ih later]
      rfl

theorem length_of_mapM {α β : Type} (read : α → Option β) (items : List α) (results : List β)
    (all : items.mapM read = some results) : results.length = items.length := by
  induction items generalizing results with
  | nil =>
      cases all
      rfl
  | cons first rest ih =>
      rw [List.mapM_cons] at all
      obtain ⟨result, -, all⟩ := Option.bind_eq_some_iff.mp all
      obtain ⟨later, read, all⟩ := Option.bind_eq_some_iff.mp all
      cases all
      rw [List.length_cons, List.length_cons, ih later read]

/-! ## Tables between comments -/

def isRecord (line : List Char) : Bool := line != [] && line.head? != some '#'

theorem isRecord_append (line more : List Char) (record : isRecord line = true) :
    isRecord (line ++ more) = true := by
  cases line with
  | nil => cases record
  | cons c rest => exact record

def recordsOf (lines : List (List Char)) : List (List (List Char)) :=
  (lines.filter isRecord).map (·.splitOn ',')

def tableRecords (text : List Char) : List (List (List Char)) := recordsOf (tableLines text)

theorem recordsOf_append (lines more : List (List Char)) :
    recordsOf (lines ++ more) = recordsOf lines ++ recordsOf more := by
  rw [recordsOf, List.filter_append, List.map_append]
  rfl

theorem tableRecords_append (text more : List Char) :
    tableRecords (text ++ '\n' :: more) = recordsOf (text.splitOn '\n') ++ tableRecords more := by
  have lines : tableLines (text ++ '\n' :: more) = text.splitOn '\n' ++ tableLines more := by
    have filled := List.splitOn_ne_nil '\n' more
    rw [tableLines, tableLines, List.splitOn_append_cons_self, List.getLast?_append_of_ne_nil _ filled]
    by_cases last : (more.splitOn '\n').getLast? = some []
    · rw [if_pos last, if_pos last, List.dropLast_append_of_ne_nil filled]
    · rw [if_neg last, if_neg last]
  rw [tableRecords, lines, recordsOf_append]
  rfl

inductive TableLine where
  | note (text : List Char)
  | row (fields : List (List Char))

namespace TableLine

def line : TableLine → List Char
  | note text => text
  | row fields => [','].intercalate fields

def text (tableLine : TableLine) : List Char := tableLine.line ++ ['\n']

def fields : TableLine → Option (List (List Char))
  | note _ => none
  | row fields => some fields

/-- Notes are no records, and rows are told apart from them by their first field. -/
def WellFormed : TableLine → Prop
  | note text => '\n' ∉ text ∧ isRecord text = false
  | row fields => (∀ field ∈ fields, ',' ∉ field ∧ '\n' ∉ field) ∧
      ∃ first rest, fields = first :: rest ∧ isRecord first = true

theorem WellFormed.unbroken {tableLine : TableLine} (wellFormed : tableLine.WellFormed) :
    '\n' ∉ tableLine.line := by
  cases tableLine with
  | note text => exact wellFormed.1
  | row fields =>
      exact not_mem_intercalate '\n' ',' (by decide) fields fun field among =>
        (wellFormed.1 field among).2

theorem WellFormed.records {tableLine : TableLine} (wellFormed : tableLine.WellFormed) :
    recordsOf [tableLine.line] = tableLine.fields.toList := by
  cases tableLine with
  | note text =>
      rw [recordsOf, line, List.filter_cons_of_neg (by rw [wellFormed.2]; exact Bool.false_ne_true)]
      rfl
  | row fields =>
      obtain ⟨free, first, rest, rfl, some⟩ := wellFormed
      have record : isRecord ([','].intercalate (first :: rest)) = true := by
        cases rest with
        | nil => rwa [List.intercalate_singleton]
        | cons next rest =>
            rw [List.intercalate_cons_cons, List.append_assoc]
            exact isRecord_append first _ some
      rw [recordsOf, line, List.filter_cons_of_pos record, List.filter_nil, List.map_singleton,
        List.splitOn_intercalate ',' (fun field among => (free field among).1)
          (List.cons_ne_nil _ _)]
      rfl

end TableLine

/-- The rows come back, and the notes between them are left out. -/
theorem tableRecords_lines (lines : List TableLine)
    (wellFormed : ∀ tableLine ∈ lines, tableLine.WellFormed) (more : List Char) :
    tableRecords (lines.flatMap TableLine.text ++ more) =
      lines.filterMap TableLine.fields ++ tableRecords more := by
  induction lines with
  | nil => rfl
  | cons first rest ih =>
      obtain ⟨here, later⟩ := List.forall_mem_cons.mp wellFormed
      have split : first.line.splitOn '\n' = [first.line] :=
        List.splitOn_eq_singleton here.unbroken
      rw [List.flatMap_cons, TableLine.text, List.append_assoc, List.append_assoc,
        List.singleton_append, tableRecords_append, split, here.records, ih later,
        ← List.append_assoc]
      cases first with
      | note text => rfl
      | row fields => rfl

end TlshubEbpf.Lib
