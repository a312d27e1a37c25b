import Atomwall.Base.Csv
import Atomwall.History.RequestLog

/-!
What a reader of the CSV file finds: one record for each event, in which the fields that a visitor
chooses are single cells, and none of them a formula.
-/

namespace Atomwall

/-- What `csv_escape` makes a reader see. -/
def csvCell (raw : String) : String := if formulaLike raw then "'" ++ raw else raw

def kCsvColumns : List String :=
  ["seq", "timestamp", "client_ip", "country", "isp", "user_agent", "method", "path", "domain", "listener",
   "blocked", "block_reason", "bytes_transferred", "status_code"]

def textColumns (event : RequestEvent) : List (Nat × String) :=
  [(2, event.clientIp), (3, event.country), (4, event.isp), (5, event.userAgent), (6, event.method),
   (7, event.path), (8, event.domain), (9, event.listener), (11, event.blockReason)]

/-- A spreadsheet takes a cell that starts so for a formula. -/
def StartsFormula (cell : String) : Prop := ∃ c ∈ cell.toList.head?, c ∈ ['=', '+', '-', '@', '\t', '\r']

/-- The record shows the event: every field in its own cell, as it is or behind an apostrophe, and
nothing that a spreadsheet would evaluate among the texts. -/
structure Shows (entry : Numbered RequestEvent) (record : List String) : Prop where
  columns : record.length = 14
  texts : ∀ field ∈ textColumns entry.event, ∃ cell, record[field.1]? = some cell ∧
    (cell = field.2 ∨ cell = "'" ++ field.2) ∧ ¬ StartsFormula cell
  seq : record[0]? = some (toString entry.seq)
  timestamp : record[1]? = some (toIso8601Millis entry.event.timestamp)
  blocked : record[10]? = some (if entry.event.blocked then "true" else "false")
  bytes : record[12]? = some (toString entry.event.bytesTransferred)
  status : record[13]? = some (toString entry.event.statusCode)

/-- The cells of a row as they are written, each text through `escape`. -/
def rowCells (escape : String → String) (entry : Numbered RequestEvent) : List String :=
  let event := entry.event
  [toString entry.seq, toIso8601Millis event.timestamp, escape event.clientIp, escape event.country,
   escape event.isp, escape event.userAgent, escape event.method, escape event.path, escape event.domain,
   escape event.listener, if event.blocked then "true" else "false", escape event.blockReason,
   toString event.bytesTransferred, toString event.statusCode]

variable {entry : Numbered RequestEvent} {raw : String}

theorem joined_line (a b c d e f g h i j k l m n : String) :
    (a ++ "," ++ b ++ "," ++ c ++ "," ++ d ++ "," ++ e ++ "," ++ f ++ "," ++ g ++ "," ++ h ++ "," ++ i ++
      "," ++ j ++ "," ++ k ++ "," ++ l ++ "," ++ m ++ "," ++ n ++ "\n").toList =
      Csv.line ([a, b, c, d, e, f, g, h, i, j, k, l, m, n].map String.toList) := by
  have comma : ",".toList = [','] := rfl
  have newline : "\n".toList = ['\n'] := rfl
  simp only [List.map_cons, List.map_nil, Csv.line, String.toList_append, comma, newline,
    List.append_assoc, List.cons_append, List.nil_append]

theorem toCsvRow_line : (toCsvRow entry).toList = Csv.line ((rowCells csvEscape entry).map String.toList) :=
  joined_line _ _ _ _ _ _ _ _ _ _ _ _ _ _

theorem kCsvHeader_line : kCsvHeader.toList = Csv.line (kCsvColumns.map String.toList) := by
  decide +kernel

theorem csvEscape_written (raw : String) : Csv.Written (csvEscape raw).toList (csvCell raw).toList := by
  unfold csvEscape
  dsimp only
  rw [← csvCell]
  split
  · next free =>
    refine Csv.Written.plain fun c member => ?_
    have kept := List.all_eq_true.mp free c member
    simpa [Csv.isSpecial, and_assoc] using kept
  · rw [String.toList_ofList]
    exact Csv.Written.quoted _

theorem not_startsFormula : ¬ StartsFormula (csvCell raw) := by
  intro given
  obtain ⟨c, first, formula⟩ := given
  unfold csvCell at first
  cases like : formulaLike raw with
  | true =>
    have head : ("'" ++ raw).toList.head? = some (Char.ofNat 39) := by
      rw [String.toList_append]
      rfl
    rw [like, if_pos rfl, head] at first
    rw [← Option.some.inj first] at formula
    revert formula
    decide
  | false =>
    rw [like, if_neg (by decide)] at first
    unfold formulaLike at like
    split at like
    · next empty =>
      rw [empty] at first
      cases first
    · next head rest whole =>
      rw [whole] at first
      obtain rfl : head = c := Option.some.inj first
      exact absurd formula (by simpa using like)

theorem not_special_of_isDigit {c : Char} (digit : c.isDigit = true) : Csv.isSpecial c = false := by
  have other : ∀ d : Char, d.isDigit = false → c ≠ d := by
    rintro d plain rfl
    rw [digit] at plain
    cases plain
  simp [Csv.isSpecial, other ',' rfl, other '"' rfl, other '\n' rfl, other '\r' rfl]

theorem toString_written (n : Nat) : Csv.Written (toString n).toList (toString n).toList := by
  refine Csv.Written.plain fun c member => not_special_of_isDigit ?_
  rw [Nat.toString_eq_repr, Nat.toList_repr] at member
  exact Nat.isDigit_of_mem_toDigits (by decide) (by decide) member

theorem not_special_of_mem_padded {width : Nat} {n : Int} {c : Char} (member : c ∈ Decimal.padded width n) :
    Csv.isSpecial c = false := by
  cases n with
  | ofNat n => exact not_special_of_isDigit (Decimal.isDigit_of_mem_paddedNat member)
  | negSucc n =>
    rcases List.mem_cons.mp member with rfl | digit
    · rfl
    · exact not_special_of_isDigit (Decimal.isDigit_of_mem_paddedNat digit)

theorem timestamp_written (tp : Int) :
    Csv.Written (toIso8601Millis tp).toList (toIso8601Millis tp).toList := by
  refine Csv.Written.plain fun c member => ?_
  unfold toIso8601Millis at member
  dsimp only at member
  rw [String.toList_ofList] at member
  simp only [List.mem_append, List.mem_cons, List.not_mem_nil, or_false] at member
  -- seven numbers with a sign between each two and a letter at the end
  rcases member with number | rfl | number | rfl | number | rfl | number | rfl | number | rfl | number |
    rfl | number | rfl
  all_goals first | rfl | exact not_special_of_mem_padded number

theorem rowCells_written (entry : Numbered RequestEvent) : List.Forall₂ Csv.Written
    ((rowCells csvEscape entry).map String.toList) ((rowCells csvCell entry).map String.toList) := by
  have flag : Csv.Written (if entry.event.blocked then "true" else "false").toList
      (if entry.event.blocked then "true" else "false").toList := by
    cases entry.event.blocked with
    | true => exact Csv.Written.plain (by simp [Csv.isSpecial])
    | false => exact Csv.Written.plain (by simp [Csv.isSpecial])
  have number := toString_written
  have text := csvEscape_written
  simp only [rowCells, List.map_cons, List.map_nil]
  refine .cons (number _) (.cons (timestamp_written _) (.cons (text _) (.cons (text _) (.cons (text _)
    (.cons (text _) (.cons (text _) (.cons (text _) (.cons (text _) (.cons (text _) (.cons flag
    (.cons (text _) (.cons (number _) (.cons (number _) .nil)))))))))))))

theorem rowCells_shows (entry : Numbered RequestEvent) : Shows entry (rowCells csvCell entry) := by
  have shown : ∀ raw, (csvCell raw = raw ∨ csvCell raw = "'" ++ raw) ∧ ¬ StartsFormula (csvCell raw) := by
    intro raw
    refine ⟨?_, not_startsFormula⟩
    unfold csvCell
    split
    · exact Or.inr rfl
    · exact Or.inl rfl
  refine ⟨rfl, fun field member => ?_, rfl, rfl, rfl, rfl, rfl⟩
  refine ⟨csvCell field.2, ?_, shown field.2⟩
  simp only [textColumns, List.mem_cons, List.not_mem_nil, or_false] at member
  rcases member with rfl | rfl | rfl | rfl | rfl | rfl | rfl | rfl | rfl
  all_goals rfl

/-- A reader of the file finds the columns and then exactly one record for each event, in order. -/
theorem csv_cells_contained (events : List (Numbered RequestEvent)) :
    ∃ records, Csv.read (kCsvHeader ++ csvRows events) = some (kCsvColumns :: records) ∧
      List.Forall₂ Shows events records := by
  refine ⟨events.map (rowCells csvCell), ?_, ?_⟩
  · have rows : (csvRows events).toList =
        (events.map fun entry => (rowCells csvEscape entry).map String.toList).flatMap Csv.line := by
      induction events with
      | nil => rfl
      | cons entry rest ih =>
        rw [csvRows, String.toList_append, toCsvRow_line, ih, List.map_cons, List.flatMap_cons]
    have written : List.Forall₂ (List.Forall₂ Csv.Written)
        (kCsvColumns.map String.toList ::
          events.map fun entry => (rowCells csvEscape entry).map String.toList)
        (kCsvColumns.map String.toList ::
          events.map fun entry => (rowCells csvCell entry).map String.toList) := by
      refine .cons ?_ ?_
      · rw [List.forall₂_map_left_iff, List.forall₂_map_right_iff, List.forall₂_same]
        have free : (kCsvColumns.all fun column => column.toList.all fun c => !Csv.isSpecial c) = true := by
          decide +kernel
        intro column member
        refine Csv.Written.plain fun c inside => ?_
        simpa using List.all_eq_true.mp (List.all_eq_true.mp free column member) c inside
      · rw [List.forall₂_map_left_iff, List.forall₂_map_right_iff, List.forall₂_same]
        exact fun entry _ => rowCells_written entry
    have scanned := Csv.scan_lines written ?_
    · unfold Csv.read
      rw [String.toList_append, kCsvHeader_line, rows, ← List.flatMap_cons, scanned]
      simp [Function.comp_def]
    · intro texts member
      rcases List.mem_cons.mp member with rfl | row
      · simp [kCsvColumns]
      · obtain ⟨entry, _, rfl⟩ := List.mem_map.mp row
        simp [rowCells]
  · rw [List.forall₂_map_right_iff, List.forall₂_same]
    exact fun entry _ => rowCells_shows entry

end Atomwall
