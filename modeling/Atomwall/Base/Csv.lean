import Mathlib.Data.List.Forall2

/-!
Comma-separated values: a reader of the quoting of RFC 4180, with CRLF or LF between the records and any
character but commas, quotes and line breaks in a field without quotes; and what it reads back.
-/

namespace Csv

/-- Where the reader stands: before a field, in one without quotes, in a quoted one, after a quote in
it, or after the CR of a line break. -/
inductive Place where
  | start
  | plain
  | quoted
  | closed
  | carriage
  deriving DecidableEq

/-- The records of the text, given what was read of the current field and the fields before it. -/
def scan : Place → List Char → List (List Char) → List Char → Option (List (List (List Char)))
  | .quoted, _, _, [] => none
  | .carriage, _, _, [] => none
  | .start, field, record, [] => some (if record.isEmpty then [] else [record ++ [field]])
  | _, field, record, [] => some [record ++ [field]]
  | .quoted, field, record, c :: rest =>
    if c = '"' then scan .closed field record rest else scan .quoted (field ++ [c]) record rest
  | .carriage, field, record, c :: rest =>
    if c = '\n' then (scan .start [] [] rest).map ((record ++ [field]) :: ·) else none
  | place, field, record, c :: rest =>
    if c = ',' then scan .start [] (record ++ [field]) rest
    else if c = '\n' then (scan .start [] [] rest).map ((record ++ [field]) :: ·)
    else if c = '\r' then scan .carriage field record rest
    else if c = '"' then
      -- a quote opens a field, or doubles the one before it
      match place with
      | .start => scan .quoted [] record rest
      | .closed => scan .quoted (field ++ [c]) record rest
      | _ => none
    else if place = .closed then none
    else scan .plain (field ++ [c]) record rest

def read (text : String) : Option (List (List String)) :=
  (scan .start [] [] text.toList).map fun records => records.map fun record => record.map String.ofList

/-- Needs quotes. -/
def isSpecial (c : Char) : Bool := c = ',' || c = '"' || c = '\n' || c = '\r'

def doubled (value : List Char) : List Char := value.flatMap fun c => if c = '"' then ['"', c] else [c]

/-- The text of a field, and the value it is read as. -/
inductive Written : List Char → List Char → Prop where
  | plain {value : List Char} (free : ∀ c ∈ value, isSpecial c = false) : Written value value
  | quoted (value : List Char) : Written ('"' :: doubled value ++ ['"']) value

/-- Fields side by side, and a line break. -/
def line : List (List Char) → List Char
  | [] => ['\n']
  | [last] => last ++ ['\n']
  | text :: next :: rest => text ++ ',' :: line (next :: rest)

variable {field text value rest : List Char} {record texts values : List (List Char)} {place : Place}

theorem not_special {c : Char} (free : isSpecial c = false) : c ≠ ',' ∧ c ≠ '"' ∧ c ≠ '\n' ∧ c ≠ '\r' := by
  simpa [isSpecial, and_assoc] using free

theorem scan_comma (ready : place = .start ∨ place = .plain ∨ place = .closed) :
    scan place field record (',' :: rest) = scan .start [] (record ++ [field]) rest := by
  rcases ready with rfl | rfl | rfl
  all_goals exact if_pos rfl

theorem scan_newline (ready : place = .start ∨ place = .plain ∨ place = .closed) :
    scan place field record ('\n' :: rest) =
      (scan .start [] [] rest).map ((record ++ [field]) :: ·) := by
  rcases ready with rfl | rfl | rfl
  all_goals exact (if_neg (by decide)).trans (if_pos rfl)

theorem scan_char {c : Char} (free : isSpecial c = false) (ready : place = .start ∨ place = .plain) :
    scan place field record (c :: rest) = scan .plain (field ++ [c]) record rest := by
  obtain ⟨comma, quote, newline, carriage⟩ := not_special free
  rcases ready with rfl | rfl
  all_goals
    refine (if_neg comma).trans ((if_neg newline).trans ((if_neg carriage).trans ?_))
    exact (if_neg quote).trans (if_neg (by decide))

/-- A quote opens a field, or doubles the one before it. -/
theorem scan_quote : scan .start field record ('"' :: rest) = scan .quoted [] record rest ∧
    scan .closed field record ('"' :: rest) = scan .quoted (field ++ ['"']) record rest := by
  constructor
  all_goals
    refine (if_neg (by decide)).trans ((if_neg (by decide)).trans ((if_neg (by decide)).trans ?_))
    exact if_pos rfl

theorem scan_quoted_cons {c : Char} : scan .quoted field record (c :: rest) =
    if c = '"' then scan .closed field record rest else scan .quoted (field ++ [c]) record rest := rfl

theorem scan_plain (free : ∀ c ∈ value, isSpecial c = false) :
    scan .plain field record (value ++ rest) = scan .plain (field ++ value) record rest := by
  induction value generalizing field with
  | nil => simp
  | cons c value ih =>
    rw [List.cons_append, scan_char (free c List.mem_cons_self) (Or.inr rfl),
      ih fun d member => free d (List.mem_cons_of_mem _ member), List.append_assoc, List.singleton_append]

/-- A value inside quotes is read up to the quote that closes it. -/
theorem scan_quoted : scan .quoted field record (doubled value ++ '"' :: rest) =
    scan .closed (field ++ value) record rest := by
  induction value generalizing field with
  | nil => rw [List.append_nil, doubled, List.flatMap_nil, List.nil_append, scan_quoted_cons, if_pos rfl]
  | cons c value ih =>
    by_cases quote : c = '"'
    · subst quote
      have pair : doubled ('"' :: value) ++ '"' :: rest = '"' :: '"' :: (doubled value ++ '"' :: rest) := rfl
      have twice : scan .quoted field record ('"' :: '"' :: (doubled value ++ '"' :: rest)) =
          scan .quoted (field ++ ['"']) record (doubled value ++ '"' :: rest) := by
        rw [scan_quoted_cons, if_pos rfl, scan_quote.2]
      rw [pair, twice, ih, List.append_assoc, List.singleton_append]
    · have one : doubled (c :: value) = c :: doubled value := by simp [doubled, quote]
      have next : scan .quoted field record (c :: (doubled value ++ '"' :: rest)) =
          scan .quoted (field ++ [c]) record (doubled value ++ '"' :: rest) := by
        rw [scan_quoted_cons, if_neg quote]
      rw [one, List.cons_append, next, ih, List.append_assoc, List.singleton_append]

theorem scan_written (written : Written text value) : ∃ place,
    (place = .start ∨ place = .plain ∨ place = .closed) ∧
      ∀ rest, scan .start [] record (text ++ rest) = scan place value record rest := by
  cases written with
  | plain free =>
    cases text with
    | nil => exact ⟨.start, Or.inl rfl, fun rest => rfl⟩
    | cons c text =>
      refine ⟨.plain, Or.inr (Or.inl rfl), fun rest => ?_⟩
      rw [List.cons_append, scan_char (free c List.mem_cons_self) (Or.inl rfl),
        scan_plain fun d member => free d (List.mem_cons_of_mem _ member)]
      rfl
  | quoted value =>
    refine ⟨.closed, Or.inr (Or.inr rfl), fun rest => ?_⟩
    rw [List.cons_append, List.cons_append, List.append_assoc, List.singleton_append, scan_quote.1,
      scan_quoted, List.nil_append]

theorem scan_line (written : List.Forall₂ Written texts values) (some_fields : texts ≠ []) :
    scan .start [] record (line texts ++ rest) =
      (scan .start [] [] rest).map ((record ++ values) :: ·) := by
  induction written generalizing record with
  | nil => exact absurd rfl some_fields
  | @cons text value texts values first later ih =>
    obtain ⟨place, ready, reads⟩ := @scan_written text value record first
    cases later with
    | nil => rw [line, List.append_assoc, reads, List.singleton_append, scan_newline ready]
    | cons next more =>
      rw [line, List.append_assoc, reads, List.cons_append, scan_comma ready, ih (by simp),
        List.append_assoc, List.singleton_append]

/-- What was written line by line is read record by record. -/
theorem scan_lines {lines records : List (List (List Char))}
    (written : List.Forall₂ (List.Forall₂ Written) lines records) (some_fields : ∀ texts ∈ lines, texts ≠ []) :
    scan .start [] [] (lines.flatMap line) = some records := by
  induction written with
  | nil => rfl
  | @cons texts values lines records first later ih =>
    rw [List.flatMap_cons, scan_line first (some_fields texts List.mem_cons_self),
      ih fun texts member => some_fields texts (List.mem_cons_of_mem _ member)]
    rfl

end Csv
