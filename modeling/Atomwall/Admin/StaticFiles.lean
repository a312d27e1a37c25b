import Atomwall.Base.ByteString
import Atomwall.Base.Decimal
import Atomwall.Base.FileTree

/-!
`admin/static_files.cpp`: the file that a request target names below a directory.
-/

namespace Atomwall.StaticFiles

open FileTree

/-! ### Paths as text -/

def text (path : Written) : String :=
  String.ofList ((if path.absolute then ['/'] else []) ++ List.intercalate ['/'] (path.names.map String.toList))

/-- Repeated separators are one; one at the end leaves an empty name. -/
def ofText (path : String) : Written :=
  let parts := path.toList.splitOn '/'
  let names := (parts.filter (· ≠ [])).map String.ofList
  { absolute := path.toList.head? = some '/'
    names := if names ≠ [] ∧ parts.getLast? = some [] then names ++ [""] else names }

theorem ofText_text {names : Path} (nonempty : names ≠ [])
    (all : ∀ name ∈ names, name ≠ "" ∧ '/' ∉ name.toList) : ofText (text ⟨true, names⟩) = ⟨true, names⟩ := by
  have written : (text ⟨true, names⟩).toList = '/' :: List.intercalate ['/'] (names.map String.toList) :=
    String.toList_ofList
  have full : ∀ part ∈ names.map String.toList, part ≠ [] := by
    intro part member
    obtain ⟨name, inside, rfl⟩ := List.mem_map.mp member
    exact fun empty => (all name inside).1 (String.toList_eq_nil_iff.mp empty)
  have parts : (text ⟨true, names⟩).toList.splitOn '/' = [] :: names.map String.toList := by
    have apart : ∀ part ∈ names.map String.toList, '/' ∉ part := by
      intro part member
      obtain ⟨name, inside, rfl⟩ := List.mem_map.mp member
      exact (all name inside).2
    rw [written, ← List.nil_append ('/' :: _), List.splitOn_append_cons_self,
      List.splitOn_intercalate _ apart (by simpa using nonempty)]
    rfl
  have kept : ([] :: names.map String.toList).filter (· ≠ []) = names.map String.toList := by
    rw [List.filter_cons_of_neg (by simp), List.filter_eq_self.mpr (by simpa using full)]
  have back : (names.map String.toList).map String.ofList = names := by simp
  have last : ([] :: names.map String.toList).getLast? ≠ some [] := by
    intro empty
    rw [List.getLast?_cons_of_ne_nil (by simpa using nonempty)] at empty
    exact full [] (List.mem_of_getLast? empty) rfl
  unfold ofText
  simp only [parts, kept, back]
  rw [if_neg fun both => last both.2, written]
  simp

/-! ### The target -/

def percentDecode : List Char → List Char
  | '%' :: high :: low :: rest =>
    match Decimal.hexValue high, Decimal.hexValue low with
    | some h, some l => Char.ofNat (16 * h + l) :: percentDecode rest
    | _, _ => '%' :: percentDecode (high :: low :: rest)
  | c :: rest => c :: percentDecode rest
  | [] => []

/-- Empty segments and "." are passed over; ".." is refused. -/
def relativeOf : List (List Char) → Option Path
  | [] => some []
  | segment :: rest =>
    if segment = [] ∨ segment = ['.'] then relativeOf rest
    else if segment = ['.', '.'] then none
    else (relativeOf rest).map (String.ofList segment :: ·)

def requested (requestTarget : String) : Option Path :=
  let pathPart := requestTarget.toList.takeWhile (· != '?')
  let decoded := percentDecode pathPart
  if Char.ofNat 0 ∈ decoded then none
  else
    (relativeOf (decoded.splitOn '/')).map fun relative =>
      if relative = [] then ["index.html"] else relative

variable (tree : FileTree)

def resolveStaticPath (root : Written) (requestTarget : String) : Option Written := do
  let relative ← requested requestTarget
  let canonicalRoot ← tree.weaklyCanonical root
  let candidate ← tree.weaklyCanonical (canonicalRoot.append relative)
  if ¬ canonicalRoot.components <+: candidate.components then none
  else if !tree.isRegularFile candidate then none
  else some candidate

/-- `path::extension`. -/
def extension (name : String) : String :=
  let tail := name.toList.reverse.takeWhile (· != '.')
  if tail.length + 1 < name.length ∧ name ≠ ".." then String.ofList ('.' :: tail.reverse) else ""

def mimeTypeFor (path : Written) : String :=
  match extension (path.names.getLast?.getD "") with
  | ".html" => "text/html; charset=utf-8"
  | ".css" => "text/css; charset=utf-8"
  | ".js" => "application/javascript; charset=utf-8"
  | ".json" => "application/json; charset=utf-8"
  | ".svg" => "image/svg+xml"
  | ".png" => "image/png"
  | ".webp" => "image/webp"
  | ".ico" => "image/x-icon"
  | _ => "application/octet-stream"

variable {tree} {root path : Written} {requestTarget : String} {relative : Path} {segments : List (List Char)}

/-! ### What a target asks for -/

theorem relativeOf_names (asked : relativeOf segments = some relative)
    (apart : ∀ segment ∈ segments, '/' ∉ segment) :
    ∀ name ∈ relative, Plain name ∧ '/' ∉ name.toList := by
  induction segments generalizing relative with
  | nil =>
    obtain rfl := Option.some.inj asked
    simp
  | cons segment rest ih =>
    have others := (List.forall_mem_cons.mp apart).2
    unfold relativeOf at asked
    split at asked
    · exact ih asked others
    · next full =>
      split at asked
      · cases asked
      · next down =>
        obtain ⟨below, later, rfl⟩ := Option.map_eq_some_iff.mp asked
        refine List.forall_mem_cons.mpr ⟨⟨⟨?_, ?_, ?_⟩, ?_⟩, ih later others⟩
        · exact fun same => full (.inl (by simpa using congrArg String.toList same))
        · exact fun same => full (.inr (by simpa using congrArg String.toList same))
        · exact fun same => down (by simpa using congrArg String.toList same)
        · rw [String.toList_ofList]
          exact (List.forall_mem_cons.mp apart).1

theorem splitOn_apart {separator : Char} {text part : List Char} (member : part ∈ text.splitOn separator) :
    separator ∉ part := by
  induction text generalizing part with
  | nil =>
    rw [List.splitOn_nil, List.mem_singleton] at member
    rw [member]
    exact List.not_mem_nil
  | cons c rest ih =>
    rw [List.splitOn_cons_eq_if_modifyHead] at member
    split at member
    · rcases List.mem_cons.mp member with rfl | later
      · exact List.not_mem_nil
      · exact ih later
    · next other =>
      obtain ⟨first, others, parts⟩ := List.exists_cons_of_ne_nil (List.splitOn_ne_nil separator rest)
      rw [parts] at member ih
      rcases List.mem_cons.mp member with rfl | later
      · have outside : separator ∉ first := ih (List.mem_cons_self ..)
        have different : separator ≠ c := fun same => other (beq_iff_eq.mpr same.symm)
        simp [outside, different]
      · exact ih (List.mem_cons_of_mem _ later)

theorem requested_names (asked : requested requestTarget = some relative) :
    relative ≠ [] ∧ ∀ name ∈ relative, Plain name ∧ '/' ∉ name.toList := by
  unfold requested at asked
  simp only at asked
  split at asked
  · cases asked
  · obtain ⟨names, read, rfl⟩ := Option.map_eq_some_iff.mp asked
    split
    · refine ⟨by simp, fun name member => ?_⟩
      rw [List.mem_singleton.mp member]
      exact ⟨by unfold Plain; decide, by decide⟩
    · next nonempty =>
      exact ⟨nonempty, relativeOf_names read fun segment member => splitOn_apart member⟩

theorem resolveStaticPath_some (resolved : resolveStaticPath tree root requestTarget = some path) :
    ∃ relative canonicalRoot, requested requestTarget = some relative ∧
      tree.weaklyCanonical root = some canonicalRoot ∧
      tree.weaklyCanonical (canonicalRoot.append relative) = some path ∧
      canonicalRoot.components <+: path.components ∧ tree.contents path ≠ none := by
  obtain ⟨relative, asked, resolved⟩ := Option.bind_eq_some_iff.mp resolved
  obtain ⟨canonicalRoot, rooted, resolved⟩ := Option.bind_eq_some_iff.mp resolved
  obtain ⟨candidate, led, resolved⟩ := Option.bind_eq_some_iff.mp resolved
  split at resolved
  · cases resolved
  · next inside =>
    split at resolved
    · cases resolved
    · next regular =>
      obtain rfl := Option.some.inj resolved
      refine ⟨relative, canonicalRoot, asked, rooted, led, not_not.mp inside, fun missing => regular ?_⟩
      simp [isRegularFile, missing]

/-- Below a directory without links, the file that is found stands where the names say. -/
theorem resolveStaticPath_below {canonicalRoot : Written}
    (resolved : resolveStaticPath tree root requestTarget = some path)
    (rooted : tree.weaklyCanonical root = some canonicalRoot)
    (free : NoLinksUnder tree (tree.locate canonicalRoot)) :
    ∃ relative contents, requested requestTarget = some relative ∧
      path = ⟨true, tree.locate canonicalRoot ++ relative⟩ ∧ ofText (text path) = path ∧
      tree.contents path = some contents ∧
      tree.node (tree.locate canonicalRoot ++ relative) = some (.file contents) := by
  obtain ⟨relative, again, asked, rooted', led, inside, file⟩ := resolveStaticPath_some resolved
  obtain rfl : canonicalRoot = again := Option.some.inj (rooted.symm.trans rooted')
  obtain ⟨nonempty, names⟩ := requested_names asked
  obtain ⟨rfl, real⟩ :=
    weaklyCanonical_below rooted free (fun name member => (names name member).1) nonempty led inside file
  obtain ⟨contents, found⟩ := Option.ne_none_iff_exists'.mp file
  refine ⟨relative, contents, asked, rfl, ofText_text ?_ ?_, found, contents_real real found⟩
  · exact fun empty => nonempty (List.append_eq_nil_iff.mp empty).2
  · exact fun name member => ⟨(real.plain name member).1.1, (real.plain name member).2⟩

end Atomwall.StaticFiles
