import Atomwall.Pipeline.RobotsTxt
import Atomwall.Base.AsciiCase

/-!
What `build_robots_txt_body` adds to a robots.txt text, and where: one block after the first line for every
crawler, or at the end, with the site's own text on both sides. A line ends at `\n`; the `\r` before one
counts as spacing of the line.
-/

namespace Atomwall

variable {text rest line s before after : List Char} {lines : List (List Char)}

/-! ### Lines -/

@[simp] theorem unlines_nil : unlines [] = [] := rfl

@[simp] theorem unlines_cons : unlines (line :: lines) = line ++ '\n' :: unlines lines := by
  simp [unlines]

@[simp] theorem unlines_append {more : List (List Char)} :
    unlines (lines ++ more) = unlines lines ++ unlines more := by
  simp [unlines]

@[simp] theorem splitLines_nil : splitLines [] = [] := rfl

theorem splitLines_cons (free : '\n' ∉ line) :
    splitLines (line ++ '\n' :: rest) = line :: splitLines rest := by
  obtain ⟨first, others, split⟩ := List.exists_cons_of_ne_nil (List.splitOn_ne_nil '\n' rest)
  simp only [splitLines, List.splitOn_append_cons_self_of_not_mem free, split, List.getLast?_cons_cons]
  split
  · rfl
  · rfl

theorem splitLines_append (free : ∀ l ∈ lines, '\n' ∉ l) :
    splitLines (unlines lines ++ rest) = lines ++ splitLines rest := by
  induction lines with
  | nil => rfl
  | cons first others ih =>
    rw [unlines_cons, List.append_assoc, List.cons_append, splitLines_cons (free _ (by simp)),
      ih fun l inside => free l (by simp [inside]), List.cons_append]

theorem splitLines_unlines (free : ∀ l ∈ lines, '\n' ∉ l) : splitLines (unlines lines) = lines := by
  have whole := @splitLines_append [] lines free
  simpa using whole

theorem splitLines_single (free : '\n' ∉ line) (some : line ≠ []) : splitLines line = [line] := by
  simp [splitLines, List.splitOn_eq_singleton free, some]

theorem exists_lines (text : List Char) : ∃ lines last, (∀ l ∈ lines, '\n' ∉ l) ∧ '\n' ∉ last ∧
    text = unlines lines ++ last := by
  induction text with
  | nil => exact ⟨[], [], by simp, by simp, rfl⟩
  | cons c rest ih =>
    obtain ⟨lines, last, free, open_, rfl⟩ := ih
    by_cases lineBreak : c = '\n'
    · subst lineBreak
      exact ⟨[] :: lines, last, by simpa using free, open_, by simp⟩
    · cases lines with
      | nil => exact ⟨[], c :: last, by simp, by simp [Ne.symm lineBreak, open_], rfl⟩
      | cons first others =>
        refine ⟨(c :: first) :: others, last, ?_, open_, by simp⟩
        intro l inside
        obtain rfl | inside := List.mem_cons.mp inside
        · simpa [Ne.symm lineBreak] using free first (by simp)
        · exact free l (by simp [inside])

theorem splitLines_free (inside : line ∈ splitLines text) : '\n' ∉ line := by
  obtain ⟨lines, last, free, open_, rfl⟩ := exists_lines text
  rw [splitLines_append free, List.mem_append] at inside
  obtain inside | inside := inside
  · exact free line inside
  · by_cases empty : last = []
    · simp [empty] at inside
    · rw [splitLines_single open_ empty, List.mem_singleton] at inside
      exact inside ▸ open_

/-- Whether the text ends with a line break. -/
def Ends (text : List Char) : Prop := text.getLast? = some '\n'

instance : Decidable (Ends text) := inferInstanceAs (Decidable (_ = _))

theorem ends_unlines (some : lines ≠ []) : Ends (unlines lines) := by
  obtain ⟨others, last, rfl⟩ := List.eq_nil_or_concat lines |>.resolve_left some
  simp [Ends]

theorem ends_append (some : rest ≠ []) : Ends (text ++ rest) ↔ Ends rest := by
  rw [Ends, Ends, List.getLast?_append_of_ne_nil _ some]

theorem not_ends_free (free : '\n' ∉ text) : ¬ Ends text := by
  intro ends
  exact free (List.mem_of_getLast? ends)

theorem unlines_splitLines (some : text ≠ []) :
    unlines (splitLines text) = if Ends text then text else text ++ ['\n'] := by
  obtain ⟨lines, last, free, open_, rfl⟩ := exists_lines text
  by_cases empty : last = []
  · subst empty
    have ended : lines ≠ [] := by
      rintro rfl
      simp at some
    simp [splitLines_unlines free, ends_unlines ended]
  · rw [if_neg (by simpa [ends_append empty] using not_ends_free open_), splitLines_append free,
      splitLines_single open_ empty]
    simp

/-! ### Lines for every crawler -/

theorem trim_append (left : ∀ c ∈ before, isSpace c) (right : ∀ c ∈ after, isSpace c) :
    trim (before ++ (s ++ after)) = trim s := by
  rw [trim, List.dropWhile_append_of_pos left, trim]
  by_cases blank : s.dropWhile isSpace = []
  · have spaces := List.dropWhile_eq_nil_iff.mp blank
    rw [List.dropWhile_append_of_pos spaces, List.dropWhile_eq_nil_iff.mpr right, blank]
  · rw [List.dropWhile_append, if_neg (by simpa using blank), List.reverse_append,
      List.dropWhile_append_of_pos (by simpa using right)]

theorem trim_eq_self {c d : Char} (first : s.head? = some c) (last : s.getLast? = some d)
    (starts : isSpace c = false) (ends : isSpace d = false) : trim s = s := by
  have kept {t : List Char} {c : Char} (first : t.head? = some c) (starts : isSpace c = false) :
      t.dropWhile isSpace = t := by
    obtain ⟨others, rfl⟩ := List.head?_eq_some_iff.mp first
    simp [starts]
  rw [trim, kept first starts, kept (by simpa using last) ends, List.reverse_reverse]

theorem exists_trim (s : List Char) : ∃ before after, (∀ c ∈ before, isSpace c) ∧
    (∀ c ∈ after, isSpace c) ∧ s = before ++ (trim s ++ after) := by
  refine ⟨s.takeWhile isSpace, ((s.dropWhile isSpace).reverse.takeWhile isSpace).reverse,
    fun c inside => List.mem_takeWhile_imp inside, ?_, ?_⟩
  · intro c inside
    exact List.mem_takeWhile_imp (List.mem_reverse.mp inside)
  · rw [trim, ← List.reverse_append, List.takeWhile_append_dropWhile, List.reverse_reverse,
      List.takeWhile_append_dropWhile]

/-- `User-agent: *`, in any case and with any spacing around both its parts. -/
def WildcardLine (line : List Char) : Prop :=
  ∃ before field inner value after, line = before ++ (field ++ inner ++ ':' :: (value ++ '*' :: after)) ∧
    field.map Char.toLower = "user-agent".toList ∧
    (∀ c ∈ before, isSpace c) ∧ (∀ c ∈ inner, isSpace c) ∧ (∀ c ∈ value, isSpace c) ∧
    (∀ c ∈ after, isSpace c)

theorem not_isUpper_of_isSpace {c : Char} (space : isSpace c) : c.isUpper = false := by
  rw [isSpace, Bool.or_eq_true, beq_iff_eq, Bool.and_eq_true, decide_eq_true_eq, decide_eq_true_eq] at space
  obtain rfl | ⟨_, below⟩ := space
  · rfl
  · have low : c.val.toNat ≤ 13 := below
    rw [Char.isUpper, decide_eq_false_iff_not]
    intro inside
    have letters : 65 ≤ c.val.toNat := inside.1
    omega

theorem field_chars {field : List Char} (named : field.map Char.toLower = "user-agent".toList) :
    ∀ c ∈ field, isSpace c = false ∧ c ≠ ':' := by
  have letters : ∀ d ∈ "user-agent".toList, isSpace d = false ∧ d ≠ ':' := by
    simp [isSpace]
  intro c inside
  have image := letters c.toLower (named ▸ List.mem_map_of_mem inside)
  constructor
  · cases space : isSpace c with
    | false => rfl
    | true =>
      rw [Char.toLower_eq_of_not_isUpper (by simp [not_isUpper_of_isSpace space]), space] at image
      cases image.1
  · rintro rfl
    exact image.2 rfl

theorem trim_field {field inner : List Char} (named : field.map Char.toLower = "user-agent".toList)
    (spaces : ∀ c ∈ inner, isSpace c) : trim (field ++ inner) = field := by
  obtain ⟨c, others, rfl⟩ := List.exists_cons_of_ne_nil (l := field) (by rintro rfl; cases named)
  have inField := field_chars named
  have same := @trim_append (c :: others) [] inner (by simp) spaces
  rw [List.nil_append] at same
  rw [same]
  exact trim_eq_self rfl (List.getLast?_eq_some_getLast (by simp)) (inField c (by simp)).1
    (inField _ (List.getLast_mem _)).1

theorem trim_star (left : ∀ c ∈ before, isSpace c) (right : ∀ c ∈ after, isSpace c) :
    trim (before ++ '*' :: after) = ['*'] := by
  have same := trim_append (s := ['*']) left right
  rw [List.singleton_append] at same
  exact same.trans rfl

theorem isWildcardUserAgentLine_of_wildcardLine (wildcard : WildcardLine line) :
    isWildcardUserAgentLine line := by
  obtain ⟨before, field, inner, value, after, rfl, named, left, spaces, right, last⟩ := wildcard
  have inField := field_chars named
  obtain ⟨c, others, rfl⟩ := List.exists_cons_of_ne_nil (l := field) (by rintro rfl; cases named)
  have core : trim (before ++ (c :: others ++ inner ++ ':' :: (value ++ '*' :: after))) =
      c :: others ++ inner ++ ':' :: (value ++ ['*']) := by
    have ended : (c :: others ++ inner ++ ':' :: (value ++ ['*'])).getLast? = some '*' := by
      rw [List.getLast?_append_of_ne_nil _ (by simp), ← List.cons_append, List.getLast?_concat]
    have whole := trim_eq_self (s := c :: others ++ inner ++ ':' :: (value ++ ['*'])) rfl ended
      (inField c (by simp)).1 rfl
    have same := trim_append (s := c :: others ++ inner ++ ':' :: (value ++ ['*'])) left last
    rw [whole] at same
    simpa using same
  have noColon : ∀ d ∈ c :: others ++ inner, (d != ':') = true := by
    intro d inside
    obtain inside | inside := List.mem_append.mp inside
    · simpa using (inField d inside).2
    · have space := spaces d inside
      rw [bne_iff_ne]
      rintro rfl
      cases space
  rw [isWildcardUserAgentLine, core]
  simp only [List.dropWhile_append_of_pos noColon, List.takeWhile_append_of_pos noColon, bne_self_eq_false,
    List.dropWhile_cons_of_neg, List.takeWhile_cons_of_neg, List.append_nil, Bool.false_eq_true,
    not_false_eq_true, trim_field named spaces, named, @trim_star value [] right (by simp)]
  rfl

theorem wildcardLine_of_isWildcardUserAgentLine (detected : isWildcardUserAgentLine line) :
    WildcardLine line := by
  obtain ⟨before, after, left, right, same⟩ := exists_trim line
  simp only [isWildcardUserAgentLine] at detected
  split at detected
  · cases detected
  · rename_i c value shape
    have colon : c = ':' := by
      have stops := List.head?_dropWhile_not (· != ':') (trim line)
      simpa [shape] using stops
    rw [Bool.and_eq_true, beq_iff_eq, beq_iff_eq] at detected
    have parts := List.takeWhile_append_dropWhile (p := (· != ':')) (l := trim line)
    rw [shape, colon] at parts
    obtain ⟨first, inner, spaces, inside, field⟩ := exists_trim ((trim line).takeWhile (· != ':'))
    obtain ⟨next, rest, more, last, star⟩ := exists_trim value
    rw [detected.2] at star
    refine ⟨before ++ first, _, inner, next, rest ++ after, ?_, detected.1, ?_, inside, more, ?_⟩
    · conv_lhs => rw [same, ← parts, star, field]
      simp
    · intro d member
      exact (List.mem_append.mp member).elim (left d) (spaces d)
    · intro d member
      exact (List.mem_append.mp member).elim (last d) (right d)

/-- The detector accepts the lines for every crawler and no others. -/
theorem isWildcardUserAgentLine_iff : isWildcardUserAgentLine line = true ↔ WildcardLine line :=
  ⟨wildcardLine_of_isWildcardUserAgentLine, isWildcardUserAgentLine_of_wildcardLine⟩

/-! ### The inserted block -/

def disallowLine (route : BlacklistEntry) : List Char := "Disallow: ".toList ++ route.value.toList

theorem disallowLine_eq {route : BlacklistEntry} :
    disallowLine route = "Disallow: ".toList ++ route.value.toList := rfl

/-- The text up to its first line for every crawler, and what follows it. -/
structure FirstWildcard (text : List Char) (earlier : List (List Char)) (line rest : List Char) : Prop where
  shape : text = unlines earlier ++ (line ++ rest)
  free : ∀ l ∈ earlier, '\n' ∉ l
  others : ∀ l ∈ earlier, ¬ WildcardLine l
  whole : '\n' ∉ line
  wildcard : WildcardLine line
  stops : rest = [] ∨ ∃ later, rest = '\n' :: later

variable {earlier : List (List Char)} {base : String} {fakeRoutes : List BlacklistEntry}

theorem WildcardLine.ne_nil (wildcard : WildcardLine line) : line ≠ [] := by
  obtain ⟨before, field, inner, value, after, rfl, _⟩ := wildcard
  simp

theorem FirstWildcard.located (first : FirstWildcard text earlier line rest) {more : List (List Char)} :
    (earlier ++ line :: more).findIdx? isWildcardUserAgentLine = some earlier.length := by
  have absent : earlier.findIdx? isWildcardUserAgentLine = none := by
    apply List.findIdx?_eq_none_iff.mpr
    intro l inside
    exact Bool.eq_false_iff.mpr fun found => first.others l inside (isWildcardUserAgentLine_iff.mp found)
  have found := isWildcardUserAgentLine_iff.mpr first.wildcard
  rw [List.findIdx?_append, absent, List.findIdx?_cons, found]
  simp

theorem exists_rest {more : List (List Char)} (split : splitLines text = earlier ++ line :: more) :
    ∃ rest, text = unlines earlier ++ (line ++ rest) ∧ (rest = [] ∨ ∃ later, rest = '\n' :: later) := by
  have some : text ≠ [] := by
    rintro rfl
    simp at split
  have joined := unlines_splitLines some
  rw [split, unlines_append, unlines_cons] at joined
  split at joined
  · exact ⟨'\n' :: unlines more, joined.symm, .inr ⟨_, rfl⟩⟩
  · refine ⟨('\n' :: unlines more).dropLast, ?_, ?_⟩
    · have same := congrArg List.dropLast joined
      rw [List.dropLast_concat, List.dropLast_append_of_ne_nil (by simp),
        List.dropLast_append_of_ne_nil (by simp)] at same
      exact same.symm
    · cases more with
      | nil => exact .inl rfl
      | cons next others => exact .inr ⟨_, List.dropLast_cons_of_ne_nil (by simp)⟩

theorem exists_firstWildcard (found : ∃ l ∈ splitLines text, WildcardLine l) :
    ∃ earlier line rest, FirstWildcard text earlier line rest := by
  obtain ⟨l, inside, wildcard⟩ := found
  obtain ⟨line, first⟩ := Option.isSome_iff_exists.mp
    (List.find?_isSome.mpr ⟨l, inside, isWildcardUserAgentLine_iff.mpr wildcard⟩)
  obtain ⟨detected, earlier, more, split, others⟩ := List.find?_eq_some_iff_append.mp first
  obtain ⟨rest, shape, stops⟩ := exists_rest split
  have free {l : List Char} (member : l ∈ earlier ++ line :: more) : '\n' ∉ l :=
    splitLines_free (split ▸ member)
  refine ⟨earlier, line, rest, shape, fun l member => free (by simp [member]), ?_, free (by simp),
    isWildcardUserAgentLine_iff.mp detected, stops⟩
  intro l member wild
  simpa [isWildcardUserAgentLine_iff.mpr wild] using others l member

theorem FirstWildcard.split (first : FirstWildcard text earlier line rest) :
    splitLines text = earlier ++ line :: splitLines rest.tail := by
  rw [first.shape, splitLines_append first.free]
  obtain rfl | ⟨later, rfl⟩ := first.stops
  · rw [List.append_nil, splitLines_single first.whole first.wildcard.ne_nil, List.tail_nil, splitLines_nil]
  · rw [splitLines_cons first.whole, List.tail_cons]

/-- In the text, all stands between its lines as before; the last line is ended as it was. -/
theorem body_merged (routes : fakeRoutes ≠ []) (first : FirstWildcard base.toList earlier line rest) :
    (buildRobotsTxtBody base fakeRoutes).toList =
      if Ends base.toList then
        unlines (earlier ++ [line] ++ fakeRoutes.map disallowLine ++ splitLines rest.tail)
      else (unlines (earlier ++ [line] ++ fakeRoutes.map disallowLine ++ splitLines rest.tail)).dropLast := by
  have some : base ≠ "" := by
    rintro rfl
    have shape := first.shape
    simp [first.wildcard.ne_nil] at shape
  have parts : earlier ++ line :: splitLines rest.tail = (earlier ++ [line]) ++ splitLines rest.tail := by simp
  have located := @FirstWildcard.located _ _ _ _ first (splitLines rest.tail)
  simp only [buildRobotsTxtBody, List.isEmpty_iff, routes, if_false, some, first.split, located]
  rw [parts, List.take_left' (by simp), List.drop_left' (by simp)]
  simp only [beq_iff_eq, Ends, String.toList_ofList]
  rfl

theorem cons_unlines : '\n' :: unlines lines = lines.flatMap ('\n' :: ·) ++ ['\n'] := by
  induction lines with
  | nil => rfl
  | cons first others ih => simp [ih]

theorem body_inside (routes : fakeRoutes ≠ []) {later : List Char}
    (first : FirstWildcard base.toList earlier line ('\n' :: later)) :
    (buildRobotsTxtBody base fakeRoutes).toList =
      unlines (earlier ++ [line]) ++ unlines (fakeRoutes.map disallowLine) ++ later := by
  rw [body_merged routes first, unlines_append, unlines_append, List.tail_cons]
  by_cases ended : later = []
  · subst ended
    have ends : Ends base.toList := by
      rw [first.shape, ← List.append_assoc, ends_append (by simp)]
      rfl
    simp [ends]
  · have same : Ends base.toList ↔ Ends later := by
      rw [first.shape, ← List.append_assoc, ends_append (by simp), ← List.singleton_append,
        ends_append ended]
    rw [unlines_splitLines ended]
    simp only [same]
    split
    · rfl
    · rw [← List.append_assoc, List.dropLast_concat]

theorem body_last (routes : fakeRoutes ≠ []) (first : FirstWildcard base.toList earlier line []) :
    (buildRobotsTxtBody base fakeRoutes).toList =
      unlines earlier ++ line ++ (fakeRoutes.map disallowLine).flatMap ('\n' :: ·) := by
  have open_ : ¬ Ends base.toList := by
    rw [first.shape, List.append_nil, ends_append first.wildcard.ne_nil]
    exact not_ends_free first.whole
  rw [body_merged routes first, if_neg open_, List.append_assoc, List.append_assoc, unlines_append,
    List.singleton_append, List.tail_nil, splitLines_nil, List.append_nil, unlines_cons, cons_unlines,
    ← List.append_assoc, ← List.append_assoc, List.dropLast_concat]

theorem body_appended (routes : fakeRoutes ≠ []) (some : base ≠ "")
    (absent : ∀ l ∈ splitLines base.toList, ¬ WildcardLine l) :
    (buildRobotsTxtBody base fakeRoutes).toList =
      base.toList ++ (if Ends base.toList then [] else ['\n']) ++
        unlines ([] :: "User-agent: *".toList :: fakeRoutes.map disallowLine) := by
  have unseen : (splitLines base.toList).findIdx? isWildcardUserAgentLine = none := by
    apply List.findIdx?_eq_none_iff.mpr
    intro l inside
    exact Bool.eq_false_iff.mpr fun found => absent l inside (isWildcardUserAgentLine_iff.mp found)
  have joined := @unlines_splitLines base.toList (by simpa using some)
  have named : (fakeRoutes.map fun route => "Disallow: ".toList ++ route.value.toList) =
      fakeRoutes.map disallowLine := rfl
  simp only [buildRobotsTxtBody, List.isEmpty_iff, routes, if_false, some, unseen, named, String.toList_ofList]
  rw [List.append_assoc, unlines_append, joined]
  split
  · rw [List.append_nil, List.cons_append, List.singleton_append]
  · rw [List.cons_append, List.singleton_append]

theorem body_empty (routes : fakeRoutes ≠ []) : (buildRobotsTxtBody "" fakeRoutes).toList =
    unlines ("User-agent: *".toList :: fakeRoutes.map disallowLine) := by
  have named : (fakeRoutes.map fun route => "Disallow: ".toList ++ route.value.toList) =
      fakeRoutes.map disallowLine := rfl
  simp only [buildRobotsTxtBody, List.isEmpty_iff, routes, if_false, if_true, named, String.toList_ofList]

/-- The last value ends with a line break of its own. -/
def BreaksLine (fakeRoutes : List BlacklistEntry) : Prop :=
  ∃ route, fakeRoutes.getLast? = some route ∧ Ends route.value.toList

theorem ends_disallowLine {route : BlacklistEntry} : Ends (disallowLine route) ↔ Ends route.value.toList := by
  by_cases empty : route.value.toList = []
  · rw [disallowLine_eq, empty, List.append_nil]
    exact iff_of_false (by simp [Ends]) (by simp [Ends])
  · rw [disallowLine_eq, ends_append empty]

theorem ends_block (routes : fakeRoutes ≠ []) :
    Ends ((fakeRoutes.map disallowLine).flatMap ('\n' :: ·)) ↔ BreaksLine fakeRoutes := by
  obtain ⟨others, route, rfl⟩ : ∃ others route, fakeRoutes = others ++ [route] :=
    ⟨_, _, (List.dropLast_append_getLast routes).symm⟩
  rw [List.map_append, List.flatMap_append, List.map_singleton, List.flatMap_singleton,
    ends_append (by simp), ← List.singleton_append, ends_append (by simp [disallowLine_eq]), ends_disallowLine]
  simp [BreaksLine]

/-- The base text is in the result whole, and the block stands at one place of it: the routes, after the
first line for every crawler, or a group of their own at the end. -/
theorem base_extended (base : String) (fakeRoutes : List BlacklistEntry) (some : base ≠ "")
    (routes : fakeRoutes ≠ []) :
    ∃ before block after, base.toList = before ++ after ∧
      ((∃ earlier line rest, FirstWildcard base.toList earlier line rest ∧
          (buildRobotsTxtBody base fakeRoutes).toList = before ++ block ++ after ∧
          (before = unlines (earlier ++ [line]) ∧ block = unlines (fakeRoutes.map disallowLine) ∨
            before = unlines earlier ++ line ∧ after = [] ∧
              block = (fakeRoutes.map disallowLine).flatMap ('\n' :: ·)) ∧
          (¬ (rest = [] ∧ BreaksLine fakeRoutes) →
            (Ends (buildRobotsTxtBody base fakeRoutes).toList ↔ Ends base.toList))) ∨
        (∀ l ∈ splitLines base.toList, ¬ WildcardLine l) ∧ after = [] ∧
          block = unlines ([] :: "User-agent: *".toList :: fakeRoutes.map disallowLine) ∧
          (buildRobotsTxtBody base fakeRoutes).toList =
            base.toList ++ (if Ends base.toList then [] else ['\n']) ++ block) := by
  by_cases found : ∃ l ∈ splitLines base.toList, WildcardLine l
  · obtain ⟨earlier, line, rest, first⟩ := exists_firstWildcard found
    obtain rfl | ⟨later, rfl⟩ := first.stops
    · have body := body_last routes first
      have shape := first.shape
      rw [List.append_nil] at shape
      refine ⟨_, _, [], by rw [shape, List.append_nil], .inl ⟨earlier, line, [], first,
        by rw [body, List.append_nil], .inr ⟨rfl, rfl, rfl⟩, ?_⟩⟩
      intro quiet
      have open_ : ¬ Ends base.toList := by
        rw [shape, ends_append first.wildcard.ne_nil]
        exact not_ends_free first.whole
      rw [body, ends_append (by simpa using List.exists_mem_of_ne_nil _ routes), ends_block routes]
      exact iff_of_false (fun breaks => quiet ⟨rfl, breaks⟩) open_
    · have body := body_inside routes first
      have shape : base.toList = unlines (earlier ++ [line]) ++ later := by simp [first.shape]
      refine ⟨_, _, later, shape, .inl ⟨earlier, line, _, first, body, .inl ⟨rfl, rfl⟩, fun _ => ?_⟩⟩
      by_cases ended : later = []
      · subst ended
        rw [body, shape, List.append_nil, List.append_nil, 
          ends_append (by simpa [unlines] using List.exists_mem_of_ne_nil _ routes)]
        exact iff_of_true (ends_unlines (by simpa using routes)) (ends_unlines (by simp))
      · rw [body, shape, ends_append ended, ends_append ended]
  · have absent : ∀ l ∈ splitLines base.toList, ¬ WildcardLine l := by
      intro l inside wildcard
      exact found ⟨l, inside, wildcard⟩
    exact ⟨_, _, [], (List.append_nil _).symm, .inr ⟨absent, rfl, rfl, body_appended routes some absent⟩⟩

theorem base_extended_crlf :
    ∃ before block after, "Allow: /\r\nUser-agent: *\r\n".toList = before ++ after ∧
      (buildRobotsTxtBody "Allow: /\r\nUser-agent: *\r\n" [⟨"/trap", 0, "", "manual"⟩]).toList =
        before ++ block ++ after := by
  obtain ⟨before, block, after, split, ⟨_, _, _, _, body, _⟩ | ⟨_, _, _, body⟩⟩ :=
    base_extended "Allow: /\r\nUser-agent: *\r\n" [⟨"/trap", 0, "", "manual"⟩] (by simp) (by simp)
  · exact ⟨before, block, after, split, body⟩
  · exact ⟨_, _, [], (List.append_nil _).symm, by rw [body, List.append_nil, List.append_assoc]⟩

/-- A value that ends with a line break ends the text of a file whose last line had none. -/
theorem route_with_line_break : ¬ ∀ (base : String) (fakeRoutes : List BlacklistEntry), base ≠ "" →
    fakeRoutes ≠ [] → (∃ l ∈ splitLines base.toList, WildcardLine l) →
      (Ends (buildRobotsTxtBody base fakeRoutes).toList ↔ Ends base.toList) := by
  intro claimed
  have wildcard : WildcardLine "User-agent: *".toList := isWildcardUserAgentLine_iff.mp (by decide)
  have same := claimed "User-agent: *" [⟨"/trap\n", 0, "", "manual"⟩] (by simp) (by simp)
    ⟨_, by decide, wildcard⟩
  exact absurd (same.mp (by decide)) (by decide)

end Atomwall
