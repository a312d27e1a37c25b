import Atomwall.Pipeline.RobotsMerge
import Atomwall.Base.AgentGroups

/-!
What a crawler reads in a robots.txt text: the rules of the groups that name it. `build_robots_txt_body` puts
the routes behind the first line for every crawler, which may have other names of its group on both sides.
-/

namespace Atomwall
open AgentGroups

/-- What a line says: nothing if it is blank or a comment, else a name or a rule. -/
def directive (line : List Char) : Option (Directive (List Char) (List Char)) :=
  match trim line with
  | [] => none
  | '#' :: _ => none
  | text =>
    match text.dropWhile (· != ':') with
    | [] => some (.rule text)
    | _ :: value =>
      if (trim (text.takeWhile (· != ':'))).map Char.toLower = "user-agent".toList then
        some (.agent (trim value))
      else some (.rule text)

def directives (text : List Char) : List (Directive (List Char) (List Char)) :=
  (splitLines text).filterMap directive

/-- The rules of all groups that name the crawler, in their order. -/
def rulesFor (text a : List Char) : List (List Char) := collect (groups (directives text)) a

/-- The rules that the routes add. -/
def newRules (fakeRoutes : List BlacklistEntry) : List (List Char) :=
  fakeRoutes.map fun route => trim (disallowLine route)

variable {base : String} {fakeRoutes : List BlacklistEntry} {line rest s : List Char}
  {lines earlier : List (List Char)} {c : Char}

/-! ### Directives -/

theorem head_trim (solid : isSpace c = false) : (trim (c :: s)).head? = some c := by
  obtain ⟨before, after, left, right, same⟩ := exists_trim (c :: s)
  have start : before = [] := by
    cases before with
    | nil => rfl
    | cons d others =>
      obtain ⟨rfl, _⟩ := List.cons.inj same
      exact absurd (left c (by simp)) (by simp [solid])
  subst start
  cases shape : trim (c :: s) with
  | nil =>
    rw [shape, List.nil_append, List.nil_append] at same
    exact absurd (right c (by simp [← same])) (by simp [solid])
  | cons d others =>
    rw [shape, List.nil_append, List.cons_append] at same
    exact congrArg some (List.cons.inj same).1.symm

theorem field_ne (solid : isSpace c = false) (other : c.toLower ≠ 'u') :
    (trim (c :: s)).map Char.toLower ≠ "user-agent".toList := by
  intro named
  have first := congrArg List.head? named
  rw [List.head?_map, head_trim solid] at first
  exact other (Option.some.inj first)

theorem directive_text (shape : trim line = c :: s) (text : c ≠ '#') :
    directive line =
      match (c :: s).dropWhile (· != ':') with
      | [] => some (.rule (c :: s))
      | _ :: value =>
        if (trim ((c :: s).takeWhile (· != ':'))).map Char.toLower = "user-agent".toList then
          some (.agent (trim value))
        else some (.rule (c :: s)) := by
  rw [directive, shape]
  split
  · rename_i same
    cases same
  · rename_i same
    exact absurd (List.cons.inj same).1 text
  · rfl

theorem directive_rule (solid : isSpace c = false) (text : c ≠ '#') (field : c ≠ ':')
    (other : c.toLower ≠ 'u') : directive (c :: s) = some (.rule (trim (c :: s))) := by
  obtain ⟨others, shape⟩ := List.head?_eq_some_iff.mp (head_trim (s := s) solid)
  have unnamed := field_ne (s := others.takeWhile (· != ':')) solid other
  rw [directive_text shape text, shape]
  cases (c :: others).dropWhile (· != ':') with
  | nil => rfl
  | cons d value =>
    dsimp only
    rw [List.takeWhile_cons_of_pos (by simpa using field), if_neg unnamed]

theorem directive_disallow {route : BlacklistEntry} :
    directive (disallowLine route) = some (.rule (trim (disallowLine route))) :=
  directive_rule (c := 'D') rfl (by decide) (by decide) (by decide)

theorem directive_star : directive line = some (.agent ['*']) ↔ isWildcardUserAgentLine line = true := by
  cases shape : trim line with
  | nil => simp [directive, isWildcardUserAgentLine, shape]
  | cons c s =>
    by_cases comment : c = '#'
    · subst comment
      have unnamed := @field_ne (s.takeWhile (· != ':')) '#' rfl (by decide)
      simp only [directive, isWildcardUserAgentLine, shape]
      rw [List.takeWhile_cons_of_pos rfl, List.dropWhile_cons_of_pos rfl]
      refine iff_of_false (by simp) ?_
      split
      · simp
      · rw [Bool.and_eq_true, beq_iff_eq]
        exact fun found => unnamed found.1
    · simp only [directive_text shape comment, isWildcardUserAgentLine, shape]
      cases (c :: s).dropWhile (· != ':') with
      | nil => simp
      | cons d value =>
        dsimp only
        rw [Bool.and_eq_true, beq_iff_eq, beq_iff_eq]
        by_cases named : (trim ((c :: s).takeWhile (· != ':'))).map Char.toLower = "user-agent".toList
        · simp only [named, if_true, true_and, Option.some.injEq, Directive.agent.injEq]
        · rw [if_neg named]
          exact iff_of_false (by simp) fun found => named found.1

/-! ### The lines of the result -/

theorem newline_disallow {route : BlacklistEntry} (free : '\n' ∉ route.value.toList) :
    '\n' ∉ disallowLine route := by
  rw [disallowLine_eq, List.mem_append, not_or]
  exact ⟨by decide, free⟩

theorem splitLines_open (first : '\n' ∉ line) (free : ∀ l ∈ lines, '\n' ∉ l)
    (full : ∀ l ∈ line :: lines, l ≠ []) :
    splitLines (line ++ lines.flatMap ('\n' :: ·)) = line :: lines := by
  induction lines generalizing line with
  | nil => simpa using splitLines_single first (full line (by simp))
  | cons next others ih =>
    rw [List.flatMap_cons, List.cons_append, splitLines_cons first,
      ih (free next (by simp)) (fun l inside => free l (by simp [inside]))
        (fun l inside => full l (List.mem_cons_of_mem _ inside))]

theorem filterMap_disallow :
    (fakeRoutes.map disallowLine).filterMap directive = (newRules fakeRoutes).map .rule := by
  rw [List.filterMap_map, newRules, List.map_map, ← List.filterMap_eq_map]
  exact List.filterMap_congr fun route _ => directive_disallow

theorem lines_merged (routes : fakeRoutes ≠ []) (free : ∀ route ∈ fakeRoutes, '\n' ∉ route.value.toList)
    (first : FirstWildcard base.toList earlier line rest) :
    splitLines (buildRobotsTxtBody base fakeRoutes).toList =
      earlier ++ line :: (fakeRoutes.map disallowLine ++ splitLines rest.tail) := by
  have added : ∀ l ∈ fakeRoutes.map disallowLine, '\n' ∉ l ∧ l ≠ [] := by
    intro l inside
    obtain ⟨route, member, rfl⟩ := List.mem_map.mp inside
    exact ⟨newline_disallow (free route member), by simp [disallowLine_eq]⟩
  obtain rfl | ⟨later, rfl⟩ := first.stops
  · rw [body_last routes first, List.append_assoc, splitLines_append first.free,
      splitLines_open first.whole fun l inside => (added l inside).1]
    · simp
    · intro l inside
      obtain rfl | inside := List.mem_cons.mp inside
      · exact first.wildcard.ne_nil
      · exact (added l inside).2
  · rw [body_inside routes first, ← unlines_append, splitLines_append]
    · simp
    · intro l inside
      simp only [List.mem_append, List.mem_singleton] at inside
      obtain (inside | rfl) | inside := inside
      · exact first.free l inside
      · exact first.whole
      · exact (added l inside).1

theorem lines_appended (routes : fakeRoutes ≠ []) (free : ∀ route ∈ fakeRoutes, '\n' ∉ route.value.toList)
    (some : base ≠ "") (absent : ∀ l ∈ splitLines base.toList, ¬ WildcardLine l) :
    splitLines (buildRobotsTxtBody base fakeRoutes).toList =
      splitLines base.toList ++ [] :: "User-agent: *".toList :: fakeRoutes.map disallowLine := by
  have joined := @unlines_splitLines base.toList (by simpa using some)
  have ended : base.toList ++ (if Ends base.toList then [] else ['\n']) = unlines (splitLines base.toList) := by
    rw [joined]
    split
    · exact List.append_nil _
    · rfl
  rw [body_appended routes some absent, ended, ← unlines_append, splitLines_unlines]
  intro l inside
  simp only [List.mem_append, List.mem_cons] at inside
  obtain inside | rfl | rfl | inside := inside
  · exact splitLines_free inside
  · exact List.not_mem_nil
  · decide
  · obtain ⟨route, member, rfl⟩ := List.mem_map.mp inside
    exact newline_disallow (free route member)

theorem absent_star (others : ∀ l ∈ lines, ¬ WildcardLine l) : .agent ['*'] ∉ lines.filterMap directive := by
  intro inside
  obtain ⟨l, member, star⟩ := List.mem_filterMap.mp inside
  exact others l member (isWildcardUserAgentLine_iff.mp (directive_star.mp star))

theorem directives_body (routes : fakeRoutes ≠ []) (free : ∀ route ∈ fakeRoutes, '\n' ∉ route.value.toList) :
    directives (buildRobotsTxtBody base fakeRoutes).toList =
      insertAfter ['*'] (newRules fakeRoutes) (directives base.toList) := by
  have agent : directive "User-agent: *".toList = some (.agent ['*']) := directive_star.mpr (by decide)
  by_cases found : ∃ l ∈ splitLines base.toList, WildcardLine l
  · obtain ⟨earlier, line, rest, first⟩ := exists_firstWildcard found
    have star := directive_star.mpr (isWildcardUserAgentLine_iff.mpr first.wildcard)
    rw [directives, directives, lines_merged routes free first, first.split, List.filterMap_append,
      List.filterMap_append, insertAfter_append (absent_star first.others), List.filterMap_cons_some star,
      List.filterMap_cons_some star, insertAfter, if_pos rfl, List.filterMap_append, filterMap_disallow]
  · have absent : ∀ l ∈ splitLines base.toList, ¬ WildcardLine l := by
      intro l inside wildcard
      exact found ⟨l, inside, wildcard⟩
    have appended : insertAfter ['*'] (newRules fakeRoutes) ((splitLines base.toList).filterMap directive) =
        (splitLines base.toList).filterMap directive ++ .agent ['*'] :: (newRules fakeRoutes).map .rule := by
      rw [← insertAfter_nil, ← insertAfter_append (absent_star absent), List.append_nil]
    by_cases empty : base = ""
    · subst empty
      have whole : ∀ l ∈ "User-agent: *".toList :: fakeRoutes.map disallowLine, '\n' ∉ l := by
        intro l inside
        obtain rfl | inside := List.mem_cons.mp inside
        · decide
        · obtain ⟨route, member, rfl⟩ := List.mem_map.mp inside
          exact newline_disallow (free route member)
      rw [directives, body_empty routes, splitLines_unlines whole, List.filterMap_cons_some agent,
        filterMap_disallow]
      rfl
    · rw [directives, directives, lines_appended routes free empty absent, appended, List.filterMap_append,
        List.filterMap_cons_none rfl, List.filterMap_cons_some agent, filterMap_disallow]

/-- Every crawler keeps its rules, and the ones for every crawler gain the routes, exactly if the base text
can be taken apart after its first `*`. -/
theorem crawlers_keep_rules_iff (base : String) (fakeRoutes : List BlacklistEntry)
    (routes : fakeRoutes ≠ []) (free : ∀ route ∈ fakeRoutes, '\n' ∉ route.value.toList) :
    ((rulesFor (buildRobotsTxtBody base fakeRoutes).toList ['*']).Perm
        (rulesFor base.toList ['*'] ++ newRules fakeRoutes) ∧
      ∀ a, a ≠ ['*'] → rulesFor (buildRobotsTxtBody base fakeRoutes).toList a = rulesFor base.toList a) ↔
      Keeps ['*'] (newRules fakeRoutes) (directives base.toList) := by
  have added : newRules fakeRoutes ≠ [] := by simpa [newRules] using routes
  rw [← extends_insertAfter_iff added, ← directives_body routes free]
  rfl

def separateGroups : String := "User-agent: *\nAllow: /\n\nUser-agent: bot\nDisallow: /\n"

theorem crawlers_keep_rules_alone :
    (rulesFor (buildRobotsTxtBody separateGroups [⟨"/trap", 0, "", "manual"⟩]).toList ['*']).Perm
        (rulesFor separateGroups.toList ['*'] ++ newRules [⟨"/trap", 0, "", "manual"⟩]) ∧
      ∀ a, a ≠ ['*'] →
        rulesFor (buildRobotsTxtBody separateGroups [⟨"/trap", 0, "", "manual"⟩]).toList a =
          rulesFor separateGroups.toList a :=
  (crawlers_keep_rules_iff separateGroups [⟨"/trap", 0, "", "manual"⟩] (by simp) (by decide)).mpr (by decide)

/-- With another name after `*`, the group's own rules are no longer for every crawler. -/
theorem wildcard_loses_rules : ¬ ∀ (base : String) (fakeRoutes : List BlacklistEntry), fakeRoutes ≠ [] →
    (∀ route ∈ fakeRoutes, '\n' ∉ route.value.toList) →
      (rulesFor (buildRobotsTxtBody base fakeRoutes).toList ['*']).Perm
          (rulesFor base.toList ['*'] ++ newRules fakeRoutes) ∧
        ∀ a, a ≠ ['*'] →
          rulesFor (buildRobotsTxtBody base fakeRoutes).toList a = rulesFor base.toList a := by
  intro claimed
  have kept := claimed "User-agent: *\nUser-agent: bot\nDisallow: /private\n" [⟨"/trap", 0, "", "manual"⟩]
    (by simp) (by decide)
  exact absurd kept.1.length_eq (by decide)

end Atomwall
