import Mathlib.Data.List.Infix

/-!
Directories, files and symbolic links as a tree, and what paths lead to in it: the canonical form of one
that exists, and of one whose end does not. Where no links stand under a directory, a path below it is
canonical already.
-/

namespace FileTree

/-- The names from the root down. -/
abbrev Path := List String

/-- A path as it is written. -/
structure Written where
  absolute : Bool
  names : List String
  deriving DecidableEq

/-- `path::begin()` to `path::end()`; the root directory is none. -/
def Written.components (p : Written) : List (Option String) :=
  (if p.absolute then [none] else []) ++ p.names.map some

def Written.append (p : Written) (names : List String) : Written := { p with names := p.names ++ names }

inductive Node where
  | directory
  | file (contents : String)
  | link (target : Written)

/-- A name that takes a path one step down. -/
def Plain (name : String) : Prop := name ≠ "" ∧ name ≠ "." ∧ name ≠ ".."

def isDirectory (node : Path → Option Node) : Path → Bool
  | [] => true
  | p => match node p with
    | some .directory => true
    | _ => false

/-- A path through directories, with no link on it. -/
inductive Real (node : Path → Option Node) : Path → Prop where
  | root : Real node []
  | entry {p : Path} {name : String} (above : Real node p) (within : isDirectory node p = true)
      (there : node (p ++ [name]) ≠ none) (direct : ∀ target, node (p ++ [name]) ≠ some (.link target)) :
      Real node (p ++ [name])

end FileTree

/-- What stands at each path, the directory of the process, and the paths at which the system fails. -/
structure FileTree where
  node : FileTree.Path → Option FileTree.Node
  named : ∀ p name, node (p ++ [name]) ≠ none → FileTree.Plain name ∧ '/' ∉ name.toList
  cwd : FileTree.Path
  cwd_real : FileTree.Real node cwd
  cwd_directory : FileTree.isDirectory node cwd = true
  fails : FileTree.Written → Bool

namespace FileTree

def kMaxLinks : Nat := 40

variable (tree : FileTree)

/-- One name further; none where nothing is there. -/
def step : Nat → Path → String → Option Path
  | fuel, p, name =>
    if !isDirectory tree.node p then none
    else if name = "" ∨ name = "." then some p
    else if name = ".." then some p.dropLast
    else
      match tree.node (p ++ [name]) with
      | none => none
      | some (.link target) =>
        match fuel with
        | 0 => none
        | less + 1 => target.names.foldlM (step less) (if target.absolute then [] else p)
      | some _ => some (p ++ [name])

def start (p : Written) : Path := if p.absolute then [] else tree.cwd

/-- `canonical`; none where the path does not exist. -/
def canonical (p : Written) : Option Path := p.names.foldlM (step tree kMaxLinks) (tree.start p)

/-- `lexically_normal` of names behind an absolute path. -/
def lexical (p : Path) (names : List String) : Path :=
  names.foldl (fun p name =>
    if name = "" ∨ name = "." then p else if name = ".." then p.dropLast else p ++ [name]) p

/-- One name more of a relative path in normal form. -/
def normalStep (p : Path) (name : String) : Path :=
  if name = "" ∨ name = "." then p
  else if name = ".." ∧ p ≠ [] ∧ p.getLast? ≠ some ".." then p.dropLast
  else p ++ [name]

/-- `lexically_normal` of a relative path. -/
def lexicalRelative (names : List String) : List String :=
  match names.foldl normalStep [] with
  | [] => ["."]
  | normal => normal

/-- As far as the names exist, what they lead to, and the others behind it. -/
def weak (p : Path) : List String → Path
  | [] => p
  | name :: rest =>
    match step tree kMaxLinks p name with
    | some next => weak next rest
    | none => lexical p (name :: rest)

/-- `weakly_canonical`; none is an error. -/
def weaklyCanonical (p : Written) : Option Written :=
  if tree.fails p then none
  else
    match p.absolute, p.names with
    | true, names => some ⟨true, weak tree [] names⟩
    | false, [] => some p
    | false, first :: rest =>
      match step tree kMaxLinks tree.cwd first with
      | none => some ⟨false, lexicalRelative (first :: rest)⟩
      | some _ => some ⟨true, weak tree tree.cwd (first :: rest)⟩

def contents (p : Written) : Option String :=
  match tree.canonical p with
  | none => none
  | some q =>
    match tree.node q with
    | some (.file text) => some text
    | _ => none

def isRegularFile (p : Written) : Bool := !tree.fails p && (tree.contents p).isSome

def locate (p : Written) : Path := tree.start p ++ p.names

/-- No entry below the directory is a link. -/
def NoLinksUnder (p : Path) : Prop := ∀ below target, tree.node (p ++ below) = some (.link target) → below = []

variable {tree} {p q below : Path} {name : String} {names rest : List String} {fuel : Nat}

/-! ### Paths without links -/

theorem real_concat : Real tree.node (p ++ [name]) ↔ Real tree.node p ∧ isDirectory tree.node p = true ∧
    tree.node (p ++ [name]) ≠ none ∧ ∀ target, tree.node (p ++ [name]) ≠ some (.link target) := by
  constructor
  · intro real
    generalize whole : p ++ [name] = q at real
    cases real with
    | root => simp at whole
    | entry above within there direct =>
      obtain ⟨rfl, same⟩ := List.append_inj' whole rfl
      obtain rfl := List.singleton_inj.mp same
      exact ⟨above, within, there, direct⟩
  · rintro ⟨above, within, there, direct⟩
    exact .entry above within there direct

theorem Real.of_append (real : Real tree.node (p ++ below)) : Real tree.node p := by
  induction below using List.reverseRecOn with
  | nil => rwa [List.append_nil] at real
  | append_singleton below name ih =>
    rw [← List.append_assoc] at real
    exact ih (real_concat.mp real).1

theorem Real.dropLast (real : Real tree.node p) : Real tree.node p.dropLast := by
  cases real with
  | root => exact .root
  | entry above within there direct => rwa [List.dropLast_concat]

theorem Real.plain (real : Real tree.node p) : ∀ name ∈ p, Plain name ∧ '/' ∉ name.toList := by
  induction real with
  | root => simp
  | entry above within there direct ih =>
    intro name member
    rcases List.mem_append.mp member with old | new
    · exact ih name old
    · rw [List.mem_singleton.mp new]
      exact tree.named _ _ there

theorem foldlM_real {f : Path → String → Option Path}
    (preserved : ∀ p name q, Real tree.node p → f p name = some q → Real tree.node q)
    (real : Real tree.node p) (led : names.foldlM f p = some q) : Real tree.node q := by
  induction names generalizing p with
  | nil =>
    obtain rfl := Option.some.inj led
    exact real
  | cons name rest ih =>
    rw [List.foldlM_cons] at led
    obtain ⟨next, first, later⟩ := Option.bind_eq_some_iff.mp led
    exact ih (preserved p name next real first) later

theorem step_some (led : step tree fuel p name = some q) :
    ((name = "" ∨ name = ".") ∧ q = p) ∨ (name = ".." ∧ q = p.dropLast) ∨
    (q = p ++ [name] ∧ isDirectory tree.node p = true ∧ tree.node (p ++ [name]) ≠ none ∧
      ∀ target, tree.node (p ++ [name]) ≠ some (.link target)) ∨
    ∃ target less, tree.node (p ++ [name]) = some (.link target) ∧ fuel = less + 1 ∧
      target.names.foldlM (step tree less) (if target.absolute then [] else p) = some q := by
  unfold step at led
  split at led
  · cases led
  · next within =>
    split at led
    · next here => exact .inl ⟨here, (Option.some.inj led).symm⟩
    · split at led
      · next up => exact .inr (.inl ⟨up, (Option.some.inj led).symm⟩)
      · cases found : tree.node (p ++ [name]) with
        | none => simp [found] at led
        | some node =>
          rw [found] at led
          cases node with
          | link target =>
            cases fuel with
            | zero => cases led
            | succ less => exact .inr (.inr (.inr ⟨target, less, rfl, rfl, led⟩))
          | directory =>
            exact .inr (.inr (.inl ⟨(Option.some.inj led).symm, by simpa using within, by simp, by simp⟩))
          | file text =>
            exact .inr (.inr (.inl ⟨(Option.some.inj led).symm, by simpa using within, by simp, by simp⟩))

theorem step_real (real : Real tree.node p) (led : step tree fuel p name = some q) : Real tree.node q := by
  induction fuel using Nat.strongRecOn generalizing p name q with
  | ind fuel ih =>
    rcases step_some led with ⟨_, rfl⟩ | ⟨_, rfl⟩ | ⟨rfl, within, there, direct⟩ | ⟨target, less, _, rfl, later⟩
    · exact real
    · exact real.dropLast
    · exact .entry real within there direct
    · have begin : Real tree.node (if target.absolute then [] else p) := by
        split
        · exact .root
        · exact real
      exact foldlM_real (fun _ _ _ above first => ih less (Nat.lt_succ_self _) above first) begin later

theorem step_entry (real : Real tree.node (p ++ [name])) : step tree fuel p name = some (p ++ [name]) := by
  obtain ⟨_, within, there, direct⟩ := real_concat.mp real
  obtain ⟨⟨full, here, up⟩, _⟩ := tree.named _ _ there
  unfold step
  rw [within, if_neg (by simp), if_neg (by simp [full, here]), if_neg up]
  cases found : tree.node (p ++ [name]) with
  | none => exact absurd found there
  | some node =>
    cases node with
    | link target => exact absurd found (direct target)
    | directory => rfl
    | file text => rfl

theorem step_dots (within : isDirectory tree.node p = true) (dots : name = "." ∨ name = "..") :
    step tree fuel p name ≠ none := by
  unfold step
  rcases dots with rfl | rfl <;> simp [within]

theorem resolve_real (real : Real tree.node (p ++ below)) :
    below.foldlM (step tree fuel) p = some (p ++ below) := by
  induction below generalizing p with
  | nil => rw [List.append_nil]; rfl
  | cons name below ih =>
    have whole : p ++ name :: below = p ++ [name] ++ below := by simp
    rw [whole] at real ⊢
    rw [List.foldlM_cons, step_entry real.of_append]
    exact ih real

/-! ### Paths whose end need not exist -/

theorem lexical_plain (all : ∀ name ∈ names, Plain name) : lexical p names = p ++ names := by
  induction names generalizing p with
  | nil => exact (List.append_nil p).symm
  | cons name rest ih =>
    obtain ⟨⟨full, here, up⟩, others⟩ := List.forall_mem_cons.mp all
    have first : lexical p (name :: rest) = lexical (p ++ [name]) rest := by
      unfold lexical
      rw [List.foldl_cons, if_neg (by simp [full, here]), if_neg up]
    rw [first, ih others]
    simp

theorem weak_append (led : names.foldlM (step tree kMaxLinks) p = some q) :
    weak tree p (names ++ rest) = weak tree q rest := by
  induction names generalizing p with
  | nil =>
    obtain rfl := Option.some.inj led
    rfl
  | cons name names ih =>
    rw [List.foldlM_cons] at led
    obtain ⟨next, first, later⟩ := Option.bind_eq_some_iff.mp led
    rw [List.cons_append, weak, first]
    exact ih later

/-- Below a directory that has no links under it, names lead where they say. -/
theorem weak_under (real : Real tree.node p) (free : NoLinksUnder tree p) (all : ∀ name ∈ names, Plain name) :
    weak tree p names = p ++ names := by
  induction names generalizing p with
  | nil => exact (List.append_nil p).symm
  | cons name rest ih =>
    have others := (List.forall_mem_cons.mp all).2
    unfold weak
    cases led : step tree kMaxLinks p name with
    | none => exact lexical_plain all
    | some next =>
      obtain ⟨full, here, up⟩ := (List.forall_mem_cons.mp all).1
      rcases step_some led with ⟨dot, _⟩ | ⟨dots, _⟩ | ⟨rfl, within, there, direct⟩ | ⟨target, less, linked, _⟩
      · exact absurd dot (by simp [full, here])
      · exact absurd dots up
      · have deeper : NoLinksUnder tree (p ++ [name]) := by
          intro below target found
          rw [List.append_assoc] at found
          exact absurd (free _ target found) (by simp)
        show weak tree (p ++ [name]) rest = p ++ name :: rest
        rw [ih (.entry real within there direct) deeper others, List.append_assoc]
        rfl
      · exact absurd (free [name] target linked) (by simp)

/-- Of the result of `weak`, a part is real, and behind that nothing is there. -/
theorem exists_weak (real : Real tree.node p) (all : ∀ name ∈ names, Plain name) :
    ∃ front back, weak tree p names = front ++ back ∧ Real tree.node front ∧
      ∀ name rest, back = name :: rest → step tree kMaxLinks front name = none := by
  induction names generalizing p with
  | nil => exact ⟨p, [], (List.append_nil p).symm, real, nofun⟩
  | cons name rest ih =>
    unfold weak
    cases led : step tree kMaxLinks p name with
    | none =>
      refine ⟨p, name :: rest, lexical_plain all, real, fun other more same => ?_⟩
      obtain ⟨rfl, rfl⟩ := List.cons.inj same
      exact led
    | some next => exact ih (step_real real led) (List.forall_mem_cons.mp all).2

theorem lexical_names (above : ∀ name ∈ p, Plain name) : ∀ name ∈ lexical p names, Plain name := by
  induction names generalizing p with
  | nil => exact above
  | cons name rest ih =>
    unfold lexical
    rw [List.foldl_cons]
    refine ih ?_
    split
    · exact above
    · next full =>
      split
      · exact fun other member => above other (List.mem_of_mem_dropLast member)
      · next up =>
        intro other member
        rcases List.mem_append.mp member with old | new
        · exact above other old
        · rw [List.mem_singleton.mp new]
          exact ⟨fun here => full (.inl here), fun here => full (.inr here), up⟩

theorem weak_names (real : Real tree.node p) : ∀ name ∈ weak tree p names, Plain name := by
  induction names generalizing p with
  | nil => exact fun name member => (real.plain name member).1
  | cons name rest ih =>
    unfold weak
    split
    · next next led => exact ih (step_real real led)
    · exact lexical_names fun name member => (real.plain name member).1

/-- A relative path in normal form steps up first or not at all. -/
def StepsUpFirst (names : Path) : Prop := names.head? = some ".." ∨ ∀ name ∈ names, Plain name

theorem normalStep_first (first : StepsUpFirst p) : StepsUpFirst (normalStep p name) := by
  unfold normalStep
  split
  · exact first
  · next full =>
    split
    · next up =>
      rcases first with front | plain
      · obtain ⟨_, nonempty, last⟩ := up
        cases p with
        | nil => exact absurd rfl nonempty
        | cons head rest =>
          obtain rfl := Option.some.inj front
          cases rest with
          | nil => exact absurd rfl last
          | cons second rest => exact .inl rfl
      · exact .inr fun other member => plain other (List.mem_of_mem_dropLast member)
    · next stay =>
      cases p with
      | nil =>
        by_cases up : name = ".."
        · exact .inl (congrArg some up)
        · refine .inr fun other member => ?_
          rw [List.mem_singleton.mp member]
          exact ⟨fun here => full (.inl here), fun here => full (.inr here), up⟩
      | cons head rest =>
        rcases first with front | plain
        · exact .inl front
        · refine .inr fun other member => ?_
          rcases List.mem_append.mp member with old | new
          · exact plain other old
          · rw [List.mem_singleton.mp new]
            have up : name ≠ ".." := fun up =>
              stay ⟨up, by simp, fun last => (plain ".." (List.mem_of_getLast? last)).2.2 rfl⟩
            exact ⟨fun here => full (.inl here), fun here => full (.inr here), up⟩

theorem foldl_normalStep_first (first : StepsUpFirst p) : StepsUpFirst (names.foldl normalStep p) := by
  induction names generalizing p with
  | nil => exact first
  | cons name rest ih => exact ih (normalStep_first first)

theorem lexicalRelative_first (names : List String) :
    lexicalRelative names = ["."] ∨ StepsUpFirst (lexicalRelative names) := by
  have normal : StepsUpFirst (names.foldl normalStep []) := foldl_normalStep_first (.inr (by simp))
  unfold lexicalRelative
  split
  · exact .inl rfl
  · exact .inr normal

theorem lexicalRelative_ne_nil (names : List String) : lexicalRelative names ≠ [] := by
  unfold lexicalRelative
  split
  · simp
  · assumption

theorem foldl_normalStep_plain (all : ∀ name ∈ names, Plain name) : names.foldl normalStep p = p ++ names := by
  induction names generalizing p with
  | nil => exact (List.append_nil p).symm
  | cons name rest ih =>
    obtain ⟨⟨full, here, up⟩, others⟩ := List.forall_mem_cons.mp all
    have first : normalStep p name = p ++ [name] := by
      unfold normalStep
      rw [if_neg (by simp [full, here]), if_neg (by simp [up])]
    rw [List.foldl_cons, first, ih others, List.append_assoc]
    rfl

theorem lexicalRelative_plain (all : ∀ name ∈ names, Plain name) (nonempty : names ≠ []) :
    lexicalRelative names = names := by
  unfold lexicalRelative
  rw [foldl_normalStep_plain all, List.nil_append]
  split
  · exact absurd rfl nonempty
  · rfl

/-! ### Below a directory -/

theorem contents_first {first : String} (found : tree.contents ⟨false, first :: rest⟩ ≠ none) :
    step tree kMaxLinks tree.cwd first ≠ none := by
  intro missing
  have nowhere : tree.canonical ⟨false, first :: rest⟩ = none := by
    show (first :: rest).foldlM (step tree kMaxLinks) tree.cwd = none
    rw [List.foldlM_cons, missing]
    rfl
  refine found ?_
  unfold contents
  rw [nowhere]

/-- A canonical path that leads to a file has no link on it. -/
theorem real_of_contents (begin : Real tree.node p) (all : ∀ name ∈ names, Plain name)
    (found : tree.contents ⟨true, weak tree p names⟩ ≠ none) : Real tree.node (weak tree p names) := by
  obtain ⟨front, back, whole, real, stop⟩ := exists_weak begin all
  cases back with
  | nil => rwa [whole, List.append_nil]
  | cons name rest =>
    refine absurd ?_ found
    have led : front.foldlM (step tree kMaxLinks) [] = some front := resolve_real (p := []) real
    have missing : tree.canonical ⟨true, front ++ name :: rest⟩ = none := by
      show (front ++ name :: rest).foldlM (step tree kMaxLinks) [] = none
      rw [List.foldlM_append, led]
      show (name :: rest).foldlM (step tree kMaxLinks) front = none
      rw [List.foldlM_cons, stop name rest rfl]
      rfl
    unfold contents
    rw [whole, missing]

theorem weaklyCanonical_some {written found : Written} (led : tree.weaklyCanonical written = some found) :
    (written.absolute = true ∧ found = ⟨true, weak tree [] written.names⟩) ∨
    (written.absolute = false ∧ written.names = [] ∧ found = ⟨false, []⟩) ∨
    (written.absolute = false ∧ ∃ first rest, written.names = first :: rest ∧
      ((step tree kMaxLinks tree.cwd first = none ∧ found = ⟨false, lexicalRelative (first :: rest)⟩) ∨
        (step tree kMaxLinks tree.cwd first ≠ none ∧ found = ⟨true, weak tree tree.cwd (first :: rest)⟩))) := by
  obtain ⟨absolute, names⟩ := written
  unfold weaklyCanonical at led
  split at led
  · cases led
  · cases absolute with
    | true => exact .inl ⟨rfl, (Option.some.inj led).symm⟩
    | false =>
      cases names with
      | nil => exact .inr (.inl ⟨rfl, rfl, (Option.some.inj led).symm⟩)
      | cons first rest =>
        refine .inr (.inr ⟨rfl, first, rest, rfl, ?_⟩)
        cases begin : step tree kMaxLinks tree.cwd first with
        | none =>
          simp only [begin] at led
          exact .inl ⟨rfl, (Option.some.inj led).symm⟩
        | some next =>
          simp only [begin] at led
          exact .inr ⟨by simp, (Option.some.inj led).symm⟩

/-- A canonical path is plain from the root, or has no name, or is relative and in normal form. -/
theorem weaklyCanonical_cases {written found : Written} (led : tree.weaklyCanonical written = some found) :
    (found.absolute = true ∧ ∀ name ∈ found.names, Plain name) ∨ found = ⟨false, []⟩ ∨
    ∃ names, found = ⟨false, lexicalRelative names⟩ := by
  rcases weaklyCanonical_some led with ⟨_, rfl⟩ | ⟨_, _, rfl⟩ | ⟨_, first, rest, _, ⟨_, rfl⟩ | ⟨_, rfl⟩⟩
  · exact .inl ⟨rfl, weak_names .root⟩
  · exact .inr (.inl rfl)
  · exact .inr (.inr ⟨_, rfl⟩)
  · exact .inl ⟨rfl, weak_names tree.cwd_real⟩

theorem prefix_names {root found : Written} (rooted : root.absolute = true)
    (inside : root.components <+: found.components) : root.names <+: found.names := by
  obtain ⟨absolute, names⟩ := root
  obtain ⟨absolute', names'⟩ := found
  obtain rfl : absolute = true := rooted
  have injective : Function.Injective (some : String → Option String) := fun _ _ => Option.some.inj
  cases absolute' with
  | true =>
    have mapped : names.map some <+: names'.map some := (List.cons_prefix_cons.mp inside).2
    exact (List.prefix_map_iff_of_injective injective).mp mapped
  | false =>
    have member : none ∈ names'.map some := inside.subset (List.mem_cons_self ..)
    simp at member

theorem contents_real {contents : String} (real : Real tree.node p)
    (found : tree.contents ⟨true, p⟩ = some contents) : tree.node p = some (.file contents) := by
  have canonical : tree.canonical ⟨true, p⟩ = some p := resolve_real (p := []) real
  unfold FileTree.contents at found
  rw [canonical] at found
  cases node : tree.node p with
  | none => simp [node] at found
  | some there =>
    cases there with
    | file text =>
      simp only [node] at found
      rw [Option.some.inj found]
    | directory => simp [node] at found
    | link target => simp [node] at found

/-- Below a directory without links, what a canonical path leads to stands where its names say. -/
theorem weaklyCanonical_below {written root found : Written}
    (rooted : tree.weaklyCanonical written = some root) (free : NoLinksUnder tree (tree.locate root))
    (all : ∀ name ∈ names, Plain name) (nonempty : names ≠ [])
    (led : tree.weaklyCanonical (root.append names) = some found)
    (inside : root.components <+: found.components) (file : tree.contents found ≠ none) :
    found = ⟨true, tree.locate root ++ names⟩ ∧ Real tree.node found.names := by
  rcases weaklyCanonical_cases rooted with ⟨absolute, plain⟩ | rfl | ⟨above, rfl⟩
  · -- an absolute root: it is real, since the file below it is
    obtain ⟨_, p⟩ := root
    obtain rfl := absolute
    rcases weaklyCanonical_some led with ⟨_, rfl⟩ | ⟨relative, _⟩ | ⟨relative, _⟩
    · have whole : ∀ name ∈ p ++ names, Plain name := List.forall_mem_append.mpr ⟨plain, all⟩
      have real : Real tree.node (weak tree [] (p ++ names)) := real_of_contents .root whole file
      refine ⟨?_, real⟩
      obtain ⟨below, split⟩ : p <+: weak tree [] (p ++ names) := prefix_names rfl inside
      rw [← split] at real
      have reached : p.foldlM (step tree kMaxLinks) [] = some p := resolve_real (p := []) real.of_append
      show Written.mk true (weak tree [] (p ++ names)) = ⟨true, p ++ names⟩
      rw [weak_append reached, weak_under real.of_append free all]
    · cases relative
    · cases relative
  · -- the directory of the process
    rcases weaklyCanonical_some led with ⟨absolute, _⟩ | ⟨_, none, _⟩ | ⟨_, first, rest, some, ⟨missing, rfl⟩ | ⟨_, rfl⟩⟩
    · cases absolute
    · exact absurd none nonempty
    · have whole : lexicalRelative (first :: rest) = first :: rest := by
        rw [← some]
        exact lexicalRelative_plain all nonempty
      rw [whole] at file
      exact absurd missing (contents_first file)
    · have here : tree.locate ⟨false, []⟩ = tree.cwd := List.append_nil _
      rw [here] at free ⊢
      rw [← some] at file ⊢
      refine ⟨?_, real_of_contents tree.cwd_real all file⟩
      show Written.mk true (weak tree tree.cwd names) = ⟨true, tree.cwd ++ names⟩
      rw [weak_under tree.cwd_real free all]
  · -- a relative root that does not exist: what is below it does not exist either
    rcases weaklyCanonical_some led with ⟨absolute, _⟩ | ⟨_, none, _⟩ | ⟨_, first, rest, some, ⟨missing, rfl⟩ | ⟨_, rfl⟩⟩
    · cases absolute
    · exact absurd (List.append_eq_nil_iff.mp none).2 nonempty
    · have start : (lexicalRelative above).head? = .some first := by
        have front : lexicalRelative above ++ names = first :: rest := some
        cases normal : lexicalRelative above with
        | nil => exact absurd normal (lexicalRelative_ne_nil above)
        | cons head tail =>
          rw [normal] at front
          exact congrArg Option.some (List.cons.inj front).1
      have plain : ∀ name ∈ lexicalRelative above, Plain name := by
        rcases lexicalRelative_first above with dot | up | plain
        · rw [dot] at start
          obtain rfl : "." = first := Option.some.inj start
          exact absurd missing (step_dots tree.cwd_directory (.inl rfl))
        · rw [up] at start
          obtain rfl : ".." = first := Option.some.inj start
          exact absurd missing (step_dots tree.cwd_directory (.inr rfl))
        · exact plain
      have whole : lexicalRelative (first :: rest) = first :: rest := by
        rw [← some]
        exact lexicalRelative_plain (List.forall_mem_append.mpr ⟨plain, all⟩) (by rw [some]; simp)
      rw [whole] at file
      exact absurd missing (contents_first file)
    · cases normal : lexicalRelative above with
      | nil => exact absurd normal (lexicalRelative_ne_nil above)
      | cons head tail =>
        rw [normal] at inside
        exact absurd (List.cons_prefix_cons.mp inside).1 (by simp)

end FileTree
