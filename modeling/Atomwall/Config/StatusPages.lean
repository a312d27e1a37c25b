import Atomwall.Config.RuntimeConfig
import Atomwall.Platform.Libraries
import Mathlib.Data.List.Lookmap

/-!
`config/status_page_ops.cpp`: the pages that replace what an origin answers with a status code. In the
lists that the operations make, a code has one page.
-/

namespace Atomwall

def findStatusPage (pages : List StatusPageEntry) (code : Int) : Option StatusPageEntry :=
  pages.find? (·.code == code)

def validateCode (code : Int) : Except Fault Unit :=
  if code < 100 ∨ 599 < code then
    .error (.invalidArgument "status code must be between 100 and 599")
  else .ok ()

def RuntimeConfig.withStatusPages (config : RuntimeConfig) (statusPages : List StatusPageEntry) :
    RuntimeConfig :=
  { config with pages := { config.pages with statusPages } }

@[simp] theorem RuntimeConfig.withStatusPages_statusPages (config : RuntimeConfig)
    (statusPages : List StatusPageEntry) :
    (config.withStatusPages statusPages).pages.statusPages = statusPages := rfl

def addStatusPage (now : Int) (config : RuntimeConfig) (code : Int) (html : String) :
    Except Fault RuntimeConfig :=
  match validateCode code with
  | .error fault => .error fault
  | .ok () =>
    if (findStatusPage config.pages.statusPages code).isSome then
      .error (.invalidArgument
        ("a page override for status " ++ toString code ++ " already exists"))
    else .ok (config.withStatusPages (config.pages.statusPages ++ [⟨code, html, now⟩]))

def noStatusPage (code : Int) : Fault :=
  .invalidArgument ("no page override configured for status " ++ toString code)

def updateStatusPage (config : RuntimeConfig) (code : Int) (html : String) :
    Except Fault RuntimeConfig :=
  if (findStatusPage config.pages.statusPages code).isNone then .error (noStatusPage code)
  else
    .ok (config.withStatusPages (config.pages.statusPages.lookmap fun entry =>
      if entry.code = code then some { entry with html } else none))

def removeStatusPage (config : RuntimeConfig) (code : Int) : Except Fault RuntimeConfig :=
  if (findStatusPage config.pages.statusPages code).isNone then .error (noStatusPage code)
  else .ok (config.withStatusPages (config.pages.statusPages.eraseP (·.code == code)))

/-- The lists that the operations make of an empty one. -/
inductive StatusPagesReached : List StatusPageEntry → Prop where
  | empty : StatusPagesReached []
  | added {now : Int} {config next : RuntimeConfig} {code : Int} {html : String}
      (before : StatusPagesReached config.pages.statusPages)
      (done : addStatusPage now config code html = .ok next) :
      StatusPagesReached next.pages.statusPages
  | updated {config next : RuntimeConfig} {code : Int} {html : String}
      (before : StatusPagesReached config.pages.statusPages)
      (done : updateStatusPage config code html = .ok next) :
      StatusPagesReached next.pages.statusPages
  | removed {config next : RuntimeConfig} {code : Int}
      (before : StatusPagesReached config.pages.statusPages)
      (done : removeStatusPage config code = .ok next) :
      StatusPagesReached next.pages.statusPages

/-- The page is configured for the code. -/
def StatusPageFor (pages : List StatusPageEntry) (code : Int) (html : String) : Prop :=
  ∃ entry ∈ pages, entry.code = code ∧ entry.html = html

variable {pages : List StatusPageEntry} {code : Int} {html : String} {config next : RuntimeConfig}
  {now : Int}

theorem validateCode_ok (h : validateCode code = .ok ()) : 100 ≤ code ∧ code ≤ 599 := by
  unfold validateCode at h
  split at h
  · cases h
  · omega

theorem addStatusPage_ok (h : addStatusPage now config code html = .ok next) :
    (100 ≤ code ∧ code ≤ 599) ∧ (∀ entry ∈ config.pages.statusPages, entry.code ≠ code) ∧
      next.pages.statusPages = config.pages.statusPages ++ [⟨code, html, now⟩] := by
  unfold addStatusPage at h
  split at h
  · cases h
  · next valid =>
    split at h
    · cases h
    · next free =>
      obtain rfl := Except.ok.inj h
      refine ⟨validateCode_ok valid, ?_, rfl⟩
      intro entry member same
      have none : findStatusPage config.pages.statusPages code = none := by simpa using free
      exact absurd same (by simpa using List.find?_eq_none.mp none entry member)

theorem updateStatusPage_codes (h : updateStatusPage config code html = .ok next) :
    next.pages.statusPages.map StatusPageEntry.code =
      config.pages.statusPages.map StatusPageEntry.code := by
  unfold updateStatusPage at h
  split at h
  · cases h
  · obtain rfl := Except.ok.inj h
    apply List.lookmap_map_eq
    intro entry changed taken
    by_cases own : entry.code = code
    · rw [if_pos own] at taken
      obtain rfl := Option.some.inj taken
      rfl
    · rw [if_neg own] at taken
      cases taken

theorem removeStatusPage_sublist (h : removeStatusPage config code = .ok next) :
    next.pages.statusPages.Sublist config.pages.statusPages := by
  unfold removeStatusPage at h
  split at h
  · cases h
  · obtain rfl := Except.ok.inj h
    exact List.eraseP_sublist

/-! Nothing but the pages changes. -/

theorem addStatusPage_frame (h : addStatusPage now config code html = .ok next) :
    next = config.withStatusPages next.pages.statusPages := by
  unfold addStatusPage at h
  split at h
  · cases h
  · split at h
    · cases h
    · rw [← Except.ok.inj h]
      rfl

theorem updateStatusPage_frame (h : updateStatusPage config code html = .ok next) :
    next = config.withStatusPages next.pages.statusPages := by
  unfold updateStatusPage at h
  split at h
  · cases h
  · rw [← Except.ok.inj h]
    rfl

theorem removeStatusPage_frame (h : removeStatusPage config code = .ok next) :
    next = config.withStatusPages next.pages.statusPages := by
  unfold removeStatusPage at h
  split at h
  · cases h
  · rw [← Except.ok.inj h]
    rfl

/-- A code has one page, and is one of a response. -/
theorem StatusPagesReached.codes (h : StatusPagesReached pages) :
    (pages.map StatusPageEntry.code).Nodup ∧
      ∀ code ∈ pages.map StatusPageEntry.code, 100 ≤ code ∧ code ≤ 599 := by
  induction h with
  | empty => simp
  | added _ done ih =>
    obtain ⟨valid, free, grown⟩ := addStatusPage_ok done
    rw [grown, List.map_append, List.nodup_append]
    refine ⟨⟨ih.1, by simp, ?_⟩, ?_⟩
    · rintro other member _ new rfl
      obtain ⟨entry, there, same⟩ := List.mem_map.mp member
      exact free entry there (same.trans (by simpa using new))
    · intro other member
      rcases List.mem_append.mp member with old | new
      · exact ih.2 other old
      · obtain rfl : other = _ := by simpa using new
        exact valid
  | updated _ done ih => rwa [updateStatusPage_codes done]
  | removed _ done ih =>
    have fewer := (removeStatusPage_sublist done).map StatusPageEntry.code
    exact ⟨ih.1.sublist fewer, fun code member => ih.2 code (fewer.subset member)⟩

theorem StatusPagesReached.find_iff (h : StatusPagesReached pages) :
    (findStatusPage pages code).map StatusPageEntry.html = some html ↔ StatusPageFor pages code html := by
  constructor
  · intro found
    obtain ⟨entry, there, rfl⟩ := Option.map_eq_some_iff.mp found
    exact ⟨entry, List.mem_of_find?_eq_some there, by simpa using List.find?_some there, rfl⟩
  · rintro ⟨entry, member, rfl, rfl⟩
    cases found : findStatusPage pages entry.code with
    | none => exact absurd (List.find?_eq_none.mp found entry member) (by simp)
    | some other =>
      have same : other.code = entry.code := by simpa using List.find?_some found
      have unique := List.inj_on_of_nodup_map h.codes.1 (List.mem_of_find?_eq_some found) member same
      rw [unique]
      rfl

end Atomwall
