import Atomwall.Base.Lts
import Atomwall.Config.RuntimeConfig

/-!
`TlsSiteContexts`: the TLS contexts of the sites, cached by the configuration snapshot and by what the
files of their certificates say of their age. `current` runs on one thread; the files may change
between its calls.
-/

namespace Atomwall

/-- A file of a certificate or a key. -/
structure CertFile where
  text : String
  mtime : Int

abbrev CertFiles := String → Option CertFile

/-- `file_time_type::min()`, which `last_write_time` yields for a missing file. -/
def kFileTimeMin : Int := -0x8000000000000000

def lastWriteTime (files : CertFiles) (path : String) : Int :=
  match files path with
  | some file => file.mtime
  | none => kFileTimeMin

/-- What OpenSSL makes of the texts of a certificate chain and a private key; none where it throws. -/
abbrev TlsLibrary (Context : Type) := (certificate key : String) → Option Context

variable {Context : Type} (tls : TlsLibrary Context)

def makeTlsServerContext (files : CertFiles) (certFile keyFile : String) : Option Context :=
  match files certFile, files keyFile with
  | some certificate, some key => tls certificate.text key.text
  | _, _ => none

def hasOwnCert (site : SiteConfig) : Bool := site.certFile != "" && site.keyFile != ""

namespace TlsSiteContexts

structure SiteFingerprint where
  domain : String
  certFile : String
  keyFile : String
  certMtime : Int
  keyMtime : Int
  deriving DecidableEq

abbrev ContextMap (Context : Type) := KeyMap String Context

end TlsSiteContexts

/-- The snapshot last compared is kept by its pointer. -/
structure TlsSiteContexts (Context : Type) where
  checkedConfig : Option Nat := none
  builtFingerprint : List TlsSiteContexts.SiteFingerprint := []
  contexts : Option (TlsSiteContexts.ContextMap Context) := none
  refreshing : Bool := false

namespace TlsSiteContexts

def fingerprintOf (files : CertFiles) (config : RuntimeConfig) : List SiteFingerprint :=
  (config.sites.filter hasOwnCert).map fun site =>
    ⟨site.domain, site.certFile, site.keyFile, lastWriteTime files site.certFile,
      lastWriteTime files site.keyFile⟩

/-- A pair that does not load is logged and skipped. -/
def addContext (files : CertFiles) (built : ContextMap Context) (domain certFile keyFile : String) :
    ContextMap Context :=
  match makeTlsServerContext tls files certFile keyFile with
  | some context => built.insert domain context
  | none => built

def build (files : CertFiles) (config : RuntimeConfig) : ContextMap Context :=
  (config.sites.filter hasOwnCert).foldl
    (fun built site => addContext tls files built site.domain site.certFile site.keyFile) ∅

/-- `current`, which gets the snapshot `config` through the pointer `snapshot`. -/
def current (files : CertFiles) (snapshot : Nat) (config : RuntimeConfig)
    (s : TlsSiteContexts Context) : ContextMap Context × TlsSiteContexts Context :=
  let refreshed (fingerprint : List SiteFingerprint) :=
    let built := build tls files config
    (built, { checkedConfig := some snapshot, builtFingerprint := fingerprint, contexts := some built,
              refreshing := false })
  match s.contexts with
  | some contexts =>
    if s.checkedConfig = some snapshot then (contexts, s)
    else if s.refreshing then (contexts, s)
    else
      let fingerprint := fingerprintOf files config
      if fingerprint = s.builtFingerprint then
        (contexts, { s with checkedConfig := some snapshot, refreshing := false })
      else refreshed fingerprint
  | none => if s.refreshing then (∅, s) else refreshed (fingerprintOf files config)

/-! ### What the maps hold -/

variable {tls}

def ownContext (tls : TlsLibrary Context) (files : CertFiles) (site : SiteConfig) : Option Context :=
  if hasOwnCert site then makeTlsServerContext tls files site.certFile site.keyFile else none

theorem lookup_foldl_addContext {files : CertFiles} {domain : String} (sites : List SiteConfig)
    (built : ContextMap Context) :
    ((sites.filter hasOwnCert).foldl
        (fun built site => addContext tls files built site.domain site.certFile site.keyFile) built).lookup
        domain =
      (((sites.filter fun site => site.domain == domain).filterMap (ownContext tls files)).getLast?).or
        (built.lookup domain) := by
  induction sites generalizing built with
  | nil => rfl
  | cons site rest ih =>
    cases own : hasOwnCert site with
    | false =>
      rw [List.filter_cons_of_neg (by simp [own]), ih]
      by_cases named : site.domain = domain
      · simp [named, ownContext, own]
      · simp [named]
    | true =>
      rw [List.filter_cons_of_pos own, List.foldl_cons, ih]
      unfold addContext
      cases loaded : makeTlsServerContext tls files site.certFile site.keyFile with
      | none =>
        by_cases named : site.domain = domain
        · simp [named, ownContext, own, loaded]
        · simp [named]
      | some context =>
        by_cases named : site.domain = domain
        · subst named
          simp [ownContext, own, loaded, List.getLast?_cons]
        · have other : ¬ domain = site.domain := fun same => named same.symm
          simp [named, other]

theorem lookup_build {files : CertFiles} {config : RuntimeConfig} {domain : String} :
    (build tls files config).lookup domain =
      ((config.sites.filter fun site => site.domain == domain).filterMap (ownContext tls files)).getLast? := by
  unfold build
  rw [lookup_foldl_addContext, AList.lookup_empty, Option.or_none]

theorem build_eq_foldl (files : CertFiles) (config : RuntimeConfig) :
    build tls files config = (fingerprintOf files config).foldl
      (fun built site => addContext tls files built site.domain site.certFile site.keyFile) ∅ := by
  unfold build fingerprintOf
  rw [List.foldl_map]

theorem addContext_congr {files other : CertFiles} {built : ContextMap Context}
    {domain certFile keyFile : String} (cert : files certFile = other certFile)
    (key : files keyFile = other keyFile) :
    addContext tls files built domain certFile keyFile = addContext tls other built domain certFile keyFile := by
  unfold addContext makeTlsServerContext
  rw [cert, key]

theorem build_of_fingerprint {files other : CertFiles} {config before : RuntimeConfig}
    (dated : ∀ path, lastWriteTime files path = lastWriteTime other path → files path = other path)
    (same : fingerprintOf files config = fingerprintOf other before) :
    build tls files config = build tls other before := by
  rw [build_eq_foldl, build_eq_foldl, ← same]
  apply List.foldl_ext
  intro built site member
  have here := member
  rw [same] at member
  obtain ⟨mine, _, rfl⟩ := List.mem_map.mp here
  obtain ⟨yours, _, equal⟩ := List.mem_map.mp member
  obtain ⟨_, cert, key, certTime, keyTime⟩ := SiteFingerprint.mk.inj equal
  rw [cert] at certTime
  rw [key] at keyTime
  exact addContext_congr (dated _ certTime.symm) (dated _ keyTime.symm)

/-! ### Handshakes and renewals -/

structure Answer (Context : Type) where
  snapshot : Nat
  files : CertFiles
  map : ContextMap Context

/-- The files, the cache, all that the files have been and the answers so far, newest first. -/
structure World (Context : Type) where
  files : CertFiles
  cache : TlsSiteContexts Context := {}
  past : List CertFiles
  log : List (Answer Context) := []

def World.start (files : CertFiles) : World Context := { files, past := [files] }

inductive Action where
  | change (path : String) (file : Option CertFile)
  | call (snapshot : Nat)

variable (tls) (snapshots : Nat → RuntimeConfig)

def World.step (w : World Context) : Action → Option (World Context)
  | .change path file =>
    let files := Function.update w.files path file
    some { w with files, past := files :: w.past }
  | .call snapshot =>
    let made := current tls w.files snapshot (snapshots snapshot) w.cache
    some { w with cache := made.2, log := ⟨snapshot, w.files, made.1⟩ :: w.log }

/-- A file is given a time that it never had, and that no missing file has. -/
def FreshTime (w : World Context) : Action → Prop
  | .change path (some file) =>
    file.mtime ≠ kFileTimeMin ∧ ∀ old ∈ w.past, lastWriteTime old path ≠ file.mtime
  | _ => True

/-- Every answer so far was what the files made of its snapshot when it was given. -/
def ServesFiles (w : World Context) : Prop :=
  ∀ answer ∈ w.log, answer.map = build tls answer.files (snapshots answer.snapshot)

/-- A call with the snapshot of the call before it finds files that make the same of it. -/
def RenewedWithSnapshot (w : World Context) : Action → Prop
  | .change _ _ => True
  | .call snapshot => ∀ answer ∈ w.log.head?, answer.snapshot = snapshot →
      build tls w.files (snapshots snapshot) = build tls answer.files (snapshots snapshot)

structure Coherent (w : World Context) : Prop where
  dated : ∀ p ∈ w.past, ∀ q ∈ w.past, ∀ path,
    lastWriteTime p path = lastWriteTime q path → p path = q path
  stamped : ∀ p ∈ w.past, ∀ path file, p path = some file → file.mtime ≠ kFileTimeMin
  present : w.files ∈ w.past
  idle : w.cache.refreshing = false
  built : ∀ contexts, w.cache.contexts = some contexts → ∃ old ∈ w.past, ∃ config,
    w.cache.builtFingerprint = fingerprintOf old config ∧ contexts = build tls old config
  last : match w.log with
    | [] => w.cache.contexts = none
    | answer :: _ => w.cache.contexts = some answer.map ∧ w.cache.checkedConfig = some answer.snapshot

variable {tls snapshots} {w : World Context}

theorem coherent_start {files : CertFiles}
    (stamped : ∀ path file, files path = some file → file.mtime ≠ kFileTimeMin) :
    Coherent tls (World.start files : World Context) where
  dated p here q there path _ := by
    rw [List.mem_singleton.mp here, List.mem_singleton.mp there]
  stamped p here := by
    rw [List.mem_singleton.mp here]
    exact stamped
  present := List.mem_singleton.mpr rfl
  idle := rfl
  built _ found := by cases found
  last := rfl

theorem Coherent.change {path : String} {file : Option CertFile} (h : Coherent tls w)
    (fresh : FreshTime w (.change path file)) :
    Coherent tls { w with files := Function.update w.files path file,
                          past := Function.update w.files path file :: w.past } := by
  have apart : ∀ old ∈ w.past, ∀ other,
      lastWriteTime (Function.update w.files path file) other = lastWriteTime old other →
      Function.update w.files path file other = old other := by
    intro old member other same
    by_cases here : other = path
    · subst here
      unfold lastWriteTime at same
      rw [Function.update_self] at same ⊢
      cases file with
      | some file => exact absurd same.symm (fresh.2 old member)
      | none =>
        cases found : old other with
        | none => rfl
        | some older =>
          rw [found] at same
          exact absurd same.symm (h.stamped old member other older found)
    · unfold lastWriteTime at same
      rw [Function.update_of_ne here] at same ⊢
      exact h.dated w.files h.present old member other same
  constructor
  · intro p here q there other same
    rcases List.mem_cons.mp here with rfl | old <;> rcases List.mem_cons.mp there with rfl | older
    · rfl
    · exact apart q older other same
    · exact (apart p old other same.symm).symm
    · exact h.dated p old q older other same
  · intro p here other there found
    rcases List.mem_cons.mp here with rfl | old
    · by_cases own : other = path
      · subst own
        rw [Function.update_self] at found
        subst found
        exact fresh.1
      · rw [Function.update_of_ne own] at found
        exact h.stamped w.files h.present other there found
    · exact h.stamped p old other there found
  · exact List.mem_cons_self
  · exact h.idle
  · intro contexts found
    obtain ⟨old, member, rest⟩ := h.built contexts found
    exact ⟨old, List.mem_cons_of_mem _ member, rest⟩
  · exact h.last

/-- The two ways of a call: the snapshot of the call before is answered from the cache, any other as the
files are. -/
theorem Coherent.call {snapshot : Nat} (h : Coherent tls w) :
    Coherent tls { w with
        cache := (current tls w.files snapshot (snapshots snapshot) w.cache).2,
        log := ⟨snapshot, w.files, (current tls w.files snapshot (snapshots snapshot) w.cache).1⟩ :: w.log } ∧
      ((∃ answer ∈ w.log.head?, answer.snapshot = snapshot ∧
          (current tls w.files snapshot (snapshots snapshot) w.cache).1 = answer.map) ∨
        (∀ answer ∈ w.log.head?, answer.snapshot ≠ snapshot) ∧
          (current tls w.files snapshot (snapshots snapshot) w.cache).1 =
            build tls w.files (snapshots snapshot)) := by
  have last := h.last
  cases log : w.log with
  | nil =>
    rw [log] at last
    have made : current tls w.files snapshot (snapshots snapshot) w.cache =
        (build tls w.files (snapshots snapshot),
          { checkedConfig := some snapshot,
            builtFingerprint := fingerprintOf w.files (snapshots snapshot),
            contexts := some (build tls w.files (snapshots snapshot)), refreshing := false }) := by
      simp [current, last, h.idle]
    rw [made]
    refine ⟨⟨h.dated, h.stamped, h.present, rfl, ?_, ⟨rfl, rfl⟩⟩, Or.inr ⟨by simp, rfl⟩⟩
    intro contexts found
    exact ⟨w.files, h.present, snapshots snapshot, rfl, (Option.some.inj found).symm⟩
  | cons answer rest =>
    rw [log] at last
    obtain ⟨cached, checked⟩ := last
    by_cases again : answer.snapshot = snapshot
    · have made : current tls w.files snapshot (snapshots snapshot) w.cache = (answer.map, w.cache) := by
        simp [current, cached, checked, again]
      rw [made]
      refine ⟨⟨h.dated, h.stamped, h.present, h.idle, h.built, ⟨cached, ?_⟩⟩,
        Or.inl ⟨answer, rfl, again, rfl⟩⟩
      rw [checked, again]
    · have other : ∀ x ∈ (answer :: rest).head?, x.snapshot ≠ snapshot := by simpa using again
      by_cases same : fingerprintOf w.files (snapshots snapshot) = w.cache.builtFingerprint
      · have made : current tls w.files snapshot (snapshots snapshot) w.cache =
            (answer.map, { w.cache with checkedConfig := some snapshot, refreshing := false }) := by
          simp [current, cached, checked, again, h.idle, same]
        obtain ⟨old, member, config, print, map_eq⟩ := h.built _ cached
        have right : build tls w.files (snapshots snapshot) = build tls old config :=
          build_of_fingerprint (h.dated w.files h.present old member) (same.trans print)
        rw [made]
        refine ⟨⟨h.dated, h.stamped, h.present, rfl, h.built, ⟨cached, rfl⟩⟩,
          Or.inr ⟨other, ?_⟩⟩
        rw [right]
        exact map_eq
      · have made : current tls w.files snapshot (snapshots snapshot) w.cache =
            (build tls w.files (snapshots snapshot),
              { checkedConfig := some snapshot,
                builtFingerprint := fingerprintOf w.files (snapshots snapshot),
                contexts := some (build tls w.files (snapshots snapshot)), refreshing := false }) := by
          simp [current, cached, checked, again, h.idle, same]
        rw [made]
        refine ⟨⟨h.dated, h.stamped, h.present, rfl, ?_, ⟨rfl, rfl⟩⟩, Or.inr ⟨other, rfl⟩⟩
        intro contexts found
        exact ⟨w.files, h.present, snapshots snapshot, rfl, (Option.some.inj found).symm⟩

theorem step_coherent {a : Action} {next : World Context} (h : Coherent tls w) (fresh : FreshTime w a)
    (taken : World.step tls snapshots w a = some next) : Coherent tls next := by
  cases a with
  | change path file =>
    obtain rfl := Option.some.inj taken
    exact h.change fresh
  | call snapshot =>
    obtain rfl := Option.some.inj taken
    exact h.call.1

/-- One step: the answers go on being what the files make exactly when no snapshot is asked for again
after its files have come to make something else. -/
theorem step_servesFiles {a : Action} {next : World Context} (h : Coherent tls w)
    (serves : ServesFiles tls snapshots w) (taken : World.step tls snapshots w a = some next) :
    ServesFiles tls snapshots next ↔ RenewedWithSnapshot tls snapshots w a := by
  cases a with
  | change path file =>
    obtain rfl := Option.some.inj taken
    exact iff_of_true serves trivial
  | call snapshot =>
    obtain rfl := Option.some.inj taken
    have newest : ServesFiles tls snapshots { w with
        cache := (current tls w.files snapshot (snapshots snapshot) w.cache).2,
        log := ⟨snapshot, w.files, (current tls w.files snapshot (snapshots snapshot) w.cache).1⟩ :: w.log } ↔
        (current tls w.files snapshot (snapshots snapshot) w.cache).1 =
          build tls w.files (snapshots snapshot) := by
      unfold ServesFiles
      rw [List.forall_mem_cons]
      exact and_iff_left serves
    rw [newest]
    unfold RenewedWithSnapshot
    rcases h.call.2 with ⟨answer, last, again, cached⟩ | ⟨other, right⟩
    · have served := serves answer (List.mem_of_mem_head? last)
      rw [cached, served, again]
      constructor
      · intro same found here _
        rw [← Option.some.inj (Option.mem_def.mp last |>.symm.trans here), same]
      · intro same
        exact (same answer last again).symm
    · exact iff_of_true right fun answer last again => absurd again (other answer last)

/-- Every call of a run serves what the files make of its snapshot exactly when no two calls in a row get
one snapshot whose files have come to make something else in between. -/
theorem current_serves_files_iff {Context : Type} {tls : TlsLibrary Context}
    {snapshots : Nat → RuntimeConfig} {files : CertFiles} {actions : List Action}
    (stamped : ∀ path file, files path = some file → file.mtime ≠ kFileTimeMin)
    (fresh : Lts.Meets (World.step tls snapshots) FreshTime (World.start files) actions) :
    Lts.Throughout (World.step tls snapshots) (ServesFiles tls snapshots) (World.start files) actions ↔
      Lts.Meets (World.step tls snapshots) (RenewedWithSnapshot tls snapshots) (World.start files)
        actions := by
  have coherent := Lts.throughout_of_meets (fun _ _ _ h fresh taken => step_coherent h fresh taken)
    (@coherent_start _ tls _ stamped) fresh
  have total : ∀ (w : World Context) a, World.step tls snapshots w a = none →
      RenewedWithSnapshot tls snapshots w a := by
    intro w a none
    cases a <;> cases none
  rw [Lts.throughout_iff_meets_of coherent total
    fun w a next h serves taken => step_servesFiles h serves taken]
  exact and_iff_right fun answer member => by cases member

def exampleFiles : CertFiles
  | "a.crt" => some ⟨"first certificate", 10⟩
  | "a.key" => some ⟨"first key", 10⟩
  | _ => none

def exampleConfig : RuntimeConfig :=
  { sites := [{ domain := "a.example", certFile := "a.crt", keyFile := "a.key" }] }

def textLibrary : TlsLibrary (String × String) := fun certificate key => some (certificate, key)

def renewal : Action := .change "a.crt" (some ⟨"second certificate", 20⟩)

theorem exampleFiles_stamped (path : String) (file : CertFile) (found : exampleFiles path = some file) :
    file.mtime ≠ kFileTimeMin := by
  unfold exampleFiles at found
  split at found <;> cases found <;> decide

theorem renewal_fresh {before after : Nat} : Lts.Meets (World.step textLibrary fun _ => exampleConfig)
    FreshTime (World.start exampleFiles) [.call before, renewal, .call after] := by
  refine ⟨trivial, fun next called => ⟨?_, fun _ _ => ⟨trivial, fun _ _ => trivial⟩⟩⟩
  obtain rfl := Option.some.inj called
  refine ⟨by decide, fun old member => ?_⟩
  rw [List.mem_singleton.mp member]
  decide

/-- Two handshakes under one snapshot, and the certificate renewed between them. -/
theorem renewal_not_served :
    ¬ ∀ (tls : TlsLibrary (String × String)) (snapshots : Nat → RuntimeConfig) (files : CertFiles)
        (actions : List Action),
        (∀ path file, files path = some file → file.mtime ≠ kFileTimeMin) →
        Lts.Meets (World.step tls snapshots) FreshTime (World.start files) actions →
        Lts.Throughout (World.step tls snapshots) (ServesFiles tls snapshots) (World.start files)
          actions := by
  intro claim
  have served := claim textLibrary (fun _ => exampleConfig) exampleFiles [.call 0, renewal, .call 0]
    exampleFiles_stamped renewal_fresh _ [] _ (List.append_nil _).symm rfl _ List.mem_cons_self
  have context := congrArg (fun map => map.lookup "a.example") served
  revert context
  decide

/-- The snapshot was replaced as well. -/
theorem renewal_served_with_snapshot :
    Lts.Throughout (World.step textLibrary fun _ => exampleConfig)
      (ServesFiles textLibrary fun _ => exampleConfig) (World.start exampleFiles)
      [.call 0, renewal, .call 1] := by
  refine (current_serves_files_iff exampleFiles_stamped renewal_fresh).mpr ?_
  refine ⟨fun answer none => (by cases none), fun next called => ?_⟩
  obtain rfl := Option.some.inj called
  refine ⟨trivial, fun next changed => ⟨?_, fun _ _ => trivial⟩⟩
  obtain rfl := Option.some.inj changed
  intro answer last again
  obtain rfl := Option.some.inj last
  exact absurd again (by decide)

end TlsSiteContexts

end Atomwall
