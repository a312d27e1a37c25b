import Atomwall.Admin.Handlers
import Atomwall.Base.AsciiCase
import Atomwall.Pipeline.Checks

/-!
`PUT /api/method-check`. A method check that blocks every request is published exactly by a request that turns
the check on, names no methods, and finds none.
-/

namespace Atomwall.Admin

open Http ByteString

variable (libs : Libraries)

def methodCheckToJson (config : MethodCheckConfig) : Json :=
  .object [("enabled", .bool config.enabled), ("allowed_methods", .array (config.allowedMethods.map .string))]

def kEmptyMethods : String :=
  "allowed_methods can't be empty while method_check is enabled — that would block every request"

def stringItem : Json → Option String
  | .string text => some text
  | _ => none

def setEnabled (body : JsonObject) (config : MethodCheckConfig) : MethodCheckConfig :=
  match body.find "enabled" with
  | some (.bool enabled) => { config with enabled }
  | _ => config

def methodsOf (body : JsonObject) : Option (List String) :=
  match body.find "allowed_methods" with
  | some (.array items) => some (items.filterMap stringItem)
  | _ => none

def setMethodCheck (body : JsonObject) (config : RuntimeConfig) : Except Fault RuntimeConfig :=
  let methodCheck := setEnabled body config.methodCheck
  match methodsOf body with
  | none => .ok { config with methodCheck }
  | some allowedMethods =>
    if methodCheck.enabled && allowedMethods.isEmpty then .error (.invalidArgument kEmptyMethods)
    else .ok { config with methodCheck := { methodCheck with allowedMethods } }

def handleMethodCheckUpdate (request : Request) : Handler Response := do
  match libs.parseJsonObject request.body with
  | none => return errorResponse 400 "expected JSON body" request.version
  | some body =>
    match ← caught (configUpdate (setMethodCheck body)) with
    | .error what => return errorResponse 400 what request.version
    | .ok () => return jsonResponse 200 (methodCheckToJson (← configGet).methodCheck) request.version

/-! ### One request after another -/

/-- A request, and what its calls find. -/
structure MethodCheckPut where
  request : Request
  moments : Nat → Moment

def MethodCheckPut.serve (app : AppState) (put : MethodCheckPut) : AppState :=
  ((handleMethodCheckUpdate libs put.request).exec (perform libs) [] put.moments app).store

/-- The states after none of the requests, after the first, and so on. -/
def publishedBy (app : AppState) (puts : List MethodCheckPut) : List AppState :=
  puts.scanl (MethodCheckPut.serve libs) app

/-- The check is on and allows no method. -/
def Armed (config : RuntimeConfig) : Prop :=
  config.methodCheck.enabled = true ∧ config.methodCheck.allowedMethods = []

/-- The body turns the check on without naming methods, and none are allowed before. -/
def Arms (config : RuntimeConfig) (body : String) : Prop :=
  ∃ object, libs.parseJsonObject body = some object ∧ object.find "enabled" = some (.bool true) ∧
    (∀ items, object.find "allowed_methods" ≠ some (.array items)) ∧ config.methodCheck.allowedMethods = []

variable {libs} {app : AppState} {put : MethodCheckPut} {puts : List MethodCheckPut} {config : RuntimeConfig}

theorem armed_iff : Armed config ↔ ∀ method, (checkMethodAllowlist config.methodCheck method).blocked = true := by
  unfold Armed checkMethodAllowlist
  constructor
  · rintro ⟨enabled, none⟩ method
    simp [enabled, none]
  · intro blocks
    cases enabled : config.methodCheck.enabled with
    | false => simpa [enabled] using blocks ""
    | true =>
      refine ⟨rfl, List.eq_nil_iff_forall_not_mem.mpr fun allowed member => ?_⟩
      have passes : config.methodCheck.allowedMethods.any (iequals allowed) = true :=
        List.any_eq_true.mpr ⟨allowed, member, iequals_iff.mpr rfl⟩
      simpa [enabled, passes] using blocks allowed

theorem serve_config :
    (put.serve libs app).config =
      match libs.parseJsonObject put.request.body with
      | none => app.config
      | some body =>
        match setMethodCheck body app.config with
        | .ok next => next
        | .error _ => app.config := by
  unfold MethodCheckPut.serve handleMethodCheckUpdate
  cases libs.parseJsonObject put.request.body with
  | none => rfl
  | some body =>
    cases changed : setMethodCheck body app.config with
    | ok next => simp [Prog.exec, perform, changed]
    | error fault => cases fault <;> simp [Prog.exec, perform, changed]

theorem methodsOf_none {body : JsonObject} :
    methodsOf body = none ↔ ∀ items, body.find "allowed_methods" ≠ some (.array items) := by
  unfold methodsOf
  split
  · next items found => simp [found]
  · next other => simpa using other

/-- What a request that turns the check on without naming methods makes of the configuration. -/
theorem serve_arms (arms : Arms libs app.config put.request.body) : Armed (put.serve libs app).config := by
  obtain ⟨body, parsed, enabled, unnamed, none⟩ := arms
  have unlisted : methodsOf body = .none := methodsOf_none.mpr unnamed
  rw [serve_config, parsed]
  simp only [setMethodCheck, unlisted, setEnabled, enabled]
  exact ⟨rfl, none⟩

theorem armed_serve (unarmed : ¬ Armed app.config) (armed : Armed (put.serve libs app).config) :
    Arms libs app.config put.request.body := by
  rw [serve_config] at armed
  cases parsed : libs.parseJsonObject put.request.body with
  | none => exact absurd (by simpa [parsed] using armed) unarmed
  | some body =>
    simp only [parsed, setMethodCheck] at armed
    cases named : methodsOf body with
    | some methods =>
      simp only [named] at armed
      cases on : (setEnabled body app.config.methodCheck).enabled && methods.isEmpty with
      | true =>
        simp only [on, if_true] at armed
        exact absurd armed unarmed
      | false =>
        simp only [on, Bool.false_eq_true, if_false] at armed
        obtain ⟨enabled, none⟩ := armed
        have empty : methods = [] := none
        have turned : (setEnabled body app.config.methodCheck).enabled = true := enabled
        rw [turned, empty] at on
        cases on
    | none =>
      simp only [named] at armed
      obtain ⟨enabled, none⟩ := armed
      unfold setEnabled at enabled none
      split at enabled
      · next turned found =>
        obtain rfl : turned = true := enabled
        exact ⟨body, parsed, found, methodsOf_none.mp named, by simpa [found] using none⟩
      · next other =>
        refine absurd ⟨enabled, ?_⟩ unarmed
        split at none <;> exact none

theorem published_unarmed_iff (unarmed : ¬ Armed app.config) :
    (∀ state ∈ publishedBy libs app puts, ¬ Armed state.config) ↔
      ∀ step ∈ (publishedBy libs app puts).zip puts, ¬ Arms libs step.1.config step.2.request.body := by
  unfold publishedBy
  induction puts generalizing app with
  | nil => simpa using unarmed
  | cons put rest ih =>
    rw [List.scanl_cons, List.zip_cons_cons, List.forall_mem_cons, List.forall_mem_cons]
    by_cases arms : Arms libs app.config put.request.body
    · refine ⟨fun all => absurd (serve_arms arms) ?_, fun none => absurd arms none.1⟩
      exact all.2 _ (by cases rest <;> simp)
    · rw [ih fun armed => arms (armed_serve unarmed armed)]
      exact and_congr ⟨fun _ => arms, fun _ => unarmed⟩ Iff.rfl

/-- A check that blocks everyone is never published exactly where no request turns the check on without
naming methods while none are allowed. -/
theorem method_check_unarmed_iff (libs : Libraries) (app : AppState) (puts : List MethodCheckPut) :
    let start := { app with config := {} }
    (∀ state ∈ publishedBy libs start puts, ¬ Armed state.config) ↔
      ∀ step ∈ (publishedBy libs start puts).zip puts, ¬ Arms libs step.1.config step.2.request.body := by
  exact published_unarmed_iff fun armed => by cases armed.1

def emptyMethodsBody : String := "\x7b\"allowed_methods\":[]\x7d"
def enableBody : String := "\x7b\"enabled\":true\x7d"

def methodLibraries : Libraries where
  jsonParse text :=
    if text = emptyMethodsBody then some (.object [("allowed_methods", .array [])])
    else if text = enableBody then some (.object [("enabled", .bool true)])
    else none
  toIso8601 _ := "1970-01-01T00:00:00Z"
  pbkdf2 _ _ _ := none
  hmacSha1 _ _ := none
  sha256 _ := none
  cborLoad _ := none
  validKey _ := false
  digestVerify _ _ _ := false

def putBody (body : String) : MethodCheckPut where
  request := { methodString := "PUT", target := "/api/method-check", body }
  moments _ := ⟨0, fun _ => none, true⟩

/-- The list may be emptied while the check is off, and the check turned on afterwards. -/
theorem method_check_armed_in_two_steps :
    ¬ ∀ (libs : Libraries) (app : AppState) (puts : List MethodCheckPut),
        ∀ state ∈ publishedBy libs { app with config := {} } puts, ¬ Armed state.config := by
  intro claim
  have last := claim methodLibraries { users := { users := [] } } [putBody emptyMethodsBody, putBody enableBody]
  unfold publishedBy at last
  rw [List.scanl_cons, List.scanl_cons, List.scanl_nil] at last
  exact last _ (List.mem_cons_of_mem _ (List.mem_cons_of_mem _ List.mem_cons_self)) ⟨rfl, rfl⟩

end Atomwall.Admin
