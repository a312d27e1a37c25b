import Atomwall.Http.Message

/-!
What comes from outside the program: the clock, random bytes and the file system at the moment of a
call, and the functions of the libraries it links.
-/

namespace Atomwall

/-- An exception, by the class the handlers tell apart. The text of a `std::runtime_error` only goes
to the log. -/
inductive Fault where
  | invalidArgument (what : String)
  | runtimeError
  deriving DecidableEq, Repr

theorem bind_ok {α β : Type} {first : Except Fault α} {next : α → Except Fault β} {b : β}
    (h : (first >>= next) = .ok b) : ∃ a, first = .ok a ∧ next a = .ok b := by
  cases first with
  | error fault => cases h
  | ok a => exact ⟨a, rfl, h⟩

theorem mapM_ok {α β : Type} {f : α → Except Fault β} {inputs : List α} {outputs : List β}
    (h : inputs.mapM f = .ok outputs) {b : β} (member : b ∈ outputs) : ∃ a ∈ inputs, f a = .ok b := by
  induction inputs generalizing outputs with
  | nil =>
    obtain rfl : [] = outputs := Except.ok.inj h
    cases member
  | cons first rest ih =>
    rw [List.mapM_cons] at h
    cases head : f first with
    | error fault => simp [head, bind, Except.bind] at h
    | ok value =>
      cases tail : rest.mapM f with
      | error fault => simp [head, tail, bind, Except.bind] at h
      | ok values =>
        simp only [head, tail, bind, Except.bind, pure, Except.pure, Except.ok.injEq] at h
        subst h
        rcases List.mem_cons.mp member with rfl | there
        · exact ⟨first, List.mem_cons_self, head⟩
        · obtain ⟨a, earlier, matched⟩ := ih tail there
          exact ⟨a, List.mem_cons_of_mem _ earlier, matched⟩

theorem mapM_map_ok {α β γ : Type} {written : α → β} {read : β → Except Fault γ} {result : α → γ}
    {values : List α} (each : ∀ a ∈ values, read (written a) = .ok (result a)) :
    (values.map written).mapM read = .ok (values.map result) := by
  induction values with
  | nil => rfl
  | cons a rest ih =>
    have later := ih fun b member => each b (List.mem_cons_of_mem _ member)
    rw [List.map_cons, List.mapM_cons, each a List.mem_cons_self, later]
    rfl

/-- What one call finds: `system_clock::now()` in nanoseconds, the bytes `RAND_bytes` gives it in
order (none where it fails), and whether the file it saves is written. -/
structure Moment where
  now : Int
  random : Nat → Option UInt8
  saved : Bool

def seconds (n : Int) : Int := n * 1000000000

def minutes (n : Int) : Int := seconds (60 * n)

def hours (n : Int) : Int := minutes (60 * n)

/-- `duration_cast<seconds>`, towards zero. -/
def toSeconds (ns : Int) : Int := ns.tdiv 1000000000

/-- Code that draws random bytes one after another. -/
abbrev Rand := StateT (Nat → Option UInt8) (Except Fault)

/-- `RAND_bytes`, whose failure every caller turns into a `std::runtime_error`. -/
def randBytes (count : Nat) : Rand (List UInt8) := fun random =>
  match (List.range count).mapM random with
  | none => .error .runtimeError
  | some data => .ok (data, fun n => random (count + n))

def Rand.value {α : Type} (draw : Rand α) (m : Moment) : Except Fault α :=
  (draw m.random).map Prod.fst

theorem Rand.bind_ok {α β : Type} {draw : Rand α} {next : α → Rand β} {random rest : Nat → Option UInt8}
    {b : β} (h : (draw >>= next) random = .ok (b, rest)) :
    ∃ a mid, draw random = .ok (a, mid) ∧ next a mid = .ok (b, rest) := by
  simp only [bind, StateT.bind, Except.bind] at h
  split at h
  · cases h
  · next pair drawn => exact ⟨pair.1, pair.2, drawn, h⟩

theorem Rand.pure_ok {α : Type} {a b : α} {random rest : Nat → Option UInt8}
    (h : (pure a : Rand α) random = .ok (b, rest)) : b = a := by
  cases h
  rfl

theorem Rand.value_ok {α : Type} {draw : Rand α} {m : Moment} {a : α} (h : draw.value m = .ok a) :
    ∃ rest, draw m.random = .ok (a, rest) := by
  unfold Rand.value at h
  cases drawn : draw m.random with
  | error fault => simp [drawn, Except.map] at h
  | ok pair =>
    obtain rfl : pair.1 = a := by simpa [drawn, Except.map] using h
    exact ⟨pair.2, rfl⟩

/-- libcbor's items, as `cbor_load` builds them. -/
inductive CborItem where
  | uint (value : UInt64)
  | negint (value : UInt64)
  | bytestring (definite : Bool) (data : List UInt8)
  | string (definite : Bool) (text : String)
  | array (items : List CborItem)
  | map (pairs : List (CborItem × CborItem))
  | tag
  | bool (value : Bool)
  | null
  | undef
  | float

/-- The keys that can be built from COSE coordinates. -/
inductive PublicKey where
  | ec (x y : List UInt8)
  | rsa (n e : List UInt8)

/-- The functions of Boost.JSON, OpenSSL, libcbor and the C library. `none` is failure. -/
structure Libraries where
  jsonParse : String → Option Http.Json
  /-- The calendar text of a time point, through `gmtime_r`. -/
  toIso8601 : Int → String
  pbkdf2 : (password : String) → (salt : List UInt8) → (iterations : Int) → Option (List UInt8)
  hmacSha1 : (key data : List UInt8) → Option (Fin 20 → UInt8)
  sha256 : List UInt8 → Option (List UInt8)
  cborLoad : List UInt8 → Option (CborItem × Nat)
  /-- `EVP_PKEY_fromdata` accepts the key. -/
  validKey : PublicKey → Bool
  /-- `EVP_DigestVerify` with SHA-256. -/
  digestVerify : PublicKey → (signedData signature : List UInt8) → Bool

def Libraries.parseJsonObject (libs : Libraries) (body : String) : Option Http.JsonObject :=
  match libs.jsonParse body with
  | some (.object members) => some members
  | _ => none

end Atomwall
