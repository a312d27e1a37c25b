import Atomwall.Auth.Encoding

/-! `auth/totp.cpp`: codes of 6 digits for steps of 30 seconds, checked with one step of drift. -/

namespace Atomwall.Totp

open ByteString

def kStepSeconds : Int := 30
def kDigits : Nat := 6
def kSecretBytes : Nat := 20

def counterBytes (counter : BitVec 64) : List UInt8 :=
  [56, 48, 40, 32, 24, 16, 8, 0].map fun shift => UInt8.ofNat ((counter >>> shift) &&& 0xFF).toNat

def hotp (libs : Libraries) (key : List UInt8) (counter : BitVec 64) : Except Fault Nat :=
  match libs.hmacSha1 key (counterBytes counter) with
  | none => .error .runtimeError
  | some digest =>
    let offset := (digest 19).toNat % 16
    let byte (i : Nat) : Nat := (digest (Fin.ofNat 20 (offset + i))).toNat
    let binary := (byte 0 &&& 0x7F) <<< 24 ||| byte 1 <<< 16 ||| byte 2 <<< 8 ||| byte 3
    .ok (binary % Nat.pow 10 kDigits)

def formatCode (value : Nat) : String :=
  let digits := Nat.toDigits 10 value
  String.ofList (List.replicate (kDigits - digits.length) '0' ++ digits)

def generateSecretBase32 : Rand String := do
  return base32Encode (← randBytes kSecretBytes)

def percentEncode (value : String) : String :=
  String.ofList (value.toList.flatMap fun c =>
    if c.isAlphanum || c == '-' || c == '_' || c == '.' then [c]
    else ['%', "0123456789ABCDEF".toList.getD (c.toNat / 16) '0',
      "0123456789ABCDEF".toList.getD (c.toNat % 16) '0'])

def provisioningUri (secret username : String) : String :=
  "otpauth://totp/" ++ percentEncode "atomwall" ++ ":" ++ percentEncode username ++ "?secret=" ++
    secret ++ "&issuer=" ++ percentEncode "atomwall" ++ "&algorithm=SHA1&digits=6&period=30"

/-- The steps one code is checked against, in order. -/
def candidateSteps (unixTimeSeconds : Int) : List Int :=
  let counter := unixTimeSeconds.tdiv kStepSeconds
  [counter - 1, counter, counter + 1]

def matchStep (libs : Libraries) (key : List UInt8) (code : String) :
    List Int → Except Fault (Option Int)
  | [] => .ok none
  | step :: rest =>
    match hotp libs key (BitVec.ofInt 64 step) with
    | .error fault => .error fault
    | .ok value => if formatCode value = code then .ok (some step) else matchStep libs key code rest

/-- `verify_totp`, with the step it matched. -/
def verify (libs : Libraries) (secret code : String) (unixTimeSeconds : Int) :
    Except Fault (Option Int) :=
  if code.length ≠ kDigits ∨ ¬ code.toList.all Char.isDigit then .ok none
  else
    match base32Decode secret with
    | .error _ => .ok none
    | .ok [] => .ok none
    | .ok key => matchStep libs key code (candidateSteps unixTimeSeconds)

end Atomwall.Totp
