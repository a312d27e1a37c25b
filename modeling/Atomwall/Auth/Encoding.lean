import Atomwall.Platform.Libraries

/-! base64url without padding, and base32 for TOTP secrets. -/

namespace Atomwall

def base64urlAlphabet : List Char :=
  ['A', 'B', 'C', 'D', 'E', 'F', 'G', 'H', 'I', 'J', 'K', 'L', 'M', 'N', 'O', 'P', 'Q', 'R', 'S',
   'T', 'U', 'V', 'W', 'X', 'Y', 'Z', 'a', 'b', 'c', 'd', 'e', 'f', 'g', 'h', 'i', 'j', 'k', 'l',
   'm', 'n', 'o', 'p', 'q', 'r', 's', 't', 'u', 'v', 'w', 'x', 'y', 'z', '0', '1', '2', '3', '4',
   '5', '6', '7', '8', '9', '-', '_']

def base64urlDigit (chunk : UInt32) (shift : UInt32) : Char :=
  base64urlAlphabet.getD ((chunk >>> shift) &&& 0x3F).toNat 'A'

def base64urlDigits : List UInt8 → List Char
  | a :: b :: c :: rest =>
    let chunk := (a.toUInt32 <<< 16) ||| (b.toUInt32 <<< 8) ||| c.toUInt32
    base64urlDigit chunk 18 :: base64urlDigit chunk 12 :: base64urlDigit chunk 6 ::
      base64urlDigit chunk 0 :: base64urlDigits rest
  | [a, b] =>
    let chunk := (a.toUInt32 <<< 16) ||| (b.toUInt32 <<< 8)
    [base64urlDigit chunk 18, base64urlDigit chunk 12, base64urlDigit chunk 6]
  | [a] =>
    let chunk := a.toUInt32 <<< 16
    [base64urlDigit chunk 18, base64urlDigit chunk 12]
  | [] => []

def base64urlEncode (data : List UInt8) : String := String.ofList (base64urlDigits data)

/-- The loop over the characters: the bits read and not yet put out, and their number. -/
def base64urlBytes (buffer : UInt32) (bits : Nat) : List Char → Except Fault (List UInt8)
  | [] => .ok []
  | c :: rest =>
    match base64urlAlphabet.idxOf? c with
    | none => .error (.invalidArgument "invalid base64url character")
    | some value =>
      let buffer := (buffer <<< 6) ||| UInt32.ofNat value
      if 8 ≤ bits + 6 then
        (base64urlBytes buffer (bits - 2) rest).map
          (((buffer >>> UInt32.ofNat (bits - 2)) &&& 0xFF).toUInt8 :: ·)
      else base64urlBytes buffer (bits + 6) rest

def base64urlDecode (text : String) : Except Fault (List UInt8) :=
  if '=' ∈ text.toList then .error (.invalidArgument "base64url input must not be padded")
  else if text.length % 4 = 1 then .error (.invalidArgument "invalid base64url length")
  else base64urlBytes 0 0 text.toList

def base32Alphabet : List Char :=
  ['A', 'B', 'C', 'D', 'E', 'F', 'G', 'H', 'I', 'J', 'K', 'L', 'M', 'N', 'O', 'P', 'Q', 'R', 'S',
   'T', 'U', 'V', 'W', 'X', 'Y', 'Z', '2', '3', '4', '5', '6', '7']

/-- `kBase32Alphabet[(buffer >> shift) & 0x1F]` for a 32-bit `int`. -/
def base32Digit (buffer : BitVec 32) (shift : Nat) : Char :=
  base32Alphabet.getD ((buffer.sshiftRight shift) &&& 0x1F).toNat 'A'

def base32Digits (buffer : BitVec 32) (bitsLeft : Nat) : List UInt8 → List Char
  | [] => if 0 < bitsLeft then [base32Digit (buffer <<< (5 - bitsLeft)) 0] else []
  | byte :: rest =>
    let buffer := (buffer <<< 8) ||| BitVec.ofNat 32 byte.toNat
    -- between 8 and 12 bits are left here, so one or two digits come out
    if 10 ≤ bitsLeft + 8 then
      base32Digit buffer (bitsLeft + 3) :: base32Digit buffer (bitsLeft - 2) ::
        base32Digits buffer (bitsLeft - 2) rest
    else base32Digit buffer (bitsLeft + 3) :: base32Digits buffer (bitsLeft + 3) rest

def base32Encode (data : List UInt8) : String := String.ofList (base32Digits 0 0 data)

def base32Bytes (buffer : BitVec 32) (bitsLeft : Nat) : List Char → Except Fault (List UInt8)
  | [] => .ok []
  | raw :: rest =>
    if raw = '=' ∨ raw = ' ' ∨ raw = '-' then base32Bytes buffer bitsLeft rest
    else
      match base32Alphabet.idxOf? raw.toUpper with
      | none => .error (.invalidArgument "invalid base32 character in TOTP secret")
      | some pos =>
        let buffer := (buffer <<< 5) ||| BitVec.ofNat 32 pos
        if 8 ≤ bitsLeft + 5 then
          (base32Bytes buffer (bitsLeft - 3) rest).map
            (UInt8.ofNat ((buffer.sshiftRight (bitsLeft - 3)) &&& 0xFF).toNat :: ·)
        else base32Bytes buffer (bitsLeft + 5) rest

def base32Decode (input : String) : Except Fault (List UInt8) := base32Bytes 0 0 input.toList

end Atomwall
