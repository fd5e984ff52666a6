import PeerTrust.Base64
import PeerTrust.Digest

/-!
# Pins

A pin is the digest of a SubjectPublicKeyInfo together with the algorithm that made it. Its text is
the algorithm's word, a slash and the digest in base64.
-/

namespace PeerTrust

/-- A digest with its algorithm. -/
structure Pin where
  algorithm : DigestAlgorithm
  hash : Bytes
  /-- The digest has the length that the algorithm makes. -/
  length_hash : hash.length = algorithm.size
  deriving DecidableEq

/-- Why something is no pin. -/
inductive Pin.Fault where
  /-- The digest has another length than the algorithm makes. -/
  | wrongLength (algorithm : DigestAlgorithm) (found : Nat)
  /-- The text has no slash. -/
  | noSlash (text : String)
  /-- The word before the slash names no algorithm. -/
  | unknownAlgorithm (word : String)
  /-- What follows the slash is not base64. -/
  | notBase64 (text : String)
  deriving DecidableEq, Repr

namespace Pin

/-- The pin of a digest. -/
def ofHash (algorithm : DigestAlgorithm) (hash : Bytes) : Except Fault Pin :=
  if h : hash.length = algorithm.size then .ok ⟨algorithm, hash, h⟩
  else .error (.wrongLength algorithm hash.length)

/-- The pin of a message. -/
def ofMessage (algorithm : DigestAlgorithm) (message : Bytes) : Pin :=
  ⟨algorithm, algorithm.digest message, algorithm.length_digest message⟩

/-- Reads the text of a pin. -/
def ofString (s : String) : Except Fault Pin :=
  let text := Text.trim s.toList
  match Text.splitOnce? '/' text with
  | none => .error (.noSlash (String.ofList text))
  | some (word, payload) =>
    match DigestAlgorithm.ofWord? (String.ofList word) with
    | none => .error (.unknownAlgorithm (String.ofList word))
    | some algorithm =>
      match Base64.decodeBlock payload with
      | none => .error (.notBase64 (String.ofList text))
      | some hash => ofHash algorithm hash

/-- The text of a pin. -/
def text (p : Pin) : String :=
  p.algorithm.word ++ "/" ++ String.ofList (Base64.encode p.hash)

end Pin

/-- What a pin fault says. -/
def Pin.Fault.message : Pin.Fault → String
  | wrongLength algorithm found =>
    algorithm.word ++ " pin must be " ++ toString algorithm.size ++ " bytes, got " ++ toString found
  | noSlash text => "pin must look like sha256/<base64>: " ++ text
  | unknownAlgorithm word => "unsupported pin algorithm: " ++ word
  | notBase64 text => "pin is not valid base64: " ++ text

end PeerTrust
