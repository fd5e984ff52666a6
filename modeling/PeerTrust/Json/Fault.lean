/-!
# Faults of a JSON configuration

Why a text is not a JSON document, or a document not a configuration, and the line and column where
reading stopped. Lines count from one; the column is the number of octets read on the line.
-/

namespace PeerTrust.Json

/-- A JSON value as a reader names it when it expected something else. -/
inductive Found where
  | null
  | boolean (b : Bool)
  | integer (digits : String)
  | floatingPoint (digits : String)
  | string (text : String)
  | map
  | sequence
  deriving DecidableEq, Repr

/-- Why reading stopped. -/
inductive Cause where
  | endInList
  | endInObject
  | endInString
  | endInValue
  | expectedColon
  | expectedListEnd
  | expectedObjectEnd
  | expectedIdent
  | expectedValue
  | invalidEscape
  | invalidNumber
  | numberOutOfRange
  | controlCharacter
  | keyNotString
  | loneSurrogate
  | endOfHexEscape
  | trailingComma
  | trailingCharacters
  /-- A value of another type than the member takes. -/
  | invalidType (found : Found) (expected : String)
  | missingField (name : String)
  | duplicateField (name : String)
  | unknownVariant (name : String) (known : List String)
  | invalidLength (found : Nat) (expected : String)
  deriving DecidableEq, Repr

/-- A cause with the place where reading stopped. -/
structure Fault where
  cause : Cause
  line : Nat
  column : Nat
  deriving DecidableEq, Repr

end PeerTrust.Json
