import PeerTrust.Json.Writer

/-!
# Policy configurations

A configuration describes a policy by texts only: armoured certificates, host patterns, pins and
keys. It is exchanged as a JSON object, in which members that say nothing are left out.
-/

namespace PeerTrust

/-- The kind of build a policy is configured for. -/
inductive BuildMode where
  | debug
  | release
  deriving DecidableEq, Repr

/-- The word for a build mode. -/
def BuildMode.word : BuildMode → String
  | debug => "debug"
  | release => "release"

/-- The kind of policy that a configuration describes. -/
inductive PolicyVariant where
  | systemDefault
  | trustAll
  | pinnedCertificate
  | pinnedDigest
  | pinnedPublicKey
  deriving DecidableEq, Repr

/-- The word for a kind of policy. -/
def PolicyVariant.word : PolicyVariant → String
  | systemDefault => "SystemDefault"
  | trustAll => "TrustAll"
  | pinnedCertificate => "PinnedCertificate"
  | pinnedDigest => "PinnedDigest"
  | pinnedPublicKey => "PinnedPublicKey"

/-- The kinds of policy. -/
def PolicyVariant.all : List PolicyVariant :=
  [systemDefault, trustAll, pinnedCertificate, pinnedDigest, pinnedPublicKey]

/-- The build modes. -/
def BuildMode.all : List BuildMode :=
  [debug, release]

/-- A policy described by texts. -/
structure PolicyConfig where
  variant : PolicyVariant
  /-- The armoured certificate of a certificate pin. -/
  authority : Option String
  /-- The host pattern of a digest pin. -/
  hostname : Option String
  /-- The text of a digest pin. -/
  expected : Option String
  /-- The keys of a key pin, in hexadecimal or armoured. -/
  trustedKeys : List String
  /-- Armoured certificates that replace the platform's. -/
  anchors : Option String
  buildMode : BuildMode
  deriving DecidableEq, Repr

namespace PolicyConfig

/-- A configuration that says nothing but its kind; builds are release builds unless said
otherwise. -/
def ofVariant (variant : PolicyVariant) : PolicyConfig :=
  ⟨variant, none, none, none, [], none, .release⟩

/-- The configuration that trusts as the platform does. -/
def secure : PolicyConfig :=
  ofVariant .systemDefault

/-- A member for a text that may be absent. -/
def optionalMember (name : String) (text : Option String) : List (String × List Char) :=
  match text with
  | some s => [(name, Json.writeString s)]
  | none => []

/-- The members of the JSON object, in order. -/
def members (c : PolicyConfig) : List (String × List Char) :=
  [("variant", Json.writeString c.variant.word)]
    ++ optionalMember "authority" c.authority
    ++ optionalMember "hostname" c.hostname
    ++ optionalMember "expected" c.expected
    ++ (if c.trustedKeys.isEmpty then [] else [("trustedKeys", Json.writeStrings c.trustedKeys)])
    ++ optionalMember "anchors" c.anchors
    ++ [("buildMode", Json.writeString c.buildMode.word)]

/-- The configuration as a JSON object. -/
def toJson (c : PolicyConfig) : String :=
  String.ofList (Json.writeObject c.members)

end PolicyConfig

end PeerTrust
