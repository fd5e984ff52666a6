import PeerTrust.Text.Hex

/-!
# Object identifiers

An object identifier is kept as the contents of its encoding, which spells its arcs without
ambiguity. The registry gives the short names by which attributes and algorithms are shown.
-/

namespace PeerTrust.Asn1

/-- The contents that spell an object identifier. -/
abbrev ObjectId := Bytes

namespace ObjectId

/-- The digits of an arc in base 128, most significant first. -/
def arcDigits (n : Nat) : List Nat :=
  ((List.range 8).map fun i => n / Nat.pow 128 (7 - i) % 128).dropWhile (· = 0)

/-- An arc in base 128, every octet but the last with its top bit set. -/
def arc (n : Nat) : Bytes :=
  match (arcDigits n).reverse with
  | [] => [0]
  | last :: rest => ((UInt8.ofNat last) :: rest.map fun d => UInt8.ofNat (d + 128)).reverse

/-- The identifier with the given arcs; the first two share an octet. -/
def ofArcs : List Nat → ObjectId
  | a :: b :: rest => arc (40 * a + b) ++ rest.flatMap arc
  | _ => []

/-- The number that decimal digits spell. -/
def decimal (digits : List Char) : Nat :=
  digits.foldl (fun n c => 10 * n + (c.toNat - '0'.toNat)) 0

/-- The pieces of a text between dots. -/
def pieces (text : List Char) : List (List Char) :=
  text.foldr
    (fun c ps =>
      if c = '.' then [] :: ps
      else match ps with
        | p :: rest => (c :: p) :: rest
        | [] => [[c]])
    [[]]

/-- The identifier that dotted decimal arcs spell. -/
def ofDotted (text : List Char) : ObjectId :=
  ofArcs ((pieces text).map decimal)

/-- Identifiers and names from alternating words. -/
def pairs : List (List Char) → List (ObjectId × String)
  | oid :: name :: rest => (ofDotted oid, String.ofList name) :: pairs rest
  | _ => []

/-- The registered identifiers with their short names. -/
def registry : List (ObjectId × String) := pairs (List.flatMap Hex.words
  ["0.3.4401.5.3.1.9.1 CAMELLIA-128-ECB 0.3.4401.5.3.1.9.3 CAMELLIA-128-OFB",
   "0.3.4401.5.3.1.9.4 CAMELLIA-128-CFB 0.3.4401.5.3.1.9.6 CAMELLIA-128-GCM",
   "0.3.4401.5.3.1.9.7 CAMELLIA-128-CCM 0.3.4401.5.3.1.9.9 CAMELLIA-128-CTR",
   "0.3.4401.5.3.1.9.10 CAMELLIA-128-CMAC 0.3.4401.5.3.1.9.21 CAMELLIA-192-ECB",
   "0.3.4401.5.3.1.9.23 CAMELLIA-192-OFB 0.3.4401.5.3.1.9.24 CAMELLIA-192-CFB",
   "0.3.4401.5.3.1.9.26 CAMELLIA-192-GCM 0.3.4401.5.3.1.9.27 CAMELLIA-192-CCM",
   "0.3.4401.5.3.1.9.29 CAMELLIA-192-CTR 0.3.4401.5.3.1.9.30 CAMELLIA-192-CMAC",
   "0.3.4401.5.3.1.9.41 CAMELLIA-256-ECB 0.3.4401.5.3.1.9.43 CAMELLIA-256-OFB",
   "0.3.4401.5.3.1.9.44 CAMELLIA-256-CFB 0.3.4401.5.3.1.9.46 CAMELLIA-256-GCM",
   "0.3.4401.5.3.1.9.47 CAMELLIA-256-CCM 0.3.4401.5.3.1.9.49 CAMELLIA-256-CTR",
   "0.3.4401.5.3.1.9.50 CAMELLIA-256-CMAC 0.9 data 0.9.2342 pss 0.9.2342.19200300 ucl",
   "0.9.2342.19200300.100 pilot 0.9.2342.19200300.100.1 pilotAttributeType",
   "0.9.2342.19200300.100.1.1 UID 0.9.2342.19200300.100.1.2 textEncodedORAddress",
   "0.9.2342.19200300.100.1.3 mail 0.9.2342.19200300.100.1.4 info",
   "0.9.2342.19200300.100.1.5 favouriteDrink 0.9.2342.19200300.100.1.6 roomNumber",
   "0.9.2342.19200300.100.1.7 photo 0.9.2342.19200300.100.1.8 userClass",
   "0.9.2342.19200300.100.1.9 host 0.9.2342.19200300.100.1.10 manager",
   "0.9.2342.19200300.100.1.11 documentIdentifier 0.9.2342.19200300.100.1.12 documentTitle",
   "0.9.2342.19200300.100.1.13 documentVersion 0.9.2342.19200300.100.1.14 documentAuthor",
   "0.9.2342.19200300.100.1.15 documentLocation 0.9.2342.19200300.100.1.20 homeTelephoneNumber",
   "0.9.2342.19200300.100.1.21 secretary 0.9.2342.19200300.100.1.22 otherMailbox",
   "0.9.2342.19200300.100.1.23 lastModifiedTime 0.9.2342.19200300.100.1.24 lastModifiedBy",
   "0.9.2342.19200300.100.1.25 DC 0.9.2342.19200300.100.1.26 aRecord",
   "0.9.2342.19200300.100.1.27 pilotAttributeType27 0.9.2342.19200300.100.1.28 mXRecord",
   "0.9.2342.19200300.100.1.29 nSRecord 0.9.2342.19200300.100.1.30 sOARecord",
   "0.9.2342.19200300.100.1.31 cNAMERecord 0.9.2342.19200300.100.1.37 associatedDomain",
   "0.9.2342.19200300.100.1.38 associatedName 0.9.2342.19200300.100.1.39 homePostalAddress",
   "0.9.2342.19200300.100.1.40 personalTitle 0.9.2342.19200300.100.1.41 mobileTelephoneNumber",
   "0.9.2342.19200300.100.1.42 pagerTelephoneNumber",
   "0.9.2342.19200300.100.1.43 friendlyCountryName 0.9.2342.19200300.100.1.44 uid",
   "0.9.2342.19200300.100.1.45 organizationalStatus 0.9.2342.19200300.100.1.46 janetMailbox",
   "0.9.2342.19200300.100.1.47 mailPreferenceOption 0.9.2342.19200300.100.1.48 buildingName",
   "0.9.2342.19200300.100.1.49 dSAQuality 0.9.2342.19200300.100.1.50 singleLevelQuality",
   "0.9.2342.19200300.100.1.51 subtreeMinimumQuality",
   "0.9.2342.19200300.100.1.52 subtreeMaximumQuality",
   "0.9.2342.19200300.100.1.53 personalSignature 0.9.2342.19200300.100.1.54 dITRedirect",
   "0.9.2342.19200300.100.1.55 audio 0.9.2342.19200300.100.1.56 documentPublisher",
   "0.9.2342.19200300.100.3 pilotAttributeSyntax 0.9.2342.19200300.100.3.4 iA5StringSyntax",
   "0.9.2342.19200300.100.3.5 caseIgnoreIA5StringSyntax",
   "0.9.2342.19200300.100.4 pilotObjectClass 0.9.2342.19200300.100.4.3 pilotObject",
   "0.9.2342.19200300.100.4.4 pilotPerson 0.9.2342.19200300.100.4.5 account",
   "0.9.2342.19200300.100.4.6 document 0.9.2342.19200300.100.4.7 room",
   "0.9.2342.19200300.100.4.9 documentSeries 0.9.2342.19200300.100.4.13 domain",
   "0.9.2342.19200300.100.4.14 rFC822localPart 0.9.2342.19200300.100.4.15 dNSDomain",
   "0.9.2342.19200300.100.4.17 domainRelatedObject 0.9.2342.19200300.100.4.18 friendlyCountry",
   "0.9.2342.19200300.100.4.19 simpleSecurityObject",
   "0.9.2342.19200300.100.4.20 pilotOrganization 0.9.2342.19200300.100.4.21 pilotDSA",
   "0.9.2342.19200300.100.4.22 qualityLabelledData 0.9.2342.19200300.100.10 pilotGroups",
   "1.0.9797.3.4 GMAC 1.0.10118.3.0.55 whirlpool 1.2 member-body 1.2.156 ISO-CN",
   "1.2.156.10197 oscca 1.2.156.10197.1 sm-scheme 1.2.156.10197.1.104.1 SM4-ECB",
   "1.2.156.10197.1.104.2 SM4-CBC 1.2.156.10197.1.104.3 SM4-OFB 1.2.156.10197.1.104.4 SM4-CFB",
   "1.2.156.10197.1.104.5 SM4-CFB1 1.2.156.10197.1.104.6 SM4-CFB8 1.2.156.10197.1.104.7 SM4-CTR",
   "1.2.156.10197.1.301 SM2 1.2.156.10197.1.401 SM3 1.2.156.10197.1.501 SM2-SM3",
   "1.2.156.10197.1.504 RSA-SM3 1.2.392.200011.61.1.1.1.2 CAMELLIA-128-CBC",
   "1.2.392.200011.61.1.1.1.3 CAMELLIA-192-CBC 1.2.392.200011.61.1.1.1.4 CAMELLIA-256-CBC",
   "1.2.392.200011.61.1.1.3.2 id-camellia128-wrap 1.2.392.200011.61.1.1.3.3 id-camellia192-wrap",
   "1.2.392.200011.61.1.1.3.4 id-camellia256-wrap 1.2.410.200004 KISA",
   "1.2.410.200004.1.3 SEED-ECB 1.2.410.200004.1.4 SEED-CBC 1.2.410.200004.1.5 SEED-CFB",
   "1.2.410.200004.1.6 SEED-OFB 1.2.410.200046.1.1.1 ARIA-128-ECB",
   "1.2.410.200046.1.1.2 ARIA-128-CBC 1.2.410.200046.1.1.3 ARIA-128-CFB",
   "1.2.410.200046.1.1.4 ARIA-128-OFB 1.2.410.200046.1.1.5 ARIA-128-CTR",
   "1.2.410.200046.1.1.6 ARIA-192-ECB 1.2.410.200046.1.1.7 ARIA-192-CBC",
   "1.2.410.200046.1.1.8 ARIA-192-CFB 1.2.410.200046.1.1.9 ARIA-192-OFB",
   "1.2.410.200046.1.1.10 ARIA-192-CTR 1.2.410.200046.1.1.11 ARIA-256-ECB",
   "1.2.410.200046.1.1.12 ARIA-256-CBC 1.2.410.200046.1.1.13 ARIA-256-CFB",
   "1.2.410.200046.1.1.14 ARIA-256-OFB 1.2.410.200046.1.1.15 ARIA-256-CTR",
   "1.2.410.200046.1.1.34 ARIA-128-GCM 1.2.410.200046.1.1.35 ARIA-192-GCM",
   "1.2.410.200046.1.1.36 ARIA-256-GCM 1.2.410.200046.1.1.37 ARIA-128-CCM",
   "1.2.410.200046.1.1.38 ARIA-192-CCM 1.2.410.200046.1.1.39 ARIA-256-CCM 1.2.643.2.2 cryptopro",
   "1.2.643.2.2.3 id-GostR3411-94-with-GostR3410-2001",
   "1.2.643.2.2.4 id-GostR3411-94-with-GostR3410-94 1.2.643.2.2.9 md_gost94",
   "1.2.643.2.2.10 id-HMACGostR3411-94 1.2.643.2.2.14.0 id-Gost28147-89-None-KeyMeshing",
   "1.2.643.2.2.14.1 id-Gost28147-89-CryptoPro-KeyMeshing 1.2.643.2.2.19 gost2001",
   "1.2.643.2.2.20 gost94 1.2.643.2.2.20.1 id-GostR3410-94-a",
   "1.2.643.2.2.20.2 id-GostR3410-94-aBis 1.2.643.2.2.20.3 id-GostR3410-94-b",
   "1.2.643.2.2.20.4 id-GostR3410-94-bBis 1.2.643.2.2.21 gost89 1.2.643.2.2.22 gost-mac",
   "1.2.643.2.2.23 prf-gostr3411-94 1.2.643.2.2.30.0 id-GostR3411-94-TestParamSet",
   "1.2.643.2.2.30.1 id-GostR3411-94-CryptoProParamSet",
   "1.2.643.2.2.31.0 id-Gost28147-89-TestParamSet",
   "1.2.643.2.2.31.1 id-Gost28147-89-CryptoPro-A-ParamSet",
   "1.2.643.2.2.31.2 id-Gost28147-89-CryptoPro-B-ParamSet",
   "1.2.643.2.2.31.3 id-Gost28147-89-CryptoPro-C-ParamSet",
   "1.2.643.2.2.31.4 id-Gost28147-89-CryptoPro-D-ParamSet",
   "1.2.643.2.2.31.5 id-Gost28147-89-CryptoPro-Oscar-1-1-ParamSet",
   "1.2.643.2.2.31.6 id-Gost28147-89-CryptoPro-Oscar-1-0-ParamSet",
   "1.2.643.2.2.31.7 id-Gost28147-89-CryptoPro-RIC-1-ParamSet",
   "1.2.643.2.2.32.0 id-GostR3410-94-TestParamSet",
   "1.2.643.2.2.32.2 id-GostR3410-94-CryptoPro-A-ParamSet",
   "1.2.643.2.2.32.3 id-GostR3410-94-CryptoPro-B-ParamSet",
   "1.2.643.2.2.32.4 id-GostR3410-94-CryptoPro-C-ParamSet",
   "1.2.643.2.2.32.5 id-GostR3410-94-CryptoPro-D-ParamSet",
   "1.2.643.2.2.33.1 id-GostR3410-94-CryptoPro-XchA-ParamSet",
   "1.2.643.2.2.33.2 id-GostR3410-94-CryptoPro-XchB-ParamSet",
   "1.2.643.2.2.33.3 id-GostR3410-94-CryptoPro-XchC-ParamSet",
   "1.2.643.2.2.35.0 id-GostR3410-2001-TestParamSet",
   "1.2.643.2.2.35.1 id-GostR3410-2001-CryptoPro-A-ParamSet",
   "1.2.643.2.2.35.2 id-GostR3410-2001-CryptoPro-B-ParamSet",
   "1.2.643.2.2.35.3 id-GostR3410-2001-CryptoPro-C-ParamSet",
   "1.2.643.2.2.36.0 id-GostR3410-2001-CryptoPro-XchA-ParamSet",
   "1.2.643.2.2.36.1 id-GostR3410-2001-CryptoPro-XchB-ParamSet",
   "1.2.643.2.2.98 id-GostR3410-2001DH 1.2.643.2.2.99 id-GostR3410-94DH 1.2.643.2.9 cryptocom",
   "1.2.643.2.9.1.3.3 id-GostR3411-94-with-GostR3410-94-cc",
   "1.2.643.2.9.1.3.4 id-GostR3411-94-with-GostR3410-2001-cc 1.2.643.2.9.1.5.3 gost94cc",
   "1.2.643.2.9.1.5.4 gost2001cc 1.2.643.2.9.1.6.1 id-Gost28147-89-cc",
   "1.2.643.2.9.1.8.1 id-GostR3410-2001-ParamSet-cc 1.2.643.3.131.1.1 INN 1.2.643.7.1 id-tc26",
   "1.2.643.7.1.1 id-tc26-algorithms 1.2.643.7.1.1.1 id-tc26-sign",
   "1.2.643.7.1.1.1.1 gost2012_256 1.2.643.7.1.1.1.2 gost2012_512",
   "1.2.643.7.1.1.2 id-tc26-digest 1.2.643.7.1.1.2.2 md_gost12_256",
   "1.2.643.7.1.1.2.3 md_gost12_512 1.2.643.7.1.1.3 id-tc26-signwithdigest",
   "1.2.643.7.1.1.3.2 id-tc26-signwithdigest-gost3410-2012-256",
   "1.2.643.7.1.1.3.3 id-tc26-signwithdigest-gost3410-2012-512 1.2.643.7.1.1.4 id-tc26-mac",
   "1.2.643.7.1.1.4.1 id-tc26-hmac-gost-3411-2012-256",
   "1.2.643.7.1.1.4.2 id-tc26-hmac-gost-3411-2012-512 1.2.643.7.1.1.5 id-tc26-cipher",
   "1.2.643.7.1.1.5.1 id-tc26-cipher-gostr3412-2015-magma 1.2.643.7.1.1.5.1.1 magma-ctr-acpkm",
   "1.2.643.7.1.1.5.1.2 magma-ctr-acpkm-omac",
   "1.2.643.7.1.1.5.2 id-tc26-cipher-gostr3412-2015-kuznyechik",
   "1.2.643.7.1.1.5.2.1 kuznyechik-ctr-acpkm 1.2.643.7.1.1.5.2.2 kuznyechik-ctr-acpkm-omac",
   "1.2.643.7.1.1.6 id-tc26-agreement 1.2.643.7.1.1.6.1 id-tc26-agreement-gost-3410-2012-256",
   "1.2.643.7.1.1.6.2 id-tc26-agreement-gost-3410-2012-512 1.2.643.7.1.1.7 id-tc26-wrap",
   "1.2.643.7.1.1.7.1 id-tc26-wrap-gostr3412-2015-magma 1.2.643.7.1.1.7.1.1 magma-kexp15",
   "1.2.643.7.1.1.7.2 id-tc26-wrap-gostr3412-2015-kuznyechik",
   "1.2.643.7.1.1.7.2.1 kuznyechik-kexp15 1.2.643.7.1.2 id-tc26-constants",
   "1.2.643.7.1.2.1 id-tc26-sign-constants",
   "1.2.643.7.1.2.1.1 id-tc26-gost-3410-2012-256-constants",
   "1.2.643.7.1.2.1.1.1 id-tc26-gost-3410-2012-256-paramSetA",
   "1.2.643.7.1.2.1.1.2 id-tc26-gost-3410-2012-256-paramSetB",
   "1.2.643.7.1.2.1.1.3 id-tc26-gost-3410-2012-256-paramSetC",
   "1.2.643.7.1.2.1.1.4 id-tc26-gost-3410-2012-256-paramSetD",
   "1.2.643.7.1.2.1.2 id-tc26-gost-3410-2012-512-constants",
   "1.2.643.7.1.2.1.2.0 id-tc26-gost-3410-2012-512-paramSetTest",
   "1.2.643.7.1.2.1.2.1 id-tc26-gost-3410-2012-512-paramSetA",
   "1.2.643.7.1.2.1.2.2 id-tc26-gost-3410-2012-512-paramSetB",
   "1.2.643.7.1.2.1.2.3 id-tc26-gost-3410-2012-512-paramSetC",
   "1.2.643.7.1.2.2 id-tc26-digest-constants 1.2.643.7.1.2.5 id-tc26-cipher-constants",
   "1.2.643.7.1.2.5.1 id-tc26-gost-28147-constants",
   "1.2.643.7.1.2.5.1.1 id-tc26-gost-28147-param-Z 1.2.643.100.1 OGRN 1.2.643.100.3 SNILS",
   "1.2.643.100.5 OGRNIP 1.2.643.100.111 subjectSignTool 1.2.643.100.112 issuerSignTool",
   "1.2.643.100.113 classSignTool 1.2.643.100.113.1 classSignToolKC1",
   "1.2.643.100.113.2 classSignToolKC2 1.2.643.100.113.3 classSignToolKC3",
   "1.2.643.100.113.4 classSignToolKB1 1.2.643.100.113.5 classSignToolKB2",
   "1.2.643.100.113.6 classSignToolKA1 1.2.804 ISO-UA 1.2.804.2.1.1.1 ua-pki",
   "1.2.804.2.1.1.1.1.1.1 dstu28147 1.2.804.2.1.1.1.1.1.1.2 dstu28147-ofb",
   "1.2.804.2.1.1.1.1.1.1.3 dstu28147-cfb 1.2.804.2.1.1.1.1.1.1.5 dstu28147-wrap",
   "1.2.804.2.1.1.1.1.1.2 hmacWithDstu34311 1.2.804.2.1.1.1.1.2.1 dstu34311",
   "1.2.804.2.1.1.1.1.3.1.1 dstu4145le 1.2.804.2.1.1.1.1.3.1.1.1.1 dstu4145be",
   "1.2.804.2.1.1.1.1.3.1.1.2.0 uacurve0 1.2.804.2.1.1.1.1.3.1.1.2.1 uacurve1",
   "1.2.804.2.1.1.1.1.3.1.1.2.2 uacurve2 1.2.804.2.1.1.1.1.3.1.1.2.3 uacurve3",
   "1.2.804.2.1.1.1.1.3.1.1.2.4 uacurve4 1.2.804.2.1.1.1.1.3.1.1.2.5 uacurve5",
   "1.2.804.2.1.1.1.1.3.1.1.2.6 uacurve6 1.2.804.2.1.1.1.1.3.1.1.2.7 uacurve7",
   "1.2.804.2.1.1.1.1.3.1.1.2.8 uacurve8 1.2.804.2.1.1.1.1.3.1.1.2.9 uacurve9 1.2.840 ISO-US",
   "1.2.840.10040 X9-57 1.2.840.10040.2.1 holdInstructionNone",
   "1.2.840.10040.2.2 holdInstructionCallIssuer 1.2.840.10040.2.3 holdInstructionReject",
   "1.2.840.10040.4 X9cm 1.2.840.10040.4.1 DSA 1.2.840.10040.4.3 DSA-SHA1",
   "1.2.840.10045 ansi-X9-62 1.2.840.10045.1.1 prime-field",
   "1.2.840.10045.1.2 characteristic-two-field 1.2.840.10045.1.2.3 id-characteristic-two-basis",
   "1.2.840.10045.1.2.3.1 onBasis 1.2.840.10045.1.2.3.2 tpBasis 1.2.840.10045.1.2.3.3 ppBasis",
   "1.2.840.10045.2.1 id-ecPublicKey 1.2.840.10045.3.0.1 c2pnb163v1",
   "1.2.840.10045.3.0.2 c2pnb163v2 1.2.840.10045.3.0.3 c2pnb163v3",
   "1.2.840.10045.3.0.4 c2pnb176v1 1.2.840.10045.3.0.5 c2tnb191v1",
   "1.2.840.10045.3.0.6 c2tnb191v2 1.2.840.10045.3.0.7 c2tnb191v3",
   "1.2.840.10045.3.0.8 c2onb191v4 1.2.840.10045.3.0.9 c2onb191v5",
   "1.2.840.10045.3.0.10 c2pnb208w1 1.2.840.10045.3.0.11 c2tnb239v1",
   "1.2.840.10045.3.0.12 c2tnb239v2 1.2.840.10045.3.0.13 c2tnb239v3",
   "1.2.840.10045.3.0.14 c2onb239v4 1.2.840.10045.3.0.15 c2onb239v5",
   "1.2.840.10045.3.0.16 c2pnb272w1 1.2.840.10045.3.0.17 c2pnb304w1",
   "1.2.840.10045.3.0.18 c2tnb359v1 1.2.840.10045.3.0.19 c2pnb368w1",
   "1.2.840.10045.3.0.20 c2tnb431r1 1.2.840.10045.3.1.1 prime192v1",
   "1.2.840.10045.3.1.2 prime192v2 1.2.840.10045.3.1.3 prime192v3",
   "1.2.840.10045.3.1.4 prime239v1 1.2.840.10045.3.1.5 prime239v2",
   "1.2.840.10045.3.1.6 prime239v3 1.2.840.10045.3.1.7 prime256v1",
   "1.2.840.10045.4.1 ecdsa-with-SHA1 1.2.840.10045.4.2 ecdsa-with-Recommended",
   "1.2.840.10045.4.3 ecdsa-with-Specified 1.2.840.10045.4.3.1 ecdsa-with-SHA224",
   "1.2.840.10045.4.3.2 ecdsa-with-SHA256 1.2.840.10045.4.3.3 ecdsa-with-SHA384",
   "1.2.840.10045.4.3.4 ecdsa-with-SHA512 1.2.840.10046.2.1 dhpublicnumber",
   "1.2.840.113533.7.66.10 CAST5-CBC 1.2.840.113533.7.66.12 pbeWithMD5AndCast5CBC",
   "1.2.840.113533.7.66.13 id-PasswordBasedMAC 1.2.840.113533.7.66.30 id-DHBasedMac",
   "1.2.840.113549 rsadsi 1.2.840.113549.1 pkcs 1.2.840.113549.1.1 pkcs1",
   "1.2.840.113549.1.1.1 rsaEncryption 1.2.840.113549.1.1.2 RSA-MD2",
   "1.2.840.113549.1.1.3 RSA-MD4 1.2.840.113549.1.1.4 RSA-MD5 1.2.840.113549.1.1.5 RSA-SHA1",
   "1.2.840.113549.1.1.6 rsaOAEPEncryptionSET 1.2.840.113549.1.1.7 RSAES-OAEP",
   "1.2.840.113549.1.1.8 MGF1 1.2.840.113549.1.1.9 PSPECIFIED 1.2.840.113549.1.1.10 RSASSA-PSS",
   "1.2.840.113549.1.1.11 RSA-SHA256 1.2.840.113549.1.1.12 RSA-SHA384",
   "1.2.840.113549.1.1.13 RSA-SHA512 1.2.840.113549.1.1.14 RSA-SHA224",
   "1.2.840.113549.1.1.15 RSA-SHA512/224 1.2.840.113549.1.1.16 RSA-SHA512/256",
   "1.2.840.113549.1.3 pkcs3 1.2.840.113549.1.3.1 dhKeyAgreement 1.2.840.113549.1.5 pkcs5",
   "1.2.840.113549.1.5.1 PBE-MD2-DES 1.2.840.113549.1.5.3 PBE-MD5-DES",
   "1.2.840.113549.1.5.4 PBE-MD2-RC2-64 1.2.840.113549.1.5.6 PBE-MD5-RC2-64",
   "1.2.840.113549.1.5.10 PBE-SHA1-DES 1.2.840.113549.1.5.11 PBE-SHA1-RC2-64",
   "1.2.840.113549.1.5.12 PBKDF2 1.2.840.113549.1.5.13 PBES2 1.2.840.113549.1.5.14 PBMAC1",
   "1.2.840.113549.1.7 pkcs7 1.2.840.113549.1.7.1 pkcs7-data",
   "1.2.840.113549.1.7.2 pkcs7-signedData 1.2.840.113549.1.7.3 pkcs7-envelopedData",
   "1.2.840.113549.1.7.4 pkcs7-signedAndEnvelopedData 1.2.840.113549.1.7.5 pkcs7-digestData",
   "1.2.840.113549.1.7.6 pkcs7-encryptedData 1.2.840.113549.1.9 pkcs9",
   "1.2.840.113549.1.9.1 emailAddress 1.2.840.113549.1.9.2 unstructuredName",
   "1.2.840.113549.1.9.3 contentType 1.2.840.113549.1.9.4 messageDigest",
   "1.2.840.113549.1.9.5 signingTime 1.2.840.113549.1.9.6 countersignature",
   "1.2.840.113549.1.9.7 challengePassword 1.2.840.113549.1.9.8 unstructuredAddress",
   "1.2.840.113549.1.9.9 extendedCertificateAttributes 1.2.840.113549.1.9.14 extReq",
   "1.2.840.113549.1.9.15 SMIME-CAPS 1.2.840.113549.1.9.16 SMIME",
   "1.2.840.113549.1.9.16.0 id-smime-mod 1.2.840.113549.1.9.16.0.1 id-smime-mod-cms",
   "1.2.840.113549.1.9.16.0.2 id-smime-mod-ess 1.2.840.113549.1.9.16.0.3 id-smime-mod-oid",
   "1.2.840.113549.1.9.16.0.4 id-smime-mod-msg-v3",
   "1.2.840.113549.1.9.16.0.5 id-smime-mod-ets-eSignature-88",
   "1.2.840.113549.1.9.16.0.6 id-smime-mod-ets-eSignature-97",
   "1.2.840.113549.1.9.16.0.7 id-smime-mod-ets-eSigPolicy-88",
   "1.2.840.113549.1.9.16.0.8 id-smime-mod-ets-eSigPolicy-97",
   "1.2.840.113549.1.9.16.1 id-smime-ct 1.2.840.113549.1.9.16.1.1 id-smime-ct-receipt",
   "1.2.840.113549.1.9.16.1.2 id-smime-ct-authData",
   "1.2.840.113549.1.9.16.1.3 id-smime-ct-publishCert",
   "1.2.840.113549.1.9.16.1.4 id-smime-ct-TSTInfo 1.2.840.113549.1.9.16.1.5 id-smime-ct-TDTInfo",
   "1.2.840.113549.1.9.16.1.6 id-smime-ct-contentInfo",
   "1.2.840.113549.1.9.16.1.7 id-smime-ct-DVCSRequestData",
   "1.2.840.113549.1.9.16.1.8 id-smime-ct-DVCSResponseData",
   "1.2.840.113549.1.9.16.1.9 id-smime-ct-compressedData",
   "1.2.840.113549.1.9.16.1.19 id-smime-ct-contentCollection",
   "1.2.840.113549.1.9.16.1.23 id-smime-ct-authEnvelopedData",
   "1.2.840.113549.1.9.16.1.24 id-ct-routeOriginAuthz",
   "1.2.840.113549.1.9.16.1.26 id-ct-rpkiManifest",
   "1.2.840.113549.1.9.16.1.27 id-ct-asciiTextWithCRLF 1.2.840.113549.1.9.16.1.28 id-ct-xml",
   "1.2.840.113549.1.9.16.1.35 id-ct-rpkiGhostbusters",
   "1.2.840.113549.1.9.16.1.36 id-ct-resourceTaggedAttest",
   "1.2.840.113549.1.9.16.1.47 id-ct-geofeedCSVwithCRLF",
   "1.2.840.113549.1.9.16.1.48 id-ct-signedChecklist 1.2.840.113549.1.9.16.2 id-smime-aa",
   "1.2.840.113549.1.9.16.2.1 id-smime-aa-receiptRequest",
   "1.2.840.113549.1.9.16.2.2 id-smime-aa-securityLabel",
   "1.2.840.113549.1.9.16.2.3 id-smime-aa-mlExpandHistory",
   "1.2.840.113549.1.9.16.2.4 id-smime-aa-contentHint",
   "1.2.840.113549.1.9.16.2.5 id-smime-aa-msgSigDigest",
   "1.2.840.113549.1.9.16.2.6 id-smime-aa-encapContentType",
   "1.2.840.113549.1.9.16.2.7 id-smime-aa-contentIdentifier",
   "1.2.840.113549.1.9.16.2.8 id-smime-aa-macValue",
   "1.2.840.113549.1.9.16.2.9 id-smime-aa-equivalentLabels",
   "1.2.840.113549.1.9.16.2.10 id-smime-aa-contentReference",
   "1.2.840.113549.1.9.16.2.11 id-smime-aa-encrypKeyPref",
   "1.2.840.113549.1.9.16.2.12 id-smime-aa-signingCertificate",
   "1.2.840.113549.1.9.16.2.13 id-smime-aa-smimeEncryptCerts",
   "1.2.840.113549.1.9.16.2.14 id-smime-aa-timeStampToken",
   "1.2.840.113549.1.9.16.2.15 id-smime-aa-ets-sigPolicyId",
   "1.2.840.113549.1.9.16.2.16 id-smime-aa-ets-commitmentType",
   "1.2.840.113549.1.9.16.2.17 id-smime-aa-ets-signerLocation",
   "1.2.840.113549.1.9.16.2.18 id-smime-aa-ets-signerAttr",
   "1.2.840.113549.1.9.16.2.19 id-smime-aa-ets-otherSigCert",
   "1.2.840.113549.1.9.16.2.20 id-smime-aa-ets-contentTimestamp",
   "1.2.840.113549.1.9.16.2.21 id-smime-aa-ets-CertificateRefs",
   "1.2.840.113549.1.9.16.2.22 id-smime-aa-ets-RevocationRefs",
   "1.2.840.113549.1.9.16.2.23 id-smime-aa-ets-certValues",
   "1.2.840.113549.1.9.16.2.24 id-smime-aa-ets-revocationValues",
   "1.2.840.113549.1.9.16.2.25 id-smime-aa-ets-escTimeStamp",
   "1.2.840.113549.1.9.16.2.26 id-smime-aa-ets-certCRLTimestamp",
   "1.2.840.113549.1.9.16.2.27 id-smime-aa-ets-archiveTimeStamp",
   "1.2.840.113549.1.9.16.2.28 id-smime-aa-signatureType",
   "1.2.840.113549.1.9.16.2.29 id-smime-aa-dvcs-dvc",
   "1.2.840.113549.1.9.16.2.47 id-smime-aa-signingCertificateV2",
   "1.2.840.113549.1.9.16.3 id-smime-alg 1.2.840.113549.1.9.16.3.1 id-smime-alg-ESDHwith3DES",
   "1.2.840.113549.1.9.16.3.2 id-smime-alg-ESDHwithRC2",
   "1.2.840.113549.1.9.16.3.3 id-smime-alg-3DESwrap",
   "1.2.840.113549.1.9.16.3.4 id-smime-alg-RC2wrap 1.2.840.113549.1.9.16.3.5 id-smime-alg-ESDH",
   "1.2.840.113549.1.9.16.3.6 id-smime-alg-CMS3DESwrap",
   "1.2.840.113549.1.9.16.3.7 id-smime-alg-CMSRC2wrap 1.2.840.113549.1.9.16.3.8 ZLIB",
   "1.2.840.113549.1.9.16.3.9 id-alg-PWRI-KEK 1.2.840.113549.1.9.16.4 id-smime-cd",
   "1.2.840.113549.1.9.16.4.1 id-smime-cd-ldap 1.2.840.113549.1.9.16.5 id-smime-spq",
   "1.2.840.113549.1.9.16.5.1 id-smime-spq-ets-sqt-uri",
   "1.2.840.113549.1.9.16.5.2 id-smime-spq-ets-sqt-unotice 1.2.840.113549.1.9.16.6 id-smime-cti",
   "1.2.840.113549.1.9.16.6.1 id-smime-cti-ets-proofOfOrigin",
   "1.2.840.113549.1.9.16.6.2 id-smime-cti-ets-proofOfReceipt",
   "1.2.840.113549.1.9.16.6.3 id-smime-cti-ets-proofOfDelivery",
   "1.2.840.113549.1.9.16.6.4 id-smime-cti-ets-proofOfSender",
   "1.2.840.113549.1.9.16.6.5 id-smime-cti-ets-proofOfApproval",
   "1.2.840.113549.1.9.16.6.6 id-smime-cti-ets-proofOfCreation",
   "1.2.840.113549.1.9.20 friendlyName 1.2.840.113549.1.9.21 localKeyID",
   "1.2.840.113549.1.9.22.1 x509Certificate 1.2.840.113549.1.9.22.2 sdsiCertificate",
   "1.2.840.113549.1.9.23.1 x509Crl 1.2.840.113549.1.12.1.1 PBE-SHA1-RC4-128",
   "1.2.840.113549.1.12.1.2 PBE-SHA1-RC4-40 1.2.840.113549.1.12.1.3 PBE-SHA1-3DES",
   "1.2.840.113549.1.12.1.4 PBE-SHA1-2DES 1.2.840.113549.1.12.1.5 PBE-SHA1-RC2-128",
   "1.2.840.113549.1.12.1.6 PBE-SHA1-RC2-40 1.2.840.113549.1.12.10.1.1 keyBag",
   "1.2.840.113549.1.12.10.1.2 pkcs8ShroudedKeyBag 1.2.840.113549.1.12.10.1.3 certBag",
   "1.2.840.113549.1.12.10.1.4 crlBag 1.2.840.113549.1.12.10.1.5 secretBag",
   "1.2.840.113549.1.12.10.1.6 safeContentsBag 1.2.840.113549.2.2 MD2 1.2.840.113549.2.4 MD4",
   "1.2.840.113549.2.5 MD5 1.2.840.113549.2.6 hmacWithMD5 1.2.840.113549.2.7 hmacWithSHA1",
   "1.2.840.113549.2.8 hmacWithSHA224 1.2.840.113549.2.9 hmacWithSHA256",
   "1.2.840.113549.2.10 hmacWithSHA384 1.2.840.113549.2.11 hmacWithSHA512",
   "1.2.840.113549.2.12 hmacWithSHA512-224 1.2.840.113549.2.13 hmacWithSHA512-256",
   "1.2.840.113549.3.2 RC2-CBC 1.2.840.113549.3.4 RC4 1.2.840.113549.3.7 DES-EDE3-CBC",
   "1.2.840.113549.3.8 RC5-CBC 1.2.840.113549.3.10 DES-CDMF 1.3 ORG 1.3.6 DOD 1.3.6.1 IANA",
   "1.3.6.1.1 directory 1.3.6.1.2 mgmt 1.3.6.1.3 experimental 1.3.6.1.4 private",
   "1.3.6.1.4.1 enterprises 1.3.6.1.4.1.188.7.1.1.2 IDEA-CBC 1.3.6.1.4.1.311.2.1.14 msExtReq",
   "1.3.6.1.4.1.311.2.1.21 msCodeInd 1.3.6.1.4.1.311.2.1.22 msCodeCom",
   "1.3.6.1.4.1.311.10.3.1 msCTLSign 1.3.6.1.4.1.311.10.3.3 msSGC 1.3.6.1.4.1.311.10.3.4 msEFS",
   "1.3.6.1.4.1.311.17.1 CSPName 1.3.6.1.4.1.311.17.2 LocalKeySet",
   "1.3.6.1.4.1.311.20.2.2 msSmartcardLogin 1.3.6.1.4.1.311.20.2.3 msUPN",
   "1.3.6.1.4.1.311.60.2.1.1 jurisdictionL 1.3.6.1.4.1.311.60.2.1.2 jurisdictionST",
   "1.3.6.1.4.1.311.60.2.1.3 jurisdictionC 1.3.6.1.4.1.1466.344 dcobject",
   "1.3.6.1.4.1.1722.12.2.1 BLAKE2BMAC 1.3.6.1.4.1.1722.12.2.1.16 BLAKE2b512",
   "1.3.6.1.4.1.1722.12.2.2 BLAKE2SMAC 1.3.6.1.4.1.1722.12.2.2.8 BLAKE2s256",
   "1.3.6.1.4.1.3029.1.2 BF-CBC 1.3.6.1.4.1.11129.2.4.2 ct_precert_scts",
   "1.3.6.1.4.1.11129.2.4.3 ct_precert_poison 1.3.6.1.4.1.11129.2.4.4 ct_precert_signer",
   "1.3.6.1.4.1.11129.2.4.5 ct_cert_scts 1.3.6.1.4.1.11591.4.11 id-scrypt 1.3.6.1.5 security",
   "1.3.6.1.5.2.3 id-pkinit 1.3.6.1.5.2.3.4 pkInitClientAuth 1.3.6.1.5.2.3.5 pkInitKDC",
   "1.3.6.1.5.5.7 PKIX 1.3.6.1.5.5.7.0 id-pkix-mod 1.3.6.1.5.5.7.0.1 id-pkix1-explicit-88",
   "1.3.6.1.5.5.7.0.2 id-pkix1-implicit-88 1.3.6.1.5.5.7.0.3 id-pkix1-explicit-93",
   "1.3.6.1.5.5.7.0.4 id-pkix1-implicit-93 1.3.6.1.5.5.7.0.5 id-mod-crmf",
   "1.3.6.1.5.5.7.0.6 id-mod-cmc 1.3.6.1.5.5.7.0.7 id-mod-kea-profile-88",
   "1.3.6.1.5.5.7.0.8 id-mod-kea-profile-93 1.3.6.1.5.5.7.0.9 id-mod-cmp",
   "1.3.6.1.5.5.7.0.10 id-mod-qualified-cert-88 1.3.6.1.5.5.7.0.11 id-mod-qualified-cert-93",
   "1.3.6.1.5.5.7.0.12 id-mod-attribute-cert 1.3.6.1.5.5.7.0.13 id-mod-timestamp-protocol",
   "1.3.6.1.5.5.7.0.14 id-mod-ocsp 1.3.6.1.5.5.7.0.15 id-mod-dvcs",
   "1.3.6.1.5.5.7.0.16 id-mod-cmp2000 1.3.6.1.5.5.7.1 id-pe",
   "1.3.6.1.5.5.7.1.1 authorityInfoAccess 1.3.6.1.5.5.7.1.2 biometricInfo",
   "1.3.6.1.5.5.7.1.3 qcStatements 1.3.6.1.5.5.7.1.4 ac-auditEntity",
   "1.3.6.1.5.5.7.1.5 ac-targeting 1.3.6.1.5.5.7.1.6 aaControls",
   "1.3.6.1.5.5.7.1.7 sbgp-ipAddrBlock 1.3.6.1.5.5.7.1.8 sbgp-autonomousSysNum",
   "1.3.6.1.5.5.7.1.9 sbgp-routerIdentifier 1.3.6.1.5.5.7.1.10 ac-proxying",
   "1.3.6.1.5.5.7.1.11 subjectInfoAccess 1.3.6.1.5.5.7.1.14 proxyCertInfo",
   "1.3.6.1.5.5.7.1.24 tlsfeature 1.3.6.1.5.5.7.1.28 sbgp-ipAddrBlockv2",
   "1.3.6.1.5.5.7.1.29 sbgp-autonomousSysNumv2 1.3.6.1.5.5.7.2 id-qt",
   "1.3.6.1.5.5.7.2.1 id-qt-cps 1.3.6.1.5.5.7.2.2 id-qt-unotice 1.3.6.1.5.5.7.2.3 textNotice",
   "1.3.6.1.5.5.7.3 id-kp 1.3.6.1.5.5.7.3.1 serverAuth 1.3.6.1.5.5.7.3.2 clientAuth",
   "1.3.6.1.5.5.7.3.3 codeSigning 1.3.6.1.5.5.7.3.4 emailProtection",
   "1.3.6.1.5.5.7.3.5 ipsecEndSystem 1.3.6.1.5.5.7.3.6 ipsecTunnel 1.3.6.1.5.5.7.3.7 ipsecUser",
   "1.3.6.1.5.5.7.3.8 timeStamping 1.3.6.1.5.5.7.3.9 OCSPSigning 1.3.6.1.5.5.7.3.10 DVCS",
   "1.3.6.1.5.5.7.3.17 ipsecIKE 1.3.6.1.5.5.7.3.18 capwapAC 1.3.6.1.5.5.7.3.19 capwapWTP",
   "1.3.6.1.5.5.7.3.21 secureShellClient 1.3.6.1.5.5.7.3.22 secureShellServer",
   "1.3.6.1.5.5.7.3.23 sendRouter 1.3.6.1.5.5.7.3.24 sendProxiedRouter",
   "1.3.6.1.5.5.7.3.25 sendOwner 1.3.6.1.5.5.7.3.26 sendProxiedOwner 1.3.6.1.5.5.7.3.27 cmcCA",
   "1.3.6.1.5.5.7.3.28 cmcRA 1.3.6.1.5.5.7.3.29 cmcArchive",
   "1.3.6.1.5.5.7.3.30 id-kp-bgpsec-router",
   "1.3.6.1.5.5.7.3.31 id-kp-BrandIndicatorforMessageIdentification 1.3.6.1.5.5.7.3.32 cmKGA",
   "1.3.6.1.5.5.7.4 id-it 1.3.6.1.5.5.7.4.1 id-it-caProtEncCert",
   "1.3.6.1.5.5.7.4.2 id-it-signKeyPairTypes 1.3.6.1.5.5.7.4.3 id-it-encKeyPairTypes",
   "1.3.6.1.5.5.7.4.4 id-it-preferredSymmAlg 1.3.6.1.5.5.7.4.5 id-it-caKeyUpdateInfo",
   "1.3.6.1.5.5.7.4.6 id-it-currentCRL 1.3.6.1.5.5.7.4.7 id-it-unsupportedOIDs",
   "1.3.6.1.5.5.7.4.8 id-it-subscriptionRequest 1.3.6.1.5.5.7.4.9 id-it-subscriptionResponse",
   "1.3.6.1.5.5.7.4.10 id-it-keyPairParamReq 1.3.6.1.5.5.7.4.11 id-it-keyPairParamRep",
   "1.3.6.1.5.5.7.4.12 id-it-revPassphrase 1.3.6.1.5.5.7.4.13 id-it-implicitConfirm",
   "1.3.6.1.5.5.7.4.14 id-it-confirmWaitTime 1.3.6.1.5.5.7.4.15 id-it-origPKIMessage",
   "1.3.6.1.5.5.7.4.16 id-it-suppLangTags 1.3.6.1.5.5.7.4.17 id-it-caCerts",
   "1.3.6.1.5.5.7.4.18 id-it-rootCaKeyUpdate 1.3.6.1.5.5.7.4.19 id-it-certReqTemplate",
   "1.3.6.1.5.5.7.5 id-pkip 1.3.6.1.5.5.7.5.1 id-regCtrl",
   "1.3.6.1.5.5.7.5.1.1 id-regCtrl-regToken 1.3.6.1.5.5.7.5.1.2 id-regCtrl-authenticator",
   "1.3.6.1.5.5.7.5.1.3 id-regCtrl-pkiPublicationInfo",
   "1.3.6.1.5.5.7.5.1.4 id-regCtrl-pkiArchiveOptions 1.3.6.1.5.5.7.5.1.5 id-regCtrl-oldCertID",
   "1.3.6.1.5.5.7.5.1.6 id-regCtrl-protocolEncrKey 1.3.6.1.5.5.7.5.2 id-regInfo",
   "1.3.6.1.5.5.7.5.2.1 id-regInfo-utf8Pairs 1.3.6.1.5.5.7.5.2.2 id-regInfo-certReq",
   "1.3.6.1.5.5.7.6 id-alg 1.3.6.1.5.5.7.6.1 id-alg-des40 1.3.6.1.5.5.7.6.2 id-alg-noSignature",
   "1.3.6.1.5.5.7.6.3 id-alg-dh-sig-hmac-sha1 1.3.6.1.5.5.7.6.4 id-alg-dh-pop",
   "1.3.6.1.5.5.7.7 id-cmc 1.3.6.1.5.5.7.7.1 id-cmc-statusInfo",
   "1.3.6.1.5.5.7.7.2 id-cmc-identification 1.3.6.1.5.5.7.7.3 id-cmc-identityProof",
   "1.3.6.1.5.5.7.7.4 id-cmc-dataReturn 1.3.6.1.5.5.7.7.5 id-cmc-transactionId",
   "1.3.6.1.5.5.7.7.6 id-cmc-senderNonce 1.3.6.1.5.5.7.7.7 id-cmc-recipientNonce",
   "1.3.6.1.5.5.7.7.8 id-cmc-addExtensions 1.3.6.1.5.5.7.7.9 id-cmc-encryptedPOP",
   "1.3.6.1.5.5.7.7.10 id-cmc-decryptedPOP 1.3.6.1.5.5.7.7.11 id-cmc-lraPOPWitness",
   "1.3.6.1.5.5.7.7.15 id-cmc-getCert 1.3.6.1.5.5.7.7.16 id-cmc-getCRL",
   "1.3.6.1.5.5.7.7.17 id-cmc-revokeRequest 1.3.6.1.5.5.7.7.18 id-cmc-regInfo",
   "1.3.6.1.5.5.7.7.19 id-cmc-responseInfo 1.3.6.1.5.5.7.7.21 id-cmc-queryPending",
   "1.3.6.1.5.5.7.7.22 id-cmc-popLinkRandom 1.3.6.1.5.5.7.7.23 id-cmc-popLinkWitness",
   "1.3.6.1.5.5.7.7.24 id-cmc-confirmCertAcceptance 1.3.6.1.5.5.7.8 id-on",
   "1.3.6.1.5.5.7.8.1 id-on-personalData 1.3.6.1.5.5.7.8.3 id-on-permanentIdentifier",
   "1.3.6.1.5.5.7.8.5 id-on-xmppAddr 1.3.6.1.5.5.7.8.7 id-on-dnsSRV",
   "1.3.6.1.5.5.7.8.8 id-on-NAIRealm 1.3.6.1.5.5.7.8.9 id-on-SmtpUTF8Mailbox",
   "1.3.6.1.5.5.7.9 id-pda 1.3.6.1.5.5.7.9.1 id-pda-dateOfBirth",
   "1.3.6.1.5.5.7.9.2 id-pda-placeOfBirth 1.3.6.1.5.5.7.9.3 id-pda-gender",
   "1.3.6.1.5.5.7.9.4 id-pda-countryOfCitizenship 1.3.6.1.5.5.7.9.5 id-pda-countryOfResidence",
   "1.3.6.1.5.5.7.10 id-aca 1.3.6.1.5.5.7.10.1 id-aca-authenticationInfo",
   "1.3.6.1.5.5.7.10.2 id-aca-accessIdentity 1.3.6.1.5.5.7.10.3 id-aca-chargingIdentity",
   "1.3.6.1.5.5.7.10.4 id-aca-group 1.3.6.1.5.5.7.10.5 id-aca-role",
   "1.3.6.1.5.5.7.10.6 id-aca-encAttrs 1.3.6.1.5.5.7.11 id-qcs",
   "1.3.6.1.5.5.7.11.1 id-qcs-pkixQCSyntax-v1 1.3.6.1.5.5.7.12 id-cct",
   "1.3.6.1.5.5.7.12.1 id-cct-crs 1.3.6.1.5.5.7.12.2 id-cct-PKIData",
   "1.3.6.1.5.5.7.12.3 id-cct-PKIResponse 1.3.6.1.5.5.7.14 id-cp",
   "1.3.6.1.5.5.7.14.2 ipAddr-asNumber 1.3.6.1.5.5.7.14.3 ipAddr-asNumberv2",
   "1.3.6.1.5.5.7.21 id-ppl 1.3.6.1.5.5.7.21.0 id-ppl-anyLanguage",
   "1.3.6.1.5.5.7.21.1 id-ppl-inheritAll 1.3.6.1.5.5.7.21.2 id-ppl-independent",
   "1.3.6.1.5.5.7.48 id-ad 1.3.6.1.5.5.7.48.1 OCSP 1.3.6.1.5.5.7.48.1.1 basicOCSPResponse",
   "1.3.6.1.5.5.7.48.1.2 Nonce 1.3.6.1.5.5.7.48.1.3 CrlID",
   "1.3.6.1.5.5.7.48.1.4 acceptableResponses 1.3.6.1.5.5.7.48.1.5 noCheck",
   "1.3.6.1.5.5.7.48.1.6 archiveCutoff 1.3.6.1.5.5.7.48.1.7 serviceLocator",
   "1.3.6.1.5.5.7.48.1.8 extendedStatus 1.3.6.1.5.5.7.48.1.9 valid 1.3.6.1.5.5.7.48.1.10 path",
   "1.3.6.1.5.5.7.48.1.11 trustRoot 1.3.6.1.5.5.7.48.2 caIssuers",
   "1.3.6.1.5.5.7.48.3 ad_timestamping 1.3.6.1.5.5.7.48.4 AD_DVCS",
   "1.3.6.1.5.5.7.48.5 caRepository 1.3.6.1.5.5.7.48.10 rpkiManifest",
   "1.3.6.1.5.5.7.48.11 signedObject 1.3.6.1.5.5.7.48.13 rpkiNotify 1.3.6.1.5.5.8.1.1 HMAC-MD5",
   "1.3.6.1.5.5.8.1.2 HMAC-SHA1 1.3.6.1.6 snmpv2 1.3.6.1.7 Mail 1.3.6.1.7.1 mime-mhs",
   "1.3.6.1.7.1.1 mime-mhs-headings 1.3.6.1.7.1.1.1 id-hex-partial-message",
   "1.3.6.1.7.1.1.2 id-hex-multipart-message 1.3.6.1.7.1.2 mime-mhs-bodies 1.3.14.3.2 algorithm",
   "1.3.14.3.2.3 RSA-NP-MD5 1.3.14.3.2.6 DES-ECB 1.3.14.3.2.7 DES-CBC 1.3.14.3.2.8 DES-OFB",
   "1.3.14.3.2.9 DES-CFB 1.3.14.3.2.11 rsaSignature 1.3.14.3.2.12 DSA-old 1.3.14.3.2.13 DSA-SHA",
   "1.3.14.3.2.15 RSA-SHA 1.3.14.3.2.17 DES-EDE 1.3.14.3.2.18 SHA 1.3.14.3.2.26 SHA1",
   "1.3.14.3.2.27 DSA-SHA1-old 1.3.14.3.2.29 RSA-SHA1-2 1.3.36.3.2.1 RIPEMD160",
   "1.3.36.3.3.1.2 RSA-RIPEMD160 1.3.36.3.3.2.8.1.1.1 brainpoolP160r1",
   "1.3.36.3.3.2.8.1.1.2 brainpoolP160t1 1.3.36.3.3.2.8.1.1.3 brainpoolP192r1",
   "1.3.36.3.3.2.8.1.1.4 brainpoolP192t1 1.3.36.3.3.2.8.1.1.5 brainpoolP224r1",
   "1.3.36.3.3.2.8.1.1.6 brainpoolP224t1 1.3.36.3.3.2.8.1.1.7 brainpoolP256r1",
   "1.3.36.3.3.2.8.1.1.8 brainpoolP256t1 1.3.36.3.3.2.8.1.1.9 brainpoolP320r1",
   "1.3.36.3.3.2.8.1.1.10 brainpoolP320t1 1.3.36.3.3.2.8.1.1.11 brainpoolP384r1",
   "1.3.36.3.3.2.8.1.1.12 brainpoolP384t1 1.3.36.3.3.2.8.1.1.13 brainpoolP512r1",
   "1.3.36.3.3.2.8.1.1.14 brainpoolP512t1 1.3.36.8.3.3 x509ExtAdmission 1.3.101.1.4.1 SXNetID",
   "1.3.101.110 X25519 1.3.101.111 X448 1.3.101.112 ED25519 1.3.101.113 ED448 1.3.111 ieee",
   "1.3.111.2.1619 ieee-siswg 1.3.111.2.1619.0.1.1 AES-128-XTS 1.3.111.2.1619.0.1.2 AES-256-XTS",
   "1.3.132 certicom-arc 1.3.132.0.1 sect163k1 1.3.132.0.2 sect163r1 1.3.132.0.3 sect239k1",
   "1.3.132.0.4 sect113r1 1.3.132.0.5 sect113r2 1.3.132.0.6 secp112r1 1.3.132.0.7 secp112r2",
   "1.3.132.0.8 secp160r1 1.3.132.0.9 secp160k1 1.3.132.0.10 secp256k1 1.3.132.0.15 sect163r2",
   "1.3.132.0.16 sect283k1 1.3.132.0.17 sect283r1 1.3.132.0.22 sect131r1 1.3.132.0.23 sect131r2",
   "1.3.132.0.24 sect193r1 1.3.132.0.25 sect193r2 1.3.132.0.26 sect233k1 1.3.132.0.27 sect233r1",
   "1.3.132.0.28 secp128r1 1.3.132.0.29 secp128r2 1.3.132.0.30 secp160r2 1.3.132.0.31 secp192k1",
   "1.3.132.0.32 secp224k1 1.3.132.0.33 secp224r1 1.3.132.0.34 secp384r1 1.3.132.0.35 secp521r1",
   "1.3.132.0.36 sect409k1 1.3.132.0.37 sect409r1 1.3.132.0.38 sect571k1 1.3.132.0.39 sect571r1",
   "1.3.132.1.11.0 dhSinglePass-stdDH-sha224kdf-scheme",
   "1.3.132.1.11.1 dhSinglePass-stdDH-sha256kdf-scheme",
   "1.3.132.1.11.2 dhSinglePass-stdDH-sha384kdf-scheme",
   "1.3.132.1.11.3 dhSinglePass-stdDH-sha512kdf-scheme",
   "1.3.132.1.14.0 dhSinglePass-cofactorDH-sha224kdf-scheme",
   "1.3.132.1.14.1 dhSinglePass-cofactorDH-sha256kdf-scheme",
   "1.3.132.1.14.2 dhSinglePass-cofactorDH-sha384kdf-scheme",
   "1.3.132.1.14.3 dhSinglePass-cofactorDH-sha512kdf-scheme",
   "1.3.133.16.840.63.0.2 dhSinglePass-stdDH-sha1kdf-scheme",
   "1.3.133.16.840.63.0.3 dhSinglePass-cofactorDH-sha1kdf-scheme 2.5 X500",
   "2.5.1.5 selected-attribute-types 2.5.1.5.55 clearance 2.5.4 X509 2.5.4.3 CN 2.5.4.4 SN",
   "2.5.4.5 serialNumber 2.5.4.6 C 2.5.4.7 L 2.5.4.8 ST 2.5.4.9 street 2.5.4.10 O 2.5.4.11 OU",
   "2.5.4.12 title 2.5.4.13 description 2.5.4.14 searchGuide 2.5.4.15 businessCategory",
   "2.5.4.16 postalAddress 2.5.4.17 postalCode 2.5.4.18 postOfficeBox",
   "2.5.4.19 physicalDeliveryOfficeName 2.5.4.20 telephoneNumber 2.5.4.21 telexNumber",
   "2.5.4.22 teletexTerminalIdentifier 2.5.4.23 facsimileTelephoneNumber 2.5.4.24 x121Address",
   "2.5.4.25 internationaliSDNNumber 2.5.4.26 registeredAddress 2.5.4.27 destinationIndicator",
   "2.5.4.28 preferredDeliveryMethod 2.5.4.29 presentationAddress",
   "2.5.4.30 supportedApplicationContext 2.5.4.31 member 2.5.4.32 owner 2.5.4.33 roleOccupant",
   "2.5.4.34 seeAlso 2.5.4.35 userPassword 2.5.4.36 userCertificate 2.5.4.37 cACertificate",
   "2.5.4.38 authorityRevocationList 2.5.4.39 certificateRevocationList",
   "2.5.4.40 crossCertificatePair 2.5.4.41 name 2.5.4.42 GN 2.5.4.43 initials",
   "2.5.4.44 generationQualifier 2.5.4.45 x500UniqueIdentifier 2.5.4.46 dnQualifier",
   "2.5.4.47 enhancedSearchGuide 2.5.4.48 protocolInformation 2.5.4.49 distinguishedName",
   "2.5.4.50 uniqueMember 2.5.4.51 houseIdentifier 2.5.4.52 supportedAlgorithms",
   "2.5.4.53 deltaRevocationList 2.5.4.54 dmdName 2.5.4.65 pseudonym 2.5.4.72 role",
   "2.5.4.97 organizationIdentifier 2.5.4.98 c3 2.5.4.99 n3 2.5.4.100 dnsName",
   "2.5.8 X500algorithms 2.5.8.1.1 RSA 2.5.8.3.100 RSA-MDC2 2.5.8.3.101 MDC2 2.5.29 id-ce",
   "2.5.29.9 subjectDirectoryAttributes 2.5.29.14 subjectKeyIdentifier 2.5.29.15 keyUsage",
   "2.5.29.16 privateKeyUsagePeriod 2.5.29.17 subjectAltName 2.5.29.18 issuerAltName",
   "2.5.29.19 basicConstraints 2.5.29.20 crlNumber 2.5.29.21 CRLReason",
   "2.5.29.23 holdInstructionCode 2.5.29.24 invalidityDate 2.5.29.27 deltaCRL",
   "2.5.29.28 issuingDistributionPoint 2.5.29.29 certificateIssuer 2.5.29.30 nameConstraints",
   "2.5.29.31 crlDistributionPoints 2.5.29.32 certificatePolicies 2.5.29.32.0 anyPolicy",
   "2.5.29.33 policyMappings 2.5.29.35 authorityKeyIdentifier 2.5.29.36 policyConstraints",
   "2.5.29.37 extendedKeyUsage 2.5.29.37.0 anyExtendedKeyUsage",
   "2.5.29.38 authorityAttributeIdentifier 2.5.29.39 roleSpecCertIdentifier",
   "2.5.29.41 basicAttConstraints 2.5.29.42 delegatedNameConstraints",
   "2.5.29.43 timeSpecification 2.5.29.46 freshestCRL 2.5.29.48 attributeDescriptor",
   "2.5.29.49 userNotice 2.5.29.50 sOAIdentifier 2.5.29.52 acceptableCertPolicies",
   "2.5.29.54 inhibitAnyPolicy 2.5.29.55 targetInformation 2.5.29.56 noRevAvail",
   "2.5.29.57 acceptablePrivPolicies 2.5.29.61 indirectIssuer",
   "2.5.29.63 aAissuingDistributionPoint 2.5.29.64 issuedOnBehalfOf 2.5.29.65 singleUse",
   "2.5.29.66 groupAC 2.5.29.67 allowedAttributeAssignments 2.5.29.68 attributeMappings",
   "2.5.29.69 holderNameConstraints 2.5.29.70 authorizationValidation 2.5.29.71 protRestrict",
   "2.5.29.72 subjectAltPublicKeyInfo 2.5.29.73 altSignatureAlgorithm",
   "2.5.29.74 altSignatureValue 2.5.29.75 associatedInformation",
   "2.16.840.1.101.3.4.1.1 AES-128-ECB 2.16.840.1.101.3.4.1.2 AES-128-CBC",
   "2.16.840.1.101.3.4.1.3 AES-128-OFB 2.16.840.1.101.3.4.1.4 AES-128-CFB",
   "2.16.840.1.101.3.4.1.5 id-aes128-wrap 2.16.840.1.101.3.4.1.6 id-aes128-GCM",
   "2.16.840.1.101.3.4.1.7 id-aes128-CCM 2.16.840.1.101.3.4.1.8 id-aes128-wrap-pad",
   "2.16.840.1.101.3.4.1.21 AES-192-ECB 2.16.840.1.101.3.4.1.22 AES-192-CBC",
   "2.16.840.1.101.3.4.1.23 AES-192-OFB 2.16.840.1.101.3.4.1.24 AES-192-CFB",
   "2.16.840.1.101.3.4.1.25 id-aes192-wrap 2.16.840.1.101.3.4.1.26 id-aes192-GCM",
   "2.16.840.1.101.3.4.1.27 id-aes192-CCM 2.16.840.1.101.3.4.1.28 id-aes192-wrap-pad",
   "2.16.840.1.101.3.4.1.41 AES-256-ECB 2.16.840.1.101.3.4.1.42 AES-256-CBC",
   "2.16.840.1.101.3.4.1.43 AES-256-OFB 2.16.840.1.101.3.4.1.44 AES-256-CFB",
   "2.16.840.1.101.3.4.1.45 id-aes256-wrap 2.16.840.1.101.3.4.1.46 id-aes256-GCM",
   "2.16.840.1.101.3.4.1.47 id-aes256-CCM 2.16.840.1.101.3.4.1.48 id-aes256-wrap-pad",
   "2.16.840.1.101.3.4.2.1 SHA256 2.16.840.1.101.3.4.2.2 SHA384 2.16.840.1.101.3.4.2.3 SHA512",
   "2.16.840.1.101.3.4.2.4 SHA224 2.16.840.1.101.3.4.2.5 SHA512-224",
   "2.16.840.1.101.3.4.2.6 SHA512-256 2.16.840.1.101.3.4.2.7 SHA3-224",
   "2.16.840.1.101.3.4.2.8 SHA3-256 2.16.840.1.101.3.4.2.9 SHA3-384",
   "2.16.840.1.101.3.4.2.10 SHA3-512 2.16.840.1.101.3.4.2.11 SHAKE128",
   "2.16.840.1.101.3.4.2.12 SHAKE256 2.16.840.1.101.3.4.2.13 id-hmacWithSHA3-224",
   "2.16.840.1.101.3.4.2.14 id-hmacWithSHA3-256 2.16.840.1.101.3.4.2.15 id-hmacWithSHA3-384",
   "2.16.840.1.101.3.4.2.16 id-hmacWithSHA3-512 2.16.840.1.101.3.4.2.19 KMAC128",
   "2.16.840.1.101.3.4.2.20 KMAC256 2.16.840.1.101.3.4.3.1 dsa_with_SHA224",
   "2.16.840.1.101.3.4.3.2 dsa_with_SHA256 2.16.840.1.101.3.4.3.3 id-dsa-with-sha384",
   "2.16.840.1.101.3.4.3.4 id-dsa-with-sha512 2.16.840.1.101.3.4.3.5 id-dsa-with-sha3-224",
   "2.16.840.1.101.3.4.3.6 id-dsa-with-sha3-256 2.16.840.1.101.3.4.3.7 id-dsa-with-sha3-384",
   "2.16.840.1.101.3.4.3.8 id-dsa-with-sha3-512 2.16.840.1.101.3.4.3.9 id-ecdsa-with-sha3-224",
   "2.16.840.1.101.3.4.3.10 id-ecdsa-with-sha3-256",
   "2.16.840.1.101.3.4.3.11 id-ecdsa-with-sha3-384",
   "2.16.840.1.101.3.4.3.12 id-ecdsa-with-sha3-512",
   "2.16.840.1.101.3.4.3.13 id-rsassa-pkcs1-v1_5-with-sha3-224",
   "2.16.840.1.101.3.4.3.14 id-rsassa-pkcs1-v1_5-with-sha3-256",
   "2.16.840.1.101.3.4.3.15 id-rsassa-pkcs1-v1_5-with-sha3-384",
   "2.16.840.1.101.3.4.3.16 id-rsassa-pkcs1-v1_5-with-sha3-512",
   "2.16.840.1.101.3.4.3.17 id-ml-dsa-44 2.16.840.1.101.3.4.3.18 id-ml-dsa-65",
   "2.16.840.1.101.3.4.3.19 id-ml-dsa-87 2.16.840.1.101.3.4.4.1 id-alg-ml-kem-512",
   "2.16.840.1.101.3.4.4.2 id-alg-ml-kem-768 2.16.840.1.101.3.4.4.3 id-alg-ml-kem-1024",
   "2.16.840.1.113730 Netscape 2.16.840.1.113730.1 nsCertExt 2.16.840.1.113730.1.1 nsCertType",
   "2.16.840.1.113730.1.2 nsBaseUrl 2.16.840.1.113730.1.3 nsRevocationUrl",
   "2.16.840.1.113730.1.4 nsCaRevocationUrl 2.16.840.1.113730.1.7 nsRenewalUrl",
   "2.16.840.1.113730.1.8 nsCaPolicyUrl 2.16.840.1.113730.1.12 nsSslServerName",
   "2.16.840.1.113730.1.13 nsComment 2.16.840.1.113730.2 nsDataType",
   "2.16.840.1.113730.2.5 nsCertSequence 2.16.840.1.113730.4.1 nsSGC",
   "2.23 international-organizations 2.23.42 id-set 2.23.42.0 set-ctype",
   "2.23.42.0.0 setct-PANData 2.23.42.0.1 setct-PANToken 2.23.42.0.2 setct-PANOnly",
   "2.23.42.0.3 setct-OIData 2.23.42.0.4 setct-PI 2.23.42.0.5 setct-PIData",
   "2.23.42.0.6 setct-PIDataUnsigned 2.23.42.0.7 setct-HODInput",
   "2.23.42.0.8 setct-AuthResBaggage 2.23.42.0.9 setct-AuthRevReqBaggage",
   "2.23.42.0.10 setct-AuthRevResBaggage 2.23.42.0.11 setct-CapTokenSeq",
   "2.23.42.0.12 setct-PInitResData 2.23.42.0.13 setct-PI-TBS 2.23.42.0.14 setct-PResData",
   "2.23.42.0.16 setct-AuthReqTBS 2.23.42.0.17 setct-AuthResTBS 2.23.42.0.18 setct-AuthResTBSX",
   "2.23.42.0.19 setct-AuthTokenTBS 2.23.42.0.20 setct-CapTokenData",
   "2.23.42.0.21 setct-CapTokenTBS 2.23.42.0.22 setct-AcqCardCodeMsg",
   "2.23.42.0.23 setct-AuthRevReqTBS 2.23.42.0.24 setct-AuthRevResData",
   "2.23.42.0.25 setct-AuthRevResTBS 2.23.42.0.26 setct-CapReqTBS 2.23.42.0.27 setct-CapReqTBSX",
   "2.23.42.0.28 setct-CapResData 2.23.42.0.29 setct-CapRevReqTBS",
   "2.23.42.0.30 setct-CapRevReqTBSX 2.23.42.0.31 setct-CapRevResData",
   "2.23.42.0.32 setct-CredReqTBS 2.23.42.0.33 setct-CredReqTBSX 2.23.42.0.34 setct-CredResData",
   "2.23.42.0.35 setct-CredRevReqTBS 2.23.42.0.36 setct-CredRevReqTBSX",
   "2.23.42.0.37 setct-CredRevResData 2.23.42.0.38 setct-PCertReqData",
   "2.23.42.0.39 setct-PCertResTBS 2.23.42.0.40 setct-BatchAdminReqData",
   "2.23.42.0.41 setct-BatchAdminResData 2.23.42.0.42 setct-CardCInitResTBS",
   "2.23.42.0.43 setct-MeAqCInitResTBS 2.23.42.0.44 setct-RegFormResTBS",
   "2.23.42.0.45 setct-CertReqData 2.23.42.0.46 setct-CertReqTBS 2.23.42.0.47 setct-CertResData",
   "2.23.42.0.48 setct-CertInqReqTBS 2.23.42.0.49 setct-ErrorTBS",
   "2.23.42.0.50 setct-PIDualSignedTBE 2.23.42.0.51 setct-PIUnsignedTBE",
   "2.23.42.0.52 setct-AuthReqTBE 2.23.42.0.53 setct-AuthResTBE 2.23.42.0.54 setct-AuthResTBEX",
   "2.23.42.0.55 setct-AuthTokenTBE 2.23.42.0.56 setct-CapTokenTBE",
   "2.23.42.0.57 setct-CapTokenTBEX 2.23.42.0.58 setct-AcqCardCodeMsgTBE",
   "2.23.42.0.59 setct-AuthRevReqTBE 2.23.42.0.60 setct-AuthRevResTBE",
   "2.23.42.0.61 setct-AuthRevResTBEB 2.23.42.0.62 setct-CapReqTBE",
   "2.23.42.0.63 setct-CapReqTBEX 2.23.42.0.64 setct-CapResTBE 2.23.42.0.65 setct-CapRevReqTBE",
   "2.23.42.0.66 setct-CapRevReqTBEX 2.23.42.0.67 setct-CapRevResTBE",
   "2.23.42.0.68 setct-CredReqTBE 2.23.42.0.69 setct-CredReqTBEX 2.23.42.0.70 setct-CredResTBE",
   "2.23.42.0.71 setct-CredRevReqTBE 2.23.42.0.72 setct-CredRevReqTBEX",
   "2.23.42.0.73 setct-CredRevResTBE 2.23.42.0.74 setct-BatchAdminReqTBE",
   "2.23.42.0.75 setct-BatchAdminResTBE 2.23.42.0.76 setct-RegFormReqTBE",
   "2.23.42.0.77 setct-CertReqTBE 2.23.42.0.78 setct-CertReqTBEX 2.23.42.0.79 setct-CertResTBE",
   "2.23.42.0.80 setct-CRLNotificationTBS 2.23.42.0.81 setct-CRLNotificationResTBS",
   "2.23.42.0.82 setct-BCIDistributionTBS 2.23.42.1 set-msgExt 2.23.42.1.1 setext-genCrypt",
   "2.23.42.1.3 setext-miAuth 2.23.42.1.4 setext-pinSecure 2.23.42.1.5 setext-pinAny",
   "2.23.42.1.7 setext-track2 2.23.42.1.8 setext-cv 2.23.42.3 set-attr 2.23.42.3.0 setAttr-Cert",
   "2.23.42.3.0.0 set-rootKeyThumb 2.23.42.3.0.1 set-addPolicy 2.23.42.3.1 setAttr-PGWYcap",
   "2.23.42.3.2 setAttr-TokenType 2.23.42.3.2.1 setAttr-Token-EMV",
   "2.23.42.3.2.2 setAttr-Token-B0Prime 2.23.42.3.3 setAttr-IssCap",
   "2.23.42.3.3.3 setAttr-IssCap-CVM 2.23.42.3.3.3.1 setAttr-GenCryptgrm",
   "2.23.42.3.3.4 setAttr-IssCap-T2 2.23.42.3.3.4.1 setAttr-T2Enc",
   "2.23.42.3.3.4.2 setAttr-T2cleartxt 2.23.42.3.3.5 setAttr-IssCap-Sig",
   "2.23.42.3.3.5.1 setAttr-TokICCsig 2.23.42.3.3.5.2 setAttr-SecDevSig 2.23.42.5 set-policy",
   "2.23.42.5.0 set-policy-root 2.23.42.7 set-certExt 2.23.42.7.0 setCext-hashedRoot",
   "2.23.42.7.1 setCext-certType 2.23.42.7.2 setCext-merchData",
   "2.23.42.7.3 setCext-cCertRequired 2.23.42.7.4 setCext-tunneling 2.23.42.7.5 setCext-setExt",
   "2.23.42.7.6 setCext-setQualf 2.23.42.7.7 setCext-PGWYcapabilities",
   "2.23.42.7.8 setCext-TokenIdentifier 2.23.42.7.9 setCext-Track2Data",
   "2.23.42.7.10 setCext-TokenType 2.23.42.7.11 setCext-IssuerCapabilities 2.23.42.8 set-brand",
   "2.23.42.8.1 set-brand-IATA-ATA 2.23.42.8.4 set-brand-Visa 2.23.42.8.5 set-brand-MasterCard",
   "2.23.42.8.30 set-brand-Diners 2.23.42.8.34 set-brand-AmericanExpress",
   "2.23.42.8.35 set-brand-JCB 2.23.42.8.6011 set-brand-Novus 2.23.43 wap 2.23.43.1 wap-wsg",
   "2.23.43.1.4.1 wap-wsg-idm-ecid-wtls1 2.23.43.1.4.3 wap-wsg-idm-ecid-wtls3",
   "2.23.43.1.4.4 wap-wsg-idm-ecid-wtls4 2.23.43.1.4.5 wap-wsg-idm-ecid-wtls5",
   "2.23.43.1.4.6 wap-wsg-idm-ecid-wtls6 2.23.43.1.4.7 wap-wsg-idm-ecid-wtls7",
   "2.23.43.1.4.8 wap-wsg-idm-ecid-wtls8 2.23.43.1.4.9 wap-wsg-idm-ecid-wtls9",
   "2.23.43.1.4.10 wap-wsg-idm-ecid-wtls10 2.23.43.1.4.11 wap-wsg-idm-ecid-wtls11",
   "2.23.43.1.4.12 wap-wsg-idm-ecid-wtls12"])

/-- The short name of an identifier, if it is registered. -/
def shortName? (oid : ObjectId) : Option String :=
  (registry.find? (·.1 == oid)).map (·.2)

/-- The identifier that a dotted text spells. -/
def dotted (text : String) : ObjectId :=
  ofDotted text.toList

end ObjectId

end PeerTrust.Asn1
