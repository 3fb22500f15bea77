import WebSocket.Tls.Der

/-! # Trusted roots

A root is given as a certificate, of which only three things are used: the name of its owner, the
owner's key, and what names the owner may vouch for. The certificate has to be well formed all the
same, up to the extensions that a verifier would have to obey. Its signature is not checked, since a
root is trusted for being given.
-/

namespace WebSocket

/-- Why a certificate cannot be a root. -/
inductive RootFault where
  | encoding
  /-- The certificate names two different algorithms for its signature. -/
  | algorithmMismatch
  /-- An extension that must be obeyed and is not known. -/
  | unknownExtension
  | repeatedExtension
deriving DecidableEq, Repr

def RootFault.message (fault : RootFault) : String :=
  let detail := match fault with
    | encoding => "BadEncoding"
    | algorithmMismatch => "Other(OtherError(SignatureAlgorithmMismatch))"
    | unknownExtension => "Other(OtherError(UnsupportedCriticalExtension))"
    | repeatedExtension => "Other(OtherError(ExtensionValueInvalid))"
  "invalid peer certificate: " ++ detail

/-- What is used of a root, each as the contents of its element. -/
structure TrustAnchor where
  subject : Bytes
  publicKey : Bytes
  nameConstraints : Option Bytes
deriving DecidableEq, Repr

namespace TrustAnchor

/-- An element that has to be there. -/
def take (tag : Der.Tag) (bytes : Bytes) : Except RootFault (Bytes × Bytes) :=
  match Der.take? tag bytes with
  | some taken => .ok taken
  | none => .error .encoding

def endHere (rest : Bytes) : Except RootFault Unit :=
  if rest.isEmpty then .ok () else .error .encoding

/-! ## Extensions -/

/-- The extensions met so far. -/
structure Extensions where
  /-- The numbers of those that are known. -/
  seen : List UInt8 := []
  nameConstraints : Option Bytes := none

/-- The number of the use of the key, whose value is not looked into. -/
def keyUsage : UInt8 := 15

/-- The number of the constraints on names. -/
def nameConstraintsNumber : UInt8 := 30

/-- The numbers of the known extensions: use of the key, other names, constraints on certificates
and on names, places of revocation lists, and extended use of the key. -/
def knownNumbers : List UInt8 := [keyUsage, 17, 19, nameConstraintsNumber, 31, 37]

/-- Whether an extension has to be obeyed, which it has not when it does not say. -/
def takeCritical (bytes : Bytes) : Except RootFault (Bool × Bytes) :=
  if bytes.head? = some Der.Tag.boolean.byte then do
    let (flag, rest) ← take .boolean bytes
    if flag = [0xFF] then return (true, rest)
    else if flag = [0x00] then return (false, rest)
    else throw .encoding
  else .ok (false, bytes)

/-- Takes note of an extension. A known one comes at most once and holds a sequence. -/
def Extensions.remember (extensions : Extensions) (name : Bytes) (critical : Bool)
    (value : Bytes) : Except RootFault Extensions :=
  let ignored := if critical then .error .unknownExtension else .ok extensions
  match name with
  | [0x55, 0x1D, number] =>
    if !knownNumbers.contains number then ignored
    else if extensions.seen.contains number then .error .repeatedExtension
    else
      let extensions := { extensions with seen := number :: extensions.seen }
      if number = keyUsage then .ok extensions
      else
        match Der.whole? .sequence value with
        | none => .error .encoding
        | some contents =>
          if number = nameConstraintsNumber then
            .ok { extensions with nameConstraints := some contents }
          else .ok extensions
  | _ => ignored

/-- Reads one extension: its name, whether it must be obeyed, and its value. -/
def Extensions.readOne (extensions : Extensions) (bytes : Bytes) : Except RootFault Extensions := do
  let (name, rest) ← take .objectName bytes
  let (critical, rest) ← takeCritical rest
  let (value, rest) ← take .octetString rest
  let extensions ← extensions.remember name critical value
  endHere rest
  return extensions

/-- Reads extensions up to the end; there may be none. -/
def Extensions.read (extensions : Extensions) (bytes : Bytes) : Except RootFault Extensions :=
  if bytes.isEmpty then .ok extensions
  else
    match taken : Der.take? .sequence bytes with
    | none => .error .encoding
    | some (contents, rest) =>
      have := Der.length_lt_of_take? taken
      match extensions.readOne contents with
      | .error fault => .error fault
      | .ok extensions => extensions.read rest
termination_by bytes.length

/-- The extensions at the end of a certificate, which may be left out. -/
def readExtensions (bytes : Bytes) : Except RootFault Extensions :=
  if bytes.isEmpty then .ok {}
  else do
    let (tagged, rest) ← take .extensions bytes
    let (list, inner) ← take .sequence tagged
    let extensions ← Extensions.read {} list
    endHere (inner ++ rest)
    return extensions

/-! ## Certificates -/

/-- What stands behind the version of a certificate of the third version. `algorithm` is what the
certificate says beside its signature. -/
def readThird (algorithm bytes : Bytes) : Except RootFault TrustAnchor := do
  let (_serial, rest) ← take .integer bytes
  let (ownAlgorithm, rest) ← take .sequence rest
  if ownAlgorithm ≠ algorithm then throw .algorithmMismatch
  let (_issuer, rest) ← take .sequence rest
  let (_validity, rest) ← take .sequence rest
  let (subject, rest) ← take .sequence rest
  let (publicKey, rest) ← take .sequence rest
  let extensions ← readExtensions rest
  return { subject, publicKey, nameConstraints := extensions.nameConstraints }

/-- A certificate of the first version, which has neither a version nor extensions. -/
def readFirst (bytes : Bytes) : Except RootFault TrustAnchor := do
  let (_serial, rest) ← take .integer bytes
  let (_algorithm, rest) ← take .sequence rest
  let (_issuer, rest) ← take .sequence rest
  let (_validity, rest) ← take .sequence rest
  let (subject, rest) ← take .sequence rest
  let (publicKey, rest) ← take .sequence rest
  endHere rest
  return { subject, publicKey, nameConstraints := none }

/-- What stands behind the version where it is the third, which is written as two. -/
def afterThirdVersion? (bytes : Bytes) : Option Bytes :=
  match Der.take? .version bytes with
  | some (version, rest) => if Der.whole? .integer version = some [2] then some rest else none
  | none => none

/-- The anchor that a certificate gives: the signed part, the algorithm of the signature and the
signature, which is a whole number of bytes. -/
def ofCertificate (certificate : Bytes) : Except RootFault TrustAnchor := do
  let (body, rest) ← take .sequence certificate
  endHere rest
  let (signed, rest) ← take .sequence body
  let (algorithm, rest) ← take .sequence rest
  let (signature, rest) ← take .bitString rest
  endHere rest
  if signature.head? ≠ some 0 then throw .encoding
  match afterThirdVersion? signed with
  | some rest => readThird algorithm rest
  | none => readFirst signed

end TrustAnchor

end WebSocket
