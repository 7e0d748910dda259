import EntityGateway.Digest.Sha256
import EntityGateway.Text.Base64
import EntityGateway.Text.Form
import EntityGateway.Text.Lowercase

/-!
# Signatures

Every request to the document store is signed with the master key: the method, the kind and the name
of the resource and the date are hashed with it, and the hash is sent along.
-/

namespace EntityGateway.DocumentStore

/-- The text that is signed. Everything but the name of the resource is in lower case. -/
def signedText (verb resourceType resourceId date : String) : String :=
  Text.lowercase verb ++ "\n" ++ Text.lowercase resourceType ++ "\n" ++ resourceId ++ "\n" ++
    Text.lowercase date ++ "\n\n"

/-- A token with a signature, before it is coded. -/
def tokenText (signature : List UInt8) : String :=
  "type=master&ver=1.0&sig=" ++ Text.Base64.encode signature

/-- The token that authorizes a request, or nothing if the key is no Base64. -/
def authorization? (verb resourceType resourceId date key : String) : Option String :=
  (Text.Base64.decode? key).map fun keyBytes =>
    Text.formEncode <| tokenText <|
      Digest.hmacSha256 keyBytes (Text.bytes (signedText verb resourceType resourceId date))

end EntityGateway.DocumentStore
