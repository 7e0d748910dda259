import EntityGateway.Http.Status

/-!
# Requests and responses

The messages exchanged with the stores. A request whose address has no host, or one of whose header
values holds a control character, is never sent.
-/

namespace EntityGateway.Http

/-- What a request wants. -/
inductive Method where
  | get
  | post
  deriving DecidableEq, Repr

/-- A request. -/
structure Request where
  method : Method
  url : String
  headers : List (String × String)
  body : String := ""
  deriving DecidableEq

/-- A response. -/
structure Response where
  status : Status
  headers : List (String × String)
  body : String
  deriving DecidableEq

/-- A header value may hold the character: a tab, or anything but the control characters of the
ASCII range. -/
def isHeaderChar (c : Char) : Bool :=
  c = '\t' || (0x20 ≤ c.toNat && c.toNat ≠ 0x7F)

/-- A header value of a response can be read if it is in the ASCII range. -/
def isReadableChar (c : Char) : Bool :=
  c = '\t' || (0x20 ≤ c.toNat && c.toNat < 0x7F)

/-- The text in lower case, in the ASCII range. -/
def lowered (s : String) : List Char :=
  s.toList.map Char.toLower

/-- What follows the scheme of an address, if the scheme is one that requests are sent by. -/
def afterScheme? (url : String) : Option (List Char) :=
  let cs := lowered url
  if "http:".toList.isPrefixOf cs then some (cs.drop 5)
  else if "https:".toList.isPrefixOf cs then some (cs.drop 6)
  else none

/-- The address has a scheme that requests are sent by, and a host. This is a stand-in for the
parser of addresses that clients have, which looks at the host as well: it refuses `http://exa mple`
for the blank in it, which is taken here, and it cuts off blanks in front of an address, which is
refused with them here. -/
def isReachable (url : String) : Bool :=
  match afterScheme? url with
  | none => false
  | some rest =>
    match rest.dropWhile (· = '/') with
    | [] => false
    | c :: _ => c ≠ '?' && c ≠ '#' && c ≠ ':'

/-- The request can be sent. -/
def Request.isSendable (r : Request) : Bool :=
  isReachable r.url && r.headers.all fun header => header.2.toList.all isHeaderChar

/-- The value of a header, by its name in whatever case. If it occurs several times the first one
counts; a value that cannot be read counts as absent. -/
def Response.header? (r : Response) (name : String) : Option String :=
  match r.headers.find? fun header => lowered header.1 = lowered name with
  | some header => if header.2.toList.all isReadableChar then some header.2 else none
  | none => none

end EntityGateway.Http
