import EntityGateway.RemoteService.Connection
import EntityGateway.RemoteService.PagingCookie
import EntityGateway.Store.Dialogue
import EntityGateway.Store.Envelope
import EntityGateway.Store.StoreError

/-!
# Requests to the remote service

Each call asks for an access token first and then sends one request, which goes to the resource that
the token is valid for. A page is asked for by the query string, and the response names the next one
by a link.
-/

namespace EntityGateway.RemoteService

/-- The request for an access token, by the name and password of a user. -/
def tokenRequest (c : Connection) : Http.Request where
  method := .post
  url := c.tokenEndpoint
  headers := [("content-type", "application/x-www-form-urlencoded")]
  body := Text.formPairs [
    ("grant_type", "password"),
    ("client_id", c.clientId),
    ("resource", c.resource),
    ("username", c.username),
    ("password", c.password)]

/-- The token in the response of the token endpoint. -/
def tokenOf (r : Http.Response) : Except StoreError Store.AccessToken :=
  if r.status.isSuccess then
    match decodeText Store.AccessToken.decode r.body with
    | .fault fault => .error (.invalidResponse fault.kind)
    | .value token => .ok token
  else .error (.authentication r.status r.body)

/-- Asks for an access token. The request is counted before it is sent. -/
def acquireToken (c : Connection) : Dialogue StoreError Store.AccessToken :=
  .count .tokenRequests <|
    .send .token (tokenRequest c) fun response => .ended (Store.reading tokenOf response)

/-- The header that asks for pages of some size, if any. -/
def pageSizeHeaders (pageSize : Option UInt32) : List (String × String) :=
  match pageSize with
  | none => []
  | some size =>
    if 0 < size then
      [("prefer", "odata.maxpagesize=" ++ String.ofList (Nat.toDigits 10 size.toNat))]
    else []

/-- A request to the service under a token. -/
def dataRequest (token : Store.AccessToken) (path : String) (pageSize : Option UInt32) :
    Http.Request where
  method := .get
  url := Text.withoutSlashes token.resource ++ path
  headers :=
    [("authorization", "Bearer " ++ token.accessToken),
      ("accept", "application/json"),
      ("odata-maxversion", "4.0"),
      ("odata-version", "4.0")] ++ pageSizeHeaders pageSize

/-- The page in the response to a request for a collection. -/
def pageOf (m : EntityMetadata) (r : Http.Response) : Except StoreError EntityCollection :=
  if r.status.isSuccess then
    match decodeText Store.CollectionEnvelope.decode r.body with
    | .fault fault => .error (.invalidResponse fault.kind)
    | .value envelope =>
      match Entity.ofRecords m .allAttributes envelope.value with
      | .error value => .error (.unreadable value)
      | .ok entities =>
        .ok {
          entities
          moreRecords := envelope.nextLink.isSome
          totalRecordCount := envelope.count.getD (-1)
          pagingCookie := envelope.nextLink.bind pagingCookie? }
  else .error (.refused r.status r.body)

/-- The record in the response to a request for it. A record that does not exist is no fault. -/
def recordOf (m : EntityMetadata) (r : Http.Response) : Except StoreError (Option Entity) :=
  if r.status = .notFound then .ok none
  else if r.status.isSuccess then
    match decodeText Record.decode r.body with
    | .fault fault => .error (.invalidResponse fault.kind)
    | .value record =>
      match Entity.ofRecord m .allAttributes record with
      | .error value => .error (.unreadable value)
      | .ok entity => .ok (some entity)
  else .error (.refused r.status r.body)

/-- Sends a request under a token and reads the response. The request is counted once it is known
what became of it. -/
def request {α : Type} (token : Store.AccessToken) (path : String) (pageSize : Option UInt32)
    (read : Http.Response → Except StoreError α) : Dialogue StoreError α :=
  .send .data (dataRequest token path pageSize) fun response =>
    .count .dataRequests (.ended (Store.reading read response))

/-- Asks for a page of a collection. -/
def execute (c : Connection) (m : EntityMetadata) (queryString : String)
    (pageSize : Option UInt32) : Dialogue StoreError EntityCollection :=
  (acquireToken c).andThen fun token =>
    request token (collectionPath m.externalCollectionName queryString) pageSize (pageOf m)

/-- Asks for one record. -/
def retrieve (c : Connection) (m : EntityMetadata) (id : Uuid) :
    Dialogue StoreError (Option Entity) :=
  (acquireToken c).andThen fun token =>
    request token (entityPath m.externalCollectionName id) none (recordOf m)

end EntityGateway.RemoteService
