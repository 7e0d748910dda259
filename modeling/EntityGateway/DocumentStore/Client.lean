import EntityGateway.DocumentStore.Connection
import EntityGateway.DocumentStore.Signature
import EntityGateway.Query.Basic
import EntityGateway.Store.Dialogue
import EntityGateway.Store.Envelope
import EntityGateway.Store.StoreError
import EntityGateway.Time.Instant

/-!
# Queries to the document store

A query is one request, which carries the text of a statement and is signed for the time at which it
is sent. A page is asked for by headers, and the response names the next page by a header.
-/

namespace EntityGateway.DocumentStore

/-- The header that continues an earlier page, in requests and in responses. -/
def continuationHeader : String := "x-ms-continuation"

/-- The headers that ask for a page. A size of zero and an empty cookie ask for nothing. -/
def pagingHeaders : Option Paging → List (String × String)
  | none => []
  | some paging =>
    let size :=
      if 0 < paging.pageSize then
        [("x-ms-max-item-count", String.ofList (Nat.toDigits 10 paging.pageSize.toNat))]
      else []
    let continuation :=
      match paging.cookie with
      | some cookie => if cookie.isEmpty then [] else [(continuationHeader, cookie)]
      | none => []
    size ++ continuation

/-- The request that carries a statement. -/
def queryRequest (c : Connection) (collection authorization date statement : String)
    (paging : Option Paging) : Http.Request where
  method := .post
  url := c.documentsUrl collection
  headers :=
    [("authorization", authorization),
      ("x-ms-date", date),
      ("x-ms-version", "2017-02-22"),
      ("x-ms-documentdb-isquery", "True"),
      ("content-type", "application/query+json")] ++ pagingHeaders paging
  body := (Json.object [("query", .string statement)]).compact

/-- The cookie of the next page, which is not empty. -/
def continuation? (r : Http.Response) : Option String := do
  let cookie ← r.header? continuationHeader
  if cookie.isEmpty then none else some cookie

/-- The page in the response to a query. -/
def pageOf (m : EntityMetadata) (r : Http.Response) : Except StoreError EntityCollection :=
  if r.status.isSuccess then
    match decodeText Store.DocumentEnvelope.decode r.body with
    | .fault fault => .error (.invalidResponse fault.kind)
    | .value envelope =>
      match Entity.ofRecords m .primaryIdOnly envelope.documents with
      | .error value => .error (.unreadable value)
      | .ok entities =>
        .ok {
          entities
          moreRecords := (continuation? r).isSome
          totalRecordCount := envelope.count.getD (-1)
          pagingCookie := continuation? r }
  else .error (.refused r.status r.body)

/-- Sends a statement and reads the page that comes back. The request is counted once it is known
what became of it. -/
def execute (c : Connection) (now : Instant) (m : EntityMetadata) (statement : String)
    (paging : Option Paging) : Dialogue StoreError EntityCollection :=
  let collection := m.externalCollectionName
  let date := now.headerDate
  match authorization? "POST" resourceType (c.resourceId collection) date c.key with
  | none => .ended (.error .invalidKey)
  | some authorization =>
    .send .data (queryRequest c collection authorization date statement paging) fun response =>
      .count .dataRequests (.ended (Store.reading (pageOf m) response))

end EntityGateway.DocumentStore
