import EntityGateway.Configuration.Basic
import EntityGateway.DocumentStore.Client
import EntityGateway.OData.Compile
import EntityGateway.RemoteService.Client
import EntityGateway.Service.Metrics
import EntityGateway.Service.ServiceError
import EntityGateway.Sql.Compile

/-!
# The service

A service answers queries for records and fetches single records, from whichever store is
configured. Everything that can be checked without the store is checked first: nothing is sent for
an entity that is not described, a query that cannot be compiled, or an address that is too long.

Successes are counted by what asks the store, failures by the service on top of it.
-/

namespace EntityGateway

/-- A dialogue with a store as part of a call. -/
def Dialogue.ofStore {α : Type} (d : Dialogue StoreError α) : Dialogue ServiceError α :=
  d.mapOutcome fun outcome => outcome.mapError .store

namespace Configuration

/-- The description of an entity, or a failed call. -/
def withEntity {α : Type} (c : Configuration) (logicalName : String)
    (next : EntityMetadata → Dialogue ServiceError α) : Dialogue ServiceError α :=
  match c.metadata.entity? logicalName with
  | none => .ended (.error (.unknownEntity logicalName))
  | some m => next m

/-- Asks the document store for a page. -/
def queryDocuments (c : Configuration) (connection : DocumentStore.Connection) (now : Instant)
    (q : Query) : Dialogue ServiceError EntityCollection :=
  c.withEntity q.entity fun m =>
    match Sql.Select.ofQuery m q with
    | .error cause => .ended (.error (.uncompilable cause))
    | .ok select =>
      (DocumentStore.execute connection now m select.text q.paging).ofStore.countSuccess

/-- Asks the remote service for a page. -/
def queryService (c : Configuration) (connection : RemoteService.Connection) (q : Query) :
    Dialogue ServiceError EntityCollection :=
  c.withEntity q.entity fun m =>
    match OData.Options.ofQuery m q with
    | .error cause => .ended (.error (.uncompilable cause))
    | .ok options =>
      let queryString := options.queryString
      let path := RemoteService.collectionPath m.externalCollectionName queryString
      if c.maxUrlLength.toNat < path.utf8ByteSize then
        .ended (.error (.tooLong path.utf8ByteSize c.maxUrlLength))
      else
        (RemoteService.execute connection m queryString
          (q.paging.map Paging.pageSize)).ofStore.countSuccess

/-- Asks for a page of the records that a query describes. -/
def getEntities (c : Configuration) (now : Instant) (q : Query) :
    Dialogue ServiceError EntityCollection :=
  match c.dataSource with
  | .documentStore connection => c.queryDocuments connection now q
  | .remoteService connection => c.queryService connection q

/-- The query for one record by its identifier. -/
def queryFor (r : EntityReference) (primaryIdAttribute : String) : Query where
  entity := r.logicalName
  criteria := .all [.condition ⟨primaryIdAttribute, .equal, [.uuid r.id]⟩]

/-- Asks for one record, which need not exist. -/
def getEntity (c : Configuration) (now : Instant) (r : EntityReference) :
    Dialogue ServiceError (Option Entity) :=
  c.withEntity r.logicalName fun m =>
    match c.dataSource with
    | .documentStore connection =>
      (c.queryDocuments connection now (queryFor r m.primaryIdAttribute)).mapOutcome
        fun outcome => outcome.map fun page => page.entities.head?
    | .remoteService connection =>
      (RemoteService.retrieve connection m r.id).ofStore.countSuccess

end Configuration

/-- A configuration in service, with what it has counted. -/
structure Service where
  configuration : Configuration
  metrics : Metrics := {}

namespace Service

/-- Puts a configuration into service, with counters of its own. The names of the counters must not
be taken. -/
def start? (c : Configuration) (r : Registry) : Option (Service × Registry) :=
  r.register?.map fun r' => (⟨c, {}⟩, r')

/-- Holds the dialogue of a call and keeps count. -/
def call {α : Type} (s : Service) (d : Dialogue ServiceError α)
    (responses : List (Option Http.Response)) : Dialogue.Run ServiceError α × Service :=
  let run := d.countFailure.run responses
  (run, { s with metrics := s.metrics.after run.counted })

/-- Answers a query. -/
def getEntities (s : Service) (now : Instant) (q : Query)
    (responses : List (Option Http.Response)) :
    Dialogue.Run ServiceError EntityCollection × Service :=
  s.call (s.configuration.getEntities now q) responses

/-- Fetches a record. -/
def getEntity (s : Service) (now : Instant) (r : EntityReference)
    (responses : List (Option Http.Response)) :
    Dialogue.Run ServiceError (Option Entity) × Service :=
  s.call (s.configuration.getEntity now r) responses

end Service

end EntityGateway
