import Orignabase.Graphql.Store

/-
  The mutations of the API as programs over the statements
  of the store (`ob-graphql/src/resolvers.rs`).

  Key definitions include:
    * `normalizeData`
    * `permit`
    * `Mutation`
    * `Mutation.body`
-/

--------
-- Requests
--------

namespace Orignabase.Graphql

open Conc Security

variable (server : Server)

/- A text that is JSON stands for what it encodes. -/
def normalizeData (data : Value) : Value :=
  match data with
  | .string s => (server.parse s).getD data
  | _ => data

def securityContext
    (auth : AuthContext)
    (resource incoming : Option Value) : SecurityContext where
  userId := auth.user
  roles := auth.roles
  authenticated := auth.authenticated
  resource := resource
  incoming := incoming

/- A request returns documents or an error message. -/
abbrev Reply : Type :=
  Except String (List Value)

def internalError : String :=
  "Internal server error"

/- Go on if the rules allow the operation. -/
def permit
    (collection operation : String)
    (ctx : SecurityContext)
    (denied : String)
    (next : Prog Res Reply) : Prog Res Reply :=
  match server.rules.check server.floats collection operation
      ctx with
  | .error _ => .ret (.error internalError)
  | .ok false => .ret (.error denied)
  | .ok true => next

/- Use the result of a statement that did not fail. -/
def onSuccess
    (result : Except Error Value)
    (next : Value → Prog Res Reply) : Prog Res Reply :=
  match result with
  | .error _ => .ret (.error internalError)
  | .ok doc => next doc

def sendThen
    (event : Realtime.ChangeEvent)
    (next : Prog Res Reply) : Prog Res Reply :=
  .call (.send event) (fun _ => next)

--------
-- Single Documents
--------

variable (server : Server) (auth : AuthContext)

def createEvent (collection : String) (doc : Value) :
    Realtime.ChangeEvent where
  action := .create
  collection := collection
  documentId := (doc.getStr "id").getD "unknown"
  data := doc
  beforeData := none
  afterData := some doc

def updateEvent
    (collection id : String)
    (before doc : Value) : Realtime.ChangeEvent where
  action := .update
  collection := collection
  documentId := id
  data := doc
  beforeData := some before
  afterData := some doc

def deleteEvent
    (collection id : String)
    (before doc : Value) : Realtime.ChangeEvent where
  action := .delete
  collection := collection
  documentId := id
  data := doc
  beforeData := some before
  afterData := none

def create (collection : String) (data : Value) :
    Prog Res Reply :=
  let data := normalizeData server data
  permit server collection "create"
    (securityContext auth none (some data))
    "Permission denied"
    (.call (.createDocument auth collection data)
      (fun result => onSuccess result (fun doc =>
        sendThen (createEvent collection doc)
          (.ret (.ok [doc])))))

/- Some field of the data is a marker object. -/
def hasFieldValues (data : Value) : Bool :=
  match data with
  | .object fields =>
    fields.any (fun field =>
      ["_serverTimestamp", "_increment", "_arrayUnion",
        "_arrayRemove", "_deleteField"].any
          (fun marker => (field.2.get marker).isSome))
  | _ => false

/- Markers are merged like any other data for now. -/
def updateWithFieldValuesOp
    (collection id : String)
    (data : Value) : Op :=
  .updateDocument auth collection id data

def update (collection id : String) (data : Value) :
    Prog Res Reply :=
  let data := normalizeData server data
  .call (.getDocument collection id) (fun found =>
    onSuccess found (fun existing =>
      permit server collection "update"
        (securityContext auth (some existing) (some data))
        "Permission denied"
        (let finish := fun (result : Except Error Value) =>
          onSuccess result (fun doc =>
            sendThen (updateEvent collection
                ((doc.getStr "id").getD id) existing doc)
              (.ret (.ok [doc])))
        if hasFieldValues data then
          .call (updateWithFieldValuesOp auth collection id
            data) finish
        else
          .call (.updateDocument auth collection id data)
            finish)))

/- Any failure to read counts as a missing document. -/
def set (collection id : String) (data : Value) :
    Prog Res Reply :=
  let data := normalizeData server data
  .call (.getDocument collection id) (fun found =>
    let existing := found.toOption
    permit server collection
      (if existing.isSome then "update" else "create")
      (securityContext auth existing (some data))
      "Permission denied"
      (.call (.upsertDocument auth collection id data)
        (fun result => onSuccess result (fun doc =>
          sendThen
            { action :=
                if existing.isSome then .update else .create
              collection := collection
              documentId := id
              data := doc
              beforeData := existing
              afterData := some doc }
            (.ret (.ok [doc]))))))

def delete (collection id : String) : Prog Res Reply :=
  .call (.getDocument collection id) (fun found =>
    onSuccess found (fun existing =>
      permit server collection "delete"
        (securityContext auth (some existing) none)
        "Permission denied"
        (.call (.deleteDocument auth collection id)
          (fun result => onSuccess result (fun doc =>
            sendThen (deleteEvent collection id existing doc)
              (.ret (.ok [doc])))))))

def updateWithFieldValues
    (collection id : String)
    (data : Value) : Prog Res Reply :=
  let data := normalizeData server data
  .call (.getDocument collection id) (fun found =>
    onSuccess found (fun existing =>
      permit server collection "update"
        (securityContext auth (some existing) (some data))
        "Permission denied"
        (.call (updateWithFieldValuesOp auth collection id
            data)
          (fun result => onSuccess result (fun doc =>
            sendThen (updateEvent collection id existing doc)
              (.ret (.ok [doc])))))))

--------
-- Batches
--------

variable (server : Server) (auth : AuthContext)

def batchLimit : String :=
  "Batch operations limited to 500 items"

def sendAll : List Realtime.ChangeEvent → Prog Res Reply →
    Prog Res Reply
  | [], next => next
  | event :: events, next =>
    sendThen event (sendAll events next)

/- A text or an array among the documents stands for several. -/
def flattenDocs (docs : List Value) : List Value :=
  docs.flatMap (fun doc => (normalizeData server doc).items)

/- Every document must be allowed before any is stored. -/
def permitAll
    (collection : String)
    (next : Prog Res Reply) :
    List Value → Prog Res Reply
  | [] => next
  | doc :: docs =>
    permit server collection "create"
      (securityContext auth none (some doc))
      "Permission denied"
      (permitAll collection next docs)

/- The store creates one document after the other. -/
def createEach
    (collection : String)
    (finish : List Value → Prog Res Reply) :
    List Value → List Value → Prog Res Reply
  | results, [] => finish results
  | results, doc :: docs =>
    .call (.createDocument auth collection doc)
      (fun result => onSuccess result (fun created =>
        createEach collection finish
          (results ++ [created]) docs))

def batchCreate (collection : String) (docs : List Value) :
    Prog Res Reply :=
  let docs := flattenDocs server docs
  if docs.length > 500 then .ret (.error batchLimit)
  else
    permitAll server auth collection
      (createEach auth collection (fun results =>
          sendAll (results.map (createEvent collection))
            (.ret (.ok results)))
        [] docs)
      docs

def deniedFor (id : String) : String :=
  "Permission denied for document " ++ id

/- Read every document and check its removal. -/
def permitDeletes
    (collection : String)
    (next : Prog Res Reply) :
    List String → Prog Res Reply
  | [] => next
  | id :: ids =>
    .call (.getDocument collection id) (fun found =>
      onSuccess found (fun existing =>
        permit server collection "delete"
          (securityContext auth (some existing) none)
          (deniedFor id)
          (permitDeletes collection next ids)))

def deleteEach
    (collection : String)
    (finish : List Value → Prog Res Reply) :
    List Value → List String → Prog Res Reply
  | results, [] => finish results
  | results, id :: ids =>
    .call (.deleteDocument auth collection id)
      (fun result => onSuccess result (fun doc =>
        deleteEach collection finish
          (results ++ [doc]) ids))

def batchDelete (collection : String) (ids : List String) :
    Prog Res Reply :=
  if ids.length > 500 then .ret (.error batchLimit)
  else
    permitDeletes server auth collection
      (deleteEach auth collection (fun results =>
          sendAll ((ids.zip results).map (fun pair =>
              deleteEvent collection pair.1 pair.2 pair.2))
            (.ret (.ok results)))
        [] ids)
      ids

/- The id and the data of an entry of a batch of updates. -/
def updateEntry (entry : Value) :
    Except String (String × Value) :=
  match entry with
  | .object _ =>
    match entry.getStr "id" with
    | none => .error "Each update must have an id"
    | some id =>
      .ok (id, (entry.get "data").getD (.object []))
  | _ =>
    .error
      "Each update entry must be an object with id and data"

/- Each entry is checked, written and announced in turn. -/
def updateEach (collection : String) :
    List Value → List Value → Prog Res Reply
  | results, [] => .ret (.ok results)
  | results, entry :: entries =>
    match updateEntry entry with
    | .error message => .ret (.error message)
    | .ok (id, data) =>
      .call (.getDocument collection id) (fun found =>
        onSuccess found (fun existing =>
          permit server collection "update"
            (securityContext auth (some existing)
              (some data))
            (deniedFor id)
            (.call (.updateDocument auth collection id data)
              (fun result => onSuccess result (fun doc =>
                sendThen (updateEvent collection id existing
                    doc)
                  (updateEach collection
                    (results ++ [doc]) entries))))))

def batchUpdate (collection : String) (updates : Value) :
    Prog Res Reply :=
  match normalizeData server updates with
  | .array entries =>
    if entries.length > 500 then .ret (.error batchLimit)
    else updateEach server auth collection [] entries
  | _ => .ret (.error "updates must be an array")

--------
-- Mutations
--------

/- What a client asks for. -/
inductive Mutation
  | create (collection : String) (data : Value)
  | update (collection id : String) (data : Value)
  | set (collection id : String) (data : Value)
  | delete (collection id : String)
  | updateWithFieldValues (collection id : String)
      (data : Value)
  | batchCreate (collection : String) (docs : List Value)
  | batchDelete (collection : String) (ids : List String)
  | batchUpdate (collection : String) (updates : Value)

def Mutation.body
    (server : Server)
    (auth : AuthContext) : Mutation → Prog Res Reply
  | .create collection data =>
    Graphql.create server auth collection data
  | .update collection id data =>
    Graphql.update server auth collection id data
  | .set collection id data =>
    Graphql.set server auth collection id data
  | .delete collection id =>
    Graphql.delete server auth collection id
  | .updateWithFieldValues collection id data =>
    Graphql.updateWithFieldValues server auth collection id
      data
  | .batchCreate collection docs =>
    Graphql.batchCreate server auth collection docs
  | .batchDelete collection ids =>
    Graphql.batchDelete server auth collection ids
  | .batchUpdate collection updates =>
    Graphql.batchUpdate server auth collection updates

/- A mutation with the identity it is asked under. -/
structure Request where
  auth : AuthContext
  mutation : Mutation

def Request.body (server : Server) (request : Request) :
    Prog Res Reply :=
  request.mutation.body server request.auth

end Orignabase.Graphql
