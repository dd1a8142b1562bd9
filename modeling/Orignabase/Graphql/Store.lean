import Orignabase.Database.Jsonb
import Orignabase.Lib.Runs
import Orignabase.Realtime.Dispatcher

/-
  Documents of arbitrary collections and the statements of
  the store on them (`ob-database/src/pg_store.rs`).

  A statement of the store takes effect at once or fails
  without one.  Whether it fails is the answer of the
  environment.  Every write happens at a time of its own.

  Key definitions include:
    * `Row`
    * `World`
    * `Op`
    * `exec`
    * `document`
    * `Changes`

  Main results:
    * `changes_exec`
-/

--------
-- Documents
--------

namespace Orignabase.Graphql

open Security

/-
  What the server is given: floating point, the JSON parser,
  the text of a time, and its rules.
-/
structure Server where
  floats : Floats
  parse : String → Option Value
  rfc3339 : Nat → String
  rules : RuleEngine

structure AuthContext where
  userId : String
  roles : List String
  authenticated : Bool
  deriving DecidableEq, Repr

/- The user of a request, if it has one. -/
def AuthContext.user (auth : AuthContext) : Option String :=
  if auth.authenticated then some auth.userId else none

/-
  A stored document.  `creator` is the user whose statement
  inserted it, which the database does not keep.
-/
structure Row where
  data : Value
  createdAt : Nat
  updatedAt : Nat
  creator : Option String
  deriving Repr

/- The id without the name of its collection in front. -/
def bareId (collection id : String) : String :=
  (Text.stripPrefix (collection ++ ":") id).getD id

/- A document as it is read, with its id and its times. -/
def document (server : Server) (id : String) (row : Row) :
    Value :=
  match row.data with
  | .object fields =>
    .object (Value.insertField "updatedAt"
        (.string (server.rfc3339 row.updatedAt))
        (Value.insertField "createdAt"
          (.string (server.rfc3339 row.createdAt))
          (Value.insertField "id" (.string id) fields)))
  | v => v

/- A document as its removal returns it. -/
def removed (id : String) (row : Row) : Value :=
  match row.data with
  | .object fields =>
    .object (Value.insertField "id" (.string id) fields)
  | v => v

/-
  A statement that changed a document: who asked for it, the
  data it brought (none for a removal), and the document
  before it.
-/
structure Write where
  auth : AuthContext
  collection : String
  id : String
  incoming : Option Value
  before : Option Value
  deriving Repr

/-
  The stored documents by collection and id, the time, and
  what has happened so far: events that were sent and
  writes, latest first.
-/
structure World where
  rows : String → String → Option Row
  clock : Nat
  sent : List Realtime.ChangeEvent
  writes : List Write

def World.empty : World :=
  ⟨fun _ _ => none, 0, [], []⟩

/- The document of an id as the store would read it. -/
def World.read
    (w : World)
    (server : Server)
    (collection id : String) : Option Value :=
  (w.rows collection id).map (document server id)

--------
-- Statements
--------

open Conc

/- A random identifier. -/
def Uuid : Type :=
  { text : String // text.length = 36 }

inductive Op
  | getDocument (collection id : String)
  | createDocument (auth : AuthContext)
      (collection : String) (data : Value)
  | updateDocument (auth : AuthContext)
      (collection id : String) (data : Value)
  | upsertDocument (auth : AuthContext)
      (collection id : String) (data : Value)
  | deleteDocument (auth : AuthContext)
      (collection id : String)
  | send (event : Realtime.ChangeEvent)

abbrev Res : Op → Type
  | .send _ => Unit
  | _ => Except Error Value

/- The error of a statement that fails, and a fresh id. -/
structure Answer where
  fault : Option Error
  uuid : Uuid

/- Replace or remove the document of an id. -/
def World.write
    (w : World)
    (change : Write)
    (row : Option Row) : World where
  rows := fun collection id =>
    if collection = change.collection ∧ id = change.id then
      row
    else w.rows collection id
  clock := w.clock + 1
  sent := w.sent
  writes := change :: w.writes

/- A statement on a table that exists, unless it fails. -/
def statement
    (collection : String)
    (a : Answer)
    (w : World)
    (body : Except Error Value × World) :
    Except Error Value × World :=
  match validateIdentifier collection, a.fault with
  | .error e, _ => (.error e, w)
  | .ok _, some e => (.error e, w)
  | .ok _, none => body

def missing (collection id : String) : Error :=
  .notFound (collection ++ ":" ++ id ++ " not found")

variable (server : Server)

def insertRow
    (auth : AuthContext)
    (collection id : String)
    (data : Value)
    (w : World) : Except Error Value × World :=
  let row : Row := ⟨data, w.clock + 1, w.clock + 1, auth.user⟩
  (.ok (document server id row),
    w.write ⟨auth, collection, id, some data, none⟩
      (some row))

/- Merge data into a document. -/
def mergeRow
    (auth : AuthContext)
    (collection id : String)
    (data : Value)
    (row : Row)
    (w : World) : Except Error Value × World :=
  let row' : Row :=
    { row with
      data := row.data.concat data
      updatedAt := w.clock + 1 }
  (.ok (document server id row'), w.write
      ⟨auth, collection, id, some data,
        some (document server id row)⟩
      (some row'))

def getDocument (collection id : String) (w : World) :
    Except Error Value × World :=
  match w.read server collection (bareId collection id) with
  | some value => (.ok value, w)
  | none =>
    (.error (missing collection (bareId collection id)), w)

/- The id of the data, or a fresh one. -/
def createDocument
    (auth : AuthContext)
    (collection : String)
    (data : Value)
    (a : Answer)
    (w : World) : Except Error Value × World :=
  let id := (data.getStr "id").getD a.uuid.val
  match w.rows collection id with
  | some _ =>
    (.error (.validation
      ("Document already exists in collection " ++
        collection ++ ": " ++ id)), w)
  | none => insertRow server auth collection id data w

def updateDocument
    (auth : AuthContext)
    (collection id : String)
    (data : Value)
    (w : World) : Except Error Value × World :=
  match w.rows collection (bareId collection id) with
  | none =>
    (.error (missing collection (bareId collection id)), w)
  | some row =>
    mergeRow server auth collection (bareId collection id)
      data row w

def upsertDocument
    (auth : AuthContext)
    (collection id : String)
    (data : Value)
    (w : World) : Except Error Value × World :=
  match w.rows collection (bareId collection id) with
  | none =>
    insertRow server auth collection (bareId collection id)
      data w
  | some row =>
    mergeRow server auth collection (bareId collection id)
      data row w

def deleteDocument
    (auth : AuthContext)
    (collection id : String)
    (w : World) : Except Error Value × World :=
  match w.rows collection (bareId collection id) with
  | none =>
    (.error (missing collection (bareId collection id)), w)
  | some row =>
    (.ok (removed (bareId collection id) row), w.write
        ⟨auth, collection, bareId collection id, none,
          some (document server (bareId collection id) row)⟩
        none)

def exec : Exec Res Answer World
  | .getDocument collection id, a, w =>
    statement collection a w
      (getDocument server collection id w)
  | .createDocument auth collection data, a, w =>
    statement collection a w
      (createDocument server auth collection data a w)
  | .updateDocument auth collection id data, a, w =>
    statement collection a w
      (updateDocument server auth collection id data w)
  | .upsertDocument auth collection id data, a, w =>
    statement collection a w
      (upsertDocument server auth collection id data w)
  | .deleteDocument auth collection id, a, w =>
    statement collection a w
      (deleteDocument server auth collection id w)
  | .send event, _, w =>
    ((), { w with sent := event :: w.sent })

--------
-- Changes
--------

/- What a statement may do to the world. -/
inductive Changes (server : Server) :
    Op → World → World → Prop
  | none {o : Op} {w : World} : Changes server o w w
  | sent {event : Realtime.ChangeEvent} {w : World} :
      Changes server (.send event) w
        { w with sent := event :: w.sent }
  | created
      {auth : AuthContext} {collection id : String}
      {data : Value} {w : World}
      (hFree : w.rows collection id = .none) :
      Changes server (.createDocument auth collection data) w
        (insertRow server auth collection id data w).2
  | inserted
      {auth : AuthContext} {collection id : String}
      {data : Value} {w : World}
      (hFree :
        w.rows collection (bareId collection id) = .none) :
      Changes server
        (.upsertDocument auth collection id data) w
        (insertRow server auth collection
          (bareId collection id) data w).2
  | updated
      {auth : AuthContext} {collection id : String}
      {data : Value} {row : Row} {w : World}
      (hRow :
        w.rows collection (bareId collection id) =
          some row) :
      Changes server
        (.updateDocument auth collection id data) w
        (mergeRow server auth collection
          (bareId collection id) data row w).2
  | merged
      {auth : AuthContext} {collection id : String}
      {data : Value} {row : Row} {w : World}
      (hRow :
        w.rows collection (bareId collection id) =
          some row) :
      Changes server
        (.upsertDocument auth collection id data) w
        (mergeRow server auth collection
          (bareId collection id) data row w).2
  | deleted
      {auth : AuthContext} {collection id : String}
      {row : Row} {w : World}
      (hRow :
        w.rows collection (bareId collection id) =
          some row) :
      Changes server (.deleteDocument auth collection id) w
        (w.write
          ⟨auth, collection, bareId collection id, .none,
            some (document server (bareId collection id)
              row)⟩
          .none)

/- A statement does what it is for, or nothing. -/
theorem statement_cases
    (collection : String)
    (a : Answer)
    (w : World)
    (body : Except Error Value × World) :
    (statement collection a w body).2 = w ∨
      statement collection a w body = body := by
  unfold statement
  split
  · exact Or.inl rfl
  · exact Or.inl rfl
  · exact Or.inr rfl

theorem Changes.of_statement
    {server : Server}
    {o : Op}
    {collection : String}
    {a : Answer}
    {w : World}
    {body : Except Error Value × World}
    (hBody : Changes server o w body.2) :
    Changes server o w (statement collection a w body).2 := by
  rcases statement_cases collection a w body with
    hSame | hDone
  · rw [hSame]
    exact .none
  · rw [hDone]
    exact hBody

theorem changes_exec
    (server : Server)
    (o : Op)
    (a : Answer)
    (w : World) :
    Changes server o w (exec server o a w).2 := by
  cases o with
  | getDocument collection id =>
    apply Changes.of_statement
    unfold getDocument
    split
    · exact .none
    · exact .none
  | createDocument auth collection data =>
    apply Changes.of_statement
    unfold createDocument
    dsimp only
    split
    · exact .none
    · rename_i hFree
      exact .created hFree
  | updateDocument auth collection id data =>
    apply Changes.of_statement
    unfold updateDocument
    split
    · exact .none
    · rename_i row hRow
      exact .updated hRow
  | upsertDocument auth collection id data =>
    apply Changes.of_statement
    unfold upsertDocument
    split
    · rename_i hFree
      exact .inserted hFree
    · rename_i row hRow
      exact .merged hRow
  | deleteDocument auth collection id =>
    apply Changes.of_statement
    unfold deleteDocument
    split
    · exact .none
    · rename_i row hRow
      exact .deleted hRow
  | send event => exact .sent

end Orignabase.Graphql
