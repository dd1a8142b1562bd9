import Orignabase.Graphql.Store
import Orignabase.Lib.Url
import Orignabase.Lib.Table

/-
  Backup and restore of the database (`orignabase/src/main.rs`
  and `ob-database/src/pg_store.rs`).

  The text of a JSON value is read back as that value, and
  statements are taken not to fail.  Documents created at the
  same time are listed in the order of their rows.

  Key definitions include:
    * `Database`
    * `backupDatabase`, `restoreDatabase`
    * `SameDocuments`
    * `Restorable`

  Main results:
    * `restoreDatabase_backup`
    * `round_trip_iff`
-/

--------
-- Documents
--------

namespace Orignabase.Cli

open Graphql (Server bareId missing)

/- A row without its id. -/
structure Record where
  data : Value
  createdAt : Nat
  updatedAt : Nat
  deriving Repr

variable (server : Server)

/- A document with its metadata. -/
def Record.read (id : String) (record : Record) : Value :=
  Graphql.document server id
    { data := record.data
      createdAt := record.createdAt
      updatedAt := record.updatedAt
      creator := none }

/- The rows of all tables. -/
abbrev Tables := String → Table Record

/-
  The store of a document, at the time at which a row of the
  table and id is inserted.
-/
def createDocument
    (insertedAt : String → String → Nat)
    (uuid collection : String)
    (data : Value)
    (tables : Tables) : Except Error Tables :=
  let id := (data.getStr "id").getD uuid
  match (tables collection).get id with
  | some _ =>
    .error (.validation
      ("Document already exists in collection " ++
        collection ++ ": " ++ id))
  | none =>
    .ok (Function.update tables collection
      ((tables collection).insert id
        { data := data
          createdAt := insertedAt collection id
          updatedAt := insertedAt collection id }))

def getDocument
    (tables : Tables)
    (collection id : String) : Except Error Value :=
  match (tables collection).get (bareId collection id) with
  | none =>
    .error (missing collection (bareId collection id))
  | some record =>
    .ok (record.read server (bareId collection id))

/- The documents of a table, the latest first. -/
def listDocuments
    (tables : Tables)
    (collection : String)
    (limit offset : Option Nat) : List Value :=
  let rows := (tables collection).rows.mergeSort
    (fun a b => b.2.createdAt ≤ a.2.createdAt)
  ((rows.drop (offset.getD 0)).take
    (min (limit.getD 1000) 10000)).map
      (fun row => row.2.read server row.1)

--------
-- Backup and Restore
--------

open Graphql (Server)

/-
  A database: tables under their names, rows under their ids,
  every document an object.
-/
structure Database where
  tables : List (String × Table Record)
  identifiers : ∀ entry ∈ tables, isIdentifier entry.1 = true
  named : (tables.map Prod.fst).Nodup
  keyed : ∀ entry ∈ tables, entry.2.keys.Nodup
  objects : ∀ entry ∈ tables, ∀ row ∈ entry.2.rows,
    ∃ fields, row.2.data = .object fields

/- The rows of every table; other tables have none. -/
def Database.rows (db : Database) : Tables :=
  fun name => (db.tables.lookup name).getD ⟨[]⟩

/- The file of a backup.  Without tables none is written. -/
def backupDatabase
    (server : Server)
    (db : Database) : Option Value :=
  if db.tables.isEmpty then none
  else
    some (.object [("tables", .object
      (db.tables.map (fun entry =>
        (entry.1, .array (entry.2.rows.map
          (fun row => row.2.read server row.1))))))])

structure Restore where
  tables : Tables
  restored : Nat
  errors : Nat

/- The time of every insertion, and random identifiers. -/
structure Environment where
  insertedAt : String → String → Nat
  uuid : Nat → String

variable (env : Environment)

def restoreDoc
    (table : String)
    (r : Restore)
    (doc : Value) : Except Error Restore :=
  match validateIdentifier table with
  | .error e => .error e
  | .ok _ =>
    match createDocument env.insertedAt
        (env.uuid (r.restored + r.errors)) table doc
        r.tables with
    | .ok tables =>
      .ok { r with
        tables := tables
        restored := r.restored + 1 }
    | .error _ => .ok { r with errors := r.errors + 1 }

/- A value that is not an array is skipped. -/
def restoreTable
    (r : Restore)
    (entry : String × Value) : Except Error Restore :=
  match entry.2.asArray with
  | none => .ok r
  | some docs => docs.foldlM (restoreDoc env entry.1) r

/- Restore a file into an empty database. -/
def restoreDatabase (backup : Value) :
    Except Error Restore :=
  match (backup.get "tables").bind Value.asObject with
  | none =>
    .error (.internal "Backup file missing 'tables' object")
  | some tables =>
    tables.foldlM (restoreTable env)
      { tables := fun _ => ⟨[]⟩
        restored := 0
        errors := 0 }

/- What can be seen of the documents of two databases. -/
structure SameDocuments
    (server : Server)
    (before after : Tables) : Prop where
  ids : ∀ table id,
    id ∈ (after table).keys ↔ id ∈ (before table).keys
  data : ∀ table id,
    ((after table).get id).map (·.data) =
      ((before table).get id).map (·.data)
  get : ∀ table id,
    getDocument server after table id =
      getDocument server before table id
  list : ∀ table limit offset,
    listDocuments server after table limit offset =
      listDocuments server before table limit offset

/-
  A file that is written is restored without an error, into
  the documents it was written from.
-/
def RoundTrip
    (server : Server)
    (db : Database) : Prop :=
  ∀ file, backupDatabase server db = some file →
    ∃ r, restoreDatabase env file = .ok r ∧ r.errors = 0 ∧
      SameDocuments server db.rows r.tables

/-
  A row whose data is what is read of it, inserted at the
  time at which it is restored.
-/
def Restorable
    (server : Server)
    (table id : String)
    (record : Record) : Prop :=
  record.read server id = record.data ∧
    record.createdAt = env.insertedAt table id ∧
    record.updatedAt = env.insertedAt table id

--------
-- What Is Restored
--------

open Graphql (Server)

variable (env : Environment) (server : Server)

/- A row as it is restored. -/
def restoredRow
    (table : String)
    (row : String × Record) : String × Record :=
  (row.1,
    { data := row.2.read server row.1
      createdAt := env.insertedAt table row.1
      updatedAt := env.insertedAt table row.1 })

def restoredTable
    (name : String)
    (table : Table Record) : Table Record :=
  ⟨table.rows.map (restoredRow env server name)⟩

theorem getStr_read
    {id : String}
    {record : Record}
    (hObject : ∃ fields, record.data = .object fields) :
    (record.read server id).getStr "id" = some id := by
  rcases hObject with ⟨fields, hData⟩
  unfold Record.read Graphql.document
  simp only [hData]
  simp [Value.getStr, Value.get, Value.lookup_insertField,
    Value.asStr]

variable {name : String}

theorem validateIdentifier_of_isIdentifier
    (hName : isIdentifier name = true) :
    ∃ ok, validateIdentifier name = .ok ok := by
  unfold isIdentifier at hName
  cases hResult : validateIdentifier name with
  | error e =>
    rw [hResult] at hName
    cases hName
  | ok ok => exact ⟨ok, rfl⟩

/- One document of a table that does not have its id yet. -/
theorem restoreDoc_read
    (hName : isIdentifier name = true)
    {row : String × Record}
    (hObject : ∃ fields, row.2.data = .object fields)
    (r : Restore)
    (hNew : (r.tables name).get row.1 = none) :
    restoreDoc env name r (row.2.read server row.1) = .ok
        { tables := Function.update r.tables name
            ⟨(r.tables name).rows ++
              [restoredRow env server name row]⟩
          restored := r.restored + 1
          errors := r.errors } := by
  rcases validateIdentifier_of_isIdentifier hName with
    ⟨ok, hOk⟩
  unfold restoreDoc createDocument
  simp only [hOk, getStr_read server hObject,
    Option.getD_some, hNew]
  rfl

/- The rows of a table of which no id is there yet. -/
theorem restoreDocs_read
    (hName : isIdentifier name = true)
    {rows : List (String × Record)}
    (hObjects : ∀ row ∈ rows, ∃ fields,
      row.2.data = .object fields)
    (hDistinct : (rows.map Prod.fst).Nodup)
    (r : Restore)
    (hNew : ∀ row ∈ rows,
      (r.tables name).get row.1 = none) :
    (rows.map (fun row =>
        row.2.read server row.1)).foldlM
          (restoreDoc env name) r =
      .ok
        { tables := Function.update r.tables name
            ⟨(r.tables name).rows ++
              rows.map (restoredRow env server name)⟩
          restored := r.restored + rows.length
          errors := r.errors } := by
  induction rows generalizing r with
  | nil =>
    have hSame :
        (⟨(r.tables name).rows ++ []⟩ : Table Record) =
          r.tables name := by
      rw [List.append_nil]
    show Except.ok r = _
    rw [List.map_nil, hSame, Function.update_eq_self]
    rfl
  | cons row rest ih =>
    rw [List.map_cons, List.nodup_cons] at hDistinct
    rw [List.map_cons, List.foldlM_cons,
      restoreDoc_read env server hName
        (hObjects row List.mem_cons_self) r
        (hNew row List.mem_cons_self)]
    refine (ih (fun other hMem =>
        hObjects other (List.mem_cons_of_mem row hMem))
      hDistinct.2 _ ?_).trans ?_
    · intro other hMem
      have hNe : other.1 ≠ row.1 := by
        intro hSame
        apply hDistinct.1
        rw [← hSame]
        exact List.mem_map_of_mem hMem
      have hInsert := Table.get_insert (r.tables name)
        row.1 other.1 (restoredRow env server name row).2
      rw [if_neg hNe, Option.or_none,
        hNew other (List.mem_cons_of_mem row hMem)]
        at hInsert
      simp only [Function.update_self]
      exact hInsert
    · simp only [Function.update_self,
        Function.update_idem, List.append_assoc,
        List.singleton_append, List.map_cons,
        List.length_cons]
      congr 2
      omega

/- The tables of a file, none of which has rows yet. -/
theorem restoreTables_read
    {entries : List (String × Table Record)}
    (hNames : ∀ entry ∈ entries,
      isIdentifier entry.1 = true)
    (hDistinct : (entries.map Prod.fst).Nodup)
    (hKeyed : ∀ entry ∈ entries, entry.2.keys.Nodup)
    (hObjects : ∀ entry ∈ entries, ∀ row ∈ entry.2.rows,
      ∃ fields, row.2.data = .object fields)
    (r : Restore)
    (hEmpty : ∀ entry ∈ entries, r.tables entry.1 = ⟨[]⟩) :
    ∃ r',
      (entries.map (fun entry =>
        (entry.1, Value.array (entry.2.rows.map (fun row =>
          row.2.read server row.1))))).foldlM
            (restoreTable env) r = .ok r' ∧
      r'.errors = r.errors ∧
      ∀ name, r'.tables name =
        match entries.lookup name with
        | some table => restoredTable env server name table
        | none => r.tables name := by
  induction entries generalizing r with
  | nil => exact ⟨r, rfl, rfl, fun _ => rfl⟩
  | cons entry rest ih =>
    rcases entry with ⟨name, table⟩
    rw [List.map_cons, List.nodup_cons] at hDistinct
    have hTable := hEmpty (name, table) List.mem_cons_self
    have hDocs := restoreDocs_read env server
      (hNames (name, table) List.mem_cons_self)
      (hObjects (name, table) List.mem_cons_self)
      (hKeyed (name, table) List.mem_cons_self) r
      (fun row _ => by
        rw [show r.tables name = ⟨[]⟩ from hTable]
        rfl)
    rw [show r.tables name = ⟨[]⟩ from hTable] at hDocs
    rcases ih (fun other hMem =>
        hNames other (List.mem_cons_of_mem _ hMem))
      hDistinct.2
      (fun other hMem =>
        hKeyed other (List.mem_cons_of_mem _ hMem))
      (fun other hMem =>
        hObjects other (List.mem_cons_of_mem _ hMem))
      { tables := Function.update r.tables name
          (restoredTable env server name table)
        restored := r.restored + table.rows.length
        errors := r.errors }
      (fun other hMem => by
        have hNe : other.1 ≠ name := by
          intro hSame
          have hIn :=
            List.mem_map_of_mem (f := Prod.fst) hMem
          rw [hSame] at hIn
          exact hDistinct.1 hIn
        exact (Function.update_of_ne hNe _ _).trans
          (hEmpty other (List.mem_cons_of_mem _ hMem)))
      with ⟨r', hFold, hErrors, hTables⟩
    refine ⟨r', ?_, hErrors, ?_⟩
    · rw [List.map_cons, List.foldlM_cons]
      have hStep :
          restoreTable env r (name, Value.array
              (table.rows.map (fun row =>
                row.2.read server row.1))) =
            .ok
              { tables := Function.update r.tables name
                  (restoredTable env server name table)
                restored := r.restored + table.rows.length
                errors := r.errors } := hDocs
      rw [hStep]
      exact hFold
    · intro other
      rw [hTables other, List.lookup_cons]
      by_cases hOther : other = name
      · subst hOther
        have hNone : rest.lookup other = none := by
          rw [List.lookup_eq_none_iff]
          intro entry hMem
          have hIn :=
            List.mem_map_of_mem (f := Prod.fst) hMem
          rw [bne_iff_ne]
          rintro rfl
          exact hDistinct.1 hIn
        simp only [hNone, beq_self_eq_true,
          Function.update_self]
      · have hBeq : (other == name) = false :=
          beq_eq_false_iff_ne.mpr hOther
        simp only [hBeq, Function.update_of_ne hOther]

/- Restoring a backup makes every row anew. -/
theorem restoreDatabase_backup
    (db : Database)
    {file : Value}
    (hFile : backupDatabase server db = some file) :
    ∃ r, restoreDatabase env file = .ok r ∧ r.errors = 0 ∧
      ∀ name, r.tables name =
        restoredTable env server name (db.rows name) := by
  unfold backupDatabase at hFile
  split_ifs at hFile
  cases hFile
  rcases restoreTables_read env server db.identifiers
      db.named db.keyed db.objects
      { tables := fun _ => ⟨[]⟩, restored := 0, errors := 0 }
      (fun _ _ => rfl) with ⟨r, hFold, hErrors, hTables⟩
  refine ⟨r, hFold, hErrors, ?_⟩
  intro name
  rw [hTables name]
  unfold Database.rows
  cases db.tables.lookup name with
  | none => rfl
  | some table => rfl

--------
-- Round Trips
--------

open Graphql (Server bareId)

section

variable (env : Environment) (server : Server)

theorem get_restoredTable
    (name : String)
    (table : Table Record)
    (id : String) :
    (restoredTable env server name table).get id =
      (table.get id).map (fun record =>
        (restoredRow env server name (id, record)).2) := by
  unfold Table.get restoredTable
  rw [List.find?_map]
  have hKeys :
      ((fun row : String × Record => decide (row.1 = id)) ∘
          restoredRow env server name) =
        fun row => decide (row.1 = id) := rfl
  rw [hKeys]
  cases hFind :
      table.rows.find? (fun row => decide (row.1 = id)) with
  | none => rfl
  | some row =>
    have hId : row.1 = id := by
      simpa using List.find?_some hFind
    rw [← hId]
    rfl

/- The times of a document as they are read. -/
theorem times_read
    (id : String)
    {record : Record}
    (hObject : ∃ fields, record.data = .object fields) :
    (record.read server id).getStr "createdAt" =
        some (server.rfc3339 record.createdAt) ∧
      (record.read server id).getStr "updatedAt" =
        some (server.rfc3339 record.updatedAt) := by
  rcases hObject with ⟨fields, hData⟩
  unfold Record.read Graphql.document
  simp only [hData]
  constructor
  · simp [Value.getStr, Value.get, Value.lookup_insertField,
      Value.asStr]
  · simp [Value.getStr, Value.get, Value.lookup_insertField,
      Value.asStr]

theorem read_object
    {record : Record}
    (hObject : ∃ fields, record.data = .object fields)
    (id : String) :
    ∃ fields, record.read server id = .object fields := by
  rcases hObject with ⟨fields, hData⟩
  unfold Record.read Graphql.document
  simp only [hData]
  exact ⟨_, rfl⟩

/- A row is made anew as it was. -/
theorem restoredRow_eq
    {name : String}
    {row : String × Record}
    (hRestorable : Restorable env server name row.1 row.2) :
    restoredRow env server name row = row := by
  rcases hRestorable with ⟨hRead, hCreated, hUpdated⟩
  unfold restoredRow
  rw [hRead]
  refine Prod.ext rfl ?_
  rcases row with ⟨id, data, createdAt, updatedAt⟩
  change createdAt = env.insertedAt name id at hCreated
  change updatedAt = env.insertedAt name id at hUpdated
  subst hCreated
  subst hUpdated
  rfl

theorem sameDocuments_refl (tables : Tables) :
    SameDocuments server tables tables where
  ids := fun _ _ => Iff.rfl
  data := fun _ _ => rfl
  get := fun _ _ => rfl
  list := fun _ _ _ => rfl

variable {db : Database}

theorem mem_of_lookup_tables
    {name : String}
    {table : Table Record}
    (hLookup : db.tables.lookup name = some table) :
    (name, table) ∈ db.tables := by
  rcases List.lookup_eq_some_iff.mp hLookup with
    ⟨before, after, hTables, -⟩
  rw [hTables]
  simp

/- The rows of a table under its name. -/
theorem rows_of_mem
    {entry : String × Table Record}
    (hEntry : entry ∈ db.tables) :
    db.rows entry.1 = entry.2 := by
  unfold Database.rows
  cases hLookup : db.tables.lookup entry.1 with
  | none =>
    rw [List.lookup_eq_none_iff] at hLookup
    have hNe := hLookup entry hEntry
    simp at hNe
  | some table =>
    have hSame := List.inj_on_of_nodup_map db.named
      (mem_of_lookup_tables hLookup) hEntry rfl
    rw [← hSame]
    rfl

/-
  A row that can be seen to be the same was restorable: its
  data already had the metadata that reading puts in.
-/
theorem restorable_of_same
    (hInjective : Function.Injective server.rfc3339)
    {after : Tables}
    (hAfter : ∀ name, after name =
      restoredTable env server name (db.rows name))
    (hSame : SameDocuments server db.rows after)
    {entry : String × Table Record}
    (hEntry : entry ∈ db.tables)
    {row : String × Record}
    (hRow : row ∈ entry.2.rows) :
    Restorable env server entry.1 row.1 row.2 := by
  have hObject := db.objects entry hEntry row hRow
  have hBefore :
      (db.rows entry.1).get row.1 = some row.2 := by
    rw [rows_of_mem hEntry]
    exact Table.get_of_mem (db.keyed entry hEntry) hRow
  have hGet :
      (after entry.1).get row.1 =
        some (restoredRow env server entry.1 row).2 := by
    rw [hAfter, get_restoredTable, hBefore]
    rfl
  have hData := hSame.data entry.1 row.1
  rw [hGet, hBefore] at hData
  -- The id is asked for with the name of its collection.
  have hRead := hSame.get entry.1 (entry.1 ++ ":" ++ row.1)
  have hBare :
      bareId entry.1 (entry.1 ++ ":" ++ row.1) = row.1 := by
    unfold bareId
    rw [Text.stripPrefix_append]
    rfl
  unfold getDocument at hRead
  rw [hBare, hGet, hBefore] at hRead
  have hDocs := Except.ok.inj hRead
  have hTimes := times_read server row.1 hObject
  have hNewTimes := times_read server row.1 (show ∃ fields,
        (restoredRow env server entry.1 row).2.data =
          .object fields from
      read_object server hObject row.1)
  rw [hDocs] at hNewTimes
  refine ⟨Option.some.inj hData, ?_, ?_⟩
  · exact hInjective (Option.some.inj
      (hTimes.1.symm.trans hNewTimes.1))
  · exact hInjective (Option.some.inj
      (hTimes.2.symm.trans hNewTimes.2))

end

/-
  A backup is restored into the documents it was made of
  exactly when every row can be restored as it was.
-/
theorem round_trip_iff
    (env : Environment)
    (server : Server)
    (hInjective : Function.Injective server.rfc3339)
    (db : Database) :
    RoundTrip env server db ↔
      ∀ entry ∈ db.tables, ∀ row ∈ entry.2.rows,
        Restorable env server entry.1 row.1 row.2 := by
  constructor
  · intro hTrip entry hEntry row hRow
    have hSome : db.tables.isEmpty = false := by
      rw [List.isEmpty_eq_false_iff]
      rintro hEmpty
      rw [hEmpty] at hEntry
      cases hEntry
    have hFile : ∃ file,
        backupDatabase server db = some file := by
      unfold backupDatabase
      rw [hSome]
      exact ⟨_, rfl⟩
    rcases hFile with ⟨file, hFile⟩
    rcases hTrip file hFile with ⟨r, hRestored, -, hSame⟩
    rcases restoreDatabase_backup env server db hFile with
      ⟨r', hRestored', -, hTables⟩
    rw [hRestored] at hRestored'
    cases hRestored'
    exact restorable_of_same env server hInjective hTables
      hSame hEntry hRow
  · intro hRestorable file hFile
    rcases restoreDatabase_backup env server db hFile with
      ⟨r, hRestored, hErrors, hTables⟩
    refine ⟨r, hRestored, hErrors, ?_⟩
    have hSame : r.tables = db.rows := by
      funext name
      rw [hTables name]
      unfold Database.rows
      cases hLookup : db.tables.lookup name with
      | none => rfl
      | some table =>
        have hEntry := mem_of_lookup_tables hLookup
        have hRows :
            table.rows.map (restoredRow env server name) =
              table.rows := by
          rw [List.map_congr_left (fun row hRow =>
            restoredRow_eq env server
              (hRestorable _ hEntry row hRow)),
            List.map_id']
        exact congrArg Table.mk hRows
    rw [hSame]
    exact sameDocuments_refl server db.rows

/- A server whose times are the first seconds of 1970. -/
def plainServer : Server where
  floats := .decimal
  parse := fun _ => none
  rfc3339 := fun n =>
    "1970-01-01T00:00:0" ++
      (String.ofList (Nat.toDigits 10 n) ++ "+00:00")
  rules := ⟨fun _ => none⟩

theorem plainServer_injective :
    Function.Injective plainServer.rfc3339 := by
  intro m n hSame
  have hRest := (String.append_right_inj _).mp hSame
  have hDigits := (String.append_left_inj _).mp hRest
  exact Url.toDigits_injective
    (String.ofList_injective hDigits)

/- A table of one row. -/
def oneRow
    (id : String)
    (fields : List (String × Value))
    (time : Nat) : Database where
  tables := [("products", ⟨[(id,
    { data := .object fields
      createdAt := time
      updatedAt := time })]⟩)]
  identifiers := by
    intro entry hEntry
    rw [List.mem_singleton.mp hEntry]
    have hName : isIdentifier "products" = true := by decide
    exact hName
  named := List.nodup_singleton _
  keyed := by
    intro entry hEntry
    rw [List.mem_singleton.mp hEntry]
    exact List.nodup_singleton _
  objects := by
    intro entry hEntry row hRow
    rw [List.mem_singleton.mp hEntry] at hRow
    rw [List.mem_singleton.mp hRow]
    exact ⟨fields, rfl⟩

/- A row that was created within a restore. -/
theorem round_trip_of_restored :
    RoundTrip ⟨fun _ _ => 1, fun _ => ""⟩ plainServer
      (oneRow "p1" [("createdAt",
            .string "1970-01-01T00:00:01+00:00"),
          ("id", .string "p1"),
          ("updatedAt",
            .string "1970-01-01T00:00:01+00:00")] 1) := by
  rw [round_trip_iff _ _ plainServer_injective]
  intro entry hEntry row hRow
  rw [List.mem_singleton.mp hEntry] at hRow ⊢
  rw [List.mem_singleton.mp hRow]
  refine ⟨?_, rfl, rfl⟩
  decide

/-
  A product of which a backup is restored has its metadata in
  its data, and other times.
-/
theorem product_changed_by_restore :
    ¬ RoundTrip ⟨fun _ _ => 2, fun _ => ""⟩ plainServer
      (oneRow "p1" [("title", .string "Mug")] 1) := by
  intro hTrip
  have hFile :
      ∃ file, backupDatabase plainServer
        (oneRow "p1" [("title", .string "Mug")] 1) =
          some file := ⟨_, rfl⟩
  rcases hFile with ⟨file, hFile⟩
  rcases hTrip file hFile with ⟨r, hRestored, -, hSame⟩
  rcases restoreDatabase_backup _ _ _ hFile with
    ⟨r', hRestored', -, hTables⟩
  rw [hRestored] at hRestored'
  cases hRestored'
  have hData := hSame.data "products" "p1"
  rw [hTables] at hData
  revert hData
  decide

end Orignabase.Cli
