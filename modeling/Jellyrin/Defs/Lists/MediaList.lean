import Jellyrin.Defs.Data.HashMap
import Jellyrin.Defs.Data.SortOn
import Jellyrin.Defs.Data.EntityId
import Jellyrin.Defs.Transition.Machine
import Mathlib.Data.Prod.Lex

/-! A playlist or collection in the database: the transactions on the items of one list. -/

namespace Jellyrin.Lists

structure MediaItem where
  name : String
  /-- `missing_since` is set: the item is hidden. -/
  missing : Bool

structure Entry where
  itemId : Uuid
  playlistItemId : Uuid
  addedAt : Nat
  deriving DecidableEq

structure Row extends Entry where
  position : Int
  deriving DecidableEq

structure MediaList where
  kind : String
  name : String
  collectionType : Option String
  ownerUserId : Option Uuid
  createdAt : Nat
  updatedAt : Nat

structure Store where
  mediaItems : HashMap Uuid MediaItem
  list : Option MediaList
  rows : List Row

inductive Error where
  | database
  | ensure (message : String)

/-! Statements of a transaction. -/

structure Session where
  store : Store
  /-- Which of the statements to come fail. -/
  faults : List Bool

abbrev Tx := StateT Session (Except Error)

def statement {α : Type} (f : Store → Except Error (α × Store)) : Tx α := fun session =>
  if session.faults.headD false then .error .database
  else (f session.store).map fun (a, store) => (a, ⟨store, session.faults.tail⟩)

def query {α : Type} (f : Store → Except Error α) : Tx α :=
  statement fun store => (f store).map (·, store)

def updateRows (f : List Row → Except Error (List Row)) : Tx Unit :=
  statement fun store => (f store.rows).map fun rows => ((), { store with rows })

def ensure (condition : Bool) (message : String) : Tx Unit :=
  if condition then pure () else throw (.ensure message)

def lockMediaList : Tx Unit :=
  query fun store => if store.list.isSome then .ok () else .error .database

def Store.isVisible (store : Store) (itemId : Uuid) : Bool :=
  (store.mediaItems.lookup itemId).any fun item => !item.missing

def ensureVisibleMediaItems (itemIds : List Uuid) : Tx Unit := do
  if itemIds.isEmpty then return
  let count ← query fun store =>
    .ok (store.mediaItems.keys.filter fun itemId =>
      itemIds.contains itemId && store.isVisible itemId).length
  ensure (count = itemIds.length) "one or more media items were not found"

/-- `INSERT … ON CONFLICT (list_id, item_id) DO NOTHING`; the identifiers of entries are unique. -/
def insertRow (rows : List Row) (row : Row) : Except Error (List Row) :=
  if row.itemId ∈ rows.map (·.itemId) then .ok rows
  else if row.playlistItemId ∈ rows.map (·.playlistItemId) then .error .database
  else .ok (rows ++ [row])

def newRows (itemIds : List Uuid) (newV4 : Nat → Uuid) (startPosition : Int) (addedAt : Nat) :
    List Row :=
  itemIds.zipIdx.map fun (itemId, k) =>
    { itemId, playlistItemId := newV4 k, addedAt, position := startPosition + k }

def insertMediaListItems (itemIds : List Uuid) (newV4 : Nat → Uuid) (startPosition : Int)
    (addedAt : Nat) : Tx Unit :=
  if itemIds.isEmpty then pure ()
  else updateRows fun rows => (newRows itemIds newV4 startPosition addedAt).foldlM insertRow rows

def rowKey (row : Row) : Int ×ₗ Nat ×ₗ Nat :=
  toLex (row.position, toLex (row.addedAt, row.playlistItemId.toNat))

def ordered (rows : List Row) : List Row := sortOn rowKey rows

def renumber (ordering : List Uuid) (rows : List Row) : List Row :=
  rows.map fun row =>
    if row.playlistItemId ∈ ordering then
      { row with position := ordering.idxOf row.playlistItemId }
    else row

def reindexMediaList : Tx Unit :=
  updateRows fun rows => .ok (renumber ((ordered rows).map (·.playlistItemId)) rows)

def updateMediaListPositions (ordering : List Row) : Tx Unit :=
  if ordering.isEmpty then pure ()
  else updateRows fun rows => .ok (renumber (ordering.map (·.playlistItemId)) rows)

def touchMediaList (updatedAt : Nat) : Tx Unit :=
  statement fun store =>
    .ok ((), { store with list := store.list.map fun list => { list with updatedAt } })

def commit : Tx Unit := query fun _ => .ok ()

def dedupeUuids (values : List Uuid) : List Uuid := go [] values
where
  go (seen : List Uuid) : List Uuid → List Uuid
    | [] => []
    | value :: rest =>
      if value ∈ seen then go seen rest else value :: go (value :: seen) rest

/-! The operations. -/

structure NewMediaList where
  kind : String
  name : String
  collectionType : Option String
  ownerUserId : Option Uuid
  itemIds : List Uuid

def createMediaList (input : NewMediaList) (newV4 : Nat → Uuid) (now : Nat) : Tx Unit := do
  let kind := Json.trim input.kind
  let name := Json.trim input.name
  ensure (kind ≠ "") "media list kind must not be empty"
  ensure (name ≠ "") "media list name must not be empty"
  let itemIds := dedupeUuids input.itemIds
  statement fun store =>
    if store.list.isSome then .error .database
    else .ok ((), { store with
      list := some ⟨kind, name, input.collectionType, input.ownerUserId, now, now⟩ })
  ensureVisibleMediaItems itemIds
  insertMediaListItems itemIds newV4 0 now
  commit

def existingItemIds (itemIds : List Uuid) : Tx (List Uuid) :=
  if itemIds.isEmpty then pure []
  else query fun store => .ok ((store.rows.map (·.itemId)).filter (· ∈ itemIds))

def addMediaListItems (itemIds : List Uuid) (newV4 : Nat → Uuid) (now : Nat) : Tx Unit := do
  let itemIds := dedupeUuids itemIds
  lockMediaList
  ensureVisibleMediaItems itemIds
  let existing ← existingItemIds itemIds
  let newItemIds := itemIds.filter (· ∉ existing)
  -- `COALESCE(MAX(position) + 1, 0)`
  let nextPosition ← query fun store =>
    .ok (((store.rows.map (·.position)).max?.map (· + 1)).getD 0)
  insertMediaListItems newItemIds newV4 nextPosition now
  touchMediaList now
  commit

def removeMediaListItems (itemIds playlistItemIds : List Uuid) (now : Nat) : Tx Unit := do
  let itemIds := dedupeUuids itemIds
  let playlistItemIds := dedupeUuids playlistItemIds
  lockMediaList
  updateRows fun rows =>
    .ok (rows.filter fun row => !(row.itemId ∈ itemIds || row.playlistItemId ∈ playlistItemIds))
  reindexMediaList
  touchMediaList now
  commit

def Entry.isTarget (targetId : Uuid) (entry : Entry) : Bool :=
  entry.itemId = targetId || entry.playlistItemId = targetId

def moveMediaListItem (targetId : Uuid) (newIndex : Int) (now : Nat) : Tx Unit := do
  lockMediaList
  let rows ← query fun store => .ok (ordered store.rows)
  match rows.find? (·.isTarget targetId) with
  | none => throw (.ensure "media list item not found")
  | some row =>
    let rows := rows.eraseP (·.isTarget targetId)
    let target := (min (max newIndex 0) rows.length).toNat
    updateMediaListPositions (rows.insertIdx target row)
    touchMediaList now
    commit

def Store.visibleRows (store : Store) : List (Row × MediaItem) :=
  store.rows.filterMap fun row =>
    ((store.mediaItems.lookup row.itemId).filter fun item => !item.missing).map (row, ·)

/-- `ORDER BY position, lower(name), name`, where names are compared by a collation. -/
def mediaListItems {γ : Type} [LinearOrder γ] (collate : String → γ) (store : Store) :
    Except Error (List (Row × MediaItem)) :=
  if store.list.isSome then
    .ok (sortOn (fun (row, item) => toLex (row.position, collate item.name)) store.visibleRows)
  else .error .database

/-! Runs. -/

inductive Command where
  | create (input : NewMediaList) (newV4 : Nat → Uuid) (now : Nat)
  | add (itemIds : List Uuid) (newV4 : Nat → Uuid) (now : Nat)
  | remove (itemIds playlistItemIds : List Uuid) (now : Nat)
  | move (targetId : Uuid) (newIndex : Int) (now : Nat)

def Command.body : Command → Tx Unit
  | .create input newV4 now => createMediaList input newV4 now
  | .add itemIds newV4 now => addMediaListItems itemIds newV4 now
  | .remove itemIds playlistItemIds now => removeMediaListItems itemIds playlistItemIds now
  | .move targetId newIndex now => moveMediaListItem targetId newIndex now

def Command.run (command : Command) (faults : List Bool) (store : Store) :
    Store × Except Error Unit :=
  match command.body ⟨store, faults⟩ with
  | .ok ((), session) => (session.store, .ok ())
  | .error error => (store, .error error)

inductive Event where
  | transaction (command : Command) (faults : List Bool)
  /-- A media item is added, renamed, hidden or shown. -/
  | mediaItem (itemId : Uuid) (item : MediaItem)

def Event.apply (store : Store) : Event → Store
  | .transaction command faults => (command.run faults store).1
  | .mediaItem itemId item => { store with mediaItems := store.mediaItems.insert itemId item }

def machine : Transition.Machine Store Event where
  init := { mediaItems := ∅, list := none, rows := [] }
  step := fun store event => some (event.apply store)

end Jellyrin.Lists
