import Jellyrin.Defs.Lists.MediaList

/-! What the transactions do to the order of a list, and which moves the reader sees as asked for. -/

namespace Jellyrin.Lists

open Transition

/-! Statements. -/

section Statements

variable {α β : Type} {session session' : Session}

theorem Tx.bind_ok {x : Tx α} {f : α → Tx β} {b : β}
    (h : (x >>= f) session = .ok (b, session')) :
    ∃ a between, x session = .ok (a, between) ∧ f a between = .ok (b, session') := by
  change (x session >>= fun (a, between) => f a between) = .ok (b, session') at h
  cases hx : x session with
  | error error =>
    rw [hx] at h
    cases h
  | ok result =>
    rw [hx] at h
    exact ⟨result.1, result.2, rfl, h⟩

theorem statement_ok {f : Store → Except Error (α × Store)} {a : α}
    (h : statement f session = .ok (a, session')) : f session.store = .ok (a, session'.store) := by
  rw [statement] at h
  split at h
  · cases h
  · cases hf : f session.store with
    | error error =>
      rw [hf] at h
      cases h
    | ok result =>
      rw [hf] at h
      cases h
      rfl

theorem query_ok {f : Store → Except Error α} {a : α} (h : query f session = .ok (a, session')) :
    f session.store = .ok a ∧ session'.store = session.store := by
  have h := statement_ok h
  cases hf : f session.store with
  | error error =>
    rw [hf] at h
    cases h
  | ok result =>
    rw [hf] at h
    obtain ⟨rfl, hstore⟩ := Prod.mk.inj (Except.ok.inj h)
    exact ⟨rfl, hstore.symm⟩

theorem updateRows_ok {f : List Row → Except Error (List Row)} {u : Unit}
    (h : updateRows f session = .ok (u, session')) :
    ∃ rows, f session.store.rows = .ok rows ∧ session'.store = { session.store with rows } := by
  have h := statement_ok h
  cases hf : f session.store.rows with
  | error error =>
    rw [hf] at h
    cases h
  | ok rows =>
    rw [hf] at h
    exact ⟨rows, rfl, (Prod.mk.inj (Except.ok.inj h)).2.symm⟩

theorem ensure_ok {condition : Bool} {message : String} {u : Unit}
    (h : ensure condition message session = .ok (u, session')) :
    condition = true ∧ session' = session := by
  rw [ensure] at h
  split at h
  · cases h
    exact ⟨‹_›, rfl⟩
  · cases h

theorem lockMediaList_ok {u : Unit} (h : lockMediaList session = .ok (u, session')) :
    session.store.list.isSome = true ∧ session'.store = session.store := by
  obtain ⟨hlist, hstore⟩ := query_ok h
  split at hlist
  · exact ⟨‹_›, hstore⟩
  · cases hlist

theorem ensureVisibleMediaItems_ok {itemIds : List Uuid} {u : Unit}
    (h : ensureVisibleMediaItems itemIds session = .ok (u, session')) :
    session'.store = session.store := by
  rw [ensureVisibleMediaItems] at h
  split at h
  · cases h
    rfl
  · obtain ⟨count, between, hcount, h⟩ := Tx.bind_ok h
    rw [(ensure_ok h).2, (query_ok hcount).2]

theorem insertMediaListItems_ok {itemIds : List Uuid} {newV4 : Nat → Uuid} {startPosition : Int}
    {addedAt : Nat} {u : Unit}
    (h : insertMediaListItems itemIds newV4 startPosition addedAt session = .ok (u, session')) :
    ∃ rows, (newRows itemIds newV4 startPosition addedAt).foldlM insertRow session.store.rows =
      .ok rows ∧ session'.store = { session.store with rows } := by
  rw [insertMediaListItems] at h
  split at h
  · rename_i hempty
    cases h
    rw [List.isEmpty_iff.mp hempty]
    exact ⟨_, rfl, rfl⟩
  · exact updateRows_ok h

theorem updateMediaListPositions_ok {ordering : List Row} {u : Unit}
    (h : updateMediaListPositions ordering session = .ok (u, session')) :
    session'.store = { session.store with
      rows := renumber (ordering.map (·.playlistItemId)) session.store.rows } := by
  rw [updateMediaListPositions] at h
  split at h
  · rename_i hempty
    cases h
    rw [List.isEmpty_iff.mp hempty]
    simp [renumber]
  · obtain ⟨rows, hrows, hstore⟩ := updateRows_ok h
    cases hrows
    exact hstore

theorem touchMediaList_ok {updatedAt : Nat} {u : Unit}
    (h : touchMediaList updatedAt session = .ok (u, session')) :
    session'.store = { session.store with
      list := session.store.list.map fun list => { list with updatedAt } } := by
  have h := statement_ok h
  exact (Prod.mk.inj (Except.ok.inj h)).2.symm

theorem commit_ok {u : Unit} (h : commit session = .ok (u, session')) :
    session'.store = session.store := (query_ok h).2

end Statements

/-! Identifiers without repetition. -/

theorem mem_dedupeUuids_go {seen values : List Uuid} {id : Uuid} :
    id ∈ dedupeUuids.go seen values ↔ id ∈ values ∧ id ∉ seen := by
  induction values generalizing seen with
  | nil => simp [dedupeUuids.go]
  | cons value rest ih =>
    rw [dedupeUuids.go]
    split
    · rename_i hseen
      rw [ih, List.mem_cons]
      constructor
      · exact fun h => ⟨.inr h.1, h.2⟩
      · rintro ⟨rfl | hrest, hnot⟩
        · exact absurd hseen hnot
        · exact ⟨hrest, hnot⟩
    · rename_i hseen
      rw [List.mem_cons, ih, List.mem_cons, List.mem_cons]
      by_cases hid : id = value
      · rw [hid]
        simp [hseen]
      · simp [hid]

theorem mem_dedupeUuids {values : List Uuid} {id : Uuid} : id ∈ dedupeUuids values ↔ id ∈ values := by
  rw [dedupeUuids, mem_dedupeUuids_go]
  simp

theorem nodup_dedupeUuids_go (seen values : List Uuid) : (dedupeUuids.go seen values).Nodup := by
  induction values generalizing seen with
  | nil => exact List.nodup_nil
  | cons value rest ih =>
    rw [dedupeUuids.go]
    split
    · exact ih seen
    · refine List.nodup_cons.mpr ⟨fun h => ?_, ih (value :: seen)⟩
      exact (mem_dedupeUuids_go.mp h).2 List.mem_cons_self

theorem nodup_dedupeUuids (values : List Uuid) : (dedupeUuids values).Nodup :=
  nodup_dedupeUuids_go [] values

/-! The order of the rows. -/

structure Distinct (rows : List Row) : Prop where
  items : (rows.map (·.itemId)).Nodup
  entries : (rows.map (·.playlistItemId)).Nodup
  positions : (rows.map (·.position)).Nodup

def order (rows : List Row) : List Entry := (ordered rows).map (·.toEntry)

theorem rowKey_lt {a b : Row} (h : a.position < b.position) : rowKey a < rowKey b :=
  Prod.Lex.toLex_lt_toLex.mpr (.inl h)

theorem position_le_of_rowKey_le {a b : Row} (h : rowKey a ≤ rowKey b) : a.position ≤ b.position := by
  obtain h | ⟨h, -⟩ := Prod.Lex.toLex_le_toLex.mp h
  · exact h.le
  · exact h.le

theorem ordered_perm (rows : List Row) : (ordered rows).Perm rows := sortOn_perm rowKey rows

theorem order_perm (rows : List Row) : (order rows).Perm (rows.map (·.toEntry)) :=
  (ordered_perm rows).map _

variable {rows : List Row}

theorem Distinct.perm {l : List Row} (h : Distinct rows) (hperm : l.Perm rows) : Distinct l where
  items := (hperm.map _).nodup_iff.mpr h.items
  entries := (hperm.map _).nodup_iff.mpr h.entries
  positions := (hperm.map _).nodup_iff.mpr h.positions

theorem Distinct.filter (h : Distinct rows) (p : Row → Bool) : Distinct (rows.filter p) where
  items := h.items.sublist (List.filter_sublist.map _)
  entries := h.entries.sublist (List.filter_sublist.map _)
  positions := h.positions.sublist (List.filter_sublist.map _)

theorem Distinct.pairwise_ordered (h : Distinct rows) :
    (ordered rows).Pairwise fun a b => a.position < b.position := by
  have hne := List.pairwise_map.mp (h.perm (ordered_perm rows)).positions
  exact ((pairwise_sortOn rowKey rows).and hne).imp fun ⟨hle, hne⟩ =>
    lt_of_le_of_ne (position_le_of_rowKey_le hle) hne

theorem ordered_eq {l : List Row} (hperm : l.Perm rows)
    (hl : l.Pairwise fun a b => a.position < b.position) : ordered rows = l :=
  sortOn_eq hperm (hl.imp rowKey_lt)

theorem Distinct.ordered_filter (h : Distinct rows) (p : Row → Bool) :
    ordered (rows.filter p) = (ordered rows).filter p :=
  ordered_eq ((ordered_perm rows).filter p) (h.pairwise_ordered.filter p)

theorem Distinct.nodup_order (h : Distinct rows) : ((order rows).map (·.itemId)).Nodup := by
  rw [order, List.map_map]
  exact (h.perm (ordered_perm rows)).items

/-! Insertion. -/

theorem foldlM_insertRow {new rows' : List Row} (h : new.foldlM insertRow rows = .ok rows')
    (hitems : (rows.map (·.itemId) ++ new.map (·.itemId)).Nodup)
    (hentries : (rows.map (·.playlistItemId)).Nodup) :
    rows' = rows ++ new ∧ (rows'.map (·.playlistItemId)).Nodup := by
  induction new generalizing rows with
  | nil =>
    cases h
    exact ⟨(List.append_nil _).symm, hentries⟩
  | cons row new ih =>
    have hnew : row.itemId ∉ rows.map (·.itemId) := fun hmem =>
      (List.nodup_append.mp hitems).2.2 _ hmem _ List.mem_cons_self rfl
    rw [List.foldlM_cons, insertRow, if_neg hnew] at h
    split at h
    · cases h
    · rename_i hfresh
      change new.foldlM insertRow (rows ++ [row]) = .ok rows' at h
      have hitems : ((rows ++ [row]).map (·.itemId) ++ new.map (·.itemId)).Nodup := by
        simpa using hitems
      have hentries : ((rows ++ [row]).map (·.playlistItemId)).Nodup := by
        rw [List.map_append]
        exact hentries.append (List.nodup_singleton _) (by simpa using hfresh)
      obtain ⟨rfl, hnodup⟩ := ih h hitems hentries
      exact ⟨by rw [List.append_assoc, List.singleton_append], hnodup⟩

section NewRows

variable (itemIds : List Uuid) (newV4 : Nat → Uuid) (startPosition : Int) (addedAt : Nat)

theorem map_itemId_newRows :
    (newRows itemIds newV4 startPosition addedAt).map (·.itemId) = itemIds := by
  rw [newRows, List.map_map]
  exact List.zipIdx_map_fst 0 itemIds

theorem pairwise_newRows : (newRows itemIds newV4 startPosition addedAt).Pairwise
    fun a b => a.position < b.position := by
  rw [List.pairwise_iff_getElem]
  intro i j hi hj hij
  simp only [newRows, List.getElem_map, List.getElem_zipIdx]
  omega

theorem le_position_of_mem_newRows {row : Row}
    (h : row ∈ newRows itemIds newV4 startPosition addedAt) : startPosition ≤ row.position := by
  obtain ⟨⟨itemId, k⟩, -, rfl⟩ := List.mem_map.mp h
  exact Int.le_add_of_nonneg_right (Int.natCast_nonneg k)

end NewRows

theorem Distinct.insert (h : Distinct rows) {itemIds : List Uuid} {newV4 : Nat → Uuid}
    {startPosition : Int} {addedAt : Nat} {rows' : List Row} (hnodup : itemIds.Nodup)
    (hnew : ∀ row ∈ rows, row.itemId ∉ itemIds)
    (hstart : ∀ row ∈ rows, row.position < startPosition)
    (hinsert : (newRows itemIds newV4 startPosition addedAt).foldlM insertRow rows = .ok rows') :
    Distinct rows' ∧
      order rows' = order rows ++ (newRows itemIds newV4 startPosition addedAt).map (·.toEntry) := by
  have hitems : (rows.map (·.itemId) ++
      (newRows itemIds newV4 startPosition addedAt).map (·.itemId)).Nodup := by
    rw [map_itemId_newRows]
    refine h.items.append hnodup ?_
    intro itemId hmem hitem
    obtain ⟨row, hrow, rfl⟩ := List.mem_map.mp hmem
    exact hnew row hrow hitem
  obtain ⟨rfl, hentries⟩ := foldlM_insertRow hinsert hitems h.entries
  have hordered : (ordered rows ++ newRows itemIds newV4 startPosition addedAt).Pairwise
      fun a b => a.position < b.position := by
    refine List.pairwise_append.mpr ⟨h.pairwise_ordered, pairwise_newRows .., ?_⟩
    intro a ha b hb
    have ha := hstart a ((ordered_perm rows).mem_iff.mp ha)
    exact ha.trans_le (le_position_of_mem_newRows _ _ _ _ hb)
  have hperm := (ordered_perm rows).append_right (newRows itemIds newV4 startPosition addedAt)
  refine ⟨⟨?_, hentries, ?_⟩, ?_⟩
  · rwa [List.map_append]
  · refine (hperm.map _).nodup_iff.mp ?_
    exact List.pairwise_map.mpr (hordered.imp fun hlt => hlt.ne)
  · rw [order, ordered_eq hperm hordered, List.map_append]
    rfl

/-! Renumbering. -/

theorem renumber_perm {l : List Row} (ordering : List Uuid) (hperm : l.Perm rows) :
    (renumber ordering l).Perm (renumber ordering rows) := hperm.map _

theorem map_renumber {α : Type} {f : Row → α}
    (hf : ∀ row position, f { row with position } = f row) (ordering : List Uuid) :
    (renumber ordering rows).map f = rows.map f := by
  rw [renumber, List.map_map]
  refine List.map_congr_left fun row _ => ?_
  rw [Function.comp_apply]
  split
  · exact hf row _
  · rfl

theorem map_position_renumber {l : List Row} (h : (l.map (·.playlistItemId)).Nodup) :
    (renumber (l.map (·.playlistItemId)) l).map (·.position) =
      (List.range l.length).map fun k : Nat => (k : Int) := by
  refine List.ext_getElem (by simp [renumber]) fun k hk hk' => ?_
  have hk : k < l.length := by simpa [renumber] using hk
  have hmem : l[k].playlistItemId ∈ l.map (·.playlistItemId) :=
    List.mem_map_of_mem (List.getElem_mem hk)
  have hidx := h.idxOf_getElem k (by simpa using hk)
  rw [List.getElem_map] at hidx
  simp only [renumber, List.getElem_map, if_pos hmem, List.getElem_range, hidx]

theorem Distinct.renumber (h : Distinct rows) {l : List Row} (hperm : l.Perm rows) :
    Distinct (renumber (l.map (·.playlistItemId)) rows) ∧
      order (renumber (l.map (·.playlistItemId)) rows) = l.map (·.toEntry) := by
  have hentries : (l.map (·.playlistItemId)).Nodup := (h.perm hperm).entries
  have hpositions := map_position_renumber hentries
  have hrenumbered := renumber_perm (l.map (·.playlistItemId)) hperm
  have hincreasing : ((Lists.renumber (l.map (·.playlistItemId)) l).map (·.position)).Pairwise
      (· < ·) := by
    rw [hpositions, List.pairwise_map]
    exact List.pairwise_lt_range.imp fun hlt => Int.ofNat_lt.mpr hlt
  have hlt := List.pairwise_map.mp hincreasing
  refine ⟨⟨?_, ?_, ?_⟩, ?_⟩
  · rw [map_renumber fun _ _ => rfl]
    exact h.items
  · rw [map_renumber fun _ _ => rfl]
    exact h.entries
  · refine (hrenumbered.map _).nodup_iff.mp ?_
    exact List.pairwise_map.mpr (hlt.imp fun hlt => hlt.ne)
  · rw [order, ordered_eq hrenumbered hlt, map_renumber fun _ _ => rfl]

/-! The transactions. -/

section Transactions

variable {session session' : Session} {now : Nat} {u : Unit}

theorem createMediaList_ok {input : NewMediaList} {newV4 : Nat → Uuid}
    (h : createMediaList input newV4 now session = .ok (u, session')) :
    session.store.list = none ∧ session'.store.list.isSome = true ∧
      session'.store.mediaItems = session.store.mediaItems ∧
      (newRows (dedupeUuids input.itemIds) newV4 0 now).foldlM insertRow session.store.rows =
        .ok session'.store.rows := by
  obtain ⟨_, s₁, hkind, h⟩ := Tx.bind_ok h
  obtain ⟨_, s₂, hname, h⟩ := Tx.bind_ok h
  obtain ⟨_, s₃, hlist, h⟩ := Tx.bind_ok h
  obtain ⟨_, s₄, hvisible, h⟩ := Tx.bind_ok h
  obtain ⟨_, s₅, hinsert, hcommit⟩ := Tx.bind_ok h
  cases (ensure_ok hkind).2
  cases (ensure_ok hname).2
  have hlist := statement_ok hlist
  split at hlist
  · cases hlist
  · rename_i hnone
    have hstore := (Prod.mk.inj (Except.ok.inj hlist)).2
    obtain ⟨rows, hrows, hstore'⟩ := insertMediaListItems_ok hinsert
    rw [ensureVisibleMediaItems_ok hvisible, ← hstore] at hrows hstore'
    rw [commit_ok hcommit, hstore']
    exact ⟨Option.not_isSome_iff_eq_none.mp hnone, rfl, rfl, hrows⟩

theorem addMediaListItems_ok {itemIds : List Uuid} {newV4 : Nat → Uuid}
    (h : addMediaListItems itemIds newV4 now session = .ok (u, session')) :
    session.store.list.isSome = true ∧ session'.store.list.isSome = true ∧
      session'.store.mediaItems = session.store.mediaItems ∧
      (newRows ((dedupeUuids itemIds).filter (· ∉ session.store.rows.map (·.itemId))) newV4
        (((session.store.rows.map (·.position)).max?.map (· + 1)).getD 0) now).foldlM insertRow
          session.store.rows = .ok session'.store.rows := by
  obtain ⟨_, s₁, hlock, h⟩ := Tx.bind_ok h
  obtain ⟨_, s₂, hvisible, h⟩ := Tx.bind_ok h
  obtain ⟨existing, s₃, hexisting, h⟩ := Tx.bind_ok h
  obtain ⟨start, s₄, hstart, h⟩ := Tx.bind_ok h
  obtain ⟨_, s₅, hinsert, h⟩ := Tx.bind_ok h
  obtain ⟨_, s₆, htouch, hcommit⟩ := Tx.bind_ok h
  obtain ⟨hlist, h₁⟩ := lockMediaList_ok hlock
  have h₂ := ensureVisibleMediaItems_ok hvisible
  have hfilter : s₃.store = session.store ∧
      ((dedupeUuids itemIds).filter fun id => decide (id ∉ existing)) =
        (dedupeUuids itemIds).filter (· ∉ session.store.rows.map (·.itemId)) := by
    rw [existingItemIds] at hexisting
    split at hexisting
    · rename_i hempty
      cases hexisting
      rw [List.isEmpty_iff.mp hempty]
      exact ⟨h₂.trans h₁, rfl⟩
    · obtain ⟨hrows, h₃⟩ := query_ok hexisting
      cases hrows
      refine ⟨h₃.trans (h₂.trans h₁), List.filter_congr fun id hid => ?_⟩
      rw [h₂, h₁]
      simp [hid]
  obtain ⟨hmax, h₄⟩ := query_ok hstart
  cases hmax
  obtain ⟨rows, hrows, h₅⟩ := insertMediaListItems_ok hinsert
  rw [hfilter.2, h₄, hfilter.1] at hrows
  rw [commit_ok hcommit, touchMediaList_ok htouch, h₅, h₄, hfilter.1]
  exact ⟨hlist, by simpa using hlist, rfl, hrows⟩

theorem removeMediaListItems_ok {itemIds playlistItemIds : List Uuid}
    (h : removeMediaListItems itemIds playlistItemIds now session = .ok (u, session')) :
    session.store.list.isSome = true ∧ session'.store.list.isSome = true ∧
      session'.store.mediaItems = session.store.mediaItems ∧
      ∃ rows, rows = session.store.rows.filter (fun row =>
          !(row.itemId ∈ itemIds || row.playlistItemId ∈ playlistItemIds)) ∧
        session'.store.rows = renumber ((ordered rows).map (·.playlistItemId)) rows := by
  obtain ⟨_, s₁, hlock, h⟩ := Tx.bind_ok h
  obtain ⟨_, s₂, hdelete, h⟩ := Tx.bind_ok h
  obtain ⟨_, s₃, hreindex, h⟩ := Tx.bind_ok h
  obtain ⟨_, s₄, htouch, hcommit⟩ := Tx.bind_ok h
  obtain ⟨hlist, h₁⟩ := lockMediaList_ok hlock
  obtain ⟨kept, hkept, h₂⟩ := updateRows_ok hdelete
  obtain ⟨renumbered, hrenumbered, h₃⟩ := updateRows_ok hreindex
  cases hkept
  cases hrenumbered
  rw [commit_ok hcommit, touchMediaList_ok htouch, h₃, h₂, h₁]
  refine ⟨hlist, by simpa using hlist, rfl, _, rfl, ?_⟩
  simp only [mem_dedupeUuids]

theorem moveMediaListItem_ok {targetId : Uuid} {newIndex : Int}
    (h : moveMediaListItem targetId newIndex now session = .ok (u, session')) :
    session.store.list.isSome = true ∧ session'.store.list.isSome = true ∧
      session'.store.mediaItems = session.store.mediaItems ∧
      ∃ row rows, (ordered session.store.rows).find? (·.isTarget targetId) = some row ∧
        rows = (ordered session.store.rows).eraseP (·.isTarget targetId) ∧
        session'.store.rows = renumber
          ((rows.insertIdx (min (max newIndex 0) rows.length).toNat row).map (·.playlistItemId))
          session.store.rows := by
  obtain ⟨_, s₁, hlock, h⟩ := Tx.bind_ok h
  obtain ⟨rows, s₂, hrows, h⟩ := Tx.bind_ok h
  obtain ⟨hlist, h₁⟩ := lockMediaList_ok hlock
  obtain ⟨hordered, h₂⟩ := query_ok hrows
  cases hordered
  rw [h₁] at h h₂
  cases hrow : (ordered session.store.rows).find? (·.isTarget targetId) with
  | none =>
    rw [hrow] at h
    cases h
  | some row =>
    rw [hrow] at h
    obtain ⟨_, s₃, hupdate, h⟩ := Tx.bind_ok h
    obtain ⟨_, s₄, htouch, hcommit⟩ := Tx.bind_ok h
    have h₃ := updateMediaListPositions_ok hupdate
    rw [commit_ok hcommit, touchMediaList_ok htouch, h₃, h₂]
    exact ⟨hlist, by simpa using hlist, rfl, row, _, rfl, rfl, rfl⟩

end Transactions

/-! What the reader sees. -/

section Visible

variable {γ : Type} [LinearOrder γ] (collate : String → γ)

def visibleEntries (store : Store) : Except Error (List Entry) :=
  (mediaListItems collate store).map fun items => items.map (·.1.toEntry)

def reinserted (entries : List Entry) (entry : Entry) (index : Int) : List Entry :=
  (entries.erase entry).insertIdx (min (max index 0) (entries.erase entry).length).toNat entry

theorem map_filterMap_visible (store : Store) (rows : List Row) :
    (rows.filterMap fun row =>
      ((store.mediaItems.lookup row.itemId).filter fun item => !item.missing).map (row, ·)).map
        (·.1.toEntry) =
      (rows.map (·.toEntry)).filter fun entry => store.isVisible entry.itemId := by
  induction rows with
  | nil => rfl
  | cons row rest ih =>
    rw [List.filterMap_cons, List.map_cons, List.filter_cons]
    cases hitem : store.mediaItems.lookup row.itemId with
    | none => simpa [Store.isVisible, hitem] using ih
    | some item =>
      cases hmissing : item.missing <;>
        simpa [Store.isVisible, hitem, Option.filter, hmissing] using ih

theorem visibleEntries_eq {store : Store} (hlist : store.list.isSome = true)
    (h : Distinct store.rows) :
    visibleEntries collate store =
      .ok ((order store.rows).filter fun entry => store.isVisible entry.itemId) := by
  rw [visibleEntries, mediaListItems, if_pos hlist, order, ← map_filterMap_visible]
  refine congrArg (fun items : List (Row × MediaItem) => Except.ok (items.map (·.1.toEntry))) ?_
  refine sortOn_eq ((ordered_perm store.rows).filterMap _) ?_
  rw [List.pairwise_filterMap]
  refine h.pairwise_ordered.imp fun {a b} hlt x hx y hy => ?_
  obtain ⟨item, -, rfl⟩ := Option.map_eq_some_iff.mp hx
  obtain ⟨item', -, rfl⟩ := Option.map_eq_some_iff.mp hy
  exact Prod.Lex.toLex_lt_toLex.mpr (.inl hlt)

end Visible

/-! The order after a transaction. -/

section Effects

variable {store store' : Store} {faults : List Bool} {now : Nat}

theorem Command.run_ok {command : Command} (h : command.run faults store = (store', .ok ())) :
    ∃ session, command.body ⟨store, faults⟩ = .ok ((), session) ∧ session.store = store' := by
  rw [Command.run] at h
  split at h
  · rename_i session hbody
    exact ⟨session, hbody, (Prod.mk.inj h).1⟩
  · cases (Prod.mk.inj h).2

theorem Command.run_error {command : Command} {error : Error}
    (h : (command.run faults store).2 = .error error) : (command.run faults store).1 = store := by
  rw [Command.run] at h ⊢
  split
  · rename_i hbody
    rw [hbody] at h
    cases h
  · rfl

theorem Command.run_list {command : Command} (h : command.run faults store = (store', .ok ())) :
    store'.list.isSome = true ∧ store'.mediaItems = store.mediaItems := by
  obtain ⟨session, hbody, rfl⟩ := Command.run_ok h
  cases command with
  | create => 
    obtain ⟨-, hlist, hitems, -⟩ := createMediaList_ok hbody
    exact ⟨hlist, hitems⟩
  | add =>
    obtain ⟨-, hlist, hitems, -⟩ := addMediaListItems_ok hbody
    exact ⟨hlist, hitems⟩
  | remove =>
    obtain ⟨-, hlist, hitems, -⟩ := removeMediaListItems_ok hbody
    exact ⟨hlist, hitems⟩
  | move =>
    obtain ⟨-, hlist, hitems, -⟩ := moveMediaListItem_ok hbody
    exact ⟨hlist, hitems⟩

theorem distinct_create (hrows : store.rows = []) {input : NewMediaList} {newV4 : Nat → Uuid}
    (hrun : (Command.create input newV4 now).run faults store = (store', .ok ())) :
    Distinct store'.rows := by
  obtain ⟨session, hbody, rfl⟩ := Command.run_ok hrun
  obtain ⟨-, -, -, hinsert⟩ := createMediaList_ok hbody
  have hempty : Distinct store.rows := by
    rw [hrows]
    exact ⟨List.nodup_nil, List.nodup_nil, List.nodup_nil⟩
  exact (hempty.insert (nodup_dedupeUuids _) (by simp [hrows]) (by simp [hrows]) hinsert).1

theorem order_add (h : Distinct store.rows) {itemIds : List Uuid} {newV4 : Nat → Uuid}
    (hrun : (Command.add itemIds newV4 now).run faults store = (store', .ok ())) :
    Distinct store'.rows ∧ ∃ new, order store'.rows = order store.rows ++ new ∧
      new.map (·.itemId) =
        (dedupeUuids itemIds).filter (· ∉ (order store.rows).map (·.itemId)) := by
  obtain ⟨session, hbody, rfl⟩ := Command.run_ok hrun
  obtain ⟨-, -, -, hinsert⟩ := addMediaListItems_ok hbody
  have hmem : ∀ itemId,
      itemId ∈ (order store.rows).map (·.itemId) ↔ itemId ∈ store.rows.map (·.itemId) := by
    intro itemId
    rw [((order_perm store.rows).map _).mem_iff, List.map_map]
    rfl
  have hnew : ∀ row ∈ store.rows, row.itemId ∉
      (dedupeUuids itemIds).filter (· ∉ store.rows.map (·.itemId)) := fun row hrow hnew =>
    of_decide_eq_true (List.mem_filter.mp hnew).2 (List.mem_map_of_mem hrow)
  have hstart : ∀ row ∈ store.rows,
      row.position < ((store.rows.map (·.position)).max?.map (· + 1)).getD 0 := by
    intro row hrow
    cases hmax : (store.rows.map (·.position)).max? with
    | none =>
      rw [List.max?_eq_none_iff, List.map_eq_nil_iff] at hmax
      rw [hmax] at hrow
      cases hrow
    | some last =>
      have hle := (List.max?_eq_some_iff.mp hmax).2 row.position (List.mem_map_of_mem hrow)
      exact Int.lt_add_one_of_le hle
  obtain ⟨hdistinct, horder⟩ := h.insert ((nodup_dedupeUuids itemIds).filter _) hnew hstart hinsert
  refine ⟨hdistinct, _, horder, ?_⟩
  rw [List.map_map]
  refine (map_itemId_newRows ..).trans (List.filter_congr fun itemId _ => ?_)
  rw [decide_eq_decide, hmem]

theorem order_remove (h : Distinct store.rows) {itemIds playlistItemIds : List Uuid}
    (hrun : (Command.remove itemIds playlistItemIds now).run faults store = (store', .ok ())) :
    Distinct store'.rows ∧ order store'.rows = (order store.rows).filter fun entry =>
      !(entry.itemId ∈ itemIds || entry.playlistItemId ∈ playlistItemIds) := by
  obtain ⟨session, hbody, rfl⟩ := Command.run_ok hrun
  obtain ⟨-, -, -, kept, hkept, hrows⟩ := removeMediaListItems_ok hbody
  have hdistinct : Distinct kept := by
    rw [hkept]
    exact h.filter _
  have hrenumber := hdistinct.renumber (ordered_perm kept)
  rw [hrows]
  refine ⟨hrenumber.1, hrenumber.2.trans ?_⟩
  rw [hkept, h.ordered_filter, order, List.filter_map]
  rfl

theorem order_move (h : Distinct store.rows) {targetId : Uuid} {newIndex : Int}
    (hrun : (Command.move targetId newIndex now).run faults store = (store', .ok ())) :
    store.list.isSome = true ∧ Distinct store'.rows ∧ ∃ entry,
      (order store.rows).find? (·.isTarget targetId) = some entry ∧
      order store'.rows = reinserted (order store.rows) entry newIndex := by
  obtain ⟨session, hbody, rfl⟩ := Command.run_ok hrun
  obtain ⟨hlist, -, -, row, rows, hrow, herase, hrows⟩ := moveMediaListItem_ok hbody
  have hfind : (order store.rows).find? (·.isTarget targetId) = some row.toEntry := by
    rw [order, List.find?_map]
    exact congrArg (Option.map _) hrow
  have herased : rows.map (·.toEntry) = (order store.rows).erase row.toEntry := by
    rw [herase, ← eraseP_eq_erase hfind, order, List.eraseP_map]
    rfl
  have hlength : rows.length = ((order store.rows).erase row.toEntry).length := by
    rw [← herased, List.length_map]
  have hperm : (rows.insertIdx (min (max newIndex 0) rows.length).toNat row).Perm store.rows := by
    refine (List.perm_insertIdx row rows (by omega)).trans ?_
    rw [herase, eraseP_eq_erase hrow]
    exact (List.perm_cons_erase (List.mem_of_find?_eq_some hrow)).symm.trans
      (ordered_perm store.rows)
  obtain ⟨hdistinct, horder⟩ := h.renumber hperm
  rw [hrows]
  refine ⟨hlist, hdistinct, row.toEntry, hfind, ?_⟩
  rw [horder, List.map_insertIdx, herased, hlength, reinserted]

/-! Every run. -/

structure Consistent (store : Store) : Prop where
  distinct : Distinct store.rows
  empty : store.list = none → store.rows = []

theorem Consistent.run (h : Consistent store) {command : Command}
    (hrun : command.run faults store = (store', .ok ())) : Consistent store' where
  distinct := by
    cases command with
    | create =>
      obtain ⟨session, hbody, -⟩ := Command.run_ok hrun
      exact distinct_create (h.empty (createMediaList_ok hbody).1) hrun
    | add => exact (order_add h.distinct hrun).1
    | remove => exact (order_remove h.distinct hrun).1
    | move => exact (order_move h.distinct hrun).2.1
  empty := fun hnone => by
    have hlist := (Command.run_list hrun).1
    rw [hnone] at hlist
    cases hlist

theorem Consistent.step (h : Consistent store) {event : Event}
    (hstep : machine.step store event = some store') : Consistent store' := by
  cases hstep
  cases event with
  | mediaItem itemId item => exact ⟨h.distinct, h.empty⟩
  | transaction command faults =>
    cases hrun : (command.run faults store).2 with
    | ok _ => exact h.run (Prod.ext rfl hrun)
    | error error =>
      rw [Event.apply, Command.run_error hrun]
      exact h

theorem consistent_of_reachable (h : machine.Reachable store) : Consistent store :=
  h.invariant ⟨⟨List.nodup_nil, List.nodup_nil, List.nodup_nil⟩, fun _ => rfl⟩
    fun _ _ _ hs hstep => hs.step hstep

/-- Of the other entries of the list, hidden ones included, all those before the index are visible,
or none of those from it on. -/
def IndexCountsVisible (store : Store) (entry : Entry) (index : Int) : Prop :=
  (∀ other ∈ ((order store.rows).erase entry).take (max index 0).toNat,
    store.isVisible other.itemId = true) ∨
  ∀ other ∈ ((order store.rows).erase entry).drop (max index 0).toNat,
    store.isVisible other.itemId = false

theorem filter_reinserted_eq_iff (h : Distinct store.rows) {entry : Entry} {index : Int}
    (hvisible : store.isVisible entry.itemId = true) :
    (reinserted (order store.rows) entry index).filter (fun other => store.isVisible other.itemId) =
        reinserted ((order store.rows).filter fun other => store.isVisible other.itemId) entry index ↔
      IndexCountsVisible store entry index := by
  have hmin : ∀ n : Nat, (min (max index 0) (n : Int)).toNat = min (max index 0).toNat n := by
    intro n
    omega
  have hnot : entry ∉ (order store.rows).erase entry := (List.Nodup.of_map _ h.nodup_order).not_mem_erase
  rw [reinserted, reinserted, List.erase_filter, hmin, hmin]
  exact filter_insertIdx_eq_iff hnot hvisible _

/-- In every run no item and no place is taken twice, a transaction that fails changes nothing,
additions are appended and removals keep the order of the rest.  A move puts a visible entry where
the reader asked for it just when the index counts visible entries. -/
theorem media_list_order {γ : Type} [LinearOrder γ] (collate : String → γ)
    (hreach : machine.Reachable store) :
    (store.rows.map (·.itemId)).Nodup ∧ (store.rows.map (·.position)).Nodup ∧
    (∀ command faults error, (Command.run command faults store).2 = .error error →
      (Command.run command faults store).1 = store) ∧
    (∀ itemIds newV4 now faults store',
      (Command.add itemIds newV4 now).run faults store = (store', .ok ()) →
      ∃ new, order store'.rows = order store.rows ++ new ∧ new.map (·.itemId) =
        (dedupeUuids itemIds).filter (· ∉ (order store.rows).map (·.itemId))) ∧
    (∀ itemIds playlistItemIds now faults store',
      (Command.remove itemIds playlistItemIds now).run faults store = (store', .ok ()) →
      order store'.rows = (order store.rows).filter fun entry =>
        !(entry.itemId ∈ itemIds || entry.playlistItemId ∈ playlistItemIds)) ∧
    (∀ targetId newIndex now faults store',
      (Command.move targetId newIndex now).run faults store = (store', .ok ()) →
      ∃ entry before after, (order store.rows).find? (·.isTarget targetId) = some entry ∧
        visibleEntries collate store = .ok before ∧ visibleEntries collate store' = .ok after ∧
        (store.isVisible entry.itemId = true →
          (after = reinserted before entry newIndex ↔ IndexCountsVisible store entry newIndex))) := by
  have h := consistent_of_reachable hreach
  refine ⟨h.distinct.items, h.distinct.positions, fun _ _ _ => Command.run_error,
    fun _ _ _ _ _ hrun => (order_add h.distinct hrun).2,
    fun _ _ _ _ _ hrun => (order_remove h.distinct hrun).2, ?_⟩
  intro targetId newIndex now faults store' hrun
  obtain ⟨hlist, hdistinct, entry, hfind, horder⟩ := order_move h.distinct hrun
  obtain ⟨hlist', hitems⟩ := Command.run_list hrun
  refine ⟨entry, _, _, hfind, visibleEntries_eq collate hlist h.distinct,
    visibleEntries_eq collate hlist' hdistinct, fun hvisible => ?_⟩
  rw [← filter_reinserted_eq_iff h.distinct hvisible, horder]
  simp only [Store.isVisible, hitems]

end Effects

def hiddenHead : List Event :=
  [.mediaItem 1 ⟨"Head", false⟩, .mediaItem 2 ⟨"Body", false⟩, .mediaItem 3 ⟨"Tail", false⟩,
    .transaction (.create ⟨"playlist", "Trip", none, none, [1, 2, 3]⟩ (BitVec.ofNat 128 <| 11 + ·) 0) [],
    .mediaItem 1 ⟨"Head", true⟩]

theorem media_list_order_for_hidden_head :
    ∃ store, machine.run hiddenHead machine.init = some store ∧
      (store.rows.map (·.itemId)).Nodup ∧ (store.rows.map (·.position)).Nodup :=
  have h := media_list_order (id : String → String)
    (Machine.reachable_of_run hiddenHead (rfl : machine.run hiddenHead machine.init = some _))
  ⟨_, rfl, h.1, h.2.1⟩

theorem move_counts_hidden_entries :
    ¬ ∀ store, machine.Reachable store → ∀ targetId newIndex now faults store' entry before after,
      (Command.move targetId newIndex now).run faults store = (store', .ok ()) →
      (order store.rows).find? (·.isTarget targetId) = some entry →
      store.isVisible entry.itemId = true →
      visibleEntries (id : String → String) store = .ok before →
      visibleEntries (id : String → String) store' = .ok after →
      after = reinserted before entry newIndex := by
  intro h
  have hmoved := h _ (Machine.reachable_of_run hiddenHead rfl) 3 1 1 [] _ ⟨3, 13, 0⟩
    [⟨2, 12, 0⟩, ⟨3, 13, 0⟩] [⟨3, 13, 0⟩, ⟨2, 12, 0⟩] rfl (by decide) (by decide)
    (by rfl) (by rfl)
  exact absurd hmoved (by decide)

end Jellyrin.Lists
