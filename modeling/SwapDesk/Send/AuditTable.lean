import SwapDesk.Send.AuditStore

namespace SwapDesk

structure DatedRow where
  row : AuditRow
  created : Nat
deriving DecidableEq, Inhabited

structure AuditTable where
  rows : List DatedRow := []
deriving DecidableEq, Inhabited

namespace AuditTable

/-- The rows as they are where nobody asks for the time. -/
def store (t : AuditTable) : AuditStore :=
  ⟨t.rows.map DatedRow.row⟩

def save (t : AuditTable) (now : Nat) (r : NewRow) : Except StoreFault (DatedRow × AuditTable) :=
  (t.store.checkNew r).map fun _ =>
    let dated := ⟨AuditStore.rowOf t.store.nextId r, now⟩
    (dated, ⟨t.rows ++ [dated]⟩)

def confirm (t : AuditTable) (hash : Hash) (u : RowUpdate) : Except StoreFault AuditTable :=
  (t.store.checkUpdate hash u).map fun _ =>
    ⟨t.rows.map fun dated =>
      if dated.row.hash = hash then { dated with row := AuditStore.updated u dated.row }
      else dated⟩

def byId (a b : DatedRow) : Bool :=
  a.row.id ≤ b.row.id

/-- Newest first, and of rows from one second the one with the greatest id. -/
def byTime (a b : DatedRow) : Bool :=
  b.created < a.created || (b.created == a.created && b.row.id ≤ a.row.id)

def forUid (t : AuditTable) (uid : Uid) : List AuditRow :=
  ((t.rows.filter fun dated => dated.row.uid == uid).mergeSort byId).map DatedRow.row

def recent (t : AuditTable) (limit : Int) : List AuditRow :=
  let sorted := (t.rows.mergeSort byTime).map DatedRow.row
  match limit with
  | .ofNat n => sorted.take n
  | .negSucc _ => sorted

end AuditTable

end SwapDesk
