import RecordStore.Text.Quoted

/-!
# Collections

A collection keeps records of one type in the order in which they were added. Two equal records
never stand side by side: adding a record that equals one already there puts the new one in its
place. What equal means is up to the record type, and need not look at all fields.

A cursor walks a collection by position while it may change. It re-reads the collection at every
step, so it can miss a record that moves to a place it has passed, but it never loses its own place.
-/

namespace RecordStore

/-- Records of one type in order, under a name. -/
structure Collection (ρ : Type) where
  name : String
  records : List ρ := []

namespace Collection

variable {ρ : Type}

def count (c : Collection ρ) : Nat := c.records.length

def isEmpty (c : Collection ρ) : Bool := c.records.isEmpty

def get? (c : Collection ρ) (position : Nat) : Option ρ := c.records[position]?

def describe (c : Collection ρ) : String :=
  "Collection \x7b name: " ++ Text.quote c.name ++ ", count: " ++ toString c.count ++ " \x7d"

variable [BEq ρ]

/-- A list of records with one more, which replaces the first that equals it or goes to the end. -/
def insert (record : ρ) : List ρ → List ρ
  | [] => [record]
  | r :: rest => if r == record then record :: rest else r :: insert record rest

theorem insert_of_forall_ne {record : ρ} {records : List ρ}
    (h : ∀ r ∈ records, (r == record) = false) : insert record records = records ++ [record] := by
  induction records with
  | nil => rfl
  | cons r rest ih =>
    rw [insert, h r List.mem_cons_self, if_neg Bool.false_ne_true,
      ih fun s hs => h s (List.mem_cons_of_mem r hs), List.cons_append]

/-- Adds a record in the place of the first that equals it, or at the end. -/
def add (c : Collection ρ) (record : ρ) : Collection ρ :=
  { c with records := insert record c.records }

def contains (c : Collection ρ) (record : ρ) : Bool := c.records.any (· == record)

/-- Removes the first record that equals the given one. -/
def remove (c : Collection ρ) (record : ρ) : Collection ρ :=
  { c with records := c.records.eraseP (· == record) }

/-- Removes every record that equals one of the given ones. -/
def removeAll (c : Collection ρ) (targets : List ρ) : Collection ρ :=
  { c with records := c.records.filter fun r => !targets.any (r == ·) }

end Collection

/-- A place in a collection: how many records have been passed. -/
structure Cursor where
  position : Nat := 0
deriving DecidableEq

/-- The record at the cursor and the cursor behind it. At the end of the collection the cursor stays
where it is. -/
def Cursor.next {ρ : Type} (cursor : Cursor) (c : Collection ρ) : Option ρ × Cursor :=
  match c.get? cursor.position with
  | some record => (some record, ⟨cursor.position + 1⟩)
  | none => (none, cursor)

end RecordStore
