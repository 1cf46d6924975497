import Mathlib.Data.List.AList

/-! Documents as partial maps from field names to values, and stores of documents under keys.
Writes are whole (`setData`), guarded by existence (`updateData`), or masked (`patch`). -/

namespace DocumentStore

variable {κ ν α : Type*}

abbrev Document (ν α : Type*) := ν → Option α

def Document.empty : Document ν α := fun _ => none

section Masked

variable [DecidableEq ν]

/-- The masked fields are taken from the content, absent ones being deleted. -/
def Document.patch (mask : List ν) (content document : Document ν α) : Document ν α :=
  fun name => if name ∈ mask then content name else document name

@[simp] theorem Document.patch_masked {mask : List ν} {name : ν} (masked : name ∈ mask)
    (content document : Document ν α) : Document.patch mask content document name = content name :=
  if_pos masked

@[simp] theorem Document.patch_unmasked {mask : List ν} {name : ν} (unmasked : name ∉ mask)
    (content document : Document ν α) :
    Document.patch mask content document name = document name :=
  if_neg unmasked

end Masked

abbrev Store (κ ν α : Type*) := AList (fun _ : κ => Document ν α)

section Whole

variable [DecidableEq κ]

def setData (key : κ) (document : Document ν α) (store : Store κ ν α) : Store κ ν α :=
  store.insert key document

def deleteAll (keys : List κ) (store : Store κ ν α) : Store κ ν α :=
  keys.foldl (fun rest key => rest.erase key) store

@[simp] theorem lookup_setData (key : κ) (document : Document ν α) (store : Store κ ν α) :
    (setData key document store).lookup key = some document := AList.lookup_insert store

theorem lookup_setData_ne {key other : κ} (different : other ≠ key) (document : Document ν α)
    (store : Store κ ν α) : (setData key document store).lookup other = store.lookup other :=
  AList.lookup_insert_ne different

theorem lookup_deleteAll (keys : List κ) (store : Store κ ν α) (key : κ) :
    (deleteAll keys store).lookup key = if key ∈ keys then none else store.lookup key := by
  induction keys generalizing store with
  | nil => simp [deleteAll]
  | cons head keys ih =>
    change (deleteAll keys (store.erase head)).lookup key = _
    rw [ih]
    by_cases same : key = head
    · subst same
      simp
    · simp [same, AList.lookup_erase_ne same]

def setAll (writes : List (κ × Document ν α)) (store : Store κ ν α) : Store κ ν α :=
  writes.foldl (fun rest write => setData write.1 write.2 rest) store

theorem setAll_append (left right : List (κ × Document ν α)) (store : Store κ ν α) :
    setAll (left ++ right) store = setAll right (setAll left store) := List.foldl_append ..

theorem lookup_setAll [BEq κ] [LawfulBEq κ] (writes : List (κ × Document ν α))
    (store : Store κ ν α) (key : κ) :
    (setAll writes store).lookup key = (writes.reverse.lookup key).or (store.lookup key) := by
  induction writes generalizing store with
  | nil => rfl
  | cons write writes ih =>
    obtain ⟨written, document⟩ := write
    have first : (setData written document store).lookup key =
        ([(written, document)].lookup key).or (store.lookup key) := by
      by_cases same : key = written
      · subst same
        rw [lookup_setData, List.lookup_cons, beq_self_eq_true, Option.some_or]
      · have different : (key == written) = false := beq_false_of_ne same
        rw [lookup_setData_ne same, List.lookup_cons, different, List.lookup_nil, Option.none_or]
    change (setAll writes (setData written document store)).lookup key = _
    rw [ih, first, List.reverse_cons, List.lookup_append, Option.or_assoc]

/-- The answer to a query: the documents of the store in some order. -/
def Snapshot (store : Store κ ν α) (documents : List (Sigma fun _ : κ => Document ν α)) : Prop :=
  documents.Perm store.entries

theorem Snapshot.mem_iff {store : Store κ ν α}
    {documents : List (Sigma fun _ : κ => Document ν α)} (taken : Snapshot store documents)
    {key : κ} {document : Document ν α} :
    ⟨key, document⟩ ∈ documents ↔ store.lookup key = some document :=
  (List.Perm.mem_iff taken).trans AList.mem_lookup_iff.symm

end Whole

section Fields

variable [DecidableEq κ] [DecidableEq ν]

def patch (key : κ) (mask : List ν) (content : Document ν α) (store : Store κ ν α) :
    Store κ ν α :=
  store.insert key (Document.patch mask content ((store.lookup key).getD Document.empty))

def updateData (key : κ) (mask : List ν) (content : Document ν α) (store : Store κ ν α) :
    Store κ ν α :=
  if (store.lookup key).isSome then patch key mask content store else store

@[simp] theorem lookup_patch (key : κ) (mask : List ν) (content : Document ν α)
    (store : Store κ ν α) :
    (patch key mask content store).lookup key =
      some (Document.patch mask content ((store.lookup key).getD Document.empty)) :=
  AList.lookup_insert store

theorem lookup_patch_ne {key other : κ} (different : other ≠ key) (mask : List ν)
    (content : Document ν α) (store : Store κ ν α) :
    (patch key mask content store).lookup other = store.lookup other :=
  AList.lookup_insert_ne different

theorem lookup_updateData (key : κ) (mask : List ν) (content : Document ν α)
    (store : Store κ ν α) :
    (updateData key mask content store).lookup key =
      (store.lookup key).map (Document.patch mask content) := by
  unfold updateData
  cases found : store.lookup key <;> simp [found]

theorem lookup_updateData_ne {key other : κ} (different : other ≠ key) (mask : List ν)
    (content : Document ν α) (store : Store κ ν α) :
    (updateData key mask content store).lookup other = store.lookup other := by
  unfold updateData
  split
  · exact lookup_patch_ne different mask content store
  · rfl

end Fields

end DocumentStore
