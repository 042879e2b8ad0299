import KeyLog.Admission
import KeyLog.Index.Cursor
import KeyLog.LogFile

/-!
# Stores

A store is an open log together with the index of its last records.  The index is never written
anywhere: opening a store replays the log, and from then on every record that is appended is also
put into the index.

A look-up reads one record, at the place where the index says it lies.  What is read must be a
sound record *of that key*, so bytes that changed behind the store are reported and never taken for
a value.
-/

namespace KeyLog

/-- An open store. -/
structure Store where
  settings : Settings
  file : LogFile
  index : Index
  /-- What the replay counted when the store was opened. -/
  opening : ReplayStats

namespace Store

/-- Opens the store with the given settings. -/
def openWith (volume : Volume) (settings : Settings) : Except StoreError Store × Volume :=
  match LogFile.openAt volume settings.path settings.createIfMissing settings.sync with
  | (.error error, volume) => (.error error, volume)
  | (.ok file, volume) =>
    match file.replay volume with
    | (.error error, _) => (.error error, volume)
    | (.ok replay, file) => (.ok ⟨settings, file, replay.index, replay.stats⟩, volume)

/-- The value of a key.  Only where the handle stands can be different afterwards. -/
def get (volume : Volume) (store : Store) (key : String) : Except StoreError String × Store :=
  match Admission.checkKey key with
  | .error error => (.error error, store)
  | .ok () =>
    match store.index.find? key with
    | none => (.error .notFound, store)
    | some span =>
      match store.file.readAt volume span with
      | (.error error, file) => (.error error, { store with file })
      | (.ok record, file) =>
        (if record.key = key then .ok record.value
          else .error (.corruption span.offset (.wrongKey key record.key)), { store with file })

/-- Gives a key a value. -/
def set (medium : Medium) (volume : Volume) (store : Store) (key value : String) :
    Except StoreError Unit × Store × Volume :=
  match Admission.accept key value with
  | .error error => (.error error, store, volume)
  | .ok record =>
    match store.file.append medium volume record with
    | (.error error, file, volume) => (.error error, { store with file }, volume)
    | (.ok span, file, volume) =>
      (.ok (), { store with file, index := store.index.insert key span }, volume)

/-- The key has a value. -/
def contains (store : Store) (key : String) : Bool := store.index.contains key

/-- The number of keys that have a value. -/
def size (store : Store) : Nat := store.index.size

/-- No key has a value. -/
def isEmpty (store : Store) : Bool := store.index.isEmpty

/-- A walk over the keys that have a value now. -/
def keys (store : Store) : KeyCursor := store.index.snapshot

/-- The bytes of the log, as far as the store knows. -/
def logSize (store : Store) : Nat := store.file.length

end Store
end KeyLog
