import KeyLog.Handles
import KeyLog.Session.Command

/-!
# Sessions

A session is a volume and whatever is open on it: stores, bare log files, stores opened through the
C interface, and the cursors of both kinds of stores.  Several things may be open on one object at
once, and that is the point: each handle keeps its own count of the log, and a session shows what
they make of each other's writes.

Handles of one kind share a space of names and those of different kinds do not.  A new thing takes
its name from an older one, but only if it really came to be.

## The size limit

A session may have a size limit.  It holds for everything that is done through a handle, and not
for what is done to the volume directly or by a command line.
-/

namespace KeyLog

/-- A volume and what is open on it. -/
structure Session where
  volume : Volume
  limit : Option Nat
  stores : Handles Store
  files : Handles LogFile
  cursors : Handles KeyCursor
  foreignStores : Handles Store
  foreignCursors : Handles KeyCursor

namespace Session

/-- A session on an empty volume. -/
def start : Session := ⟨.empty, none, [], [], [], [], []⟩

/-- What the limit lets the disk do. -/
def medium (session : Session) : Medium := .limited session.limit

/-! ## Stores -/

/-- Opens a store under a name. -/
def openStore (session : Session) (name : String) (settings : Settings) : Answer × Session :=
  match Store.openWith session.volume settings with
  | (.error error, volume) => (.store (.error error) none, { session with volume })
  | (.ok store, volume) =>
    (.store (.ok (.opened store.opening)) (some (storeState store)),
      { session with volume, stores := session.stores.assign name store })

/-- Asks an open store. -/
def onStore (session : Session) (name : String) (store : Store) :
    StoreCommand → Answer × Session
  | .get key =>
    let (result, store) := store.get session.volume key
    (.store (result.map .value) (some (storeState store)),
      { session with stores := session.stores.assign name store })
  | .set key value =>
    let (result, store, volume) := store.set session.medium session.volume key value
    (.store (result.map fun _ => .done) (some (storeState store)),
      { session with volume, stores := session.stores.assign name store })
  | .contains key => (.store (.ok (.truth (store.contains key))) (some (storeState store)), session)
  | .keys => (.store (.ok (.keys store.keys.pending)) (some (storeState store)), session)
  | .iterate cursor =>
    (.store (.ok .done) (some (storeState store)),
      { session with cursors := session.cursors.assign cursor store.keys })
  | .compact =>
    let (result, store, volume) := store.compact session.medium session.volume
    (.store (result.map .compacted) (some (storeState store)),
      { session with volume, stores := session.stores.assign name store })
  | .info =>
    (.store (.ok (.info store.isEmpty store.settings store.opening)) (some (storeState store)),
      session)
  | .close => (.store (.ok .done) none, { session with stores := session.stores.release name })

/-! ## Log files -/

/-- Opens a log file under a name. -/
def openFile (session : Session) (name path : String) (create : Bool) (sync : SyncPolicy) :
    Answer × Session :=
  match LogFile.openAt session.volume path create sync with
  | (.error error, volume) => (.file (.error error) none, { session with volume })
  | (.ok file, volume) =>
    (.file (.ok (.opened file.path file.sync)) (some (fileState file)),
      { session with volume, files := session.files.assign name file })

/-- Asks an open log file. -/
def onFile (session : Session) (name : String) (file : LogFile) : FileCommand → Answer × Session
  | .replay =>
    let (result, file) := file.replay session.volume
    (.file (result.map .replayed) (some (fileState file)),
      { session with files := session.files.assign name file })
  | .append record =>
    let (result, file, volume) := file.append session.medium session.volume record
    (.file (result.map .appended) (some (fileState file)),
      { session with volume, files := session.files.assign name file })
  | .readAt span =>
    let (result, file) := file.readAt session.volume span
    (.file (result.map .record) (some (fileState file)),
      { session with files := session.files.assign name file })
  | .sync => (.file (.ok .done) (some (fileState file)), session)
  | .close => (.file (.ok .done) none, { session with files := session.files.release name })

/-! ## The C interface -/

/-- The thing that a handle of the C interface means: null for no name, and nothing at all for a
name that was not given. -/
def foreignHandle {α : Type} (handles : Handles α) : Option String → Option (Option α)
  | none => some none
  | some name => (handles.get? name).map some

/-- The handles after a call that may have changed the thing of a handle. -/
def keep {α : Type} (handles : Handles α) : Option String → Option α → Handles α
  | some name, some thing => handles.assign name thing
  | _, _ => handles

/-- The handles after a call that may have made a new thing. -/
def gain {α : Type} (handles : Handles α) (name : String) : Foreign.Out α → Handles α
  | .value thing => handles.assign name thing
  | _ => handles

/-- The handles after one was given up. -/
def giveUp {α : Type} (handles : Handles α) : Option String → Handles α
  | some name => handles.release name
  | none => handles

/-- Makes a call of the C interface. -/
def onForeign (session : Session) : ForeignCommand → Answer × Session
  | .openStore name path place =>
    let (status, out, volume) := Foreign.openStore session.volume path place
    (.foreign status (some (out.map fun _ => .handle)),
      { session with volume, foreignStores := gain session.foreignStores name out })
  | .get handle key place =>
    match foreignHandle session.foreignStores handle with
    | none => (.noHandle, session)
    | some store =>
      let (status, out, store) := Foreign.get session.volume store key place
      (.foreign status (some (out.map .text)),
        { session with foreignStores := keep session.foreignStores handle store })
  | .set handle key value =>
    match foreignHandle session.foreignStores handle with
    | none => (.noHandle, session)
    | some store =>
      let (status, store, volume) := Foreign.set session.medium session.volume store key value
      (.foreign status none,
        { session with volume, foreignStores := keep session.foreignStores handle store })
  | .close handle =>
    match foreignHandle session.foreignStores handle with
    | none => (.noHandle, session)
    | some store =>
      (.foreign (Foreign.close store) none,
        { session with foreignStores := giveUp session.foreignStores handle })
  | .iterate handle cursor place =>
    match foreignHandle session.foreignStores handle with
    | none => (.noHandle, session)
    | some store =>
      let (status, out) := Foreign.iterate store place
      (.foreign status (some (out.map fun _ => .handle)),
        { session with foreignCursors := gain session.foreignCursors cursor out })
  | .next handle place =>
    match foreignHandle session.foreignCursors handle with
    | none => (.noHandle, session)
    | some cursor =>
      let (status, out, cursor) := Foreign.next cursor place
      (.foreign status (some (out.map .text)),
        { session with foreignCursors := keep session.foreignCursors handle cursor })
  | .destroy handle =>
    match foreignHandle session.foreignCursors handle with
    | none => (.noHandle, session)
    | some _ =>
      (.done, { session with foreignCursors := giveUp session.foreignCursors handle })
  | .freeNull => (.done, session)

/-! ## Steps and runs -/

/-- Carries out one command. -/
def step (session : Session) : Command → Answer × Session
  | .limit limit => (.done, { session with limit })
  | .disk command =>
    let (result, volume) := command.run session.volume
    (.disk result, { session with volume })
  | .openStore name settings => session.openStore name settings
  | .store name command =>
    match session.stores.get? name with
    | none => (.noHandle, session)
    | some store => session.onStore name store command
  | .verify path => (.verified (Replay.verify session.volume path), session)
  | .openFile name path create sync => session.openFile name path create sync
  | .file name command =>
    match session.files.get? name with
    | none => (.noHandle, session)
    | some file => session.onFile name file command
  | .foreign command => session.onForeign command
  | .cursor name query =>
    match session.cursors.get? name with
    | none => (.noHandle, session)
    | some cursor =>
      let (reply, after) := cursor.ask query
      (.cursor reply, { session with cursors := session.cursors.assign name after })
  | .commandLine words =>
    let (report, volume) := CommandLine.run session.volume words
    (.commandLine report, { session with volume })

/-- Carries out a run of commands. -/
def run (session : Session) : List Command → List Answer
  | [] => []
  | command :: commands =>
    let (answer, after) := session.step command
    answer :: after.run commands

end Session
end KeyLog
