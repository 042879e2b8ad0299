import KeyLog.Record.Head
import KeyLog.Replay
import KeyLog.Settings
import KeyLog.Volume.Names

/-!
# Log files

A log file is a handle on an object that holds a log.  New records go to the end of the object,
wherever that is, but the handle counts for itself: `length` is where it believes the log ends,
and the places it hands out come from that count.  As long as nobody else writes to the object the
two agree; a replay makes them agree again.

## Where the handle stands

A handle also stands somewhere in the object: behind what it last read or wrote, or at the beginning
if it did neither.  No answer depends on that unless the handle stands so close to the largest size
of an object that a record has no place behind it.  Then every append fails, wherever the object
ends by now, until a look-up or a replay brings the handle back.

## When a write fails

An append that is cut off may have left part of a record behind, so the handle cuts the object
back to its own length.  If even that is refused, the handle takes over the real length, whatever
lies there, so that later places are true again.
-/

namespace KeyLog

/-- An open log. -/
structure LogFile where
  /-- The path it was opened at. -/
  path : String
  object : Nat
  /-- Where the handle believes that the log ends. -/
  length : Nat
  /-- Where the handle stands. -/
  position : Nat
  sync : SyncPolicy

namespace LogFile

/-- Opens the log at a path. -/
def openAt (volume : Volume) (path : String) (create : Bool) (sync : SyncPolicy) :
    Except StoreError LogFile × Volume :=
  match volume.openFile path create with
  | (.error cause, volume) => (.error (.io cause), volume)
  | (.ok object, volume) => (.ok ⟨path, object, volume.size object, 0, sync⟩, volume)

/-- The log has no bytes, as far as the handle knows. -/
def isEmpty (file : LogFile) : Bool := file.length == 0

/-- Replays the whole log, from the beginning.  The handle then counts on from the end of the last
record, where it also stands.  If the replay fails it counts as standing at the beginning: the few
records that were read before the fault end nowhere near the largest size of an object. -/
def replay (volume : Volume) (file : LogFile) : Except StoreError Replay × LogFile :=
  match Replay.ofSource (.ofSparse (volume.held file.object)) with
  | .error error => (.error error, { file with position := 0 })
  | .ok replay =>
    (.ok replay, { file with length := replay.stats.bytes, position := replay.stats.bytes })

/-- Takes back what a failed append may have left behind. -/
def rollBack (medium : Medium) (volume : Volume) (file : LogFile) : LogFile × Volume :=
  match volume.resize medium file.object file.length with
  | (none, volume) => (file, volume)
  | (some _, volume) => ({ file with length := volume.size file.object }, volume)

/-- The handle after a write to its object: it stands behind what was written, if anything was. -/
def wrote (file : LogFile) (before after : Volume) : LogFile :=
  if after.size file.object = before.size file.object then file
  else { file with position := after.size file.object }

/-- Appends a record, and says where the handle believes it to lie. -/
def append (medium : Medium) (volume : Volume) (file : LogFile) (record : Record) :
    Except StoreError Span × LogFile × Volume :=
  match volume.append medium file.object file.position record.encode with
  | (none, after) =>
    (.ok ⟨file.length, record.size⟩,
      { file.wrote volume after with length := file.length + record.size }, after)
  | (some cause, after) => (.error (.io cause), (file.wrote volume after).rollBack medium after)

/-- The record that the handle finds at a place.  However long the place is, only the head of it is
fetched. -/
def recordAt (volume : Volume) (file : LogFile) (span : Span) : Except StoreError Record :=
  if file.length < span.stop then
    .error (.corruption span.offset (.pastEnd span.stop file.length))
  else if Medium.maxObjectSize < span.stop then .error (.io .invalidArgument)
  else if volume.size file.object - span.offset < span.length then
    .error (.corruption span.offset .shortRead)
  else
    let head := volume.read file.object span.offset (min Record.headSize span.length)
    Record.decodeHead span.offset head (span.length - Record.headSize)

/-- Where the handle stands once it has read at a place: behind what it read, where it looked if
there was nothing, and where it stood if it did not even look. -/
def positionAfter (volume : Volume) (file : LogFile) (span : Span) : Nat :=
  if file.length < span.stop ∨ Medium.maxObjectSize < span.offset then file.position
  else if Medium.maxObjectSize < span.stop then span.offset
  else span.offset + min span.length (volume.size file.object - span.offset)

/-- Reads the record that lies at a place. -/
def readAt (volume : Volume) (file : LogFile) (span : Span) : Except StoreError Record × LogFile :=
  (file.recordAt volume span, { file with position := file.positionAfter volume span })

/-- **What is found at a place** is the record that all bytes there are. -/
theorem recordAt_eq (volume : Volume) (file : LogFile) (span : Span) :
    recordAt volume file span =
      if file.length < span.stop then
        .error (.corruption span.offset (.pastEnd span.stop file.length))
      else if Medium.maxObjectSize < span.stop then .error (.io .invalidArgument)
      else if (volume.read file.object span.offset span.length).length < span.length then
        .error (.corruption span.offset .shortRead)
      else Record.decode span.offset (volume.read file.object span.offset span.length) := by
  have hlength : (volume.read file.object span.offset span.length).length =
      min span.length (volume.size file.object - span.offset) := by
    rw [Volume.read_eq, List.length_take, List.length_drop, ← Volume.size_eq]
  have hshort : (volume.read file.object span.offset span.length).length < span.length ↔
      volume.size file.object - span.offset < span.length := by
    rw [hlength]
    omega
  simp only [recordAt, hshort]
  split
  · rfl
  split
  · rfl
  split
  · rfl
  next hlong =>
    have hall : (volume.read file.object span.offset span.length).length = span.length := by
      rw [hlength]
      omega
    rw [← Record.decodeHead_eq, hall]
    congr 1
    rw [Volume.read_eq, Volume.read_eq, List.take_take]

end LogFile

/-- Replays the log at a path without keeping it open or creating it. -/
def Replay.verify (volume : Volume) (path : String) : Except StoreError ReplayStats :=
  match volume.openFile path false with
  | (.error cause, _) => .error (.io cause)
  | (.ok object, _) =>
    match Replay.ofSource (.ofSparse (volume.held object)) with
    | .error error => .error error
    | .ok replay => .ok replay.stats

end KeyLog
