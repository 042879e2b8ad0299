import KeyLog.Proofs.Record.Altered
import KeyLog.Proofs.Record.Decode
import KeyLog.Proofs.Store

/-!
# Logs with an altered record

One record of a log has been altered on the disk, and everything before and behind it is as it was.
Nothing begins where the altered record stands (`Record.Altered.stuck`), so a replay stops there
(`Replay.ofBytes_damaged`), and whoever replays the log stops there too.

* `Replay.verify_of_bytesAt?`, `Store.openWith_of_damaged`: a verification and an opening come to
  what a replay of the bytes at the path comes to.
* `Replay.reports_altered_record`: hence they all report the altered record, at its own offset.
-/

namespace KeyLog

variable {volume : Volume} {path : String} {bytes : Bytes}

/-! ## Who replays a log -/

/-- A verification comes to what a replay of the bytes at the path comes to. -/
theorem Replay.verify_of_bytesAt? (h : volume.bytesAt? path = some bytes) :
    verify volume path = (ofBytes bytes).map Replay.stats := by
  obtain ⟨object, hleads, hcontent⟩ := Volume.bytesAt?_eq_some_iff.1 h
  simp only [verify, hleads.openFile, ofSource_held, hcontent]
  cases ofBytes bytes <;> rfl

/-- **A damaged log is not opened**, whatever the other settings are, and nothing changes. -/
theorem Store.openWith_of_damaged {settings : Settings} {error : StoreError}
    (h : volume.bytesAt? settings.path = some bytes) (herror : Replay.ofBytes bytes = .error error) :
    openWith volume settings = (.error error, volume) := by
  obtain ⟨object, hleads, hcontent⟩ := Volume.bytesAt?_eq_some_iff.1 h
  simp only [openWith, LogFile.openAt, hleads.openFile, LogFile.replay, Replay.ofSource_held,
    hcontent, herror]

/-! ## An altered record -/

namespace Record

variable {record : Record} {altered : Bytes}

/-- Something is left of an altered record. -/
theorem Altered.ne_nil (h : record.Altered altered) : altered ≠ [] := by
  cases h <;> exact List.cons_ne_nil _ _

/-- **An altered record is not read as a record**, but reported at the offset that was given. -/
theorem Altered.decode (h : record.Altered altered) (offset : Nat) :
    ∃ reason, Record.decode offset altered = .error (.corruption offset reason) := by
  rcases decode_cases offset altered with ⟨other, hbytes, -⟩ | hreason
  · exact absurd hbytes (h.ne_encode other)
  · exact hreason

end Record

namespace Replay

/-- **An altered record is reported at its own offset**, by a replay of the bytes and by whoever
replays them: a verification and an opening of a store at a path that holds them, which then changes
nothing.  Taken by itself, what was made of the record is not read as a record either. -/
theorem reports_altered_record (before after : Log) {record : Record} {altered : Bytes}
    (h : record.Altered altered) :
    ∃ reason,
      ofBytes (before.bytes ++ (altered ++ after.bytes)) =
        .error (.corruption before.bytes.length reason) ∧
      (∀ (volume : Volume) (path : String),
        volume.bytesAt? path = some (before.bytes ++ (altered ++ after.bytes)) →
          verify volume path = .error (.corruption before.bytes.length reason)) ∧
      (∀ (volume : Volume) (settings : Settings),
        volume.bytesAt? settings.path = some (before.bytes ++ (altered ++ after.bytes)) →
          Store.openWith volume settings =
            (.error (.corruption before.bytes.length reason), volume)) ∧
      ∀ offset, ∃ fault, Record.decode offset altered = .error (.corruption offset fault) := by
  have hrest : altered ++ after.bytes ≠ [] := by
    intro hnil
    exact h.ne_nil (List.append_eq_nil_iff.1 hnil).1
  obtain ⟨reason, hreplay⟩ := ofBytes_damaged before (h.stuck after.bytes) hrest
  refine ⟨reason, hreplay, ?_, ?_, h.decode⟩
  · intro volume path hbytes
    rw [verify_of_bytesAt? hbytes, hreplay]
    rfl
  · intro volume settings hbytes
    exact Store.openWith_of_damaged hbytes hreplay

/-! ## A record to look at -/

/-- A short record. -/
def wordRecord : Record :=
  ⟨"key", "value", by decide +kernel, by decide +kernel, by decide +kernel⟩

/-- The record with zeros in place of the last two bytes of the key and the first two of the value,
which are four neighbouring bytes although the value length lies between them. -/
def alteredWord : Bytes :=
  wordRecord.bytesWith [0x6B, 0, 0] [0, 0, 0x6C, 0x75, 0x65]
    (LittleEndian.word wordRecord.checksum.toNat)

/-- A volume with one file, which holds the record, the altered record and the record again. -/
def onAlteredWord : Volume :=
  ⟨[(["heap"], .file 0)],
    [(0, .ofBytes (Log.bytes [wordRecord] ++ (alteredWord ++ Log.bytes [wordRecord])))], 1⟩

theorem altered_alteredWord : wordRecord.Altered alteredWord := by
  refine .texts (by decide +kernel) (by decide +kernel) ⟨by decide +kernel, by decide +kernel, 1, ?_⟩
  decide +kernel

/-- The second of three records is reported at the end of the first one. -/
theorem reports_altered_word :
    wordRecord.Altered alteredWord ∧
      ∃ reason, verify onAlteredWord "heap" = .error (.corruption 17 reason) ∧
        Store.openWith onAlteredWord { path := "heap" } =
          (.error (.corruption 17 reason), onAlteredWord) := by
  obtain ⟨reason, -, hverify, hopen, -⟩ :=
    reports_altered_record [wordRecord] [wordRecord] altered_alteredWord
  have hbytes : onAlteredWord.bytesAt? "heap" =
      some (Log.bytes [wordRecord] ++ (alteredWord ++ Log.bytes [wordRecord])) := by
    decide +kernel
  have hlength : (Log.bytes [wordRecord]).length = 17 := by decide +kernel
  rw [hlength] at hverify hopen
  exact ⟨altered_alteredWord, reason, hverify _ _ hbytes, hopen _ _ hbytes⟩

end Replay
end KeyLog
