import KeyLog.Proofs.Session.Canonical

/-!
# What a compaction counts

A compaction that goes through answers how many keys are live, how long the log was and how long it
is now.  Live records and shadowed records are together all records of the log, and the compacted
log has the live ones.  So the difference of the two lengths is the length of the shadowed records,
and a log in which no key comes twice keeps its length.

* `Store.Holds.compact_counts`: the counts of a compaction are those of the two logs.
* `Session.Follows.compact_counts`: the same for a session that follows the old log.
* `Session.compaction_reclaims_shadowed`: hence exactly the shadowed records are reclaimed.
-/

namespace KeyLog

/-- **A compaction that goes through counts the two logs**: the live keys and the bytes of the old
log, and the bytes of the compacted one. -/
theorem Store.Holds.compact_counts {volume : Volume} {path : String} {store : Store} {log : Log}
    (h : store.Holds volume path log) (hsound : volume.Sound) {medium : Medium}
    {stats : CompactionStats} {next : Store} {after : Volume}
    (hcompact : store.compact medium volume = (.ok stats, next, after)) :
    next.Holds after path log.compacted ∧
      stats = ⟨store.size, log.bytes.length, log.compacted.bytes.length⟩ := by
  have hended : Compaction.Ended path log
      (Compaction.run medium store.file volume (.opening log.index.entries)) :=
    Compaction.run_opening hsound h.file
  rw [← h.index] at hended
  unfold Store.compact at hcompact
  split at hcompact
  · cases hcompact
  next file index moved volume' hrun =>
    cases hcompact
    rw [hrun] at hended
    obtain ⟨hholds, hindex⟩ := hended
    refine ⟨⟨hholds, hindex⟩, ?_⟩
    rw [h.file.length, hholds.length]
    rfl

namespace Session

/-- The counts that a compaction has answered. -/
def Answer.counts? : Answer → Option CompactionStats
  | .store (.ok (.compacted stats)) _ => some stats
  | _ => none

variable {session : Session} {name path : String} {log : Log} {commands : List Command}
  {stats : CompactionStats}

/-- **A compaction that answers counts** was one of an open store, which then holds the compacted log,
and they are those of the two logs. -/
theorem Follows.compact_counts (h : session.Follows name path log)
    (hcounts : (session.step (.store name .compact)).1.counts? = some stats) :
    ∃ store next, session.stores.get? name = some store ∧
      (session.step (.store name .compact)).2.stores.get? name = some next ∧
      next.Holds (session.step (.store name .compact)).2.volume path log.compacted ∧
      stats = ⟨store.size, log.bytes.length, log.compacted.bytes.length⟩ := by
  cases hstore : session.stores.get? name with
  | none => simp only [step, hstore, Answer.counts?, reduceCtorEq] at hcounts
  | some store =>
    cases hcompact : store.compact session.medium session.volume with
    | mk result rest =>
      obtain ⟨next, volume⟩ := rest
      have hstep : session.step (.store name .compact) =
          (.store (result.map .compacted) (some (storeState next)),
            { session with volume, stores := session.stores.assign name next }) := by
        simp only [step, hstore, onStore, hcompact]
      rw [hstep] at hcounts ⊢
      cases result with
      | error error => cases hcounts
      | ok counted =>
        obtain rfl : counted = stats := Option.some.inj hcounts
        obtain ⟨hholds, hstats⟩ := (h.holds store hstore).compact_counts h.sound hcompact
        exact ⟨store, next, rfl, Handles.get?_assign_self .., hholds, hstats⟩

/-- **A compaction reclaims the shadowed records.**  Let it answer its counts, in any state of
somebody who has one store at a time on a file that a replay accepts.  The live records that it
counts are the keys of the store, before and after.  The bytes before are those of the old file and
the bytes after those of the new one, which are the live bytes of the old index.  The new file is not
longer than the old one, the difference is what the records took that a later record of their key
shadowed, and there is none if and only if no key came twice in the old file. -/
theorem compaction_reclaims_shadowed (hready : session.Ready name path)
    (hsole : ∀ command ∈ commands, command.Sole name path)
    (hcounts : ((session.after commands).step (.store name .compact)).1.counts? = some stats) :
    ∃ (old : Log) (new : Bytes) (store next : Store),
      (session.after commands).volume.bytesAt? path = some old.bytes ∧
      (session.after commands).stores.get? name = some store ∧
      (session.after (commands ++ [.store name .compact])).volume.bytesAt? path = some new ∧
      (session.after (commands ++ [.store name .compact])).stores.get? name = some next ∧
      stats.liveRecords = store.size ∧ stats.liveRecords = next.size ∧
      stats.bytesBefore = old.bytes.length ∧ stats.bytesBefore = store.logSize ∧
      stats.bytesAfter = new.length ∧ stats.bytesAfter = next.logSize ∧
      stats.bytesAfter = store.index.liveBytes ∧
      stats.bytesAfter ≤ stats.bytesBefore ∧
      stats.bytesAfter + stats.reclaimed = stats.bytesBefore ∧
      stats.reclaimed = (old.shadowed.map fun record => record.encode.length).sum ∧
      (stats.bytesAfter = stats.bytesBefore ↔ (old.map Record.key).Nodup) := by
  obtain ⟨first, hfirst⟩ := hready.follows
  obtain ⟨log, hfollows, -⟩ := run_follows hfirst hsole
  obtain ⟨store, next, hstore, hnext, hholds, rfl⟩ := hfollows.compact_counts hcounts
  have hold := hfollows.holds store hstore
  have hlive : log.compacted.bytes.length = store.index.liveBytes := by
    rw [log.length_bytes_compacted, hold.index]
  have htotal : store.index.liveBytes + (log.shadowed.map Record.size).sum = log.bytes.length := by
    rw [hold.index]
    exact log.liveBytes_add_shadowed
  have hsize : next.size = store.size := by
    rw [hholds.size_eq, log.contents_compacted, ← hold.size_eq]
  rw [session.after_append]
  refine ⟨log, log.compacted.bytes, store, next, hold.bytesAt?, hstore, hholds.bytesAt?, hnext, rfl,
    hsize.symm, rfl, hold.file.length.symm, rfl, hholds.file.length.symm, hlive, ?_, ?_, ?_, ?_⟩
  · exact log.length_bytes_compacted_le
  · show log.compacted.bytes.length + (log.bytes.length - log.compacted.bytes.length) =
      log.bytes.length
    omega
  · have hencode : (log.shadowed.map fun record => record.encode.length).sum =
        (log.shadowed.map Record.size).sum := by simp only [Record.length_encode]
    show log.bytes.length - log.compacted.bytes.length = _
    omega
  · rw [← Log.sum_shadowed_eq_zero_iff]
    show log.compacted.bytes.length = log.bytes.length ↔ _
    omega

/-- Of 33 bytes the 11 of the key that was set twice are reclaimed. -/
theorem compaction_reclaims_shadowed_setOnce :
    onTwiceSet.Ready "s" "heap" ∧ (∀ command ∈ setOnce, command.Sole "s" "heap") ∧
      ((onTwiceSet.after setOnce).step (.store "s" .compact)).1.counts? = some ⟨2, 33, 22⟩ ∧
      ∃ (old : Log) (store : Store),
        (onTwiceSet.after setOnce).volume.bytesAt? "heap" = some old.bytes ∧
        (onTwiceSet.after setOnce).stores.get? "s" = some store ∧ store.index.liveBytes = 22 ∧
        (old.shadowed.map fun record => record.encode.length).sum = 11 ∧
        ¬ (old.map Record.key).Nodup := by
  have hsole : ∀ command ∈ setOnce, command.Sole "s" "heap" := by simp [setOnce, Command.Sole]
  have hcounts : ((onTwiceSet.after setOnce).step (.store "s" .compact)).1.counts? =
      some ⟨2, 33, 22⟩ := by decide +kernel
  obtain ⟨old, -, store, -, hbytes, hstore, -, -, -, -, -, -, -, -, hlive, -, -, hreclaimed, hiff⟩ :=
    compaction_reclaims_shadowed ready_onTwiceSet hsole hcounts
  refine ⟨ready_onTwiceSet, hsole, hcounts, old, store, hbytes, hstore, hlive.symm,
    hreclaimed.symm, ?_⟩
  rw [← hiff]
  decide

end Session
end KeyLog
