import KeyLog.Store.Compaction

/-!
# Only a look-up misses

That a key has no value is an answer of its own, with an exit code and a status of its own.  It is
given by a look-up and by nothing else: what a `set` or a compaction fails with is the fault of the
texts, of the file system or of the bytes in the log.

* `Store.get_eq_notFound_iff`: when a look-up misses.
* `Store.set_ne_notFound`, `Store.compact_ne_notFound`: a `set` and a compaction never do.
-/

namespace KeyLog

variable {volume : Volume}

/-- A place of a log is never just missing. -/
theorem LogFile.recordAt_ne_notFound (volume : Volume) (file : LogFile) (span : Span) :
    file.recordAt volume span ≠ .error .notFound := by
  simp only [recordAt, Record.decodeHead]
  split
  · simp
  split
  · simp
  split
  · simp
  split <;> simp

/-! ## Texts that are refused -/

namespace Admission

theorem rejectNul_ne_notFound (part : Part) (text : String) :
    rejectNul part text ≠ .error .notFound := by
  unfold rejectNul
  split <;> simp

theorem checkKey_ne_notFound (key : String) : checkKey key ≠ .error .notFound := by
  unfold checkKey
  split
  · exact rejectNul_ne_notFound .key key
  · simp

theorem checkValue_ne_notFound (value : String) : checkValue value ≠ .error .notFound := by
  unfold checkValue
  split
  · exact rejectNul_ne_notFound .value value
  · simp

theorem accept_ne_notFound (key value : String) : accept key value ≠ .error .notFound := by
  unfold accept
  split
  next hkey =>
    rintro ⟨⟩
    exact checkKey_ne_notFound key hkey
  next =>
    split
    next hvalue =>
      rintro ⟨⟩
      exact checkValue_ne_notFound value hvalue
    next => simp

end Admission

/-! ## Compactions -/

namespace Compaction

/-- The error that a phase hands on is not that a key has no value. -/
def Phase.NoMiss : Phase → Prop
  | .discarding _ error => error ≠ .notFound
  | .removing error => error ≠ .notFound
  | _ => True

/-- The error with which a compaction ends is not that a key has no value. -/
def Progress.NoMiss : Progress → Prop
  | .to phase => phase.NoMiss
  | .finished outcome => outcome ≠ .error .notFound

theorem noMiss_step (medium : Medium) (file : LogFile) (volume : Volume) {phase : Phase}
    (h : phase.NoMiss) : (step medium file volume phase).1.NoMiss := by
  cases phase with
  | opening todo =>
    simp only [step]
    split <;> simp [Progress.NoMiss, Phase.NoMiss]
  | copying draft todo =>
    cases todo with
    | nil =>
      simp only [step]
      split <;> simp [Progress.NoMiss, Phase.NoMiss]
    | cons entry todo =>
      obtain ⟨key, span⟩ := entry
      simp only [step, LogFile.readAt]
      split
      next error _ hread =>
        obtain ⟨hrecord, -⟩ := Prod.mk.inj hread
        rintro rfl
        exact file.recordAt_ne_notFound volume span hrecord
      next => split <;> simp [Progress.NoMiss, Phase.NoMiss]
  | reopening index =>
    simp only [step, LogFile.openAt]
    split
    next hopen =>
      split at hopen <;> cases hopen
      simp [Progress.NoMiss, Phase.NoMiss]
    next => trivial
  | replacing draft index =>
    simp only [step]
    split <;> simp [Progress.NoMiss, Phase.NoMiss]
  | discarding draft error => exact h
  | removing error =>
    intro hremoved
    exact h (Except.error.inj hremoved)

theorem noMiss_run (medium : Medium) (file : LogFile) (volume : Volume) {phase : Phase}
    (h : phase.NoMiss) : (run medium file volume phase).1 ≠ .error .notFound := by
  fun_induction run medium file volume phase with
  | case1 file volume phase outcome moved after hstep =>
    have hstepped := noMiss_step medium file volume h
    rw [hstep] at hstepped
    exact hstepped
  | case2 file volume phase next moved after hstep ih =>
    have hstepped := noMiss_step medium file volume h
    rw [hstep] at hstepped
    exact ih hstepped

end Compaction

/-! ## Stores -/

namespace Store

variable {store : Store} {key : String}

/-- **A look-up misses** if and only if the key may be asked for and is not in the index. -/
theorem get_eq_notFound_iff :
    (store.get volume key).1 = .error .notFound ↔
      Admission.checkKey key = .ok () ∧ store.index.find? key = none := by
  unfold Store.get
  split
  next error hkey =>
    simp only [hkey, reduceCtorEq, false_and, iff_false]
    rintro ⟨⟩
    exact Admission.checkKey_ne_notFound key hkey
  next hkey =>
    split
    next hfind => simp only [hkey, hfind, and_self]
    next span hfind =>
      simp only [hfind, reduceCtorEq, and_false, iff_false, LogFile.readAt]
      split
      next hread =>
        obtain ⟨hrecord, -⟩ := Prod.mk.inj hread
        rintro ⟨⟩
        exact store.file.recordAt_ne_notFound volume span hrecord
      next => split <;> simp

/-- **A `set` never misses.** -/
theorem set_ne_notFound (medium : Medium) (volume : Volume) (store : Store) (key value : String) :
    (store.set medium volume key value).1 ≠ .error .notFound := by
  unfold Store.set
  split
  next error haccept =>
    rintro ⟨⟩
    exact Admission.accept_ne_notFound key value haccept
  next record _ =>
    simp only [LogFile.append]
    cases volume.append medium store.file.object store.file.position record.encode with
    | mk result after => cases result <;> simp

/-- **A compaction never misses.** -/
theorem compact_ne_notFound (medium : Medium) (volume : Volume) (store : Store) :
    (store.compact medium volume).1 ≠ .error .notFound := by
  have hrun : (Compaction.run medium store.file volume (.opening store.index.entries)).1 ≠
      .error .notFound := Compaction.noMiss_run medium store.file volume trivial
  unfold Store.compact
  split
  next hresult =>
    rw [hresult] at hrun
    simpa using hrun
  next => simp

end Store
end KeyLog
