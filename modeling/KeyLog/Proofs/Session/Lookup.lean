import KeyLog.Proofs.Log.Basic
import KeyLog.Proofs.Session.Lasting
import KeyLog.Proofs.Store.Lookup

/-!
# What a look-up may answer

A look-up hands out a value only if what lies at the place of the key is, byte for byte, the record
of the key with this value, whatever has happened to the log behind the store.

* `Session.get_never_fabricates`: this for an open store of a session, with what a look-up leaves.
-/

namespace KeyLog
namespace Session

variable {session : Session} {name key : String} {store : Store}

/-- **A look-up never makes up a value**, whatever has happened to the bytes of the log since the
store was opened.  It answers a value if and only if the key is accepted and indexed, its place ends
where the handle believes the log to go on to, and the bytes there are the encoding of the record of
this key and this value and nothing else.  A key that is not accepted is refused as its check says,
one without an entry is not found, and in all other cases the log is reported as damaged at the
offset of the place.

And a look-up changes nothing but where the handle stands: no byte and no name of the volume, no
length and no entry of the index.  The handle must not count more bytes than an object can have. -/
theorem get_never_fabricates (hstore : session.stores.get? name = some store)
    (hlength : store.logSize ≤ Medium.maxObjectSize) (key : String) :
    ∃ (result : Except StoreError String) (position : Nat),
      session.step (.store name (.get key)) =
        (.store (result.map .value) (some (storeState store)),
          { session with
            stores := session.stores.assign name
              { store with file := { store.file with position } } }) ∧
      (∀ value, result = .ok value ↔
        Admission.checkKey key = .ok () ∧ ∃ span record, store.index.find? key = some span ∧
          span.stop ≤ store.logSize ∧ record.key = key ∧ record.value = value ∧
            session.volume.HasAt store.file.object span record) ∧
      (∀ error, Admission.checkKey key = .error error → result = .error error) ∧
      (Admission.checkKey key = .ok () → store.index.find? key = none →
        result = .error .notFound) ∧
      ∀ span, Admission.checkKey key = .ok () → store.index.find? key = some span →
        (∃ value, result = .ok value) ∨ ∃ reason, result = .error (.corruption span.offset reason) := by
  obtain ⟨position, hafter⟩ := store.get_snd session.volume key
  refine ⟨(store.get session.volume key).1, position, ?_, fun value => Store.get_eq_ok_iff hlength,
    ?_, ?_, fun span hkey hfind => Store.get_of_find?_cases hlength hkey hfind⟩
  · simp only [step, hstore, onStore, hafter]
    rfl
  · intro error hkey
    simp only [Store.get, hkey]
  · intro hkey hfind
    simp only [Store.get, hkey, hfind]

/-! ## A log that was changed behind the store -/

/-- A record of the key `b`. -/
def otherRecord : Record := (Record.ofTexts? "b" "1").get (by decide +kernel)

/-- Sets two keys, and then puts the record of the second one in the place of the first. -/
def swapped : List Command :=
  [.openStore "s" { path := "heap" }, .store "s" (.set "a" "1"), .store "s" (.set "b" "1"),
    .disk (.overwrite "heap" 0 otherRecord.encode)]

/-- What lies at the place of the first key is a sound record, but not one of that key. -/
theorem get_never_fabricates_swapped :
    ∃ store, (start.after swapped).stores.get? "s" = some store ∧
      store.logSize ≤ Medium.maxObjectSize ∧
      (start.after swapped).volume.HasAt store.file.object ⟨0, 11⟩ otherRecord ∧
      ∃ reason after, (start.after swapped).step (.store "s" (.get "a")) =
        (.store (.error (.corruption 0 reason)) (some (storeState store)), after) := by
  have hopen : ((start.after swapped).stores.get? "s").map
      (fun store => (store.logSize, store.file.object, store.index.find? "a")) =
        some (22, 0, some ⟨0, 11⟩) := by decide +kernel
  have hcontent : (start.after swapped).volume.content 0 =
      otherRecord.encode ++ otherRecord.encode := by decide +kernel
  obtain ⟨store, hstore, hseen⟩ := Option.map_eq_some_iff.1 hopen
  obtain ⟨hsize, hobject, hfind⟩ : store.logSize = 22 ∧ store.file.object = 0 ∧
      store.index.find? "a" = some ⟨0, 11⟩ := by simpa using hseen
  have hlength : store.logSize ≤ Medium.maxObjectSize := by
    rw [hsize]
    decide
  have hother : (start.after swapped).volume.HasAt store.file.object ⟨0, 11⟩ otherRecord :=
    ⟨[], otherRecord.encode, by rw [hobject, hcontent, List.nil_append], rfl, by decide +kernel⟩
  obtain ⟨result, position, hstep, hok, -, -, hcases⟩ := get_never_fabricates hstore hlength "a"
  rcases hcases _ rfl hfind with ⟨value, hvalue⟩ | ⟨reason, hreason⟩
  · -- no record of the first key lies there
    obtain ⟨-, span, record, hspan, -, hkey, -, front, back, hbytes, hoffset, -⟩ :=
      (hok value).1 hvalue
    cases hfind.symm.trans hspan
    obtain rfl : front = [] := List.eq_nil_of_length_eq_zero hoffset
    rw [hobject, hcontent, List.nil_append] at hbytes
    rw [← (Record.encode_append_inj hbytes).1] at hkey
    exact absurd hkey (by decide +kernel)
  · rw [hreason] at hstep
    exact ⟨store, hstore, hlength, hother, reason, _, hstep⟩

end Session
end KeyLog
