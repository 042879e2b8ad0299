import KeyLog.Proofs.LogFile.Append
import KeyLog.Proofs.Session.Calls
import KeyLog.Proofs.Session.Refinement

/-!
# The C interface is the store

Two things are said of a run of calls of the C interface.  It does what a run of commands for stores
does, and returns what comes of that (`Session.Mirrors`).  And what one call puts into a file is what
a later call finds there, as long as no two handles are open on one file: each store holds the log of
its own object (`Session.Orderly`), so a value that was set stays the last one of its key until the
key is set again in that object.

* `Store.openWith_keeps`, `Store.set_within`: what opening and setting do to other objects.
* `Session.Orderly.step`, `Session.Deposited.step`: what one call does to the logs and to a value.
* `Session.Deposited.run`: hence what a run of calls does to a value.
* `Session.calls_simulate_the_store`: both together.
-/

namespace KeyLog

variable {volume after : Volume}

/-! ## What opening and setting do to other objects -/

namespace Store

/-- Opening a store keeps every object that was made before. -/
theorem openWith_keeps (volume : Volume) (settings : Settings) {object : Nat}
    (hknown : object < volume.fresh) : volume.Keeps (openWith volume settings).2 object := by
  have hvolume : (openWith volume settings).2 =
      (volume.openFile settings.path settings.createIfMissing).2 := by
    simp only [openWith, LogFile.openAt]
    cases volume.openFile settings.path settings.createIfMissing with
    | mk result opened =>
      cases result with
      | error cause => rfl
      | ok object =>
        simp only [LogFile.replay]
        split <;> rfl
  rw [hvolume]
  rcases volume.openFile_cases settings.path settings.createIfMissing with
    ⟨other, -, hopen⟩ | ⟨cause, -, hopen⟩ | ⟨path, -, hpath, hlook, hopen⟩
  · rw [hopen]
    exact .refl volume object
  · rw [hopen]
    exact .refl volume object
  · rw [hopen]
    exact (Volume.leads_create hpath hlook).2.2 object hknown

/-- A `set` changes nothing but the bytes of the object of its store. -/
theorem set_within {medium : Medium} (hshrinks : medium.Shrinks) (volume : Volume) (store : Store)
    (key value : String) :
    volume.Within (store.set medium volume key value).2.2 store.file.object := by
  unfold Store.set
  split
  · exact .refl _ _
  next record _ =>
    cases hcut : medium.cutOff store.file.position (volume.size store.file.object) record.size with
    | none =>
      obtain ⟨position, stored, happend, hwithin, -⟩ := LogFile.append_of_none hcut
      simp only [happend]
      exact hwithin
    | some cut =>
      obtain ⟨moved, stored, happend, hwithin, -⟩ := LogFile.append_of_some hshrinks hcut
      simp only [happend]
      exact hwithin

/-- A key that was set may be asked for. -/
theorem checkKey_of_set {medium : Medium} {store : Store} {key value : String}
    (h : (store.set medium volume key value).1 = .ok ()) : Admission.checkKey key = .ok () := by
  cases hkey : Admission.checkKey key with
  | ok _ => rfl
  | error error =>
    have haccept : Admission.accept key value = .error error := by
      unfold Admission.accept
      split
      next hkey' => rw [Except.error.inj (hkey.symm.trans hkey')]
      next hkey' => cases hkey.symm.trans hkey'
    simp only [Store.set, haccept, reduceCtorEq] at h

/-- A store goes on to hold its log where nothing happens to its object. -/
theorem Holds.keeps {path : String} {store : Store} {log : Log} (h : store.Holds volume path log)
    (hkeeps : volume.Keeps after store.file.object) : store.Holds after path log :=
  ⟨h.file.keeps hkeeps, h.index⟩

end Store

namespace Session

open Foreign (Reads Out)

/-! ## Stores that hold their logs -/

/-- The volume is sound, and every open store holds a log. -/
structure Orderly (volume : Volume) (stores : String → Option Store) : Prop where
  sound : volume.Sound
  holds : ∀ name store, stores name = some store → ∃ path log, store.Holds volume path log

/-- No two names have stores on one object. -/
def Separate (stores : String → Option Store) : Prop :=
  ∀ m n s t, stores m = some s → stores n = some t → s.file.object = t.file.object → m = n

/-- The object holds a log that says this value of the key, and that objects can hold. -/
structure Deposited (volume : Volume) (object : Nat) (key value : String) : Prop where
  known : object < volume.fresh
  said : ∃ log : Log, volume.content object = log.bytes ∧ log.contents key = some value ∧
    log.bytes.length ≤ Medium.maxObjectSize

variable {s : Session} {stores : Handles Store} {name key value : String} {store : Store}
  {object : Nat} {call : ForeignCommand} {command : Command}

theorem Mirrors.orderly {c : Session} (h : c.Mirrors s) :
    Orderly c.volume c.foreignStores.get? ↔ Orderly s.volume s.stores.get? := by
  rw [h.volume, funext h.stores]

/-- Giving a name to a store that holds a log leaves all others with theirs, if nothing happens to
their objects. -/
theorem Orderly.assign (h : Orderly volume stores.get?) (hsound : after.Sound)
    (hholds : ∃ path log, store.Holds after path log)
    (hothers : ∀ other t, other ≠ name → stores.get? other = some t →
      volume.Keeps after t.file.object) : Orderly after (stores.assign name store).get? := by
  refine ⟨hsound, ?_⟩
  intro other t ht
  by_cases hsame : other = name
  · rw [hsame, Handles.get?_assign_self] at ht
    cases ht
    exact hholds
  · rw [Handles.get?_assign_of_ne _ hsame] at ht
    obtain ⟨path, log, hlog⟩ := h.holds other t ht
    exact ⟨path, log, hlog.keeps (hothers other t hsame ht)⟩

/-- The object of a store that holds a log was made before. -/
theorem Orderly.lt_fresh (h : Orderly volume stores.get?) (hstore : stores.get? name = some store) :
    store.file.object < volume.fresh := by
  obtain ⟨path, log, hlog⟩ := h.holds name store hstore
  exact hlog.file.leads.lt_fresh h.sound

/-- **What comes of a `set`** in a session of many stores: nothing but the bytes of the store's object
changes, and its log has one record more or is what it was. -/
theorem Orderly.step_set (h : Orderly s.volume s.stores.get?)
    (hstore : s.stores.get? name = some store) (key value : String) :
    ∃ log next path moved volume answer, s.step (.store name (.set key value)) =
        (answer, { s with volume, stores := s.stores.assign name moved }) ∧
      s.volume.Within volume store.file.object ∧ s.volume.content store.file.object = log.bytes ∧
      moved.Holds volume path next ∧ volume.content store.file.object = next.bytes ∧
      (((∃ state, answer = .store (.ok .done) state) ∧ Admission.checkKey key = .ok () ∧
          next.bytes.length ≤ Medium.maxObjectSize ∧
          ∃ record, next = log ++ [record] ∧ record.key = key ∧ record.value = value) ∨
        (∃ error state, answer = .store (.error error) state) ∧ next = log) := by
  obtain ⟨path, log, hlog⟩ := h.holds name store hstore
  have hwithin := store.set_within (Medium.shrinks_limited s.limit) s.volume key value
  -- the path goes on to lead to the object, so the bytes of the log are there
  have hcontent : ∀ {moved : Store} {volume : Volume} {next : Log},
      s.volume.Within volume store.file.object → moved.Holds volume path next →
        volume.content store.file.object = next.bytes := by
    intro moved volume next hwithin hmoved
    rw [(hlog.file.leads.within hwithin).unique hmoved.file.leads]
    exact hmoved.file.content
  rcases hlog.set (Medium.shrinks_limited s.limit) key value with
    ⟨record, moved, volume, hset, hmoved, hkey, hvalue, hcut, -⟩ |
      ⟨error, position, volume, hset, -, hmoved, -⟩
  · rw [hset] at hwithin
    have hstep : s.step (.store name (.set key value)) =
        (.store (.ok .done) (some (storeState moved)),
          { s with volume, stores := s.stores.assign name moved }) := by
      simp only [step, hstore, onStore, medium, hset, Except.map]
    refine ⟨log, log ++ [record], path, moved, volume, _, hstep, hwithin, hlog.file.content, hmoved,
      hcontent hwithin hmoved, .inl ⟨⟨_, rfl⟩, ?_, ?_, record, rfl, hkey, hvalue⟩⟩
    · exact Store.checkKey_of_set (congrArg Prod.fst hset)
    · rw [Log.bytes_append, Log.bytes_singleton, List.length_append, Record.length_encode]
      exact Medium.bounded_limited s.limit _ _ _ hcut record.size_pos
  · rw [hset] at hwithin
    have hstep : s.step (.store name (.set key value)) =
        (.store (.error error)
            (some (storeState { store with file := { store.file with position } })),
          { s with
            volume
            stores := s.stores.assign name
              { store with file := { store.file with position } } }) := by
      simp only [step, hstore, onStore, medium, hset, Except.map]
    exact ⟨log, log, path, _, volume, _, hstep, hwithin, hlog.file.content, hmoved,
      hcontent hwithin hmoved, .inr ⟨⟨error, _, rfl⟩, rfl⟩⟩

/-- **What a call means leaves every store with a log**, if no two names have stores on one
object. -/
theorem Orderly.step (h : Orderly s.volume s.stores.get?) (hseparate : Separate s.stores.get?)
    (hmeans : Means call command) :
    Orderly (s.step command).2.volume (s.step command).2.stores.get? := by
  have hsound := sound_step h.sound command
  cases hmeans with
  | @openStore handle pointer path hpath =>
    have hkeeps : ∀ other t, s.stores.get? other = some t →
        s.volume.Keeps (Store.openWith s.volume { path }).2 t.file.object := by
      intro other t ht
      exact Store.openWith_keeps s.volume _ (h.lt_fresh ht)
    simp only [Session.step, openStore] at hsound ⊢
    cases hopen : Store.openWith s.volume { path } with
    | mk result opened =>
      rw [hopen] at hsound hkeeps
      cases result with
      | error error =>
        refine ⟨hsound, ?_⟩
        intro other t ht
        obtain ⟨path', log, hlog⟩ := h.holds other t ht
        exact ⟨path', log, hlog.keeps (hkeeps other t ht)⟩
      | ok store =>
        obtain ⟨log, hholds⟩ := Store.holds_of_openWith hopen
        exact h.assign hsound ⟨path, log, hholds⟩ fun other t _ ht => hkeeps other t ht
  | @get handle pointer key hkey =>
    simp only [Session.step]
    cases hstore : s.stores.get? handle with
    | none => exact h
    | some store =>
      obtain ⟨path, log, hlog⟩ := h.holds handle store hstore
      exact h.assign h.sound ⟨path, log, hlog.get key⟩ fun _ t _ _ => .refl _ _
  | @set handle pointer pointer' key value hkey hvalue =>
    cases hstore : s.stores.get? handle with
    | none =>
      simp only [Session.step, hstore]
      exact h
    | some store =>
      obtain ⟨log, next, path, moved, volume, answer, hstep, hwithin, -, hmoved, -⟩ :=
        h.step_set hstore key value
      rw [hstep] at hsound ⊢
      refine h.assign hsound ⟨path, next, hmoved⟩ fun other t hne ht => hwithin.keeps ?_
      intro hobject
      exact hne (hseparate other handle t store ht hstore hobject)
  | @close handle =>
    simp only [Session.step]
    cases hstore : s.stores.get? handle with
    | none => exact h
    | some store =>
      refine ⟨h.sound, ?_⟩
      intro other t ht
      have hne : other ≠ handle := by
        rintro rfl
        simp only [onStore, Handles.get?_release_self, reduceCtorEq] at ht
      simp only [onStore, Handles.get?_release_of_ne _ hne] at ht
      exact h.holds other t ht

/-! ## A value that was set -/

theorem Deposited.keeps (h : Deposited volume object key value)
    (hfresh : volume.fresh ≤ after.fresh) (hcontent : after.content object = volume.content object) :
    Deposited after object key value := by
  obtain ⟨log, hlog, hsaid⟩ := h.said
  exact ⟨Nat.lt_of_lt_of_le h.known hfresh, log, hcontent.trans hlog, hsaid⟩

/-- **A `set` deposits its value**, if it is answered with success. -/
theorem Orderly.deposits (h : Orderly s.volume s.stores.get?)
    (hstore : s.stores.get? name = some store) {state : Option StoreState}
    (hdone : (s.step (.store name (.set key value))).1 = .store (.ok .done) state) :
    Admission.checkKey key = .ok () ∧
      Deposited (s.step (.store name (.set key value))).2.volume store.file.object key value := by
  obtain ⟨log, next, path, moved, volume, answer, hstep, hwithin, -, -, hnext, hanswer⟩ :=
    h.step_set hstore key value
  rw [hstep] at hdone ⊢
  rcases hanswer with ⟨-, hcheck, hsize, record, rfl, rfl, rfl⟩ | ⟨⟨error, _, rfl⟩, -⟩
  · refine ⟨hcheck, ?_, log ++ [record], hnext, ?_, hsize⟩
    · rw [hwithin.fresh]
      exact h.lt_fresh hstore
    · rw [Log.contents_concat, Function.update_self]
  · cases hdone

/-- **A value that was set stays**, whatever a call means, unless it sets the key in the same
object. -/
theorem Deposited.step (hvalue : Deposited s.volume object key value)
    (h : Orderly s.volume s.stores.get?) (hmeans : Means call command)
    (hother : ∀ name other store, command = .store name (.set key other) →
      s.stores.get? name = some store → store.file.object = object →
        ∀ state, (s.step command).1 ≠ .store (.ok .done) state) :
    Deposited (s.step command).2.volume object key value := by
  cases hmeans with
  | @openStore handle pointer path hpath =>
    have hkeeps := Store.openWith_keeps s.volume { path } hvalue.known
    have hfresh := lasting_step (Volume.lasting_le_fresh s.volume.fresh) (Nat.le_refl _)
      (.openStore handle { path })
    refine hvalue.keeps hfresh ?_
    simp only [Session.step, openStore]
    cases hopen : Store.openWith s.volume { path } with
    | mk result opened =>
      rw [hopen] at hkeeps
      cases result <;> exact hkeeps.content
  | @get handle pointer asked hkey =>
    simp only [Session.step]
    cases hstore : s.stores.get? handle with
    | none => exact hvalue
    | some store => exact hvalue
  | @set handle pointer pointer' key' value' hkey hvalue' =>
    cases hstore : s.stores.get? handle with
    | none =>
      simp only [Session.step, hstore]
      exact hvalue
    | some store =>
      obtain ⟨log, next, path, moved, volume, answer, hstep, hwithin, hlog, -, hnext, hanswer⟩ :=
        h.step_set hstore key' value'
      rw [hstep] at hother ⊢
      have hfresh : s.volume.fresh ≤ volume.fresh := Nat.le_of_eq hwithin.fresh.symm
      by_cases hsame : store.file.object = object
      · subst hsame
        rcases hanswer with ⟨⟨state, rfl⟩, -, hsize, record, rfl, hrecord, -⟩ | ⟨-, rfl⟩
        · -- another key of the same object was set
          have hne : key' ≠ key := by
            rintro rfl
            exact hother handle value' store rfl hstore rfl state rfl
          obtain ⟨said, hsaid, hsays, -⟩ := hvalue.said
          obtain rfl : said = log := Log.bytes_injective (hsaid.symm.trans hlog)
          refine ⟨Nat.lt_of_lt_of_le hvalue.known hfresh, said ++ [record], hnext, ?_, hsize⟩
          rw [Log.contents_concat, hrecord, Function.update_of_ne (Ne.symm hne), hsays]
        · exact hvalue.keeps hfresh (hnext.trans hlog.symm)
      · exact hvalue.keeps hfresh (hwithin.content object (Ne.symm hsame))
  | @close handle =>
    simp only [Session.step]
    cases hstore : s.stores.get? handle with
    | none => exact hvalue
    | some store => exact hvalue

/-- **A value that was set is found** through every store on its object. -/
theorem Deposited.step_get (hvalue : Deposited s.volume object key value)
    (h : Orderly s.volume s.stores.get?) (hcheck : Admission.checkKey key = .ok ())
    (hstore : s.stores.get? name = some store) (hobject : store.file.object = object) :
    ∃ state, (s.step (.store name (.get key))).1 = .store (.ok (.value value)) state := by
  obtain ⟨log, hlog, hsays, hsize⟩ := hvalue.said
  obtain ⟨path, held, hheld⟩ := h.holds name store hstore
  obtain rfl : held = log := by
    refine Log.bytes_injective ?_
    rw [← hheld.file.content, hobject, hlog]
  have hget := hheld.get_eq hsize hcheck
  rw [Contents.get, hsays] at hget
  refine ⟨some (storeState (store.get s.volume key).2), ?_⟩
  simp only [Session.step, hstore, onStore, hget, Except.map]

/-! ## Runs of calls -/

/-- In every state of the run no two handles are open on one object. -/
def EachOwn (session : Session) (calls : List Command) : Prop :=
  ∀ earlier, earlier <+: calls → Separate (session.after earlier).foreignStores.get?

/-- The call gives the key a value in the object, whichever handle it goes through. -/
def Overwrites (session : Session) (object : Nat) (key : String) (call : Command) : Prop :=
  ∃ handle pointer pointer' store, call = .foreign (.set (some handle) pointer pointer') ∧
    Reads pointer key ∧ session.foreignStores.get? handle = some store ∧
      store.file.object = object ∧ (session.step call).1.returned? = some (0, none)

/-- No call of the run gives the key a value in the object. -/
def Undisturbed (session : Session) (object : Nat) (key : String) : List Command → Prop
  | [] => True
  | call :: calls =>
    ¬ session.Overwrites object key call ∧ (session.step call).2.Undisturbed object key calls

/-- Through every handle that is open on the object, a look-up of the key finds the value. -/
def Finds (session : Session) (object : Nat) (key value : String) : Prop :=
  ∀ reader store pointer, session.foreignStores.get? reader = some store →
    store.file.object = object → Reads pointer key →
      (session.step (.foreign (.get (some reader) pointer true))).1.returned? =
        some (0, some (.value (.text value)))

variable {c : Session} {calls : List Command} {handle : String} {pointer pointer' : Option Bytes}

theorem eachOwn_nil (h : Separate c.foreignStores.get?) : c.EachOwn [] := by
  intro earlier hearlier
  rw [List.prefix_nil.1 hearlier]
  exact h

theorem EachOwn.cons {first : Command} (h : Separate c.foreignStores.get?)
    (hrest : (c.step first).2.EachOwn calls) : c.EachOwn (first :: calls) := by
  intro earlier hearlier
  cases earlier with
  | nil => exact h
  | cons other earlier =>
    obtain ⟨rfl, hlater⟩ := List.cons_prefix_cons.1 hearlier
    exact hrest earlier hlater

/-- A single handle has its object for itself. -/
theorem separate_of_length_le_one (h : stores.length ≤ 1) : Separate stores.get? := by
  intro m n s t hs ht _
  match stores, h with
  | [], _ => cases hs
  | [(name, store)], _ =>
    have hm : m = name := by
      by_contra hne
      rw [Handles.get?, List.lookup_cons, beq_eq_false_iff_ne.2 hne] at hs
      cases hs
    have hn : n = name := by
      by_contra hne
      rw [Handles.get?, List.lookup_cons, beq_eq_false_iff_ne.2 hne] at ht
      cases ht
    rw [hm, hn]

theorem EachOwn.tail {first : Command} (h : c.EachOwn (first :: calls)) :
    (c.step first).2.EachOwn calls :=
  fun earlier hearlier => h (first :: earlier) (List.cons_prefix_cons.2 ⟨rfl, hearlier⟩)

/-- A call keeps every store with its log, whether it means something or is refused. -/
theorem Orderly.step_call {first : Command} (h : Orderly c.volume c.foreignStores.get?)
    (hseparate : Separate c.foreignStores.get?) (hfirst : first.Calls) :
    Orderly (c.step first).2.volume (c.step first).2.foreignStores.get? := by
  have hmirrors := mirrors_self c
  rcases hfirst.cases with
    ⟨limit, rfl⟩ | ⟨call, command, rfl, hmeans⟩ | ⟨call, code, rfl, hrefused⟩
  · exact h
  · exact (hmirrors.means hmeans).2.orderly.2 (Orderly.step h hseparate hmeans)
  · exact (hmirrors.refused hrefused).1.orderly.2 h

/-- A value stays that was set, unless a call gives the key another one. -/
theorem Deposited.step_call {first : Command} (hvalue : Deposited c.volume object key value)
    (h : Orderly c.volume c.foreignStores.get?) (hfirst : first.Calls)
    (hundisturbed : ¬ c.Overwrites object key first) :
    Deposited (c.step first).2.volume object key value := by
  have hmirrors := mirrors_self c
  rcases hfirst.cases with
    ⟨limit, rfl⟩ | ⟨call, command, rfl, hmeans⟩ | ⟨call, code, rfl, hrefused⟩
  · exact hvalue
  · obtain ⟨hreturned, hafter⟩ := hmirrors.means hmeans
    rw [hafter.volume]
    refine Deposited.step hvalue h hmeans ?_
    rintro name other store rfl hstore hobject state hdone
    rw [hdone] at hreturned
    cases hmeans with
    | set hkey _ => exact hundisturbed ⟨name, _, _, store, rfl, hkey, hstore, hobject, hreturned⟩
  · rw [(hmirrors.refused hrefused).1.volume]
    exact hvalue

/-- **A call that sets a key** and returns 0 deposits its value. -/
theorem Orderly.call_deposits (h : Orderly c.volume c.foreignStores.get?)
    (hstore : c.foreignStores.get? handle = some store)
    (hdone : (c.step (.foreign (.set (some handle) pointer pointer'))).1.returned? =
      some (0, none)) :
    ∃ key value, Reads pointer key ∧ Reads pointer' value ∧ Admission.checkKey key = .ok () ∧
      Deposited (c.step (.foreign (.set (some handle) pointer pointer'))).2.volume
        store.file.object key value := by
  have hmirrors := mirrors_self c
  have hlive : c.Live (.set (some handle) pointer pointer') := by
    rintro _ ⟨⟩
    exact Option.isSome_of_eq_some hstore
  have honStore : ForeignCommand.OnStore (.set (some handle) pointer pointer') := trivial
  rcases means_or_refused honStore with ⟨command, hmeans⟩ | ⟨code, hrefused⟩
  · obtain ⟨hreturned, hafter⟩ := hmirrors.means hmeans
    rw [hdone] at hreturned
    rw [hafter.volume]
    cases hmeans with
    | @set _ _ _ key value hkey hvalue =>
      obtain ⟨log, next, path, moved, volume, answer, hstep, -, -, -, -, hanswer⟩ :=
        Orderly.step_set (s := { c with stores := c.foreignStores }) h hstore key value
      rcases hanswer with ⟨⟨state, rfl⟩, -⟩ | ⟨⟨error, state, rfl⟩, -⟩
      · obtain ⟨hcheck, hdeposited⟩ :=
          Orderly.deposits (s := { c with stores := c.foreignStores }) h hstore
            (congrArg Prod.fst hstep)
        exact ⟨key, value, hkey, hvalue, hcheck, hdeposited⟩
      · rw [hstep] at hreturned
        have hcode : error.kind.code = 0 :=
          (congrArg Prod.fst (Option.some.inj hreturned)).symm
        exact absurd hcode error.kind.code_ne_zero
  · have hreturned := (hmirrors.refused hrefused).2 hlive
    have hcode : code = 0 :=
      (congrArg Prod.fst (Option.some.inj (hdone.symm.trans hreturned))).symm
    cases hrefused with
    | null hnull => cases hnull
    | text _ hfault => exact absurd hcode hfault.ne_zero

/-- **A value that was set is found** by calls through every handle on its object. -/
theorem Deposited.finds (hvalue : Deposited c.volume object key value)
    (h : Orderly c.volume c.foreignStores.get?) (hcheck : Admission.checkKey key = .ok ())
    (hnul : 0 ∉ Utf8.encode value) : c.Finds object key value := by
  intro reader store pointer hstore hobject hkey
  obtain ⟨state, hanswer⟩ := Deposited.step_get (s := { c with stores := c.foreignStores }) hvalue h
    hcheck hstore hobject
  rw [((mirrors_self c).means (Means.get hkey)).1, hanswer]
  exact if_neg hnul

/-- A run of calls keeps every store with its log. -/
theorem Orderly.run (h : Orderly c.volume c.foreignStores.get?) (heach : c.EachOwn calls)
    (hcalls : ∀ call ∈ calls, call.Calls) :
    Orderly (c.after calls).volume (c.after calls).foreignStores.get? := by
  induction calls generalizing c with
  | nil => exact h
  | cons first calls ih =>
    exact ih (h.step_call (heach [] List.nil_prefix) (hcalls first List.mem_cons_self)) heach.tail
      fun call hcall => hcalls call (List.mem_cons_of_mem _ hcall)

/-- **A value that was set stays** through every run of calls in which the key is not given another
one. -/
theorem Deposited.run (hvalue : Deposited c.volume object key value)
    (h : Orderly c.volume c.foreignStores.get?) (heach : c.EachOwn calls)
    (hcalls : ∀ call ∈ calls, call.Calls) (hundisturbed : c.Undisturbed object key calls) :
    Deposited (c.after calls).volume object key value := by
  induction calls generalizing c with
  | nil => exact hvalue
  | cons first calls ih =>
    have hfirst := hcalls first List.mem_cons_self
    exact ih (hvalue.step_call h hfirst hundisturbed.1)
      (h.step_call (heach [] List.nil_prefix) hfirst) heach.tail
      (fun call hcall => hcalls call (List.mem_cons_of_mem _ hcall)) hundisturbed.2

/-- **The C interface is the store.**  Let the handles of the C interface in one session have the
stores of another session on the same volume, and let a run of calls be made in the first.

Its echo in the second session are the commands that the calls mean, without the calls that are
refused.  After it the handles still have the stores of the other session.  Every further call either
means a command, and then does what the command does and returns 0, or the number of its error, or 30
for a value with a NUL byte; or it is refused, with 20 for a null handle or place and otherwise with
20 or 30 for the first of its texts that is null or no text, and then does nothing.  Whenever a
look-up through a handle fails, its place holds null, and opening leaves its place as it was.

Let the run begin on a sound volume without open handles, and no two handles ever be open on one
object.  If a call that sets a key returns 0, then through every handle on that object the key is
found with that value, until a call gives it another one there. -/
theorem calls_simulate_the_store {s : Session} (hmirrors : c.Mirrors s)
    (hcalls : ∀ call ∈ calls, call.Calls) :
    (∃ commands, Echoes calls commands) ∧
    (∀ commands, Echoes calls commands →
      (c.after calls).Mirrors (s.after commands) ∧
      ∀ call : ForeignCommand, call.OnStore → (c.after calls).Live call →
        ((∃ command, Means call command) ∨ ∃ code, Refused call code) ∧
        (∀ command, Means call command →
          ((c.after calls).step (.foreign call)).1.returned? =
              call.returns ((s.after commands).step command).1 ∧
            ((c.after calls).step (.foreign call)).2.Mirrors
              ((s.after commands).step command).2) ∧
        ∀ code, Refused call code →
          ((c.after calls).step (.foreign call)).1.returned? = some (code, call.onFailure) ∧
            ((c.after calls).step (.foreign call)).2.Mirrors (s.after commands)) ∧
    (c.volume.Sound → (∀ handle, c.foreignStores.get? handle = none) → c.EachOwn calls →
      ∀ handle pointer pointer' store later,
        (c.after calls).foreignStores.get? handle = some store →
        ((c.after calls).step (.foreign (.set (some handle) pointer pointer'))).1.returned? =
          some (0, none) →
        (∀ call ∈ later, call.Calls) →
        ((c.after calls).step (.foreign (.set (some handle) pointer pointer'))).2.EachOwn later →
        ∃ key value, Reads pointer key ∧ Reads pointer' value ∧
          (((c.after calls).step (.foreign (.set (some handle) pointer pointer'))).2.Undisturbed
              store.file.object key later →
            (((c.after calls).step (.foreign (.set (some handle) pointer pointer'))).2.after
              later).Finds store.file.object key value)) := by
  refine ⟨exists_echoes hcalls, ?_, ?_⟩
  · intro commands hechoes
    have hafter := hmirrors.run hechoes
    refine ⟨hafter, fun call honStore hlive => ⟨means_or_refused honStore, ?_, ?_⟩⟩
    · intro command hmeans
      exact hafter.means hmeans
    · intro code hrefused
      obtain ⟨hsame, hreturned⟩ := hafter.refused hrefused
      exact ⟨hreturned hlive, hsame⟩
  · intro hsound hclosed heach handle pointer pointer' store later hstore hdone hlater hlaterOwn
    have hstart : Orderly c.volume c.foreignStores.get? := by
      refine ⟨hsound, ?_⟩
      intro name store hopen
      rw [hclosed] at hopen
      cases hopen
    have horderly := hstart.run heach hcalls
    have hseparate : Separate (c.after calls).foreignStores.get? := heach calls (List.prefix_refl _)
    obtain ⟨key, value, hkey, hvalue, hcheck, hdeposited⟩ := horderly.call_deposits hstore hdone
    have hset : Command.Calls (.foreign (.set (some handle) pointer pointer')) := trivial
    have hnext := horderly.step_call hseparate hset
    refine ⟨key, value, hkey, hvalue, fun hundisturbed => ?_⟩
    exact (hdeposited.run hnext hlaterOwn hlater hundisturbed).finds
      (hnext.run hlaterOwn hlater) hcheck hvalue.zero_notMem

/-- Opens the two records. -/
def openHandle : List Command := [.foreign (.openStore "h" (some (Utf8.encode "heap")) true)]

/-- Sets another key. -/
def putHandle : Command :=
  .foreign (.set (some "h") (some (Utf8.encode "b")) (some (Utf8.encode "3\x00ignored")))

/-- Closes the handle and opens another one on the same file. -/
def swapHandle : List Command :=
  [.foreign (.close (some "h")), .foreign (.openStore "g" (some (Utf8.encode "heap")) true)]

/-- The byte `0xff` is no text, and what one handle has set another one finds, up to its first NUL
byte. -/
theorem calls_simulate_the_store_swapHandle :
    onTwiceSet.Mirrors onTwiceSet ∧ (∀ call ∈ openHandle, call.Calls) ∧
      ((onTwiceSet.after openHandle).step
          (.foreign (.get (some "h") (some [0xff]) true))).1.returned? = some (30, some .cleared) ∧
      ((((onTwiceSet.after openHandle).step putHandle).2.after swapHandle).step
          (.foreign (.get (some "g") (some (Utf8.encode "b")) true))).1.returned? =
        some (0, some (.value (.text "3"))) := by
  have hmirrors : onTwiceSet.Mirrors onTwiceSet := ⟨rfl, rfl, fun _ => rfl⟩
  have hcalls : ∀ call ∈ openHandle, call.Calls := by simp [openHandle, Command.Calls,
    ForeignCommand.OnStore]
  have hechoes : Echoes openHandle [.openStore "h" { path := "heap" }] :=
    .means (.openStore ⟨_, rfl, by decide +kernel⟩) .nil
  obtain ⟨-, hsimulates, hdeposits⟩ := calls_simulate_the_store hmirrors hcalls
  obtain ⟨store, hstore⟩ :
      ∃ store, (onTwiceSet.after openHandle).foreignStores.get? "h" = some store :=
    Option.isSome_iff_exists.1 (by decide +kernel)
  refine ⟨hmirrors, hcalls, ?_, ?_⟩
  · have hlive : (onTwiceSet.after openHandle).Live (.get (some "h") (some [0xff]) true) := by
      rintro _ ⟨⟩
      exact Option.isSome_of_eq_some hstore
    have hfaulty : Foreign.Faulty (some [0xff]) 30 := by
      refine .encoding fun text htext => ?_
      have hdecode : (Utf8.decode (Foreign.cString [0xff])).isOk = false := by decide +kernel
      rw [Utf8.decode_eq_ok_iff.2 htext] at hdecode
      cases hdecode
    have honStore : ForeignCommand.OnStore (.get (some "h") (some [0xff]) true) := trivial
    obtain ⟨-, -, hrefused⟩ := (hsimulates _ hechoes).2 _ honStore hlive
    exact (hrefused 30 (.text (by simp [ForeignCommand.HasNull]) (.here hfaulty))).1
  · have hclosed : ∀ handle, onTwiceSet.foreignStores.get? handle = none := fun _ => rfl
    have hown : onTwiceSet.EachOwn openHandle :=
      .cons (separate_of_length_le_one (by decide +kernel))
        (eachOwn_nil (separate_of_length_le_one (by decide +kernel)))
    have hlaterOwn : ((onTwiceSet.after openHandle).step putHandle).2.EachOwn swapHandle :=
      .cons (separate_of_length_le_one (by decide +kernel))
        (.cons (separate_of_length_le_one (by decide +kernel))
          (eachOwn_nil (separate_of_length_le_one (by decide +kernel))))
    have hlater : ∀ call ∈ swapHandle, call.Calls := by simp [swapHandle, Command.Calls,
      ForeignCommand.OnStore]
    have hdone : ((onTwiceSet.after openHandle).step putHandle).1.returned? = some (0, none) := by
      decide +kernel
    obtain ⟨key, value, hkey, hvalue, hfinds⟩ := hdeposits ready_onTwiceSet.sound hclosed hown "h"
      _ _ store swapHandle hstore hdone hlater hlaterOwn
    have hundisturbed : ((onTwiceSet.after openHandle).step putHandle).2.Undisturbed
        store.file.object key swapHandle := by
      refine ⟨?_, ?_, trivial⟩ <;> rintro ⟨_, _, _, _, hcall, -⟩ <;> cases hcall
    obtain rfl : value = "3" := hvalue.unique ⟨_, rfl, by decide +kernel⟩
    have hobjects : ((((onTwiceSet.after openHandle).step putHandle).2.after
        swapHandle).foreignStores.get? "g").map (fun reader => reader.file.object) =
          ((onTwiceSet.after openHandle).foreignStores.get? "h").map
            (fun store => store.file.object) := by decide +kernel
    rw [hstore, Option.map_some, Option.map_eq_some_iff] at hobjects
    obtain ⟨reader, hreader, hobject⟩ := hobjects
    exact hfinds hundisturbed "g" reader _ hreader hobject hkey

end Session
end KeyLog
